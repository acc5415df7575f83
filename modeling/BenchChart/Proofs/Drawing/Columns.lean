import BenchChart.Proofs.Drawing
import BenchChart.Proofs.Figure.Samples

/-!
# Panels in step

All panels of an image have the same sides, so their plots do, and the column of a time is the same
in each of them. This needs no room: where coordinates wrap, edges are put in order before an area
is cut, and the sides of all panels are still one pair. What is drawn besides the curves knows
nothing of the samples, and it is all that is drawn of a run without any.
-/

namespace BenchChart

/-- The panel without its points. -/
def Panel.cleared (panel : Panel) : Panel :=
  { panel with
    curves := panel.curves.map fun curve => { curve with points := [] }
    yRange := Range.unit }

namespace Drawing

section Sides

theorem length_between (marks : List Int32) : (between marks).length = marks.length - 1 := by
  induction marks with
  | nil => rfl
  | cons first rest ih =>
      cases rest with
      | nil => rfl
      | cons next rest =>
          rw [between_cons_cons, List.length_cons, ih]
          rfl

/-- A span without cuts is one part, whichever of its ends is smaller. -/
theorem exists_between_edges (first last : Int32) :
    ∃ left right, between (edges first last []) = [(left, right)] := by
  have hlength : (edges first last []).length = 2 := length_edges first last []
  obtain ⟨left, right, h⟩ := List.length_eq_two.1 hlength
  exact ⟨left, right, by rw [h]; rfl⟩

theorem exists_panelAreas_eq (figure : Figure) (body : Area) :
    ∃ (left right : Int32) (rows : List (Int32 × Int32)),
      panelAreas figure body = rows.map (fun row => ⟨left, row.1, right, row.2⟩) ∧
        rows.length = figure.panels.length - 1 + 1 := by
  obtain ⟨left, right, h⟩ := exists_between_edges body.left body.right
  refine ⟨left, right, between (edges body.top body.bottom
    ((figure.rowBreakpoints body.height).map UInt32.toInt32)), ?_, ?_⟩
  · rw [panelAreas, h]
    exact List.append_nil _
  · rw [length_between, length_edges, List.length_map, Figure.length_rowBreakpoints]
    rfl

/-- The column of a number in a panel with the given sides. -/
def column (left right : Int32) (range : Range) (v : Binary64) : Int32 :=
  let marks := edges (left + margin) (right - margin)
    [yLabelWidth, (right - margin - (left + margin)).toUInt32.toInt32]
  let first := marks.getD 1 0
  let last := marks.getD 2 0
  max first (min last (coordinate range first (last - 1) (confine range v)))

theorem x_pixel (panel : Panel) (area : Area) (xRange yRange : Range) (p : Point) :
    (pixel (frame panel area).plot xRange yRange p).x = column area.left area.right xRange p.x :=
  rfl

end Sides

def curveLines (figure : Figure) (image : Area) : List (List Shape) :=
  (plots figure image).map fun (panel, plot) =>
    panel.curves.flatMap (curveShapes plot figure.xRange panel.yRange)

def legendKeys (figure : Figure) (image : Area) : List Shape :=
  (plots figure image).flatMap fun (panel, plot) => legendLines panel plot

def caption (panel : Panel) (area : Area) : Shape :=
  .text panel.title (captionAnchor area) captionFontSize .center .top 0

/-- Every line of a title is drawn at its place. -/
def HasTitle (shapes : List Shape) (image : Area) (title : List String) : Prop :=
  ∀ n line, title[n]? = some line →
    .text line (titleAnchor image n) titleFontSize .center .top 0 ∈ shapes

/-- A legend is drawn: its ground, the frame around that, and for each curve a label and a key. -/
structure HasLegend (shapes : List Shape) (curves : List Curve) (plot : Area) (l : Legend) :
    Prop where
  ground : .box (legendArea plot l) Paint.haze true ∈ shapes
  border : .box (legendArea plot l) Paint.black false ∈ shapes
  label : ∀ k curve, curves[k]? = some curve →
    .text curve.label (legendLabelAnchor plot l k) legendFontSize .left .top 0 ∈ shapes
  key : ∀ k curve, curves[k]? = some curve →
    .path (legendKey plot l k) (Paint.ofColor curve.color) lineWidth ∈ shapes

theorem hasTitle_titleShapes (image : Area) (title : List String) :
    HasTitle (titleShapes image title) image title := by
  intro n line h
  exact List.mem_map.2 ⟨(line, n), List.mk_mem_zipIdx_iff_getElem?.2 h, rfl⟩

theorem hasLegend_legendShapes (panel : Panel) (plot : Area) :
    HasLegend (legendShapes panel plot) panel.curves plot
      (legend plot (panel.curves.map Curve.label)) := by
  refine ⟨?_, ?_, fun k curve h => ?_, fun k curve h => ?_⟩
  · exact List.mem_append_left _ (List.mem_append_left _ List.mem_cons_self)
  · exact List.mem_append_left _
      (List.mem_append_left _ (List.mem_cons_of_mem _ List.mem_cons_self))
  · exact List.mem_append_left _ (List.mem_append_right _
      (List.mem_map.2 ⟨(curve, k), List.mk_mem_zipIdx_iff_getElem?.2 h, rfl⟩))
  · exact List.mem_append_right _
      (List.mem_map.2 ⟨(curve, k), List.mk_mem_zipIdx_iff_getElem?.2 h, rfl⟩)

theorem HasTitle.mono {shapes more : List Shape} {image : Area} {title : List String}
    (h : HasTitle shapes image title) (hsub : shapes ⊆ more) : HasTitle more image title :=
  fun n line hline => hsub (h n line hline)

theorem HasLegend.mono {shapes more : List Shape} {curves : List Curve} {plot : Area} {l : Legend}
    (h : HasLegend shapes curves plot l) (hsub : shapes ⊆ more) :
    HasLegend more curves plot l where
  ground := hsub h.ground
  border := hsub h.border
  label k curve hk := hsub (h.label k curve hk)
  key k curve hk := hsub (h.key k curve hk)

section Lines

variable {plot : Area} {xRange yRange : Range} {curve : Curve}

theorem curveShapes_of_ne_nil (h : curve.points ≠ []) : curveShapes plot xRange yRange curve =
    [.path (curve.points.map (pixel plot xRange yRange)) (Paint.ofColor curve.color)
      lineWidth] := by
  rw [curveShapes, if_neg (by simpa using h)]

theorem length_flatMap_curveShapes {curves : List Curve}
    (h : ∀ curve ∈ curves, curve.points ≠ []) :
    (curves.flatMap (curveShapes plot xRange yRange)).length = curves.length := by
  induction curves with
  | nil => rfl
  | cons curve rest ih =>
      rw [List.flatMap_cons, curveShapes_of_ne_nil (h curve List.mem_cons_self), List.length_append,
        ih fun curve hcurve => h curve (List.mem_cons_of_mem _ hcurve), List.length_cons]
      exact Nat.add_comm _ _

/-- The vertices of lines are the pixels of the points, in their order. -/
theorem getElem?_vertices_curveShapes {curves : List Curve}
    (h : ∀ curve ∈ curves, curve.points ≠ []) (i : Nat) :
    (curves.flatMap (curveShapes plot xRange yRange)).map (fun line => line.vertices[i]?) =
      (curves.map Curve.points).map fun points => points[i]?.map (pixel plot xRange yRange) := by
  induction curves with
  | nil => rfl
  | cons curve rest ih =>
      rw [List.flatMap_cons, curveShapes_of_ne_nil (h curve List.mem_cons_self), List.map_append,
        ih fun curve hcurve => h curve (List.mem_cons_of_mem _ hcurve), List.map_singleton,
        Shape.vertices, List.getElem?_map]
      rfl

/-- Whatever the panels, all lines have their vertices in the columns of their times. -/
theorem exists_column (figure : Figure) (image : Area) :
    ∃ column : Binary64 → Int32, ∀ line ∈ (curveLines figure image).flatten,
      ∃ curve ∈ figure.curves,
        line.vertices.map Pixel.x = (curve.points.map Point.x).map column := by
  obtain ⟨left, right, rows, hareas, -⟩ := exists_panelAreas_eq figure (body figure image)
  refine ⟨column left right figure.xRange, ?_⟩
  intro line hline
  rw [curveLines, plots, ← List.flatMap_def, List.flatMap_map] at hline
  obtain ⟨⟨panel, area⟩, hmem, hline⟩ := List.mem_flatMap.1 hline
  obtain ⟨curve, hcurve, hline⟩ := List.mem_flatMap.1 hline
  obtain ⟨hpanel, harea⟩ := List.of_mem_zip hmem
  rw [hareas] at harea
  obtain ⟨row, -, rfl⟩ := List.mem_map.1 harea
  refine ⟨curve, List.mem_flatMap.2 ⟨panel, hpanel, hcurve⟩, ?_⟩
  by_cases hnil : curve.points = []
  · rw [curveShapes_nil hnil] at hline
    cases hline
  · rw [curveShapes_of_ne_nil hnil, List.mem_singleton] at hline
    rw [hline, Shape.vertices, List.map_map, List.map_map]
    exact List.map_congr_left fun p _ => x_pixel panel _ figure.xRange panel.yRange p

end Lines

section Rest

theorem legendShapes_cleared (panel : Panel) (plot : Area) :
    legendShapes panel.cleared plot = legendShapes panel plot := by
  have hlabels : panel.cleared.curves.map Curve.label = panel.curves.map Curve.label := by
    rw [Panel.cleared, List.map_map]
    rfl
  rw [legendShapes, legendShapes, hlabels]
  simp only [Panel.cleared, List.zipIdx_map, List.map_map]
  rfl

/-- Without points only the lines of the curves are missing. -/
theorem panelShapes_cleared (xRange : Range) (panel : Panel) (area : Area) :
    panelShapes xRange panel.cleared area = caption panel area ::
      axisShapes panel (frame panel area) ++
        if panel.legend then legendShapes panel (frame panel area).plot else [] := by
  have hlines : panel.cleared.curves.flatMap
      (curveShapes (frame panel area).plot xRange Range.unit) = [] := by
    rw [Panel.cleared, List.flatMap_map]
    exact List.flatMap_eq_nil_iff.2 fun curve _ => curveShapes_nil rfl
  rw [← legendShapes_cleared, panelShapes]
  change _ :: axisShapes panel (frame panel area) ++ panel.cleared.curves.flatMap
    (curveShapes (frame panel area).plot xRange Range.unit) ++ _ = _
  rw [hlines, List.append_nil]
  rfl

/-- Apart from lines, what is drawn of a panel does not depend on its points. -/
theorem filter_not_isPath_panelShapes (xRange xRange' : Range) (panel : Panel) (area : Area) :
    (panelShapes xRange panel area).filter (!·.isPath) =
      (panelShapes xRange' panel.cleared area).filter (!·.isPath) := by
  have hlines : (panel.curves.flatMap
      (curveShapes (frame panel area).plot xRange panel.yRange)).filter (!·.isPath) = [] := by
    rw [List.filter_flatMap]
    apply List.flatMap_eq_nil_iff.2
    intro curve _
    rw [curveShapes]
    split <;> rfl
  rw [panelShapes_cleared, panelShapes, List.filter_append, List.filter_append, hlines,
    List.append_nil, ← List.filter_append]
  rfl

theorem filter_not_isPath_ofFigure (figure : Figure) (width height : UInt32) :
    (ofFigure figure width height).filter (!·.isPath) =
      (.box (Area.ofSize width height) Paint.white true ::
        titleShapes (Area.ofSize width height) figure.title).filter (!·.isPath) ++
      ((figure.panels.map Panel.cleared).zip
        (panelAreas figure (body figure (Area.ofSize width height)))).flatMap fun (panel, area) =>
          (panelShapes Range.unit panel area).filter (!·.isPath) := by
  rw [ofFigure, List.filter_append, List.filter_flatMap, List.zip_map_left, List.flatMap_map]
  simp only [filter_not_isPath_panelShapes figure.xRange Range.unit, Prod.map, id_eq]

theorem panelAreas_ofRun_congr (run : Run) (series series' : Series) (settings : Settings)
    (image : Area) :
    panelAreas (Figure.ofRun run series settings) (body (Figure.ofRun run series settings) image) =
      panelAreas (Figure.ofRun run series' settings)
        (body (Figure.ofRun run series' settings) image) := by
  have hbody : body (Figure.ofRun run series settings) image =
      body (Figure.ofRun run series' settings) image := rfl
  have hrows : ∀ height, (Figure.ofRun run series settings).rowBreakpoints height =
      (Figure.ofRun run series' settings).rowBreakpoints height := fun _ => rfl
  rw [panelAreas, hbody, hrows, ← panelAreas]

theorem filter_not_isPath_ofRun (run : Run) (series series' : Series) (settings : Settings) :
    (ofRun run series settings).2.2.filter (!·.isPath) =
      (ofRun run series' settings).2.2.filter (!·.isPath) := by
  have hpanels : (Figure.ofRun run series settings.supported).panels.map Panel.cleared =
      (Figure.ofRun run series' settings.supported).panels.map Panel.cleared := rfl
  rw [ofRun, ofRun]
  dsimp only
  rw [filter_not_isPath_ofFigure, filter_not_isPath_ofFigure, hpanels,
    panelAreas_ofRun_congr run series series']
  rfl

end Rest

section Run

variable (run : Run) (settings : Settings)

/-- The areas of the panels are the same for all samples. -/
theorem exists_areas_ofRun (image : Area) :
    ∃ a b c d : Area, ∀ series, (Figure.ofRun run series settings).panels.zip
        (panelAreas (Figure.ofRun run series settings)
          (body (Figure.ofRun run series settings) image)) =
      [(Panel.requests series, a), (Panel.missRatio series settings.missRatioLimit, b),
        (Panel.loadAdmit series settings.loadAdmitLimit, c),
        (Panel.throughput series settings.rateLimit, d)] := by
  obtain ⟨left, right, rows, hareas, hlength⟩ := exists_panelAreas_eq
    (Figure.ofRun run .empty settings) (body (Figure.ofRun run .empty settings) image)
  rw [← List.length_map (fun row : Int32 × Int32 => Area.mk left row.1 right row.2), ← hareas]
    at hlength
  match hfour : panelAreas (Figure.ofRun run .empty settings)
    (body (Figure.ofRun run .empty settings) image), hlength with
  | [a, b, c, d], _ =>
      refine ⟨a, b, c, d, fun series => ?_⟩
      rw [panelAreas_ofRun_congr run series .empty, hfour]
      rfl

/-- Only the last panel has a legend, so its lines come after all others. -/
theorem filter_isPath_ofRun (series : Series) :
    let figure := Figure.ofRun run series settings.supported
    let image := Area.ofSize settings.supported.width settings.supported.height
    (ofRun run series settings).2.2.filter Shape.isPath =
      (curveLines figure image).flatten ++ legendKeys figure image := by
  intro figure image
  obtain ⟨a, b, c, d, hareas⟩ := exists_areas_ofRun run settings.supported image
  have hplots : plots figure image = _ := congrArg (List.map _) (hareas series)
  have hnone : ∀ (panel : Panel) (plot : Area), panel.legend = false →
      legendLines panel plot = [] := by
    intro panel plot h
    rw [legendLines, h]
    rfl
  rw [ofRun, filter_isPath_ofFigure, curveLines, ← List.flatMap_def, legendKeys, hplots]
  simp only [List.map_cons, List.map_nil, List.flatMap_cons, List.flatMap_nil]
  rw [hnone (Panel.requests series) _ rfl, hnone (Panel.missRatio series _) _ rfl,
    hnone (Panel.loadAdmit series _) _ rfl]
  simp only [List.append_nil, List.nil_append, List.append_assoc]
  rfl

theorem legendKeys_ofRun_congr (series series' : Series) (image : Area) :
    legendKeys (Figure.ofRun run series settings) image =
      legendKeys (Figure.ofRun run series' settings) image := by
  obtain ⟨a, b, c, d, hareas⟩ := exists_areas_ofRun run settings image
  rw [legendKeys, legendKeys, plots, plots, hareas, hareas]
  rfl

theorem flatten_curveLines_empty (image : Area) :
    (curveLines (Figure.ofRun run .empty settings) image).flatten = [] := by
  obtain ⟨a, b, c, d, hareas⟩ := exists_areas_ofRun run settings image
  rw [curveLines, plots, hareas]
  rfl

theorem filter_isPath_ofRun_empty (series : Series) :
    (ofRun run .empty settings).2.2.filter Shape.isPath =
      legendKeys (Figure.ofRun run series settings.supported)
        (Area.ofSize settings.supported.width settings.supported.height) := by
  rw [filter_isPath_ofRun run settings .empty, flatten_curveLines_empty, List.nil_append]
  exact legendKeys_ofRun_congr run settings.supported .empty series _

/-- What is drawn of a run without samples is drawn of every other run as well. -/
theorem mem_ofRun_empty {series : Series} {shape : Shape}
    (h : shape ∈ (ofRun run series settings).2.2)
    (hpath : shape.isPath = true →
      shape ∈ legendKeys (Figure.ofRun run series settings.supported)
        (Area.ofSize settings.supported.width settings.supported.height)) :
    shape ∈ (ofRun run .empty settings).2.2 := by
  cases hshape : shape.isPath with
  | true =>
      have hkey := hpath hshape
      rw [← filter_isPath_ofRun_empty] at hkey
      exact (List.mem_filter.1 hkey).1
  | false =>
      have hrest : shape ∈ (ofRun run series settings).2.2.filter (!·.isPath) :=
        List.mem_filter.2 ⟨h, by rw [hshape]; rfl⟩
      rw [filter_not_isPath_ofRun run series .empty] at hrest
      exact (List.mem_filter.1 hrest).1

theorem hasTitle_ofRun_empty (series : Series) :
    let figure := Figure.ofRun run series settings.supported
    HasTitle (ofRun run .empty settings).2.2
      (Area.ofSize settings.supported.width settings.supported.height) figure.title := by
  intro figure
  refine (hasTitle_titleShapes _ figure.title).mono fun shape hshape => ?_
  have hdrawn : shape ∈ (ofRun run series settings).2.2 :=
    List.mem_append_left _ (List.mem_cons_of_mem _ hshape)
  apply mem_ofRun_empty run settings hdrawn
  obtain ⟨⟨content, line⟩, -, rfl⟩ := List.mem_map.1 hshape
  intro hpath
  cases hpath

section Area

variable {run settings} {series : Series} {panel : Panel} {area : Area}
  (hmem : (panel, area) ∈ (Figure.ofRun run series settings.supported).panels.zip
    (panelAreas (Figure.ofRun run series settings.supported)
      (body (Figure.ofRun run series settings.supported)
        (Area.ofSize settings.supported.width settings.supported.height))))
include hmem

theorem mem_ofRun_of_mem_panelShapes {shape : Shape} (hshape : shape ∈
      panelShapes (Figure.ofRun run series settings.supported).xRange panel area) :
    shape ∈ (ofRun run series settings).2.2 :=
  List.mem_append_right _ (List.mem_flatMap.2 ⟨(panel, area), hmem, hshape⟩)

theorem caption_mem_ofRun_empty : caption panel area ∈ (ofRun run .empty settings).2.2 := by
  apply mem_ofRun_empty run settings (mem_ofRun_of_mem_panelShapes hmem List.mem_cons_self)
  intro hpath
  cases hpath

theorem hasLegend_ofRun_empty (hlegend : panel.legend = true) :
    let plot := (frame panel area).plot
    HasLegend (ofRun run .empty settings).2.2 panel.curves plot
      (legend plot (panel.curves.map Curve.label)) := by
  intro plot
  refine (hasLegend_legendShapes panel plot).mono fun shape hshape => ?_
  have hdrawn : shape ∈
      panelShapes (Figure.ofRun run series settings.supported).xRange panel area := by
    rw [panelShapes, if_pos hlegend]
    exact List.mem_append_right _ hshape
  apply mem_ofRun_empty run settings (mem_ofRun_of_mem_panelShapes hmem hdrawn)
  -- A line of the legend is one of the keys, which are there without samples.
  intro hpath
  refine List.mem_flatMap.2 ⟨_, List.mem_map_of_mem hmem, ?_⟩
  change shape ∈ legendLines panel _
  rw [← filter_isPath_legendShapes, if_pos hlegend]
  exact List.mem_filter.2 ⟨hshape, hpath⟩

end Area

section Samples

variable {run settings} {samples : List Sample} (hsamples : samples ≠ []) {panel : Panel}
  (hpanel : panel ∈ (Figure.ofRun run (.ofSamples samples) settings).panels)
include hsamples hpanel

theorem points_ne_nil : ∀ curve ∈ panel.curves, curve.points ≠ [] := by
  intro curve hcurve
  obtain ⟨value, hvalue⟩ :=
    Figure.exists_points_of_mem_curves (List.mem_flatMap.2 ⟨panel, hpanel, hcurve⟩)
  rw [hvalue]
  simpa using hsamples

end Samples

theorem map_length_curveLines (samples : List Sample) (image : Area) :
    (curveLines (Figure.ofRun run (.ofSamples samples) settings) image).map List.length =
      if samples.isEmpty then [0, 0, 0, 0] else [1, 1, 1, 3] := by
  obtain ⟨a, b, c, d, hareas⟩ := exists_areas_ofRun run settings image
  cases samples with
  | nil =>
      rw [curveLines, plots, hareas]
      rfl
  | cons sample rest =>
      let figure := Figure.ofRun run (.ofSamples (sample :: rest)) settings
      have hlength : ∀ entry ∈ plots figure image,
          (entry.1.curves.flatMap (curveShapes entry.2 figure.xRange entry.1.yRange)).length =
            entry.1.curves.length := by
        intro entry hentry
        obtain ⟨⟨panel, area⟩, hmem, rfl⟩ := List.mem_map.1 hentry
        exact length_flatMap_curveShapes
          (points_ne_nil (List.cons_ne_nil sample rest) (List.of_mem_zip hmem).1)
      rw [curveLines, List.map_map]
      refine (List.map_congr_left hlength).trans ?_
      rw [plots, hareas]
      rfl

/-- The vertices of a sample, panel by panel. -/
theorem vertices_curveLines {samples : List Sample} {i : Nat} {sample : Sample}
    (h : samples[i]? = some sample) (image : Area) :
    let figure := Figure.ofRun run (.ofSamples samples) settings
    (curveLines figure image).map (List.map fun line => line.vertices[i]?) =
      List.zipWith (fun entry ys => ys.map fun y =>
          some (pixel entry.2 figure.xRange entry.1.yRange ⟨sample.time, y⟩))
        (plots figure image)
        [[sample.count], [sample.missRatio], [sample.loadAdmit],
          [sample.totalRate, sample.cacheRate, sample.coreRate]] := by
  intro figure
  have hsamples : samples ≠ [] := by
    rintro rfl
    cases h
  have hpanels : (plots figure image).map (fun entry => entry.1.curves.map Curve.points) =
      figure.panels.map fun panel => panel.curves.map Curve.points := by
    obtain ⟨a, b, c, d, hareas⟩ := exists_areas_ofRun run settings image
    rw [plots, hareas]
    rfl
  let values : List (List (Sample → Binary64)) := [[Sample.count], [Sample.missRatio],
    [Sample.loadAdmit], [Sample.totalRate, Sample.cacheRate, Sample.coreRate]]
  have hvertices : ∀ entry ∈ plots figure image,
      (entry.1.curves.flatMap (curveShapes entry.2 figure.xRange entry.1.yRange)).map
          (fun line => line.vertices[i]?) =
        (entry.1.curves.map Curve.points).map fun points =>
          points[i]?.map (pixel entry.2 figure.xRange entry.1.yRange) := by
    intro entry hentry
    obtain ⟨⟨panel, area⟩, hmem, rfl⟩ := List.mem_map.1 hentry
    exact getElem?_vertices_curveShapes (points_ne_nil hsamples (List.of_mem_zip hmem).1) i
  rw [curveLines, List.map_map]
  calc _ = (plots figure image).map fun entry => (entry.1.curves.map Curve.points).map fun points =>
          points[i]?.map (pixel entry.2 figure.xRange entry.1.yRange) :=
        List.map_congr_left hvertices
    _ = List.zipWith (fun entry curves => curves.map fun points : List Point =>
            points[i]?.map (pixel entry.2 figure.xRange entry.1.yRange))
          (plots figure image)
          ((plots figure image).map fun entry => entry.1.curves.map Curve.points) := by
        rw [List.zipWith_map_right, List.zipWith_self]
    _ = List.zipWith (fun entry ys => ys.map fun y =>
            some (pixel entry.2 figure.xRange entry.1.yRange ⟨sample.time, y⟩))
          (plots figure image) (values.map fun quantities => quantities.map fun value =>
            value sample) := by
        rw [hpanels, Figure.points_panels_ofSamples, List.zipWith_map_right, List.zipWith_map_right]
        simp only [List.map_map, Function.comp_def, List.getElem?_map, h, Option.map_some]
        rfl

end Run

/-- Six lines show the samples of a run, one in each of the upper panels and three in the last one.
Each has a vertex for each sample, in order, and the six vertices of a sample are in one column. All
else that is drawn, the title, the captions and the legend among it, is drawn for any samples and
also for none; then there is no other line than those of the legend. -/
theorem ofRun_columns (run : Run) (samples : List Sample) (settings : Settings) :
    let usable := settings.supported
    let figure := Figure.ofRun run (.ofSamples samples) usable
    let image := Area.ofSize usable.width usable.height
    let lines := curveLines figure image
    let shapes := (ofRun run (.ofSamples samples) settings).2.2
    let bare := (ofRun run .empty settings).2.2
    (plots figure image).map Prod.fst = figure.panels ∧
      lines.map List.length = (if samples.isEmpty then [0, 0, 0, 0] else [1, 1, 1, 3]) ∧
      (∀ (i : Nat) (sample : Sample), samples[i]? = some sample →
        lines.map (List.map fun line => line.vertices[i]?) =
          List.zipWith (fun entry ys => ys.map fun y =>
              some (pixel entry.2 figure.xRange entry.1.yRange ⟨sample.time, y⟩))
            (plots figure image)
            [[sample.count], [sample.missRatio], [sample.loadAdmit],
              [sample.totalRate, sample.cacheRate, sample.coreRate]]) ∧
      (∃ column : Binary64 → Int32, ∀ line ∈ lines.flatten,
        line.vertices.map Pixel.x = samples.map fun sample => column sample.time) ∧
      (legendKeys figure image).length = 3 ∧
      bare.filter Shape.isPath = legendKeys figure image ∧
      shapes.filter Shape.isPath = lines.flatten ++ legendKeys figure image ∧
      shapes.filter (!·.isPath) = bare.filter (!·.isPath) ∧
      figure.title.length = 2 ∧ HasTitle bare image figure.title ∧
      figure.panels.map Panel.legend = [false, false, false, true] ∧
      ∀ panel area, (panel, area) ∈ figure.panels.zip (panelAreas figure (body figure image)) →
        caption panel area ∈ bare ∧ (panel.legend = true →
          let plot := (frame panel area).plot
          HasLegend bare panel.curves plot (legend plot (panel.curves.map Curve.label))) := by
  intro usable figure image lines shapes bare
  have hzip := exists_areas_ofRun run usable image
  refine ⟨?_, map_length_curveLines run usable samples image,
    fun i sample h => vertices_curveLines run usable h image, ?_, ?_,
    filter_isPath_ofRun_empty run settings _, filter_isPath_ofRun run settings _,
    filter_not_isPath_ofRun run _ _ settings, rfl, hasTitle_ofRun_empty run settings _, rfl,
    fun panel area hmem => ⟨caption_mem_ofRun_empty hmem, hasLegend_ofRun_empty hmem⟩⟩
  · obtain ⟨a, b, c, d, hareas⟩ := hzip
    rw [plots, hareas]
    rfl
  · obtain ⟨column, hcolumn⟩ := exists_column figure image
    refine ⟨column, fun line hline => ?_⟩
    obtain ⟨curve, hcurve, hx⟩ := hcolumn line hline
    obtain ⟨value, hvalue⟩ := Figure.exists_points_of_mem_curves hcurve
    rw [hx, hvalue, List.map_map, List.map_map]
    rfl
  · obtain ⟨a, b, c, d, hareas⟩ := hzip
    rw [legendKeys, plots, hareas]
    rfl

/-- In an image so wide that coordinates wrap, with a time that is NaN and limits that are not
numbers. -/
theorem ofRun_columns_of_wrapped :
    let run : Run := ⟨"100", "50", "80", "LRU"⟩
    let sample : Sample := ⟨Binary64.ofNat 5, 9, Binary64.zero true, .infinite false, .nan, .nan⟩
    let samples := [⟨.nan, 7, .infinite true, .nan, .nan, .infinite false⟩, sample]
    let settings : Settings := ⟨4294967295, 480, some ⟨.nan, .nan⟩, none, none⟩
    let figure := Figure.ofRun run (.ofSamples samples) settings
    let image := Area.ofSize 4294967295 480
    let lines := curveLines figure image
    let bare := (ofRun run .empty settings).2.2
    lines.map List.length = [1, 1, 1, 3] ∧
      (∀ line ∈ lines.flatten, line.vertices.length = 2) ∧
      lines.map (List.map fun line => line.vertices[1]?) =
        List.zipWith (fun entry ys => ys.map fun y =>
            some (pixel entry.2 figure.xRange entry.1.yRange ⟨sample.time, y⟩))
          (plots figure image)
          [[sample.count], [sample.missRatio], [sample.loadAdmit],
            [sample.totalRate, sample.cacheRate, sample.coreRate]] ∧
      (∀ line ∈ lines.flatten, ∀ line' ∈ lines.flatten,
        line.vertices.map Pixel.x = line'.vertices.map Pixel.x) ∧
      .text "Intensity = 100 #4K-Reqs/s," (titleAnchor image 0) titleFontSize .center .top 0 ∈
        bare ∧
      ∃ panel area, (panel, area) ∈ figure.panels.zip (panelAreas figure (body figure image)) ∧
        panel.legend = true ∧ caption panel area ∈ bare ∧
        let plot := (frame panel area).plot
        HasLegend bare panel.curves plot (legend plot (panel.curves.map Curve.label)) := by
  intro run sample samples settings figure image lines bare
  obtain ⟨-, hlength, hvertices, ⟨column, hcolumn⟩, -, -, -, -, -, htitle, -, hrest⟩ :=
    ofRun_columns run samples settings
  refine ⟨hlength, ?_, hvertices 1 sample rfl, ?_, htitle 0 _ rfl, ?_⟩
  · intro line hline
    have hcount := congrArg List.length (hcolumn line hline)
    rwa [List.length_map, List.length_map] at hcount
  · intro line hline line' hline'
    exact (hcolumn line hline).trans (hcolumn line' hline').symm
  · obtain ⟨a, b, c, d, hareas⟩ := exists_areas_ofRun run settings image
    have hmem : (Panel.throughput (.ofSamples samples) none, d) ∈
        figure.panels.zip (panelAreas figure (body figure image)) := by
      rw [hareas]
      exact List.mem_cons_of_mem _ (List.mem_cons_of_mem _ (List.mem_cons_of_mem _
        List.mem_cons_self))
    exact ⟨_, d, hmem, rfl, (hrest _ d hmem).1, (hrest _ d hmem).2 rfl⟩

end Drawing

end BenchChart
