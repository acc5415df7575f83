import BenchChart.Proofs.Drawing.Coordinate
import BenchChart.Proofs.Drawing.Layout
import BenchChart.Proofs.Figure

/-!
# Curves in their plots

The paths of a drawing are the curves of the panels and the lines of their legends. Every point of
a curve is drawn in the plot of its panel, whatever numbers the samples hold, so keeping the pixels
of a curve in the plot changes none of them.
-/

namespace BenchChart

/-- Numbers can be moved into the range: its ends are in order and none of them is NaN. -/
structure Range.CanClamp (r : Range) : Prop where
  lo_ne_nan : r.lo ≠ .nan
  hi_ne_nan : r.hi ≠ .nan
  less : Binary64.less r.lo r.hi = true

theorem Range.canClamp_of_isUsable {r : Range} (h : r.isUsable = true) : r.CanClamp := by
  simp only [isUsable, Bool.and_eq_true] at h
  obtain ⟨⟨⟨hlo, hhi⟩, -⟩, hless⟩ := h
  refine ⟨?_, ?_, hless⟩
  · intro hnan
    rw [hnan] at hlo
    cases hlo
  · intro hnan
    rw [hnan] at hhi
    cases hhi

theorem Area.confine_of_holds {a : Area} {p : Pixel} (h : a.Holds p) : a.confine p = p := by
  have hnear : ∀ first last x : Int32, first.toInt ≤ x.toInt → x.toInt ≤ last.toInt →
      max first (min last x) = x := by
    intro first last x hfirst hlast
    have hmin : min last x = x := by
      change (if last ≤ x then last else x) = x
      split
      · next h => exact Int32.le_antisymm h (Int32.le_iff_toInt_le.2 hlast)
      · rfl
    rw [hmin]
    change (if first ≤ x then x else first) = x
    rw [if_pos (Int32.le_iff_toInt_le.2 hfirst)]
  have hright := h.right
  have hbottom := h.bottom
  rw [confine, hnear _ _ _ h.left (by omega), hnear _ _ _ h.top (by omega)]

theorem Range.CanClamp.atMost {r : Range} (h : r.CanClamp) : r.lo.atMost r.hi = true := by
  rw [Binary64.atMost, h.less, Bool.true_or]

def Shape.isPath : Shape → Bool
  | .path .. => true
  | _ => false

def Shape.vertices : Shape → List Pixel
  | .path pixels .. => pixels
  | _ => []

namespace Drawing

/-- The lines in the legend of a panel. -/
def legendLines (panel : Panel) (plot : Area) : List Shape :=
  if panel.legend then
    panel.curves.zipIdx.map fun (curve, k) =>
      .path (legendKey plot (legend plot (panel.curves.map Curve.label)) k)
        (Paint.ofColor curve.color) lineWidth
  else []

/-- Where a point is drawn if nothing keeps its pixel in the plot. -/
def freePixel (plot : Area) (xRange yRange : Range) (p : Point) : Pixel where
  x := coordinate xRange plot.left (plot.right - 1)
    (Binary64.clamp xRange.lo xRange.hi p.x)
  y := coordinate yRange (plot.bottom - 1) plot.top
    (Binary64.clamp yRange.lo yRange.hi p.y)

theorem pixel_eq_confine (plot : Area) {xRange yRange : Range} (hx : xRange.CanClamp)
    (hy : yRange.CanClamp) (p : Point) :
    pixel plot xRange yRange p = plot.confine (freePixel plot xRange yRange p) := by
  rw [pixel, freePixel, confine_eq_clamp hx.atMost, confine_eq_clamp hy.atMost]

section Pixel

variable {image plot : Area} (hplot : image.Within plot) {xRange yRange : Range}
  (hx : xRange.isUsable = true) (hy : yRange.isUsable = true) (p : Point)
include hplot hx hy

theorem holds_freePixel : plot.Holds (freePixel plot xRange yRange p) := by
  obtain ⟨⟨hleft0, hleft⟩, ⟨htop0, htop⟩, -, -, hwide, hhigh⟩ := hplot
  have hright : (plot.right - 1).toInt = plot.right.toInt - 1 :=
    toInt_sub_of_nonneg (by omega) (by decide)
  have hbottom : (plot.bottom - 1).toInt = plot.bottom.toInt - 1 :=
    toInt_sub_of_nonneg (by omega) (by decide)
  obtain ⟨hxle, hlex⟩ := toInt_coordinate hx (show 0 ≤ plot.left.toInt by omega)
    (show 0 ≤ (plot.right - 1).toInt by omega) p.x
  obtain ⟨hyle, hley⟩ := toInt_coordinate hy (show 0 ≤ (plot.bottom - 1).toInt by omega)
    (show 0 ≤ plot.top.toInt by omega) p.y
  rw [confine_eq_clamp (Range.canClamp_of_isUsable hx).atMost] at hxle hlex
  rw [confine_eq_clamp (Range.canClamp_of_isUsable hy).atMost] at hyle hley
  constructor <;> dsimp only [freePixel] <;> omega

theorem pixel_eq_freePixel : pixel plot xRange yRange p = freePixel plot xRange yRange p := by
  rw [pixel_eq_confine plot (Range.canClamp_of_isUsable hx) (Range.canClamp_of_isUsable hy),
    Area.confine_of_holds (holds_freePixel hplot hx hy p)]

end Pixel

section Vertices

variable {image plot : Area} (hplot : image.Within plot) {xRange yRange : Range}
  (hx : xRange.isUsable = true) (hy : yRange.isUsable = true) (curve : Curve)
include hplot hx hy

/-- A curve is one line through all its points, or no line if it has none. -/
theorem map_vertices_curveShapes :
    (curveShapes plot xRange yRange curve).map Shape.vertices =
      if curve.points = [] then [] else [curve.points.map (freePixel plot xRange yRange)] := by
  have hpixels : curve.points.map (pixel plot xRange yRange) =
      curve.points.map (freePixel plot xRange yRange) :=
    List.map_congr_left fun p _ => pixel_eq_freePixel hplot hx hy p
  rw [curveShapes]
  by_cases hpoints : curve.points = []
  · rw [if_pos hpoints, if_pos (List.isEmpty_iff.2 hpoints)]
    rfl
  · rw [if_neg hpoints, if_neg (hpoints ∘ List.isEmpty_iff.1), hpixels]
    rfl

theorem holds_of_mem_vertices {line : Shape} (hline : line ∈ curveShapes plot xRange yRange curve)
    {p : Pixel} (hp : p ∈ line.vertices) : plot.Holds p := by
  have hmem : line.vertices ∈ (curveShapes plot xRange yRange curve).map Shape.vertices :=
    List.mem_map_of_mem hline
  rw [map_vertices_curveShapes hplot hx hy] at hmem
  split at hmem
  · cases hmem
  · rw [List.mem_singleton.1 hmem] at hp
    obtain ⟨point, -, rfl⟩ := List.mem_map.1 hp
    exact holds_freePixel hplot hx hy point

end Vertices

section Paths

variable (xRange : Range) (panel : Panel)

theorem filter_isPath_axisShapes (parts : Frame) :
    (axisShapes panel parts).filter Shape.isPath = [] := by
  have hname : ∀ (name : Option String) (size : Nat) (area : Area) (x y : UInt32)
      (vertical : VerticalAnchor) (turn : Nat),
      (axisName name size area x y vertical turn).filter Shape.isPath = [] := by
    intro name size area x y vertical turn
    cases name with
    | none => rfl
    | some name =>
        rw [axisName]
        split <;> rfl
  simp only [axisShapes, List.filter_append, hname, List.append_nil]

theorem filter_isPath_curveShapes (plot : Area) (yRange : Range) (curve : Curve) :
    (curveShapes plot xRange yRange curve).filter Shape.isPath =
      curveShapes plot xRange yRange curve := by
  rw [curveShapes]
  split <;> rfl

theorem filter_isPath_legendShapes (plot : Area) :
    (if panel.legend then legendShapes panel plot else []).filter Shape.isPath =
      legendLines panel plot := by
  rw [legendLines]
  split
  · rw [legendShapes, List.filter_append, List.filter_append, List.filter_map, List.filter_map]
    simp [Function.comp_def, Shape.isPath]
  · rfl

theorem filter_isPath_panelShapes (area : Area) :
    (panelShapes xRange panel area).filter Shape.isPath =
      panel.curves.flatMap (curveShapes (frame panel area).plot xRange panel.yRange) ++
        legendLines panel (frame panel area).plot := by
  rw [panelShapes, List.cons_append, List.cons_append,
    List.filter_cons_of_neg (by simp [Shape.isPath]), List.filter_append, List.filter_append, filter_isPath_axisShapes, filter_isPath_legendShapes,
    List.nil_append, List.filter_flatMap]
  simp only [filter_isPath_curveShapes]

end Paths

/-- The lines of a drawing are the curves and the legend of each panel. -/
theorem filter_isPath_ofFigure (figure : Figure) (width height : UInt32) :
    (ofFigure figure width height).filter Shape.isPath =
      (plots figure (Area.ofSize width height)).flatMap fun (panel, plot) =>
        panel.curves.flatMap (curveShapes plot figure.xRange panel.yRange) ++
          legendLines panel plot := by
  have htitle : ∀ (image : Area) (lines : List String),
      (titleShapes image lines).filter Shape.isPath = [] := by
    intro image lines
    rw [titleShapes, List.filter_map]
    simp [Function.comp_def, Shape.isPath]
  rw [ofFigure, List.cons_append, List.filter_cons_of_neg (by simp [Shape.isPath]),
    List.filter_append, htitle, List.nil_append, List.filter_flatMap, plots, List.flatMap_map]
  simp only [filter_isPath_panelShapes]

theorem isUsable_ofRun (run : Run) (series : Series) (settings : Settings) :
    (Figure.ofRun run series settings).xRange.isUsable = true ∧
      ∀ panel ∈ (Figure.ofRun run series settings).panels, panel.yRange.isUsable = true := by
  refine ⟨Panel.isUsable_axis none _, ?_⟩
  intro panel h
  simp only [Figure.ofRun, List.mem_cons, List.not_mem_nil, or_false] at h
  rcases h with rfl | rfl | rfl | rfl <;> exact Panel.isUsable_axis _ _

theorem size_supported (settings : Settings) :
    640 ≤ settings.supported.width.toNat ∧ 480 ≤ settings.supported.height.toNat := by
  have h := settings.isSupported_supported
  simp only [Settings.isSupported, decide_eq_true_eq] at h
  exact ⟨UInt32.le_iff_toNat_le.1 h.1, UInt32.le_iff_toNat_le.1 h.2⟩

/-- Every curve of a run is drawn in the plot of its panel, vertex by vertex, whatever its samples
are and whatever the axes are limited to, if coordinates reach the image. Numbers are clamped to the
ranges of the axes only, and these have their ends in order. -/
theorem ofRun_curves (run : Run) (series : Series) (settings : Settings)
    (hwidth : settings.supported.width.toNat < 2 ^ 31)
    (hheight : settings.supported.height.toNat < 2 ^ 31) :
    let usable := settings.supported
    let figure := Figure.ofRun run series usable
    let image := Area.ofSize usable.width usable.height
    let drawn := (ofRun run series settings).2.2
    (plots figure image).map Prod.fst = figure.panels ∧
      plots figure image =
        figure.panels.zip (plotAreas usable.width.toNat usable.height.toNat) ∧
      drawn.filter Shape.isPath =
        (plots figure image).flatMap (fun (panel, plot) =>
          panel.curves.flatMap (curveShapes plot figure.xRange panel.yRange) ++
            legendLines panel plot) ∧
      figure.xRange.CanClamp ∧
      ∀ panel plot, (panel, plot) ∈ plots figure image →
        panel.yRange.CanClamp ∧ image.Within plot ∧
          ∀ curve ∈ panel.curves,
            (∀ line ∈ curveShapes plot figure.xRange panel.yRange curve,
              line ∈ drawn ∧ ∀ p ∈ line.vertices, plot.Holds p) ∧
            (curveShapes plot figure.xRange panel.yRange curve).map Shape.vertices =
              (if curve.points = [] then []
                else [curve.points.map (freePixel plot figure.xRange panel.yRange)]) ∧
            ∀ p ∈ curve.points,
              Binary64.clamp? figure.xRange.lo figure.xRange.hi p.x =
                some (Binary64.clamp figure.xRange.lo figure.xRange.hi p.x) ∧
              Binary64.clamp? panel.yRange.lo panel.yRange.hi p.y =
                some (Binary64.clamp panel.yRange.lo panel.yRange.hi p.y) ∧
              plot.Holds (pixel plot figure.xRange panel.yRange p) ∧
              pixel plot figure.xRange panel.yRange p =
                freePixel plot figure.xRange panel.yRange p := by
  intro usable figure image drawn
  obtain ⟨hx, hy⟩ := isUsable_ofRun run series usable
  obtain ⟨hwide, hhigh⟩ := size_supported settings
  have hplots := plots_ofRun run series usable hwide hhigh hwidth hheight
  have hpaths : drawn.filter Shape.isPath = _ :=
    filter_isPath_ofFigure figure usable.width usable.height
  refine ⟨?_, hplots, hpaths, Range.canClamp_of_isUsable hx, ?_⟩
  · rw [hplots]
    rfl
  · intro panel plot hmem
    have hplot := within_of_mem_plots run series usable hwide hhigh hwidth hheight hmem
    have hpanel : panel ∈ figure.panels := by
      rw [hplots] at hmem
      exact (List.of_mem_zip hmem).1
    have hrange := hy panel hpanel
    refine ⟨Range.canClamp_of_isUsable hrange, hplot, fun curve hcurve => ⟨fun line hline => ?_,
      map_vertices_curveShapes hplot hx hrange curve, fun p _ => ?_⟩⟩
    · refine ⟨?_, fun p => holds_of_mem_vertices hplot hx hrange curve hline⟩
      have hpath : line ∈ drawn.filter Shape.isPath := by
        rw [hpaths]
        exact List.mem_flatMap.2 ⟨_, hmem,
          List.mem_append_left _ (List.mem_flatMap.2 ⟨curve, hcurve, hline⟩)⟩
      exact (List.mem_filter.1 hpath).1
    · have hpixel := pixel_eq_freePixel hplot hx hrange p
      rw [hpixel]
      exact ⟨clamp?_eq_some (Range.canClamp_of_isUsable hx).atMost _,
        clamp?_eq_some (Range.canClamp_of_isUsable hrange).atMost _,
        holds_freePixel hplot hx hrange p, rfl⟩

/-- An infinity at a time that is NaN is drawn in its plot, in an image as wide as can be. -/
theorem ofRun_curves_of_extremes :
    let largest := Binary64.ofUnits false (Binary64.limit - Binary64.twoPow 2045) 1
    let series := Series.ofSamples
      [⟨.nan, 0, .infinite true, .nan, largest, largest⟩,
        ⟨.infinite false, 18446744073709551615, largest, largest.neg, .infinite true, .nan⟩,
        ⟨largest.neg, 7, largest.neg, .infinite false, largest.neg, Binary64.zero true⟩]
    let settings : Settings := ⟨2147483647, 480, some ⟨.nan, largest⟩, none, none⟩
    let run : Run := ⟨"100", "50", "80", "LRU"⟩
    let figure := Figure.ofRun run series settings
    let panel := Panel.missRatio series settings.missRatioLimit
    let plot := Area.spanning 68 175 2147483639 196
    settings.supported.width.toNat < 2 ^ 31 ∧ settings.supported.height.toNat < 2 ^ 31 ∧
      (panel, plot) ∈ plots figure (Area.ofSize 2147483647 480) ∧
      panel.curves.map Curve.points = [[⟨.nan, .infinite true⟩, ⟨.infinite false, largest⟩,
        ⟨largest.neg, largest.neg⟩]] ∧
      plot.Holds (pixel plot figure.xRange panel.yRange ⟨.nan, .infinite true⟩) ∧
      ∃ line ∈ (ofRun run series settings).2.2, line.vertices.length = 3 ∧
        ∀ p ∈ line.vertices, plot.Holds p := by
  intro largest series settings run figure panel plot
  obtain ⟨-, -, -, -, hcurves⟩ := ofRun_curves run series settings (by decide) (by decide)
  have hmem : (panel, plot) ∈ plots figure (Area.ofSize 2147483647 480) := by
    rw [plots_ofRun _ _ _ (by decide) (by decide) (by decide) (by decide)]
    exact List.mem_cons_of_mem _ List.mem_cons_self
  obtain ⟨hlines, -, hpoints⟩ := (hcurves panel plot hmem).2.2 _ List.mem_cons_self
  obtain ⟨hdrawn, hheld⟩ := hlines _ List.mem_cons_self
  exact ⟨by decide, by decide, hmem, by decide +kernel, (hpoints _ List.mem_cons_self).2.2.1,
    _, hdrawn, rfl, hheld⟩

end Drawing

end BenchChart
