import BenchChart.Proofs.Drawing.Parts

/-!
# A layout without overlap

The title and the panels stand one below the other and fill the image. Within its area each panel
has room for its margin, its caption and its labels, and enough is left for a plot. The heights of
the panels are a fifth of what the title leaves, cut off, so the smallest image decides: the plot
of its first panel has just the twenty rows that a plot must have.
-/

namespace BenchChart

namespace Area

/-- Areas that fill what is below the row `top` of a whole: each is as wide as the whole and starts
where the one above it ends. -/
def Stack (whole : Area) : Int32 → List Area → Prop
  | top, [] => top = whole.bottom
  | top, a :: rest =>
      a.left = whole.left ∧ a.right = whole.right ∧ a.top = top ∧ a.top.toInt < a.bottom.toInt ∧
        Stack whole a.bottom rest

/-- Areas that share a whole from top to bottom: each of its pixels lies in exactly one of them. -/
structure Tiles (whole : Area) (areas : List Area) : Prop where
  stack : whole.Stack whole.top areas
  within : ∀ a ∈ areas, whole.Within a
  existsUnique : ∀ p, whole.Holds p → ∃! k : Nat, ∃ a, areas[k]? = some a ∧ a.Holds p

namespace Stack

variable {whole : Area} {top : Int32} {areas : List Area}

theorem le_bottom (h : Stack whole top areas) : top.toInt ≤ whole.bottom.toInt := by
  induction areas generalizing top with
  | nil => exact Int.le_of_eq (congrArg Int32.toInt h)
  | cons a rest ih =>
      obtain ⟨-, -, rfl, hhigh, hrest⟩ := h
      exact Int.le_trans (Int.le_of_lt hhigh) (ih hrest)

theorem le_top (h : Stack whole top areas) {a : Area} (ha : a ∈ areas) :
    top.toInt ≤ a.top.toInt := by
  induction areas generalizing top with
  | nil => cases ha
  | cons b rest ih =>
      obtain ⟨-, -, rfl, hhigh, hrest⟩ := h
      rcases List.mem_cons.1 ha with rfl | ha
      · exact Int.le_refl _
      · exact Int.le_trans (Int.le_of_lt hhigh) (ih hrest ha)

theorem within (hwhole : whole.Within whole) (h : Stack whole top areas)
    (htop : whole.top.toInt ≤ top.toInt) : ∀ a ∈ areas, whole.Within a := by
  obtain ⟨⟨hleft₀, _⟩, ⟨htop₀, _⟩, _, _, hwide, _⟩ := hwhole
  induction areas generalizing top with
  | nil => simp
  | cons b rest ih =>
      obtain ⟨hleft, hright, rfl, hhigh, hrest⟩ := h
      have hbottom := le_bottom hrest
      intro a ha
      rcases List.mem_cons.1 ha with rfl | ha
      · rw [← hleft, ← hright] at hwide
        exact ⟨⟨hleft₀, Int.le_of_eq (congrArg Int32.toInt hleft.symm)⟩, ⟨htop₀, htop⟩,
          Int.le_of_eq (congrArg Int32.toInt hright), hbottom, hwide, hhigh⟩
      · exact ih hrest (by omega) a ha

theorem existsUnique_holds (h : Stack whole top areas) {p : Pixel} (hp : whole.Holds p)
    (htop : top.toInt ≤ p.y.toInt) : ∃! k : Nat, ∃ a, areas[k]? = some a ∧ a.Holds p := by
  induction areas generalizing top with
  | nil =>
      have hbottom := hp.bottom
      have hend : top.toInt = whole.bottom.toInt := congrArg Int32.toInt h
      omega
  | cons a rest ih =>
      obtain ⟨hleft, hright, rfl, hhigh, hrest⟩ := h
      by_cases hy : p.y.toInt < a.bottom.toInt
      -- The areas below start too far down to have the pixel.
      · refine ⟨0, ⟨a, rfl, ?_⟩, ?_⟩
        · obtain ⟨hpleft, hpright, -, -⟩ := hp
          rw [← hleft] at hpleft
          rw [← hright] at hpright
          exact ⟨hpleft, hpright, htop, by omega⟩
        · rintro (_ | k) ⟨b, hb, hheld⟩
          · rfl
          · have hbelow := le_top hrest (List.mem_of_getElem? hb)
            have hstart := hheld.top
            omega
      · obtain ⟨k, ⟨b, hb, hheld⟩, hunique⟩ := ih hrest (by omega)
        refine ⟨k + 1, ⟨b, hb, hheld⟩, ?_⟩
        rintro (_ | j) ⟨c, hc, hheld'⟩
        · obtain rfl : a = c := Option.some.inj hc
          have hend := hheld'.bottom
          omega
        · rw [hunique j ⟨c, hc, hheld'⟩]

theorem tiles (hwhole : whole.Within whole) (h : Stack whole whole.top areas) :
    whole.Tiles areas where
  stack := h
  within := within hwhole h (Int.le_refl _)
  existsUnique _ hp := existsUnique_holds h hp hp.top

theorem cons_spanning {left first right last upper lower : Int} (hnonneg : 0 ≤ upper)
    (hlt : upper < lower) (hword : lower < 2 ^ 31)
    (h : Stack (spanning left first right last) (Int32.ofInt lower) areas) :
    Stack (spanning left first right last) (Int32.ofInt upper)
      (spanning left upper right lower :: areas) := by
  refine ⟨rfl, rfl, rfl, ?_, h⟩
  change (Int32.ofInt upper).toInt < (Int32.ofInt lower).toInt
  rwa [toInt_ofInt_of_nonneg upper hnonneg (by omega),
    toInt_ofInt_of_nonneg lower (by omega) hword]

end Stack

end Area

namespace Drawing

def titleArea (figure : Figure) (image : Area) : Area :=
  { image with bottom := (body figure image).top }

/-- What is taken from what in the layout of a panel: margins from edges, edges from edges and
labels from what is left. -/
def subtractions (panel : Panel) (area : Area) : List (Int32 × Int32) :=
  let inner := withinMargin area
  let below := belowCaption area
  let plot := (frame panel area).plot
  [(area.right, margin), (area.bottom, margin), (inner.right, inner.left),
    (below.right, below.left), (below.bottom, below.top), (below.width.toInt32, yLabelWidth),
    (below.height.toInt32, xLabelHeight panel), (plot.right, plot.left), (plot.bottom, plot.top),
    (plot.right, 1), (plot.bottom, 1)]

/-- A panel with room for everything in its area, and everything in its place. -/
structure Roomy (xRange : Range) (panel : Panel) (image area : Area) : Prop where
  whole : image.Within area
  inner : area.Within (withinMargin area)
  below : (withinMargin area).Within (belowCaption area)
  plot : (belowCaption area).Within (frame panel area).plot
  left : (frame panel area).plot.left.toInt = image.left.toInt + 68
  right : (frame panel area).plot.right.toInt = image.right.toInt - 8
  wide : 560 ≤ (frame panel area).plot.right.toInt - (frame panel area).plot.left.toInt
  high : 20 ≤ (frame panel area).plot.bottom.toInt - (frame panel area).plot.top.toInt
  leaves : ∀ a b, (a, b) ∈ subtractions panel area → Leaves a b
  caption : area.Holds (captionAnchor area)
  names : ∀ shape ∈ axisShapes panel (frame panel area), shape.HeldBy area
  legend : panel.legend = true →
    LegendFits (frame panel area).plot (panel.curves.map Curve.label)
  drawnLegend : panel.legend = true →
    ∀ shape ∈ legendShapes panel (frame panel area).plot, shape.HeldBy (frame panel area).plot
  shapes : ∀ shape ∈ panelShapes xRange panel area, shape.HeldBy area

section Panel

variable {xRange : Range} {panel : Panel}

theorem heldBy_curveShapes {whole plot : Area} (hplot : whole.Within plot)
    (hx : xRange.isUsable = true) (hy : panel.yRange.isUsable = true) (curve : Curve) :
    ∀ shape ∈ curveShapes plot xRange panel.yRange curve, shape.HeldBy plot := by
  intro shape hshape
  rw [curveShapes] at hshape
  split at hshape
  · cases hshape
  · obtain rfl := List.mem_singleton.1 hshape
    intro p hp
    obtain ⟨point, -, rfl⟩ := List.mem_map.1 hp
    rw [pixel_eq_freePixel hplot hx hy]
    exact holds_freePixel hplot hx hy point

/-- Everything that is drawn of a panel stands in its area if the parts do. -/
theorem heldBy_panelShapes {area : Area} (hx : xRange.isUsable = true)
    (hy : panel.yRange.isUsable = true) (hplot : area.Within (frame panel area).plot)
    (hcaption : area.Holds (captionAnchor area))
    (hnames : ∀ shape ∈ axisShapes panel (frame panel area), shape.HeldBy area)
    (hlegend : panel.legend = true →
      LegendFits (frame panel area).plot (panel.curves.map Curve.label)) :
    ∀ shape ∈ panelShapes xRange panel area, shape.HeldBy area := by
  intro shape hshape
  rw [panelShapes, List.mem_append, List.mem_append, List.mem_cons] at hshape
  rcases hshape with ((rfl | hname) | hcurve) | hkey
  · exact hcaption
  · exact hnames shape hname
  · obtain ⟨curve, -, hcurve⟩ := List.mem_flatMap.1 hcurve
    exact (heldBy_curveShapes hplot hx hy curve shape hcurve).of_within hplot
  · split at hkey
    · next h => exact ((hlegend h).heldBy_legendShapes shape hkey).of_within hplot
    · cases hkey

variable {width top bottom height : Int}

theorem subtractions_spanning (hwide : 640 ≤ width) (hwidth : width < 2 ^ 31) (htop : 0 ≤ top)
    (hhigh : top + 58 + labelHeight panel ≤ bottom) (hbottom : bottom < 2 ^ 31) :
    subtractions panel (.spanning 0 top width bottom) =
      [(width, 8), (bottom, 8), (width - 8, 8), (width - 8, 8), (bottom - 8, top + 30),
        (width - 16, 60), (bottom - top - 38, labelHeight panel), (width - 8, 68),
        (bottom - (labelHeight panel + 8), top + 30), (width - 8, 1),
        (bottom - (labelHeight panel + 8), 1)].map (Prod.map Int32.ofInt Int32.ofInt) := by
  have hlabels : xLabelHeight panel = Int32.ofInt (labelHeight panel) :=
    (Int32.ofInt_toInt _).symm
  have hwidth' : width - 8 - 8 = width - 16 := by ring
  have hheight : bottom - 8 - (top + 30) = bottom - top - 38 := by ring
  rw [subtractions, withinMargin_spanning, belowCaption_spanning,
    frame_spanning panel (by omega) (by omega) (by omega) hwidth htop hbottom, hlabels]
  dsimp only
  rw [Area.width_spanning, Area.height_spanning, zero_add, zero_add, hwidth', hheight]
  rfl

theorem leaves_spanning (hwide : 640 ≤ width) (hwidth : width < 2 ^ 31) (htop : 0 ≤ top)
    (hhigh : top + 58 + labelHeight panel ≤ bottom) (hbottom : bottom < 2 ^ 31) :
    ∀ a b, (a, b) ∈ subtractions panel (.spanning 0 top width bottom) → Leaves a b := by
  obtain ⟨hlabels, -⟩ := labelHeight_bounds panel
  intro a b hmem
  rw [subtractions_spanning hwide hwidth htop hhigh hbottom] at hmem
  obtain ⟨⟨x, y⟩, hxy, heq⟩ := List.mem_map.1 hmem
  obtain ⟨rfl, rfl⟩ := Prod.mk.inj heq
  have hbounds : 0 ≤ y ∧ y ≤ x ∧ x < 2 ^ 31 := by
    simp only [List.mem_cons, Prod.mk.injEq, List.not_mem_nil, or_false] at hxy
    omega
  exact leaves_ofInt hbounds.1 hbounds.2.1 hbounds.2.2

theorem roomy_spanning (hx : xRange.isUsable = true) (hy : panel.yRange.isUsable = true)
    (hwide : 640 ≤ width) (hwidth : width < 2 ^ 31) (htop : 0 ≤ top)
    (hhigh : top + 58 + labelHeight panel ≤ bottom) (hbottom : bottom ≤ height)
    (hheight : height < 2 ^ 31)
    (hlegend : panel.legend = true →
      LegendFits (.spanning 68 (top + 30) (width - 8) (bottom - (labelHeight panel + 8)))
        (panel.curves.map Curve.label)) :
    Roomy xRange panel (.spanning 0 0 width height) (.spanning 0 top width bottom) := by
  obtain ⟨hlabels, -⟩ := labelHeight_bounds panel
  have hplot : (frame panel (.spanning 0 top width bottom)).plot =
      .spanning 68 (top + 30) (width - 8) (bottom - (labelHeight panel + 8)) := by
    rw [frame_spanning panel (by omega) (by omega) (by omega) hwidth htop (by omega), zero_add]
  have hinside : (Area.spanning 0 top width bottom).Within
      (.spanning 68 (top + 30) (width - 8) (bottom - (labelHeight panel + 8))) := by
    apply Area.within_spanning <;> omega
  have hcaption : (Area.spanning 0 top width bottom).Holds
      (captionAnchor (.spanning 0 top width bottom)) := by
    rw [captionAnchor_spanning (by omega) (by omega)]
    apply Area.holds_spanning <;> omega
  have hnames : ∀ shape ∈ axisShapes panel (frame panel (.spanning 0 top width bottom)),
      shape.HeldBy (.spanning 0 top width bottom) :=
    heldBy_axisShapes panel (by omega) (by omega) (by omega) hwidth htop (by omega)
  have hword := Area.toInt_ofInt_of_nonneg
  have hright : (Int32.ofInt width).toInt = width := hword width (by omega) hwidth
  constructor
  case whole => apply Area.within_spanning <;> omega
  case inner =>
    rw [withinMargin_spanning]
    apply Area.within_spanning <;> omega
  case below =>
    rw [withinMargin_spanning, belowCaption_spanning]
    apply Area.within_spanning <;> omega
  case plot =>
    rw [belowCaption_spanning, hplot]
    apply Area.within_spanning <;> omega
  case left =>
    rw [hplot]
    exact hword 68 (by omega) (by omega)
  case right =>
    rw [hplot]
    exact (hword (width - 8) (by omega) (by omega)).trans (congrArg (· - 8) hright.symm)
  case wide =>
    rw [hplot]
    change 560 ≤ (Int32.ofInt (width - 8)).toInt - 68
    rw [hword _ (by omega) (by omega)]
    omega
  case high =>
    rw [hplot]
    change 20 ≤ (Int32.ofInt (bottom - (labelHeight panel + 8))).toInt -
      (Int32.ofInt (top + 30)).toInt
    rw [hword _ (by omega) (by omega), hword _ (by omega) (by omega)]
    omega
  case leaves => exact leaves_spanning hwide hwidth htop hhigh (by omega)
  case caption => exact hcaption
  case names => exact hnames
  case legend =>
    intro h
    rw [hplot]
    exact hlegend h
  case drawnLegend =>
    intro h
    rw [hplot]
    exact (hlegend h).heldBy_legendShapes
  case shapes =>
    rw [← hplot] at hinside hlegend
    exact heldBy_panelShapes hx hy hinside hcaption hnames hlegend

end Panel

section Run

variable (run : Run) (series : Series) (settings : Settings)

theorem titleArea_ofRun (width : UInt32) {height : UInt32} (h : 62 ≤ height) :
    titleArea (Figure.ofRun run series settings) (Area.ofSize width height) =
      .spanning 0 0 width.toNat 62 := by
  rw [titleArea, body_ofRun run series settings width h, Area.ofSize_eq_spanning]
  rfl

theorem titleAnchor_spanning {right bottom : Int} (h : 0 ≤ right) (hlt : right < 2 ^ 32)
    (line : Nat) :
    titleAnchor (.spanning 0 0 right bottom) line =
      ⟨Int32.ofInt (right / 2), Int32.ofInt (5 + 26 * line)⟩ := by
  have hdrop : Int32.ofNat (titlePadding + titleLineHeight * line) =
      Int32.ofInt (5 + 26 * line : Nat) := (Int32.ofInt_eq_ofNat).symm
  rw [titleAnchor, Area.half_width_spanning h (by omega), hdrop, Area.place_spanning, zero_add,
    zero_add, sub_zero]
  push_cast
  rfl

theorem heldBy_titleShapes {image area : Area} {lines : List String}
    (h : ∀ line < lines.length, area.Holds (titleAnchor image line)) :
    ∀ shape ∈ titleShapes image lines, shape.HeldBy area := by
  intro shape hshape
  obtain ⟨⟨content, line⟩, hmem, rfl⟩ := List.mem_map.1 hshape
  exact h line (List.snd_lt_of_mem_zipIdx hmem)

theorem legendFits_throughput {left top right bottom : Int} (limit : Option Range)
    (hleft : 0 ≤ left) (htop : 0 ≤ top) (hright : right < 2 ^ 31) (hwide : 560 ≤ right - left)
    (hhigh : 60 ≤ bottom - top) (hbottom : bottom < 2 ^ 31) (hlt : bottom - top < 2 ^ 30) :
    LegendFits (.spanning left top right bottom)
      ((Panel.throughput series limit).curves.map Curve.label) := by
  have hlabels : (Panel.throughput series limit).curves.map Curve.label =
      ["Total", "Cache", "Core"] := rfl
  have hwidth : maxLabelWidth ["Total", "Cache", "Core"] = 30 := by decide
  have hheight : legendHeight ["Total", "Cache", "Core"].length = 59 := by decide
  rw [hlabels]
  apply legendFits_spanning hleft htop hright hbottom
  · rw [hwidth]
    omega
  · rw [hheight]
    omega
  · rw [hheight]
    omega
  · decide

section Size

variable {width height : Nat} (hwide : 640 ≤ width) (hhigh : 480 ≤ height)
  (hwidth : width < 2 ^ 31) (hheight : height < 2 ^ 31)
include hwide hhigh hwidth hheight

theorem roomy_of_mem_zip :
    ∀ panel area, (panel, area) ∈ (Figure.ofRun run series settings).panels.zip
        (panelAreas (Figure.ofRun run series settings) (.spanning 0 62 width height)) →
      Roomy (Figure.ofRun run series settings).xRange panel (.spanning 0 0 width height) area := by
  obtain ⟨hx, hy⟩ := isUsable_ofRun run series settings
  obtain ⟨hone, htwo, hthree, hlast⟩ := rowEdge_gaps (show (480 : Int) ≤ height by omega)
  have hrequests : labelHeight (Panel.requests series) = 25 := rfl
  have hratio : labelHeight (Panel.missRatio series settings.missRatioLimit) = 25 := rfl
  have hadmit : labelHeight (Panel.loadAdmit series settings.loadAdmitLimit) = 25 := rfl
  have hrate : labelHeight (Panel.throughput series settings.rateLimit) = 40 := rfl
  have hlegend : LegendFits
      (.spanning 68 (rowEdge height 3 + 30) (width - 8) (height - (40 + 8)))
      ((Panel.throughput series settings.rateLimit).curves.map Curve.label) := by
    have hshare : height - rowEdge height 3 < 2 ^ 30 := by
      rw [rowEdge]
      omega
    apply legendFits_throughput series settings.rateLimit <;> omega
  rw [panelAreas_ofRun run series settings hwidth (by omega) hheight]
  intro panel area hmem
  have hpanel := hy panel (List.of_mem_zip hmem).1
  simp only [Figure.ofRun, List.zip_cons_cons, List.zip_nil_left, List.mem_cons, Prod.mk.injEq,
    List.not_mem_nil, or_false] at hmem
  -- Only the throughput has a legend.
  rcases hmem with ⟨rfl, rfl⟩ | ⟨rfl, rfl⟩ | ⟨rfl, rfl⟩ | ⟨rfl, rfl⟩
  · exact roomy_spanning hx hpanel (by omega) (by omega) (by omega) (by omega) (by omega)
      (by omega) fun h => absurd h Bool.false_ne_true
  · exact roomy_spanning hx hpanel (by omega) (by omega) (by omega) (by omega) (by omega)
      (by omega) fun h => absurd h Bool.false_ne_true
  · exact roomy_spanning hx hpanel (by omega) (by omega) (by omega) (by omega) (by omega)
      (by omega) fun h => absurd h Bool.false_ne_true
  · exact roomy_spanning hx hpanel (by omega) (by omega) (by omega) (by omega) (by omega)
      (by omega) fun _ => hlegend

omit hwide in
theorem stack_ofRun :
    (Area.spanning 0 0 width height).Stack (Int32.ofInt 0) (.spanning 0 0 width 62 ::
      panelAreas (Figure.ofRun run series settings) (.spanning 0 62 width height)) := by
  obtain ⟨hone, htwo, hthree, hlast⟩ := rowEdge_gaps (show (480 : Int) ≤ height by omega)
  rw [panelAreas_ofRun run series settings hwidth (by omega) hheight]
  apply Area.Stack.cons_spanning (by omega) (by omega) (by omega)
  apply Area.Stack.cons_spanning (by omega) (by omega) (by omega)
  apply Area.Stack.cons_spanning (by omega) (by omega) (by omega)
  apply Area.Stack.cons_spanning (by omega) (by omega) (by omega)
  exact Area.Stack.cons_spanning (by omega) (by omega) (by omega) rfl

theorem tiles_ofRun :
    (Area.spanning 0 0 width height).Tiles (.spanning 0 0 width 62 ::
      panelAreas (Figure.ofRun run series settings) (.spanning 0 62 width height)) := by
  have hwhole : (Area.spanning 0 0 width height).Within (.spanning 0 0 width height) := by
    apply Area.within_spanning <;> omega
  exact Area.Stack.tiles hwhole (stack_ofRun run series settings hhigh hwidth hheight)

omit hhigh hheight in
theorem holds_titleAnchor {line : Nat} (hline : line < 2) :
    (Area.spanning 0 0 width 62).Holds (titleAnchor (.spanning 0 0 width height) line) := by
  rw [titleAnchor_spanning (by omega) (by omega)]
  apply Area.holds_spanning <;> omega

end Size

/-- The layout of a run is sound in every image that a chart may have and that coordinates reach.
The title and the panels share the rows of the image, each pixel lies in one of them, and what is
drawn of the title or of a panel lies there. The plots are one below the other and large enough, and
only the last one has a legend, for which it has room. -/
theorem ofRun_areas (hwidth : settings.supported.width.toNat < 2 ^ 31)
    (hheight : settings.supported.height.toNat < 2 ^ 31) :
    let usable := settings.supported
    let figure := Figure.ofRun run series usable
    let image := Area.ofSize usable.width usable.height
    let title := titleArea figure image
    let areas := panelAreas figure (body figure image)
    640 ≤ usable.width.toNat ∧ 480 ≤ usable.height.toNat ∧
      areas.length = figure.panels.length ∧
      image.Tiles (title :: areas) ∧
      figure.title.length = 2 ∧
      (∀ line < figure.title.length, title.Holds (titleAnchor image line)) ∧
      (titleShapes image figure.title).length = figure.title.length ∧
      (∀ shape ∈ titleShapes image figure.title,
        shape ∈ (ofRun run series settings).2.2 ∧ shape.HeldBy title) ∧
      figure.panels.map Panel.legend = [false, false, false, true] ∧
      (∀ panel area, (panel, area) ∈ figure.panels.zip areas →
        Roomy figure.xRange panel image area) ∧
      ∀ shape ∈ (ofRun run series settings).2.2, shape.HeldBy image := by
  intro usable figure image title areas
  change usable.width.toNat < 2 ^ 31 at hwidth
  change usable.height.toNat < 2 ^ 31 at hheight
  obtain ⟨hwide, hhigh⟩ : 640 ≤ usable.width.toNat ∧ 480 ≤ usable.height.toNat :=
    size_supported settings
  have hleast : 62 ≤ usable.height :=
    UInt32.le_iff_toNat_le.2 (show 62 ≤ usable.height.toNat by omega)
  have himage : image = .spanning 0 0 usable.width.toNat usable.height.toNat :=
    Area.ofSize_eq_spanning _ _
  have htitle : title = .spanning 0 0 usable.width.toNat 62 :=
    titleArea_ofRun run series usable usable.width hleast
  have hareas : areas = panelAreas figure (.spanning 0 62 usable.width.toNat usable.height.toNat) :=
    congrArg (panelAreas figure) (body_ofRun run series usable usable.width hleast)
  have hlength : areas.length = figure.panels.length := by
    rw [hareas, panelAreas_ofRun run series usable hwidth (by omega) hheight]
    rfl
  have htiles : image.Tiles (title :: areas) := by
    rw [himage, htitle, hareas]
    exact tiles_ofRun run series usable hwide hhigh hwidth hheight
  have hanchors : ∀ line < figure.title.length, title.Holds (titleAnchor image line) := by
    rw [himage, htitle]
    exact fun line hline => holds_titleAnchor hwide hwidth hline
  have hroomy : ∀ panel area, (panel, area) ∈ figure.panels.zip areas →
      Roomy figure.xRange panel image area := by
    rw [himage, hareas]
    exact roomy_of_mem_zip run series usable hwide hhigh hwidth hheight
  have hlines := heldBy_titleShapes hanchors
  refine ⟨hwide, hhigh, hlength, htiles, rfl, hanchors, rfl,
    fun shape hshape => ⟨?_, hlines shape hshape⟩, rfl, hroomy, ?_⟩
  · exact List.mem_append_left _ (List.mem_cons_of_mem _ hshape)
  -- What is drawn is the ground, the lines of the title and what the panels have.
  intro shape hshape
  change shape ∈ .box image Paint.white true :: titleShapes image figure.title ++
    (figure.panels.zip areas).flatMap
      (fun entry => panelShapes figure.xRange entry.1 entry.2) at hshape
  rw [List.mem_append, List.mem_cons] at hshape
  rcases hshape with (rfl | hline) | hpanel
  · rw [himage]
    apply Area.within_spanning <;> omega
  · exact (hlines shape hline).of_within (htiles.within title List.mem_cons_self)
  · obtain ⟨⟨panel, area⟩, hmem, hshape⟩ := List.mem_flatMap.1 hpanel
    have hpanel := hroomy panel area hmem
    exact (hpanel.shapes shape hshape).of_within hpanel.whole

end Run

/-- In the smallest image the plot of the first panel has twenty rows. -/
theorem ofRun_areas_of_smallest :
    let run : Run := ⟨"100", "50", "80", "LRU"⟩
    let series := Series.ofSamples [⟨.nan, 7, .infinite true, .nan, .nan, Binary64.ofNat 1⟩]
    let settings : Settings := ⟨640, 480, none, none, none⟩
    let figure := Figure.ofRun run series settings
    let panel := Panel.requests series
    let area := Area.spanning 0 62 640 145
    settings.supported.width.toNat < 2 ^ 31 ∧ settings.supported.height.toNat < 2 ^ 31 ∧
      (panel, area) ∈ figure.panels.zip (panelAreas figure (.spanning 0 62 640 480)) ∧
      (frame panel area).plot = .spanning 68 92 632 112 ∧
      Roomy figure.xRange panel (Area.ofSize 640 480) area := by
  intro run series settings figure panel area
  have hareas : panelAreas figure (.spanning 0 62 640 480) =
      [area, .spanning 0 145 640 229, .spanning 0 229 640 312, .spanning 0 312 640 480] :=
    @panelAreas_ofRun run series settings 640 480 (by decide) (by decide) (by decide)
  have hmem : (panel, area) ∈ figure.panels.zip (panelAreas figure (.spanning 0 62 640 480)) := by
    rw [hareas]
    exact List.mem_cons_self
  have hbody : body figure (Area.ofSize 640 480) = .spanning 0 62 640 480 :=
    body_ofRun run series settings 640 (by decide)
  have husable : settings.supported = settings :=
    Settings.supported_of_isSupported (by decide)
  have hlabels : labelHeight panel = 25 := rfl
  have hplot : (frame panel area).plot = .spanning 68 92 632 112 := by
    rw [frame_spanning panel (by omega) (by omega) (by omega) (by omega) (by omega) (by omega),
      hlabels]
    rfl
  obtain ⟨-, -, -, -, -, -, -, -, -, hroomy, -⟩ :=
    ofRun_areas run series settings (by decide) (by decide)
  rw [husable, hbody] at hroomy
  exact ⟨by decide, by decide, hmem, hplot, hroomy panel area hmem⟩

end Drawing

end BenchChart
