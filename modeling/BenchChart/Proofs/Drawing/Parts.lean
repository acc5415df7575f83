import BenchChart.Proofs.Drawing
import Mathlib.Data.List.Fold
import Mathlib.Data.List.MinMax

/-!
# The parts of a panel

What is drawn of a panel lies in the area of the panel, and what is drawn of a legend lies in the
legend. As with the plots, places are computed with numbers: each part has a lemma that tells its
edges or its anchor, and then what lies in what is a matter of inequalities.
-/

namespace BenchChart

namespace Area

theorem Within.trans {whole a b : Area} (h : whole.Within a) (h' : a.Within b) :
    whole.Within b := by
  obtain ⟨⟨hleft, hleft'⟩, ⟨htop, htop'⟩, hright, hbottom, _, _⟩ := h
  obtain ⟨⟨_, hleft''⟩, ⟨_, htop''⟩, hright', hbottom', hwidth, hheight⟩ := h'
  constructor <;> omega

theorem Within.holds {whole a : Area} (h : whole.Within a) {p : Pixel} (hp : a.Holds p) :
    whole.Holds p := by
  obtain ⟨⟨_, hleft⟩, ⟨_, htop⟩, hright, hbottom, _, _⟩ := h
  obtain ⟨hpleft, hpright, hptop, hpbottom⟩ := hp
  constructor <;> omega

theorem Within.holds_corner {whole a : Area} (h : whole.Within a) :
    whole.Holds ⟨a.left, a.top⟩ := by
  obtain ⟨⟨_, hleft⟩, ⟨_, htop⟩, hright, hbottom, hwidth, hheight⟩ := h
  constructor <;> dsimp only <;> omega

section Spanning

variable {left top right bottom : Int}

theorem holds_spanning {x y : Int} (hleft₀ : 0 ≤ left) (hleft : left ≤ x) (hright : x < right)
    (hright₀ : right < 2 ^ 31) (htop₀ : 0 ≤ top) (htop : top ≤ y) (hbottom : y < bottom)
    (hbottom₀ : bottom < 2 ^ 31) :
    (spanning left top right bottom).Holds ⟨Int32.ofInt x, Int32.ofInt y⟩ := by
  have hl := toInt_ofInt_of_nonneg left hleft₀ (by omega)
  have ht := toInt_ofInt_of_nonneg top htop₀ (by omega)
  have hr := toInt_ofInt_of_nonneg right (by omega) hright₀
  have hb := toInt_ofInt_of_nonneg bottom (by omega) hbottom₀
  have hx := toInt_ofInt_of_nonneg x (by omega) (by omega)
  have hy := toInt_ofInt_of_nonneg y (by omega) (by omega)
  constructor <;> simp only [spanning, hl, ht, hr, hb, hx, hy] <;> omega

theorem confine_spanning {x y : Int} (hleft₀ : 0 ≤ left) (hleft : left ≤ x) (hright : x < right)
    (hright₀ : right < 2 ^ 31) (htop₀ : 0 ≤ top) (htop : top ≤ y) (hbottom : y < bottom)
    (hbottom₀ : bottom < 2 ^ 31) :
    (spanning left top right bottom).confine ⟨Int32.ofInt x, Int32.ofInt y⟩ =
      ⟨Int32.ofInt x, Int32.ofInt y⟩ :=
  confine_of_holds (holds_spanning hleft₀ hleft hright hright₀ htop₀ htop hbottom hbottom₀)

theorem place_spanning (x y : Int) :
    (spanning left top right bottom).place (Int32.ofInt x) (Int32.ofInt y) =
      ⟨Int32.ofInt (left + x), Int32.ofInt (top + y)⟩ := by
  rw [place, spanning, Int32.ofInt_add, Int32.ofInt_add]

/-- Half the height of an area, as the word that places in it are counted with. -/
theorem half_height_spanning (h : top ≤ bottom) (hlt : bottom - top < 2 ^ 32) :
    ((spanning left top right bottom).height / 2).toInt32 = Int32.ofInt ((bottom - top) / 2) := by
  obtain ⟨k, rfl⟩ := Int.le.dest h
  have hheight : (spanning left top right (top + k)).height.toNat = k :=
    toNat_height_spanning left top right (by omega)
  rw [toInt32_eq_ofInt, UInt32.toNat_div, hheight, add_sub_cancel_left]
  rfl

/-- The width of an area is the height of the area that is turned. -/
theorem half_width_spanning (h : left ≤ right) (hlt : right - left < 2 ^ 32) :
    ((spanning left top right bottom).width / 2).toInt32 = Int32.ofInt ((right - left) / 2) :=
  @half_height_spanning 0 left 0 right h hlt

theorem height_eq_zero_spanning : (spanning left top right top).height = 0 := by
  rw [height, spanning, Int32.sub_self]
  rfl

theorem width_eq_zero_spanning : (spanning left top left bottom).width = 0 := by
  rw [width, spanning, Int32.sub_self]
  rfl

end Spanning

end Area

/-- A shape stands in an area: a box with its edges, a text with its anchor and a line with its
pixels. -/
def Shape.HeldBy (area : Area) : Shape → Prop
  | .box part _ _ => area.Within part
  | .text _ place _ _ _ _ => area.Holds place
  | .path pixels _ _ => ∀ p ∈ pixels, area.Holds p

theorem Shape.HeldBy.of_within {whole area : Area} (h : whole.Within area) {shape : Shape}
    (hshape : shape.HeldBy area) : shape.HeldBy whole := by
  cases shape with
  | box => exact h.trans hshape
  | text => exact h.holds hshape
  | path => exact fun p hp => h.holds (hshape p hp)

namespace Drawing

theorem half_ofInt {n : Int} (h : 0 ≤ n) (hlt : n < 2 ^ 31) :
    Int32.ofInt n / 2 = Int32.ofInt (n / 2) := by
  have hmin : Int32.minValue.toInt = -2 ^ 31 := rfl
  have hmax : Int32.maxValue.toInt = 2 ^ 31 - 1 := rfl
  have htdiv := @Int32.ofInt_tdiv n 2 (by omega) (by omega) (by omega) (by omega)
  rw [Int.tdiv_eq_ediv_of_nonneg h] at htdiv
  exact htdiv.symm

/-- Taking one coordinate from another leaves a number that is not below zero. -/
def Leaves (a b : Int32) : Prop := (a - b).toInt = a.toInt - b.toInt ∧ 0 ≤ (a - b).toInt

theorem leaves_ofInt {a b : Int} (hb : 0 ≤ b) (hle : b ≤ a) (ha : a < 2 ^ 31) :
    Leaves (Int32.ofInt a) (Int32.ofInt b) := by
  rw [Leaves, ← Int32.ofInt_sub, Area.toInt_ofInt_of_nonneg a (by omega) ha,
    Area.toInt_ofInt_of_nonneg b hb (by omega),
    Area.toInt_ofInt_of_nonneg (a - b) (by omega) (by omega)]
  omega

section Parts

variable {left top right bottom : Int}

theorem withinMargin_spanning :
    withinMargin (.spanning left top right bottom) =
      .spanning (left + 8) (top + 8) (right - 8) (bottom - 8) := by
  simp only [Area.spanning, Int32.ofInt_add, Int32.ofInt_sub]
  rfl

theorem captionAnchor_spanning (h : left + 16 ≤ right) (hlt : right - left < 2 ^ 31) :
    captionAnchor (.spanning left top right bottom) =
      ⟨Int32.ofInt (left + 8 + (right - left - 16) / 2), Int32.ofInt (top + 13)⟩ := by
  have hwidth : Int32.ofInt (right - 8) - Int32.ofInt (left + 8) =
      Int32.ofInt (right - left - 16) := by
    rw [← Int32.ofInt_sub]
    congr 1
    omega
  rw [captionAnchor, withinMargin_spanning]
  change (Area.spanning (left + 8) (top + 8) (right - 8) (bottom - 8)).place
    ((Int32.ofInt (right - 8) - Int32.ofInt (left + 8)) / 2) (Int32.ofInt 5) = _
  rw [hwidth, half_ofInt (by omega) (by omega), Area.place_spanning, add_assoc top]
  rfl

theorem exists_text_of_mem_axisName {name : Option String} {size turn : Nat} {area : Area}
    {x y : UInt32} {vertical : VerticalAnchor} {shape : Shape}
    (h : shape ∈ axisName name size area x y vertical turn) :
    area.isEmpty = false ∧ ∃ content,
      shape = .text content (area.place x.toInt32 y.toInt32) size .center vertical turn := by
  cases name with
  | none => cases h
  | some content =>
      cases hempty : area.isEmpty with
      | true => simp [axisName, hempty] at h
      | false =>
          refine ⟨rfl, content, ?_⟩
          simpa [axisName, hempty] using h

theorem heldBy_axisShapes (panel : Panel) (hwide : left + 76 ≤ right)
    (hhigh : top + 38 + labelHeight panel ≤ bottom) (hleft : 0 ≤ left) (hright : right < 2 ^ 31)
    (htop : 0 ≤ top) (hbottom : bottom < 2 ^ 31) :
    ∀ shape ∈ axisShapes panel (frame panel (.spanning left top right bottom)),
      shape.HeldBy (.spanning left top right bottom) := by
  intro shape hshape
  obtain ⟨hnonneg, _⟩ := labelHeight_bounds panel
  rw [frame_spanning panel hwide hhigh hleft hright htop hbottom] at hshape
  simp only [axisShapes, List.mem_append] at hshape
  rcases hshape with ((habove | hbefore) | hbelow) | hafter
  · obtain ⟨hempty, _⟩ := exists_text_of_mem_axisName habove
    simp [Area.isEmpty, Area.height_eq_zero_spanning] at hempty
  · obtain ⟨_, content, rfl⟩ := exists_text_of_mem_axisName hbefore
    rw [Area.half_height_spanning (by omega) (by omega)]
    change Area.Holds _ (Area.place _ (Int32.ofInt 0) _)
    rw [Area.place_spanning]
    apply Area.holds_spanning <;> omega
  · obtain ⟨_, content, rfl⟩ := exists_text_of_mem_axisName hbelow
    rw [Area.half_width_spanning (by omega) (by omega), Area.height_spanning, Area.place_spanning]
    apply Area.holds_spanning <;> omega
  · obtain ⟨hempty, _⟩ := exists_text_of_mem_axisName hafter
    simp [Area.isEmpty, Area.width_eq_zero_spanning] at hempty

end Parts

section Legend

variable {left top right bottom : Int} {labels : List String}

/-- The height of a legend with the given number of labels. -/
def legendHeight (count : Nat) : Int := 20 + 15 * (count - 1 : Nat) + 9

/-- How far below the top of a plot of the given height a legend starts. -/
def legendTop (height : Int) (count : Nat) : Int := (height - legendHeight count) / 2

theorem legendDrop_eq (k : Nat) : legendDrop k = Int32.ofInt (15 * k) := by
  rw [legendDrop, ← Int32.ofInt_eq_ofNat, Int32.ofInt_mul]
  rfl

theorem labelWidth_le_maxLabelWidth {label : String} (h : label ∈ labels) :
    labelWidth label ≤ maxLabelWidth labels := by
  rw [maxLabelWidth, List.foldl_eq_foldr]
  exact List.le_max_of_le' 0 (List.mem_map_of_mem h) le_rfl

theorem legendHeight_pos (count : Nat) : 29 ≤ legendHeight count := by
  rw [legendHeight]
  omega

theorem le_legendHeight {k count : Nat} (hk : k < count) :
    15 * (k : Int) + 29 ≤ legendHeight count := by
  rw [legendHeight]
  omega

theorem legendTop_bounds {height : Int} {count : Nat} (h : legendHeight count < height) :
    0 ≤ legendTop height count ∧ 2 * legendTop height count + legendHeight count ≤ height := by
  rw [legendTop]
  omega

theorem legend_spanning (hhigh : legendHeight labels.length < bottom - top)
    (hlt : bottom - top < 2 ^ 31) :
    legend (.spanning left top right bottom) labels =
      { left := 5
        top := Int32.ofInt (legendTop (bottom - top) labels.length)
        width := Int32.ofInt (50 + maxLabelWidth labels)
        height := Int32.ofInt (legendHeight labels.length) } := by
  have hheight : 2 * legendGap + legendDrop (labels.length - 1) + legendTextHeight =
      Int32.ofInt (legendHeight labels.length) := by
    rw [legendDrop_eq, legendHeight, Int32.ofInt_add, Int32.ofInt_add]
    rfl
  have hwidth : 2 * legendGap + legendKeyArea + Int32.ofNat (maxLabelWidth labels) =
      Int32.ofInt (50 + maxLabelWidth labels) := by
    rw [Int32.ofInt_add, Int32.ofInt_eq_ofNat]
    rfl
  rw [legend, hheight, hwidth, Area.height_spanning, ← Int32.ofInt_sub,
    half_ofInt (by omega) (by rw [legendHeight]; omega), legendTop]

/-- The text of a label takes this room. -/
def labelArea (plot : Area) (l : Legend) (k : Nat) (label : String) : Area :=
  let p := legendLabelAnchor plot l k
  ⟨p.x, p.y, p.x + Int32.ofNat (labelWidth label), p.y + legendTextHeight⟩

/-- A legend that has room stands in its plot with its whole box, and each label and the line beside
it stand in the legend. -/
structure LegendFits (plot : Area) (labels : List String) : Prop where
  leaves : Leaves plot.height.toInt32 (legend plot labels).height
  box : plot.Within (legendArea plot (legend plot labels))
  uncut : let l := legend plot labels
    plot.Holds (plot.place l.left l.top) ∧
      plot.Holds (plot.place (l.left + l.width) (l.top + l.height))
  label : ∀ k label, labels[k]? = some label →
    (legendArea plot (legend plot labels)).Within
      (labelArea plot (legend plot labels) k label)
  key : ∀ k < labels.length, ∀ p ∈ legendKey plot (legend plot labels) k,
    (legendArea plot (legend plot labels)).Holds p

theorem LegendFits.heldBy_legendShapes {panel : Panel} {plot : Area}
    (h : LegendFits plot (panel.curves.map Curve.label)) :
    ∀ shape ∈ legendShapes panel plot, shape.HeldBy plot := by
  have hentry : ∀ curve k, (curve, k) ∈ panel.curves.zipIdx →
      (panel.curves.map Curve.label)[k]? = some curve.label := by
    intro curve k hmem
    rw [List.getElem?_map, List.mk_mem_zipIdx_iff_getElem?.1 hmem]
    rfl
  intro shape hshape
  simp only [legendShapes, List.mem_append, List.mem_cons, List.not_mem_nil, or_false,
    List.mem_map] at hshape
  rcases hshape with ((rfl | rfl) | ⟨⟨curve, k⟩, hmem, rfl⟩) | ⟨⟨curve, k⟩, hmem, rfl⟩
  · exact h.box
  · exact h.box
  · exact (h.box.trans (h.label k curve.label (hentry curve k hmem))).holds_corner
  · obtain ⟨hk, -⟩ := List.getElem?_eq_some_iff.1 (hentry curve k hmem)
    exact fun p hp => h.box.holds (h.key k hk p hp)

section Room

variable (hleft : 0 ≤ left) (htop : 0 ≤ top) (hright : right < 2 ^ 31) (hbottom : bottom < 2 ^ 31)
  (hwide : 55 + (maxLabelWidth labels : Int) < right - left)
  (hhigh : legendHeight labels.length < bottom - top)
include hleft htop hright hbottom hwide hhigh

omit hleft htop hright hbottom hwide in
theorem legendCorners_spanning (hlt : bottom - top < 2 ^ 31) :
    let plot := Area.spanning left top right bottom
    let l := legend plot labels
    plot.place l.left l.top =
        ⟨Int32.ofInt (left + 5), Int32.ofInt (top + legendTop (bottom - top) labels.length)⟩ ∧
      plot.place (l.left + l.width) (l.top + l.height) =
        ⟨Int32.ofInt (left + (55 + maxLabelWidth labels)),
          Int32.ofInt
            (top + (legendTop (bottom - top) labels.length + legendHeight labels.length))⟩ := by
  intro plot l
  have hwidth : (5 : Int32) + Int32.ofInt (50 + maxLabelWidth labels) =
      Int32.ofInt (55 + maxLabelWidth labels) := by
    rw [show (55 : Int) + maxLabelWidth labels = 5 + (50 + maxLabelWidth labels) by ring,
      Int32.ofInt_add 5]
    rfl
  have hl : l = _ := legend_spanning hhigh hlt
  rw [hl]
  dsimp only
  rw [hwidth, ← Int32.ofInt_add]
  exact ⟨Area.place_spanning 5 _, Area.place_spanning _ _⟩

theorem legendArea_spanning :
    legendArea (.spanning left top right bottom)
        (legend (.spanning left top right bottom) labels) =
      .spanning (left + 5) (top + legendTop (bottom - top) labels.length)
        (left + (55 + maxLabelWidth labels))
        (top + (legendTop (bottom - top) labels.length + legendHeight labels.length)) := by
  obtain ⟨htop₀, hend⟩ := legendTop_bounds hhigh
  have hheight := legendHeight_pos labels.length
  obtain ⟨hfirst, hlast⟩ :=
    @legendCorners_spanning left top right bottom labels hhigh (by omega)
  rw [legendArea, hfirst, hlast, Area.confine_spanning, Area.confine_spanning]
  · rfl
  all_goals omega

theorem legendLabelAnchor_spanning {k : Nat} (hk : k < labels.length) :
    legendLabelAnchor (.spanning left top right bottom)
        (legend (.spanning left top right bottom) labels) k =
      ⟨Int32.ofInt (left + 45),
        Int32.ofInt (top + (legendTop (bottom - top) labels.length + 10) + 15 * k)⟩ := by
  obtain ⟨htop₀, hend⟩ := legendTop_bounds hhigh
  have hroom := le_legendHeight hk
  have hdrop : (legendDrop k).toInt = 15 * k := by
    rw [legendDrop_eq]
    exact Area.toInt_ofInt_of_nonneg _ (by omega) (by omega)
  have hfirst : (Int32.ofInt (top + (legendTop (bottom - top) labels.length + 10))).toInt =
      top + (legendTop (bottom - top) labels.length + 10) :=
    Area.toInt_ofInt_of_nonneg _ (by omega) (by omega)
  have hmax : Int32.maxValue.toInt = 2 ^ 31 - 1 := rfl
  rw [legend_spanning hhigh (by omega), legendLabelAnchor]
  change (let first := Area.confine _ (Area.place _ (Int32.ofInt 45) (_ + Int32.ofInt 10))
    Pixel.mk first.x (Int32.ofInt (min (first.y.toInt + (legendDrop k).toInt) _))) = _
  rw [← Int32.ofInt_add, Area.place_spanning, Area.confine_spanning]
  · dsimp only
    rw [hfirst, hdrop, hmax, Int.min_eq_left (by omega)]
  all_goals omega

theorem labelArea_spanning {k : Nat} (hk : k < labels.length) (label : String) :
    labelArea (.spanning left top right bottom)
        (legend (.spanning left top right bottom) labels) k label =
      .spanning (left + 45) (top + (legendTop (bottom - top) labels.length + 10) + 15 * k)
        (left + 45 + labelWidth label)
        (top + (legendTop (bottom - top) labels.length + 10) + 15 * k + 9) := by
  rw [labelArea, legendLabelAnchor_spanning hleft htop hright hbottom hwide hhigh hk,
    Area.spanning, Int32.ofInt_add _ (labelWidth label : Int), Int32.ofInt_add _ 9,
    Int32.ofInt_eq_ofNat]
  rfl

/-- Twice the place of a key is counted on the way, so a coordinate must reach a little further than
the height of the plot. -/
theorem legendKey_spanning (hlt : bottom - top + legendHeight labels.length < 2 ^ 31) {k : Nat}
    (hk : k < labels.length) :
    legendKey (.spanning left top right bottom)
        (legend (.spanning left top right bottom) labels) k =
      [⟨Int32.ofInt (left + 15),
          Int32.ofInt (top + (legendTop (bottom - top) labels.length + 14 + 15 * k))⟩,
        ⟨Int32.ofInt (left + 35),
          Int32.ofInt (top + (legendTop (bottom - top) labels.length + 14 + 15 * k))⟩] := by
  obtain ⟨htop₀, hend⟩ := legendTop_bounds hhigh
  have hroom := le_legendHeight hk
  have hmiddle : (Int32.ofInt (legendTop (bottom - top) labels.length) + legendGap + legendDrop k +
      (Int32.ofInt (legendTop (bottom - top) labels.length) + legendGap + legendDrop k +
        legendTextHeight)) / 2 =
      Int32.ofInt (legendTop (bottom - top) labels.length + 14 + 15 * k) := by
    have hstart : Int32.ofInt (legendTop (bottom - top) labels.length) + legendGap + legendDrop k =
        Int32.ofInt (legendTop (bottom - top) labels.length + 10 + 15 * k) := by
      rw [legendDrop_eq, Int32.ofInt_add, Int32.ofInt_add]
      rfl
    rw [hstart]
    change (_ + (_ + Int32.ofInt 9)) / 2 = _
    rw [← Int32.ofInt_add, ← Int32.ofInt_add, half_ofInt (by omega) (by omega)]
    congr 1
    omega
  rw [legend_spanning hhigh (by omega), legendKey]
  dsimp only
  rw [hmiddle]
  change [Area.confine _ (Area.place _ (Int32.ofInt 15) _),
    Area.confine _ (Area.place _ (Int32.ofInt 35) _)] = _
  rw [Area.place_spanning, Area.place_spanning, Area.confine_spanning, Area.confine_spanning]
  all_goals omega

theorem legendFits_spanning (hlt : bottom - top + legendHeight labels.length < 2 ^ 31)
    (hlabels : ∀ label ∈ labels, 0 < labelWidth label) :
    LegendFits (.spanning left top right bottom) labels := by
  obtain ⟨htop₀, hend⟩ := legendTop_bounds hhigh
  have harea := legendArea_spanning hleft htop hright hbottom hwide hhigh
  have hheight := legendHeight_pos labels.length
  obtain ⟨hfirst, hlast⟩ :=
    @legendCorners_spanning left top right bottom labels hhigh (by omega)
  constructor
  case leaves =>
    rw [legend_spanning hhigh (by omega), Area.height_spanning]
    exact leaves_ofInt (by omega) (by omega) (by omega)
  case box =>
    rw [harea]
    apply Area.within_spanning <;> omega
  case uncut =>
    intro l
    rw [hfirst, hlast]
    constructor <;> apply Area.holds_spanning <;> omega
  case label =>
    intro k label hlabel
    obtain ⟨hk, rfl⟩ := List.getElem?_eq_some_iff.1 hlabel
    have hpos := hlabels _ (List.getElem_mem hk)
    have hle := labelWidth_le_maxLabelWidth (List.getElem_mem hk)
    have hroom := le_legendHeight hk
    rw [labelArea_spanning hleft htop hright hbottom hwide hhigh hk, harea]
    apply Area.within_spanning <;> omega
  case key =>
    intro k hk p hp
    have hroom := le_legendHeight hk
    rw [legendKey_spanning hleft htop hright hbottom hwide hhigh hlt hk] at hp
    rw [harea]
    simp only [List.mem_cons, List.not_mem_nil, or_false] at hp
    rcases hp with rfl | rfl <;> apply Area.holds_spanning <;> omega

end Room

end Legend

end Drawing

end BenchChart
