import BenchChart.Drawing.Layout
import BenchChart.Proofs.Figure.Rows
import Mathlib.Tactic.Ring

/-!
# Plots in an image

Sums and differences of coordinates wrap, and so do those of the numbers they stand for, so a
layout can be computed with numbers. Only where edges are put in order must the numbers be
coordinates. An image that coordinates reach and that is as large as a chart must be has room for
the plots of all panels.
-/

namespace BenchChart

namespace Area

/-- The area between edges that are given as numbers. -/
def spanning (left top right bottom : Int) : Area :=
  ⟨Int32.ofInt left, Int32.ofInt top, Int32.ofInt right, Int32.ofInt bottom⟩

/-- A part of the image that is not empty. -/
structure Within (whole a : Area) : Prop where
  left : 0 ≤ whole.left.toInt ∧ whole.left.toInt ≤ a.left.toInt
  top : 0 ≤ whole.top.toInt ∧ whole.top.toInt ≤ a.top.toInt
  right : a.right.toInt ≤ whole.right.toInt
  bottom : a.bottom.toInt ≤ whole.bottom.toInt
  width : a.left.toInt < a.right.toInt
  height : a.top.toInt < a.bottom.toInt

/-- A pixel of an area. The right edge and the bottom edge are outside. -/
structure Holds (a : Area) (p : Pixel) : Prop where
  left : a.left.toInt ≤ p.x.toInt
  right : p.x.toInt ≤ a.right.toInt - 1
  top : a.top.toInt ≤ p.y.toInt
  bottom : p.y.toInt ≤ a.bottom.toInt - 1

section Spanning

variable (left top right bottom : Int)

theorem width_spanning :
    (spanning left top right bottom).width.toInt32 = Int32.ofInt (right - left) := by
  rw [width, Int32.toInt32_toUInt32, Int32.ofInt_sub]
  rfl

theorem height_spanning :
    (spanning left top right bottom).height.toInt32 = Int32.ofInt (bottom - top) := by
  rw [height, Int32.toInt32_toUInt32, Int32.ofInt_sub]
  rfl

end Spanning

theorem toInt32_eq_ofInt (n : UInt32) : n.toInt32 = Int32.ofInt n.toNat := by
  rw [Int32.ofInt_eq_ofNat, ← UInt32.toInt32_ofNat', UInt32.ofNat_toNat]

theorem toNat_height_spanning (left top right : Int) {k : Nat} (hk : k < 2 ^ 32) :
    (spanning left top right (top + k)).height.toNat = k := by
  have hspan : top + (k : Int) - top = k := by ring
  have hheight : (spanning left top right (top + k)).height = UInt32.ofNat k := by
    rw [← UInt32.toUInt32_toInt32 (spanning left top right (top + k)).height, height_spanning,
      hspan, Int32.ofInt_eq_ofNat, ← UInt32.toInt32_ofNat', UInt32.toUInt32_toInt32]
  rw [hheight, UInt32.toNat_ofNat_of_lt' hk]

theorem ofSize_eq_spanning (width height : UInt32) :
    ofSize width height = spanning 0 0 width.toNat height.toNat := by
  rw [ofSize, toInt32_eq_ofInt, toInt32_eq_ofInt]
  rfl

theorem toInt_ofInt_of_nonneg (n : Int) (h : 0 ≤ n) (hlt : n < 2 ^ 31) :
    (Int32.ofInt n).toInt = n :=
  Int32.toInt_ofInt_of_le (by omega) hlt

theorem within_spanning {left₀ top₀ right₀ bottom₀ left top right bottom : Int}
    (hleft₀ : 0 ≤ left₀) (hleft : left₀ ≤ left) (htop₀ : 0 ≤ top₀) (htop : top₀ ≤ top)
    (hwide : left < right) (hhigh : top < bottom) (hright : right ≤ right₀)
    (hbottom : bottom ≤ bottom₀) (hright₀ : right₀ < 2 ^ 31) (hbottom₀ : bottom₀ < 2 ^ 31) :
    (spanning left₀ top₀ right₀ bottom₀).Within (spanning left top right bottom) := by
  have hl := toInt_ofInt_of_nonneg left (by omega) (by omega)
  have ht := toInt_ofInt_of_nonneg top (by omega) (by omega)
  have hr := toInt_ofInt_of_nonneg right (by omega) (by omega)
  have hb := toInt_ofInt_of_nonneg bottom (by omega) (by omega)
  have hl₀ := toInt_ofInt_of_nonneg left₀ hleft₀ (by omega)
  have ht₀ := toInt_ofInt_of_nonneg top₀ htop₀ (by omega)
  have hr₀ := toInt_ofInt_of_nonneg right₀ (by omega) hright₀
  have hb₀ := toInt_ofInt_of_nonneg bottom₀ (by omega) hbottom₀
  constructor <;> simp only [spanning, hl, ht, hr, hb, hl₀, ht₀, hr₀, hb₀] <;> omega

end Area

namespace Drawing

/-- Edges that stand in order are left so. -/
theorem edges_of_pairwise {first last : Int32} {cuts : List Int32}
    (h : (first :: (cuts.map (first + ·) ++ [last])).Pairwise (· ≤ ·)) :
    edges first last cuts = first :: (cuts.map (first + ·) ++ [last]) := by
  have htrans : ∀ a b c : Int32, decide (a ≤ b) = true → decide (b ≤ c) = true →
      decide (a ≤ c) = true := by
    intro a b c hab hbc
    simp only [decide_eq_true_eq] at hab hbc ⊢
    exact Int32.le_trans hab hbc
  have htotal : ∀ a b : Int32, (decide (a ≤ b) || decide (b ≤ a)) = true := by
    intro a b
    simpa using Int32.le_total a b
  have hmerge := List.pairwise_mergeSort htrans htotal (first :: last :: cuts.map (first + ·))
  simp only [decide_eq_true_eq] at hmerge
  apply List.Perm.eq_of_pairwise (fun a b _ _ => Int32.le_antisymm) hmerge h
  exact (List.mergeSort_perm _ _).trans ((List.perm_append_singleton last _).symm.cons first)

theorem bounds_of_mem {first last n : Int} {marks : List Int}
    (h : (first :: (marks ++ [last])).Pairwise (· ≤ ·)) (hn : n ∈ first :: (marks ++ [last])) :
    first ≤ n ∧ n ≤ last := by
  obtain ⟨hleast, hrest⟩ := List.pairwise_cons.1 h
  have hle : first ≤ last := hleast last (by simp)
  rcases List.mem_cons.1 hn with rfl | hn
  · exact ⟨Int.le_refl _, hle⟩
  · refine ⟨hleast n hn, ?_⟩
    rcases List.mem_append.1 hn with hn | hn
    · exact (List.pairwise_append.1 hrest).2.2 n hn last (List.mem_singleton_self last)
    · exact Int.le_of_eq (List.mem_singleton.1 hn)

/-- Edges between numbers that coordinates reach. -/
theorem edges_ofInt {first last : Int} {cuts marks : List Int}
    (hmarks : cuts.map (first + ·) = marks) (h : (first :: (marks ++ [last])).Pairwise (· ≤ ·))
    (hfirst : -2 ^ 31 ≤ first) (hlast : last < 2 ^ 31) :
    edges (Int32.ofInt first) (Int32.ofInt last) (cuts.map Int32.ofInt) =
      (first :: (marks ++ [last])).map Int32.ofInt := by
  have hword : ∀ n ∈ first :: (marks ++ [last]), (Int32.ofInt n).toInt = n := by
    intro n hn
    obtain ⟨hge, hle⟩ := bounds_of_mem h hn
    exact Int32.toInt_ofInt_of_le (Int.le_trans hfirst hge) (Int.lt_of_le_of_lt hle hlast)
  have hcuts : (cuts.map Int32.ofInt).map (Int32.ofInt first + ·) = marks.map Int32.ofInt := by
    simp only [← hmarks, List.map_map, Function.comp_def, Int32.ofInt_add]
  have hmap : (first :: (marks ++ [last])).map Int32.ofInt = Int32.ofInt first ::
      ((cuts.map Int32.ofInt).map (Int32.ofInt first + ·) ++ [Int32.ofInt last]) := by
    rw [hcuts, List.map_cons, List.map_append, List.map_singleton]
  -- Numbers that coordinates reach are in the order of their coordinates.
  rw [hmap]
  apply edges_of_pairwise
  rw [← hmap, List.pairwise_map]
  apply h.imp_of_mem
  intro a b ha hb hab
  rwa [Int32.le_iff_toInt_le, hword a ha, hword b hb]

section Plot

variable {left top right bottom : Int}

theorem belowCaption_spanning :
    belowCaption (.spanning left top right bottom) =
      .spanning (left + 8) (top + 30) (right - 8) (bottom - 8) := by
  rw [show top + 30 = top + 8 + 22 by ring]
  simp only [Area.spanning, Int32.ofInt_add, Int32.ofInt_sub]
  rfl

/-- How much of the height is taken by the labels below a plot. -/
def labelHeight (panel : Panel) : Int := (xLabelHeight panel).toInt

theorem labelHeight_bounds (panel : Panel) : 0 ≤ labelHeight panel ∧ labelHeight panel ≤ 40 := by
  rw [labelHeight, xLabelHeight]
  split <;> decide

/-- The frame of a panel that has room for the labels. Above and after the plot there are none. -/
theorem frame_spanning (panel : Panel) (hwide : left + 76 ≤ right)
    (hhigh : top + 38 + labelHeight panel ≤ bottom) (hleft : 0 ≤ left) (hright : right < 2 ^ 31)
    (htop : 0 ≤ top) (hbottom : bottom < 2 ^ 31) :
    frame panel (.spanning left top right bottom) =
      { plot := .spanning (left + 68) (top + 30) (right - 8) (bottom - (labelHeight panel + 8))
        above := .spanning (left + 68) (top + 30) (right - 8) (top + 30)
        below := .spanning (left + 68) (bottom - (labelHeight panel + 8)) (right - 8) (bottom - 8)
        before :=
          .spanning (left + 8) (top + 30) (left + 68) (bottom - (labelHeight panel + 8))
        after :=
          .spanning (right - 8) (top + 30) (right - 8) (bottom - (labelHeight panel + 8)) } := by
  obtain ⟨hnonneg, hle⟩ := labelHeight_bounds panel
  have hwidth : [60, right - 8 - (left + 8)].map (left + 8 + ·) = [left + 68, right - 8] := by
    simp
    omega
  have hxs : edges (Int32.ofInt (left + 8)) (Int32.ofInt (right - 8))
      [yLabelWidth, Int32.ofInt (right - 8 - (left + 8))] =
        [left + 8, left + 68, right - 8, right - 8].map Int32.ofInt :=
    edges_ofInt hwidth (by simp; omega) (by omega) (by omega)
  have hheight : [0, bottom - 8 - (top + 30) - labelHeight panel].map (top + 30 + ·) =
      [top + 30, bottom - (labelHeight panel + 8)] := by
    simp
    omega
  have hlabels : Int32.ofInt (bottom - 8 - (top + 30) - labelHeight panel) =
      Int32.ofInt (bottom - 8 - (top + 30)) - xLabelHeight panel := by
    rw [Int32.ofInt_sub, labelHeight, Int32.ofInt_toInt]
  have hys : edges (Int32.ofInt (top + 30)) (Int32.ofInt (bottom - 8))
      [0, Int32.ofInt (bottom - 8 - (top + 30)) - xLabelHeight panel] =
        [top + 30, top + 30, bottom - (labelHeight panel + 8), bottom - 8].map Int32.ofInt := by
    rw [← hlabels]
    exact edges_ofInt hheight (by simp; omega) (by omega) (by omega)
  rw [frame, belowCaption_spanning, Area.width_spanning, Area.height_spanning]
  change Frame.ofEdges (edges (Int32.ofInt (left + 8)) (Int32.ofInt (right - 8))
      [yLabelWidth, Int32.ofInt (right - 8 - (left + 8))])
    (edges (Int32.ofInt (top + 30)) (Int32.ofInt (bottom - 8))
      [0, Int32.ofInt (bottom - 8 - (top + 30)) - xLabelHeight panel]) = _
  rw [hxs, hys]
  rfl

end Plot

section Panels

theorem rowBreakpoints_ofRun (run : Run) (series : Series) (settings : Settings) (height : UInt32) :
    ((Figure.ofRun run series settings).rowBreakpoints height).map UInt32.toInt32 =
      [(height.toNat : Int) / 5, height.toNat * 2 / 5, height.toNat * 3 / 5].map Int32.ofInt := by
  have hrows : (Figure.ofRun run series settings).rowBreakpoints height =
      [Figure.rowStart height 5 1, Figure.rowStart height 5 2, Figure.rowStart height 5 3] := rfl
  have hstart : ∀ row : UInt32, row ≤ 5 → (Figure.rowStart height 5 row).toInt32 =
      Int32.ofInt (height.toNat * row.toNat / 5) := by
    intro row hrow
    rw [Area.toInt32_eq_ofInt, Figure.toNat_rowStart hrow]
    rfl
  rw [hrows, List.map_cons, List.map_cons, List.map_cons, hstart 1 (by decide),
    hstart 2 (by decide), hstart 3 (by decide)]
  simp

theorem body_ofRun (run : Run) (series : Series) (settings : Settings) (width : UInt32)
    {height : UInt32} (h : 62 ≤ height) :
    body (Figure.ofRun run series settings) (Area.ofSize width height) =
      .spanning 0 62 width.toNat height.toNat := by
  have hband : (titleBand (Figure.ofRun run series settings)).toUInt32 = 62 := rfl
  have hheight : (Area.ofSize width height).height = height := by
    rw [Area.height, Area.ofSize, Int32.sub_zero, UInt32.toUInt32_toInt32]
  have hmin : min 62 height = 62 := Std.LawfulOrderLeftLeaningMin.min_eq_left 62 height h
  rw [body, hband, hheight, hmin, Area.ofSize_eq_spanning]
  rfl

/-- Where a row of the panels of a run starts in an image of the given height. -/
def rowEdge (height row : Int) : Int := 62 + (height - 62) * row / 5

theorem rowEdge_gaps {height : Int} (h : 480 ≤ height) :
    62 + 83 ≤ rowEdge height 1 ∧ rowEdge height 1 + 83 ≤ rowEdge height 2 ∧
      rowEdge height 2 + 83 ≤ rowEdge height 3 ∧ rowEdge height 3 + 167 ≤ height := by
  simp only [rowEdge]
  omega

theorem panelAreas_ofRun (run : Run) (series : Series) (settings : Settings) {width height : Nat}
    (hwidth : width < 2 ^ 31) (hleast : 62 ≤ height) (hheight : height < 2 ^ 31) :
    panelAreas (Figure.ofRun run series settings) (.spanning 0 62 width height) =
      [.spanning 0 62 width (rowEdge height 1),
        .spanning 0 (rowEdge height 1) width (rowEdge height 2),
        .spanning 0 (rowEdge height 2) width (rowEdge height 3),
        .spanning 0 (rowEdge height 3) width height] := by
  obtain ⟨k, rfl⟩ := Nat.exists_eq_add_of_le hleast
  have hbody : (Area.spanning 0 62 width (62 + k : Nat)).height.toNat = k := by
    push_cast
    exact Area.toNat_height_spanning 0 62 width (by omega)
  have hxs : edges (Int32.ofInt 0) (Int32.ofInt width) ([].map Int32.ofInt) =
      [0, (width : Int)].map Int32.ofInt :=
    edges_ofInt rfl (by simp) (by omega) (by omega)
  have hmarks : [(k : Int) / 5, k * 2 / 5, k * 3 / 5].map (62 + ·) =
      [rowEdge (62 + k : Nat) 1, rowEdge (62 + k : Nat) 2, rowEdge (62 + k : Nat) 3] := by
    simp [rowEdge]
  have hys : edges (Int32.ofInt 62) (Int32.ofInt (62 + k : Nat))
      ([(k : Int) / 5, k * 2 / 5, k * 3 / 5].map Int32.ofInt) =
      [62, rowEdge (62 + k : Nat) 1, rowEdge (62 + k : Nat) 2, rowEdge (62 + k : Nat) 3,
        (62 + k : Nat)].map Int32.ofInt :=
    edges_ofInt hmarks (by simp [rowEdge]; omega) (by omega) (by omega)
  rw [panelAreas, rowBreakpoints_ofRun, hbody]
  change (between (edges (Int32.ofInt 0) (Int32.ofInt width) ([].map Int32.ofInt))).flatMap
    (fun xs => (between (edges (Int32.ofInt 62) (Int32.ofInt (62 + k : Nat))
      ([(k : Int) / 5, k * 2 / 5, k * 3 / 5].map Int32.ofInt))).map
        fun ys => Area.mk xs.1 ys.1 xs.2 ys.2) = _
  rw [hxs, hys]
  rfl

/-- The panels of a figure with their plots. -/
def plots (figure : Figure) (image : Area) : List (Panel × Area) :=
  (figure.panels.zip (panelAreas figure (body figure image))).map fun (panel, area) =>
    (panel, (frame panel area).plot)

/-- The plots of a run in an image of the given size: what the title, the captions, the margins and
the labels leave of it. -/
def plotAreas (width height : Int) : List Area :=
  [.spanning 68 92 (width - 8) (rowEdge height 1 - 33),
    .spanning 68 (rowEdge height 1 + 30) (width - 8) (rowEdge height 2 - 33),
    .spanning 68 (rowEdge height 2 + 30) (width - 8) (rowEdge height 3 - 33),
    .spanning 68 (rowEdge height 3 + 30) (width - 8) (height - 48)]

theorem plots_ofRun (run : Run) (series : Series) (settings : Settings) {width height : UInt32}
    (hwide : 640 ≤ width.toNat) (hhigh : 480 ≤ height.toNat) (hwidth : width.toNat < 2 ^ 31)
    (hheight : height.toNat < 2 ^ 31) :
    plots (Figure.ofRun run series settings) (Area.ofSize width height) =
      (Figure.ofRun run series settings).panels.zip (plotAreas width.toNat height.toNat) := by
  have hbody : 62 ≤ height :=
    UInt32.le_iff_toNat_le.2 (show 62 ≤ height.toNat by omega)
  rw [plots, body_ofRun run series settings width hbody,
    panelAreas_ofRun run series settings hwidth (by omega) hheight]
  obtain ⟨hone, htwo, hthree, hlast⟩ := rowEdge_gaps (show (480 : Int) ≤ height.toNat by omega)
  have hplot : ∀ (panel : Panel) (top bottom : Int), 0 ≤ top → top + 78 ≤ bottom →
      bottom < 2 ^ 31 → (frame panel (.spanning 0 top width.toNat bottom)).plot =
        .spanning 68 (top + 30) (width.toNat - 8) (bottom - (labelHeight panel + 8)) := by
    intro panel top bottom htop hroom hbottom
    have hlabels := (labelHeight_bounds panel).2
    rw [frame_spanning panel (by omega) (by omega) (by omega) (by omega) htop hbottom, zero_add]
  simp only [Figure.ofRun, plotAreas, List.zip_cons_cons, List.zip_nil_left, List.map_cons,
    List.map_nil]
  rw [hplot _ 62 _ (by omega) (by omega) (by omega),
    hplot _ (rowEdge _ 1) (rowEdge _ 2) (by omega) (by omega) (by omega),
    hplot _ (rowEdge _ 2) (rowEdge _ 3) (by omega) (by omega) (by omega),
    hplot _ (rowEdge _ 3) height.toNat (by omega) (by omega) (by omega)]
  rfl

/-- All panels of a run have room for their plots. -/
theorem within_of_mem_plots (run : Run) (series : Series) (settings : Settings)
    {width height : UInt32} (hwide : 640 ≤ width.toNat) (hhigh : 480 ≤ height.toNat)
    (hwidth : width.toNat < 2 ^ 31) (hheight : height.toNat < 2 ^ 31) {panel : Panel} {plot : Area}
    (h : (panel, plot) ∈ plots (Figure.ofRun run series settings) (Area.ofSize width height)) :
    (Area.ofSize width height).Within plot := by
  obtain ⟨hone, htwo, hthree, hlast⟩ := rowEdge_gaps (show (480 : Int) ≤ height.toNat by omega)
  rw [plots_ofRun run series settings hwide hhigh hwidth hheight] at h
  have hplot := (List.of_mem_zip h).2
  rw [Area.ofSize_eq_spanning]
  simp only [plotAreas, List.mem_cons, List.not_mem_nil, or_false] at hplot
  rcases hplot with rfl | rfl | rfl | rfl <;> apply Area.within_spanning <;> omega

end Panels

end Drawing

end BenchChart
