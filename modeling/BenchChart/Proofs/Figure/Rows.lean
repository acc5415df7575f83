import BenchChart.Figure
import Mathlib.Algebra.Order.Field.Basic
import Mathlib.Data.Rat.Cast.Order
import Mathlib.Tactic.FieldSimp
import Mathlib.Tactic.Linarith

/-!
# Heights of panels

A height is cut where the share of the rows above ends, rounded down. Sums of rows are words of 32
bits and products words of 64, so all of them are exact if the rows of all panels are few enough
for a word. Neighbouring cuts are rounded independently, yet a panel is less than one pixel higher
or lower than its share: what one cut loses, the next one loses as well but for less than a pixel.
-/

namespace BenchChart

/-- The distances between neighbouring cuts. -/
def gaps : List Nat → List Nat
  | first :: next :: rest => (next - first) :: gaps (next :: rest)
  | _ => []

theorem length_gaps (cuts : List Nat) : (gaps cuts).length = cuts.length - 1 := by
  induction cuts with
  | nil => rfl
  | cons first rest ih =>
      cases rest with
      | nil => rfl
      | cons next rest => rw [gaps, List.length_cons, ih]; rfl

theorem getElem?_gaps {cuts : List Nat} {k first next : Nat} (hfirst : cuts[k]? = some first)
    (hnext : cuts[k + 1]? = some next) : (gaps cuts)[k]? = some (next - first) := by
  induction cuts generalizing k with
  | nil => cases hfirst
  | cons a rest ih =>
      cases rest with
      | nil => cases hnext
      | cons b rest =>
          cases k with
          | zero =>
              obtain rfl : a = first := Option.some.inj hfirst
              obtain rfl : b = next := Option.some.inj hnext
              rfl
          | succ k => exact ih hfirst hnext

/-- What lies between cuts in order adds up to what lies between the first and the last of them. -/
theorem sum_gaps {first last : Nat} {cuts : List Nat}
    (h : (first :: (cuts ++ [last])).Pairwise (· ≤ ·)) :
    first + (gaps (first :: (cuts ++ [last]))).sum = last := by
  induction cuts generalizing first with
  | nil =>
      have hle : first ≤ last := List.rel_of_pairwise_cons h (List.mem_singleton_self last)
      change first + (last - first + 0) = last
      omega
  | cons next rest ih =>
      have hle : first ≤ next := List.rel_of_pairwise_cons h List.mem_cons_self
      have hrest := ih h.of_cons
      change first + ((next - first) + (gaps (next :: (rest ++ [last]))).sum) = last
      omega

/-- Cuts that are rounded down leave each part its share, but for less than one. -/
theorem abs_div_sub_div_sub_lt (above part : Nat) {whole : Nat} (h : 0 < whole) :
    |(((above + part) / whole - above / whole : Nat) : ℚ) - part / whole| < 1 := by
  have hwhole : (0 : ℚ) < whole := by exact_mod_cast h
  have hle : above / whole ≤ (above + part) / whole := Nat.div_le_div_right (by omega)
  obtain ⟨d, hd⟩ := Nat.exists_eq_add_of_le hle
  have habove := Nat.div_add_mod above whole
  have hbelow := Nat.div_add_mod (above + part) whole
  rw [hd, Nat.mul_add] at hbelow
  have hlt := Nat.mod_lt above h
  have hlt' := Nat.mod_lt (above + part) h
  have hupper : d * whole < part + whole := by rw [Nat.mul_comm]; omega
  have hlower : part < d * whole + whole := by rw [Nat.mul_comm]; omega
  have hsplit : (d : ℚ) - part / whole = (d * whole - part) / whole := by field_simp
  rw [hd, Nat.add_sub_cancel_left, hsplit, abs_div, abs_of_pos hwhole, div_lt_one hwhole, abs_lt]
  have hupper' : (d : ℚ) * whole < part + whole := by exact_mod_cast hupper
  have hlower' : (part : ℚ) < d * whole + whole := by exact_mod_cast hlower
  constructor <;> linarith

namespace Panel

def rowCount (panels : List Panel) : Nat := (panels.map fun panel => panel.rows.toNat).sum

theorem rowCount_cons (panel : Panel) (rest : List Panel) :
    rowCount (panel :: rest) = panel.rows.toNat + rowCount rest := by
  rw [rowCount, List.map_cons, List.sum_cons, rowCount]

theorem rowCount_append (above below : List Panel) :
    rowCount (above ++ below) = rowCount above + rowCount below := by
  rw [rowCount, List.map_append, List.sum_append, rowCount, rowCount]

section Words

variable {above : UInt32} {panels : List Panel}

theorem toNat_add_rows {panel : Panel} {rest : List Panel}
    (h : above.toNat + rowCount (panel :: rest) < UInt32.size) :
    (above + panel.rows).toNat = above.toNat + panel.rows.toNat := by
  rw [rowCount_cons] at h
  have hlt : above.toNat + panel.rows.toNat < UInt32.size := by omega
  rw [UInt32.toNat_add]
  exact Nat.mod_eq_of_lt hlt

theorem toNat_foldl_rows (h : above.toNat + rowCount panels < UInt32.size) :
    ((panels.map Panel.rows).foldl (· + ·) above).toNat = above.toNat + rowCount panels := by
  induction panels generalizing above with
  | nil => rfl
  | cons panel rest ih =>
      have hsum := toNat_add_rows h
      rw [rowCount_cons] at h ⊢
      rw [List.map_cons, List.foldl_cons, ih (by omega), hsum, Nat.add_assoc]

theorem getElem?_runningRows (h : above.toNat + rowCount panels < UInt32.size) {k : Nat}
    (hk : k < panels.length) :
    ((runningRows above panels)[k]?).map UInt32.toNat =
      some (above.toNat + rowCount (panels.take (k + 1))) := by
  induction panels generalizing above k with
  | nil => cases hk
  | cons panel rest ih =>
      have hsum := toNat_add_rows h
      rw [runningRows, List.take_succ_cons, rowCount_cons]
      cases k with
      | zero =>
          rw [List.getElem?_cons_zero, Option.map_some, hsum]
          rfl
      | succ k =>
          rw [rowCount_cons] at h
          rw [List.getElem?_cons_succ, ih (by omega) (Nat.lt_of_succ_lt_succ hk), hsum,
            Nat.add_assoc]

end Words

end Panel

namespace Figure

/-- The rows of the first panels. -/
def rowsAbove (figure : Figure) (k : Nat) : Nat := Panel.rowCount (figure.panels.take k)

def rowCount (figure : Figure) : Nat := Panel.rowCount figure.panels

/-- The share of a height that belongs to the rows of the first panels, rounded down. -/
def rowCut (figure : Figure) (height : UInt32) (k : Nat) : Nat :=
  height.toNat * figure.rowsAbove k / max figure.rowCount 1

/-- Where the parts of a height begin and end: at its ends and at the breakpoints. -/
def cuts (figure : Figure) (height : UInt32) : List Nat :=
  0 :: ((figure.rowBreakpoints height).map UInt32.toNat ++ [height.toNat])

def panelHeights (figure : Figure) (height : UInt32) : List Nat := gaps (figure.cuts height)

variable {figure : Figure} {height : UInt32} {k : Nat}

theorem rowsAbove_succ {panel : Panel} (h : figure.panels[k]? = some panel) :
    figure.rowsAbove (k + 1) = figure.rowsAbove k + panel.rows.toNat := by
  rw [rowsAbove, List.take_add_one, h, Panel.rowCount_append]
  rfl

theorem rowsAbove_mono (figure : Figure) : Monotone figure.rowsAbove := by
  apply monotone_nat_of_le_succ
  intro k
  rw [rowsAbove, rowsAbove, List.take_add_one, Panel.rowCount_append]
  omega

theorem rowsAbove_le (figure : Figure) (k : Nat) : figure.rowsAbove k ≤ figure.rowCount := by
  have hsplit := Panel.rowCount_append (figure.panels.take k) (figure.panels.drop k)
  rw [List.take_append_drop] at hsplit
  rw [rowsAbove, rowCount, hsplit]
  omega

theorem rowsAbove_length (figure : Figure) :
    figure.rowsAbove figure.panels.length = figure.rowCount := by
  rw [rowsAbove, List.take_length, rowCount]

theorem rowCut_mono (figure : Figure) (height : UInt32) : Monotone (figure.rowCut height) := by
  intro j k h
  exact Nat.div_le_div_right (Nat.mul_le_mul_left _ (figure.rowsAbove_mono h))

theorem rowCut_le (figure : Figure) (height : UInt32) (k : Nat) :
    figure.rowCut height k ≤ height.toNat := by
  apply Nat.div_le_of_le_mul
  rw [Nat.mul_comm]
  exact Nat.mul_le_mul_right _ (Nat.le_trans (figure.rowsAbove_le k) (Nat.le_max_left _ _))

theorem rowCut_zero (figure : Figure) (height : UInt32) : figure.rowCut height 0 = 0 := by
  rw [rowCut, rowsAbove, List.take_zero, Panel.rowCount, List.map_nil, List.sum_nil, Nat.mul_zero,
    Nat.zero_div]

/-- If there are rows at all, they share the whole height. -/
theorem rowCut_length (h : 0 < figure.rowCount) :
    figure.rowCut height figure.panels.length = height.toNat := by
  rw [rowCut, rowsAbove_length, Nat.max_eq_left h, Nat.mul_div_cancel _ h]

theorem mul_rows_lt {a b : Nat} (ha : a < UInt32.size) (hb : b < UInt32.size) :
    a * b < UInt64.size :=
  Nat.lt_of_le_of_lt (Nat.mul_le_mul (show a ≤ UInt32.size - 1 by omega)
    (show b ≤ UInt32.size - 1 by omega)) (by decide)

/-- A row starts where the rows above it end. No word wraps on the way. -/
theorem toNat_rowStart {height rows row : UInt32} (h : row ≤ rows) :
    (rowStart height rows row).toNat = height.toNat * row.toNat / max rows.toNat 1 := by
  have hmax : (max rows 1).toNat = max rows.toNat 1 := by
    change (if rows ≤ 1 then 1 else rows).toNat = _
    split
    · next hle => exact (Nat.max_eq_right (UInt32.le_iff_toNat_le.1 hle)).symm
    · next hle => exact (Nat.max_eq_left (by
        rw [UInt32.le_iff_toNat_le] at hle
        exact Nat.le_of_lt (Nat.lt_of_not_le hle))).symm
  have hle : row.toNat ≤ max rows.toNat 1 :=
    Nat.le_trans (UInt32.le_iff_toNat_le.1 h) (Nat.le_max_left _ _)
  have hquotient : height.toNat * row.toNat / max rows.toNat 1 < UInt32.size :=
    Nat.lt_of_le_of_lt (Nat.div_le_of_le_mul (by
      rw [Nat.mul_comm]
      exact Nat.mul_le_mul_right _ hle)) height.toNat_lt
  rw [rowStart, UInt64.toNat_toUInt32, UInt64.toNat_div, UInt64.toNat_mul, UInt32.toNat_toUInt64,
    UInt32.toNat_toUInt64, UInt32.toNat_toUInt64, hmax,
    Nat.mod_eq_of_lt (mul_rows_lt height.toNat_lt row.toNat_lt), Nat.mod_eq_of_lt hquotient]

section Exact

variable (h : figure.rowCount < UInt32.size)
include h

theorem toNat_rows : figure.rows.toNat = figure.rowCount := by
  have hsum : (0 : UInt32).toNat + Panel.rowCount figure.panels < UInt32.size := by
    rwa [UInt32.toNat_zero, Nat.zero_add]
  rw [rows, Panel.toNat_foldl_rows hsum, UInt32.toNat_zero, Nat.zero_add, rowCount]

theorem getElem?_runningRows (hk : k < figure.panels.length) :
    ((Panel.runningRows 0 figure.panels)[k]?).map UInt32.toNat =
      some (figure.rowsAbove (k + 1)) := by
  have hsum : (0 : UInt32).toNat + Panel.rowCount figure.panels < UInt32.size := by
    rwa [UInt32.toNat_zero, Nat.zero_add]
  rw [Panel.getElem?_runningRows hsum hk, UInt32.toNat_zero, Nat.zero_add, rowsAbove]

theorem getElem?_rowBreakpoints (hk : k < figure.panels.length - 1) :
    ((figure.rowBreakpoints height)[k]?).map UInt32.toNat =
      some (figure.rowCut height (k + 1)) := by
  obtain ⟨row, hrow, hrows⟩ := Option.map_eq_some_iff.1
    (figure.getElem?_runningRows h (show k < figure.panels.length by omega))
  have hle : row ≤ figure.rows := by
    rw [UInt32.le_iff_toNat_le, hrows, toNat_rows h]
    exact figure.rowsAbove_le (k + 1)
  rw [rowBreakpoints, List.getElem?_map, List.getElem?_dropLast, Panel.length_runningRows,
    if_pos hk, hrow, Option.map_some, Option.map_some, toNat_rowStart hle, hrows, toNat_rows h,
    rowCut]

theorem cuts_eq (hpanels : figure.panels ≠ []) :
    figure.cuts height =
      (List.range figure.panels.length).map (figure.rowCut height) ++ [height.toNat] := by
  have hbreakpoints : (figure.rowBreakpoints height).map UInt32.toNat =
      (List.range (figure.panels.length - 1)).map fun k => figure.rowCut height (k + 1) := by
    apply List.ext_getElem?
    intro k
    rw [List.getElem?_map, List.getElem?_map]
    by_cases hk : k < figure.panels.length - 1
    · rw [getElem?_rowBreakpoints h hk, List.getElem?_range hk, Option.map_some]
    · rw [List.getElem?_eq_none (by rw [length_rowBreakpoints]; omega),
        List.getElem?_eq_none (by rw [List.length_range]; omega)]
      rfl
  obtain ⟨n, hn⟩ := Nat.exists_eq_succ_of_ne_zero (List.length_pos_iff.2 hpanels).ne'
  rw [cuts, hbreakpoints, hn, List.range_succ_eq_map, List.map_cons, rowCut_zero, List.map_map]
  rfl

theorem pairwise_cuts : (figure.cuts height).Pairwise (· ≤ ·) := by
  by_cases hpanels : figure.panels = []
  · have hnone : figure.rowBreakpoints height = [] := by
      rw [rowBreakpoints, hpanels]
      rfl
    rw [cuts, hnone]
    simp
  · rw [cuts_eq h hpanels, List.pairwise_append]
    refine ⟨?_, List.pairwise_singleton _ _, ?_⟩
    · rw [List.pairwise_map]
      exact List.pairwise_lt_range.imp fun hlt => figure.rowCut_mono height (Nat.le_of_lt hlt)
    · intro cut hcut last hlast
      obtain ⟨k, -, rfl⟩ := List.mem_map.1 hcut
      rw [List.mem_singleton.1 hlast]
      exact figure.rowCut_le height k

theorem length_panelHeights (hpanels : figure.panels ≠ []) :
    (figure.panelHeights height).length = figure.panels.length := by
  rw [panelHeights, length_gaps, cuts_eq h hpanels, List.length_append, List.length_map,
    List.length_range, List.length_singleton, Nat.add_sub_cancel]

theorem getElem?_cuts (hpos : 0 < figure.rowCount) (hk : k ≤ figure.panels.length) :
    (figure.cuts height)[k]? = some (figure.rowCut height k) := by
  have hpanels : figure.panels ≠ [] := by
    intro hnil
    rw [rowCount, hnil] at hpos
    exact absurd hpos (Nat.lt_irrefl 0)
  rw [cuts_eq h hpanels]
  rcases Nat.lt_or_eq_of_le hk with hlt | rfl
  · rw [List.getElem?_append_left (by simpa using hlt), List.getElem?_map, List.getElem?_range hlt,
      Option.map_some]
  · rw [List.getElem?_append_right (by simp), List.length_map, List.length_range, Nat.sub_self,
      List.getElem?_cons_zero, rowCut_length hpos]

/-- A panel reaches from the cut above it to the cut below it, and both are rounded down. -/
theorem abs_panelHeight_sub_lt (hpos : 0 < figure.rowCount) {panel : Panel} {part : Nat}
    (hmem : (panel, part) ∈ figure.panels.zip (figure.panelHeights height)) :
    |(part : ℚ) - (height.toNat * panel.rows.toNat : Nat) / figure.rowCount| < 1 := by
  obtain ⟨k, hk⟩ := List.mem_iff_getElem?.1 hmem
  obtain ⟨hpanel, hpart⟩ := List.getElem?_zip_eq_some.1 hk
  obtain ⟨hlt, -⟩ := List.getElem?_eq_some_iff.1 hpanel
  have habove : (figure.cuts height)[k]? = _ := getElem?_cuts h hpos (Nat.le_of_lt hlt)
  rw [panelHeights, getElem?_gaps habove (getElem?_cuts h hpos hlt), Option.some.injEq] at hpart
  dsimp only at hpanel hpart
  rw [← hpart, rowCut, rowCut, rowsAbove_succ hpanel, Nat.max_eq_left hpos, Nat.mul_add]
  exact abs_div_sub_div_sub_lt _ _ hpos

/-- A share of at least one pixel is not cut down to nothing. -/
theorem panelHeight_pos (hroom : figure.rowCount ≤ height.toNat) {panel : Panel} {part : Nat}
    (hmem : (panel, part) ∈ figure.panels.zip (figure.panelHeights height))
    (hrows : 0 < panel.rows) : 0 < part := by
  have hpanel : 1 ≤ panel.rows.toNat := UInt32.lt_iff_toNat_lt.1 hrows
  have hpos : 0 < figure.rowCount := by
    obtain ⟨k, hk⟩ := List.mem_iff_getElem?.1 (List.of_mem_zip hmem).1
    have hle := figure.rowsAbove_le (k + 1)
    rw [rowsAbove_succ hk] at hle
    omega
  have hcount : (0 : ℚ) < figure.rowCount := by exact_mod_cast hpos
  have hshare : (1 : ℚ) ≤ (height.toNat * panel.rows.toNat : Nat) / figure.rowCount := by
    rw [le_div_iff₀ hcount, one_mul]
    exact_mod_cast Nat.le_trans hroom (Nat.le_mul_of_pos_right _ hpanel)
  have hnear := (abs_lt.1 (abs_panelHeight_sub_lt h hpos hmem)).1
  have hpart : (0 : ℚ) < part := by linarith
  exact_mod_cast hpart

/-- A height is shared among any panels in proportion to their rows, as nearly as whole pixels can
be, and nothing wraps on the way. -/
theorem rowBreakpoints_shares (height : UInt32) :
    figure.rows.toNat = figure.rowCount ∧
      (figure.rowBreakpoints height).length = figure.panels.length - 1 ∧
      (∀ k < figure.panels.length - 1,
        ((Panel.runningRows 0 figure.panels)[k]?).map UInt32.toNat =
            some (figure.rowsAbove (k + 1)) ∧
          height.toNat * figure.rowsAbove (k + 1) < UInt64.size ∧
          height.toNat * figure.rowsAbove (k + 1) / max figure.rowCount 1 < UInt32.size ∧
          ((figure.rowBreakpoints height)[k]?).map UInt32.toNat =
            some (height.toNat * figure.rowsAbove (k + 1) / max figure.rowCount 1)) ∧
      (figure.cuts height).Pairwise (· ≤ ·) ∧
      (figure.panelHeights height).sum = height.toNat ∧
      (figure.panels ≠ [] → (figure.panelHeights height).length = figure.panels.length) ∧
      (0 < figure.rowCount →
        ∀ panel part, (panel, part) ∈ figure.panels.zip (figure.panelHeights height) →
          |(part : ℚ) - (height.toNat * panel.rows.toNat : Nat) / figure.rowCount| < 1) ∧
      (figure.rowCount ≤ height.toNat → (∀ panel ∈ figure.panels, 0 < panel.rows) →
        ∀ panel part, (panel, part) ∈ figure.panels.zip (figure.panelHeights height) →
          0 < part) := by
  refine ⟨toNat_rows h, length_rowBreakpoints figure height, ?_, pairwise_cuts h, ?_,
    length_panelHeights h, ?_, ?_⟩
  · intro k hk
    exact ⟨getElem?_runningRows h (by omega),
      mul_rows_lt height.toNat_lt (Nat.lt_of_le_of_lt (figure.rowsAbove_le (k + 1)) h),
      Nat.lt_of_le_of_lt (figure.rowCut_le height (k + 1)) height.toNat_lt,
      getElem?_rowBreakpoints h hk⟩
  · have hcuts : (figure.cuts height).Pairwise (· ≤ ·) := pairwise_cuts h
    have hsum := sum_gaps hcuts
    rwa [Nat.zero_add] at hsum
  · intro hpos panel part hmem
    exact abs_panelHeight_sub_lt h hpos hmem
  · intro hroom hrows panel part hmem
    exact panelHeight_pos h hroom hmem (hrows panel (List.of_mem_zip hmem).1)

end Exact

/-- Rows almost as many as a word can count, in a height that is as large as a word can be. -/
theorem rowBreakpoints_shares_of_large :
    let panel (rows : UInt32) : Panel := { Panel.plain "" [] none with rows := rows }
    let figure : Figure := ⟨[], Range.unit, [panel 4294967290, panel 1, panel 3]⟩
    let height : UInt32 := 4294967295
    figure.rowCount < UInt32.size ∧ 0 < figure.rowCount ∧ figure.rowCount ≤ height.toNat ∧
      (∀ panel ∈ figure.panels, 0 < panel.rows) ∧
      figure.rowBreakpoints height = [4294967290, 4294967291] ∧
      figure.panelHeights height = [4294967290, 1, 4] ∧
      height.toNat * figure.rowsAbove 2 < UInt64.size ∧
      |(4 : ℚ) - (4294967295 * 3 : Nat) / 4294967294| < 1 ∧
      ∀ panel part, (panel, part) ∈ figure.panels.zip (figure.panelHeights height) → 0 < part := by
  intro panel figure height
  have hcount : figure.rowCount < UInt32.size := by decide
  have hpos : 0 < figure.rowCount := by decide
  have hroom : figure.rowCount ≤ height.toNat := by decide
  have hrows : ∀ panel ∈ figure.panels, 0 < panel.rows := by
    simp only [figure, panel, List.mem_cons, List.not_mem_nil, or_false]
    rintro panel (rfl | rfl | rfl) <;> decide
  obtain ⟨-, -, hbreakpoints, -, -, hlength, hshare, hparts⟩ :=
    rowBreakpoints_shares hcount height
  have hheights : figure.panelHeights height = [4294967290, 1, 4] := by decide +kernel
  refine ⟨hcount, hpos, hroom, hrows, by decide +kernel, hheights,
    (hbreakpoints 1 (by decide)).2.1, ?_, hparts hroom hrows⟩
  have hlast := hshare hpos (panel 3) 4 (by rw [hheights]; decide +kernel)
  exact_mod_cast hlast

end Figure

end BenchChart
