import BenchChart.Proofs.Decimal.Written
import BenchChart.Proofs.Series
import BenchChart.Proofs.Text.Split
import BenchChart.Proofs.Text.Utf8
import BenchChart.Progress.Line
import BenchChart.Table
import BenchChart.Text.Lines

/-!
# Reading a table

A table has lost nothing of its series: its cells read back as the numbers of the series, bit for
bit, so no two series have the same table.
-/

namespace BenchChart

theorem Series.totalRates_ofSamples (samples : List Sample) :
    (ofSamples samples).totalRates = samples.map Sample.totalRate := by
  rw [ofSamples_eq, totalRates, Rate.total, List.zipWith_map, List.zipWith_self]
  rfl

namespace Table

def cells (s : Sample) : List (List Char) :=
  [style.write s.time, Decimal.digitChars s.requests.toNat, style.write s.missRatio,
    style.write s.loadAdmit, style.write s.cacheRate, style.write s.coreRate,
    style.write s.totalRate]

def ofSamples (samples : List Sample) : List Char :=
  line (columns.map String.toList) ++ samples.flatMap fun s => line (cells s)

theorem ofSamples_nil : ofSamples [] = line (columns.map String.toList) := List.append_nil _

theorem ofSamples_append (samples more : List Sample) :
    ofSamples (samples ++ more) = ofSamples samples ++ more.flatMap fun s => line (cells s) := by
  rw [ofSamples, List.flatMap_append, ← List.append_assoc]
  rfl

/-- Columns of equal length are put together sample by sample. -/
theorem columnCells_ofSamples (samples : List Sample) :
    columnCells (.ofSamples samples) = samples.map cells := by
  rw [columnCells, Series.totalRates_ofSamples, Series.ofSamples_eq]
  simp only [List.map_map, List.zipWith_map, List.zipWith_self]
  rfl

theorem ofSeries_ofSamples (samples : List Sample) :
    ofSeries (.ofSamples samples) = ofSamples samples := by
  rw [ofSeries, columnCells_ofSamples, List.flatMap_map, ofSamples]

theorem ofSeries_of_aligned {series : Series} (h : series.Aligned) :
    ofSeries series = ofSamples series.samples := by
  rw [← ofSeries_ofSamples, h.ofSamples_samples]

def row (cells : List (List Char)) : List Char := ['\t'].intercalate cells

theorem line_eq (cells : List (List Char)) : line cells = row cells ++ ['\n'] := rfl

theorem row_cons_cons (cell next : List Char) (rest : List (List Char)) :
    row (cell :: next :: rest) = cell ++ '\t' :: row (next :: rest) := by
  simp [row]

theorem split_row {cells : List (List Char)} (hne : cells ≠ []) (h : ∀ cell ∈ cells, '\t' ∉ cell) :
    Text.split '\t' (row cells) = cells := by
  induction cells with
  | nil => exact absurd rfl hne
  | cons cell rest ih =>
      have hcell : Text.split '\t' cell = [cell] :=
        Text.split_of_not_mem (h cell List.mem_cons_self)
      cases rest with
      | nil => simpa [row] using hcell
      | cons next rest =>
          rw [row_cons_cons, Text.split_append, hcell,
            ih (List.cons_ne_nil _ _) fun cell hmem => h cell (List.mem_cons_of_mem _ hmem)]
          rfl

theorem newline_not_mem_row {cells : List (List Char)} (h : ∀ cell ∈ cells, '\n' ∉ cell) :
    '\n' ∉ row cells := by
  induction cells with
  | nil => simp [row]
  | cons cell rest ih =>
      have hcell := h cell List.mem_cons_self
      have hrest := ih fun cell hmem => h cell (List.mem_cons_of_mem _ hmem)
      cases rest with
      | nil => simpa [row] using hcell
      | cons next rest => simp [row_cons_cons, hcell, hrest]

theorem segments_line_append {cells : List (List Char)} (h : ∀ cell ∈ cells, '\n' ∉ cell)
    (text : List Char) : Text.segments (line cells ++ text) = row cells :: Text.segments text := by
  rw [line_eq, List.append_assoc, List.singleton_append, Text.segments, Text.split_append,
    Text.split_of_not_mem (newline_not_mem_row h)]
  rfl

section Cells

theorem real?_write (x : Binary64) : Numeral.real? (style.write x) = some x :=
  Style.IsPointed.real?_write ⟨rfl, rfl⟩ x

theorem requests?_digitChars (n : UInt64) :
    Progress.requests? (Decimal.digitChars n.toNat) = some n := by
  have hcount : Numeral.count? UInt64.size (Decimal.digitChars n.toNat) = some n.toNat := by
    have hdigits := (Numeral.Digits.ofNat n.toNat).count?_chars UInt64.size
    rwa [Numeral.Digits.value_ofNat, if_pos n.toNat_lt] at hdigits
  rw [Progress.requests?, hcount, Option.map_some, Nat.toUInt64, UInt64.ofNat_toNat]

theorem isPart_of_mem_cells {sample : Sample} {cell : List Char} (h : cell ∈ cells sample) :
    ∀ c ∈ cell, Numeral.isPart c = true := by
  have hreal : ∀ x : Binary64, ∀ c ∈ style.write x, Numeral.isPart c = true := fun x =>
    Numeral.isPart_of_real? (by rw [real?_write, Option.isSome_some])
  simp only [cells, List.mem_cons, List.not_mem_nil, or_false] at h
  rcases h with rfl | rfl | rfl | rfl | rfl | rfl | rfl
  · exact hreal _
  · exact (Numeral.Digits.ofNat sample.requests.toNat).isPart
  all_goals exact hreal _

theorem split_row_cells (sample : Sample) : Text.split '\t' (row (cells sample)) = cells sample :=
  split_row (List.cons_ne_nil _ _) fun _ hcell =>
    Numeral.not_mem_of_isPart (isPart_of_mem_cells hcell) (by decide)

/-- What a sample's cells are read as determines the sample. -/
theorem cells_inj {sample other : Sample} (h : cells sample = cells other) : sample = other := by
  obtain ⟨time, requests, missRatio, loadAdmit, cacheRate, coreRate⟩ := sample
  obtain ⟨time', requests', missRatio', loadAdmit', cacheRate', coreRate'⟩ := other
  have hreal : ∀ x y : Binary64, style.write x = style.write y → x = y := by
    intro x y hxy
    have hread := congrArg Numeral.real? hxy
    rwa [real?_write, real?_write, Option.some.injEq] at hread
  have hcount : ∀ m n : UInt64,
      Decimal.digitChars m.toNat = Decimal.digitChars n.toNat → m = n := by
    intro m n hmn
    have hread := congrArg Progress.requests? hmn
    rwa [requests?_digitChars, requests?_digitChars, Option.some.injEq] at hread
  simp only [cells, List.cons.injEq, and_true] at h
  obtain ⟨htime, hrequests, hmiss, hload, hcache, hcore, -⟩ := h
  rw [hreal _ _ htime, hcount _ _ hrequests, hreal _ _ hmiss, hreal _ _ hload, hreal _ _ hcache,
    hreal _ _ hcore]

end Cells

def header : List Char := row (columns.map String.toList)

theorem segments_ofSamples (samples : List Sample) :
    Text.segments (ofSamples samples) =
      header :: samples.map (fun sample => row (cells sample)) ++ [[]] := by
  have hrows : Text.segments (samples.flatMap fun s => line (cells s)) =
      samples.map (fun sample => row (cells sample)) ++ [[]] := by
    induction samples with
    | nil => rfl
    | cons sample rest ih =>
        rw [List.flatMap_cons, segments_line_append, ih]
        · rfl
        · exact fun cell hcell => Numeral.not_mem_of_isPart (isPart_of_mem_cells hcell) (by decide)
  rw [ofSamples, segments_line_append (by decide), hrows]
  rfl

theorem getLast?_ofSamples (samples : List Sample) : (ofSamples samples).getLast? = some '\n' := by
  rcases samples.eq_nil_or_concat with rfl | ⟨front, last, rfl⟩
  · rw [ofSamples_nil, line_eq, List.getLast?_concat]
  · rw [List.concat_eq_append, ofSamples_append, List.flatMap_singleton, line_eq,
      ← List.append_assoc, List.getLast?_concat]

theorem ofSamples_inj {samples others : List Sample} (h : ofSamples samples = ofSamples others) :
    samples = others := by
  have hsegments := congrArg Text.segments h
  rw [segments_ofSamples, segments_ofSamples] at hsegments
  have hrows := List.append_cancel_right (List.cons.inj hsegments).2
  apply List.map_injective_iff.2 _ hrows
  intro sample other hrow
  have hcells := congrArg (Text.split '\t') hrow
  rw [split_row_cells, split_row_cells] at hcells
  exact cells_inj hcells

/-- Seven cells that are read as what a series holds at a place: the numbers in its columns and the
sum of the two throughputs. -/
def ReadsAs (series : Series) (i : Nat) : List (List Char) → Prop
  | [time, requests, missRatio, loadAdmit, cacheRate, coreRate, totalRate] =>
    Numeral.real? time = series.times[i]? ∧
      Progress.requests? requests = series.requests[i]? ∧
      Numeral.real? missRatio = series.missRatios[i]? ∧
      Numeral.real? loadAdmit = series.loadAdmits[i]? ∧
      Numeral.real? cacheRate = series.cacheRates[i]? ∧
      Numeral.real? coreRate = series.coreRates[i]? ∧
      Numeral.real? totalRate = do return (← series.cacheRates[i]?) + (← series.coreRates[i]?)
  | _ => False

theorem readsAs_cells {series : Series} {i : Nat} {sample : Sample}
    (h : series.sample? i = some sample) : ReadsAs series i (cells sample) := by
  obtain ⟨htime, hrequests, hmiss, hload, hcache, hcore⟩ := Series.sample?_eq_some_iff.1 h
  rw [cells, ReadsAs, htime, hrequests, hmiss, hload, hcache, hcore]
  exact ⟨real?_write _, requests?_digitChars _, real?_write _, real?_write _, real?_write _,
    real?_write _, real?_write _⟩

/-- A table is the header and a line for each sample, and every line reads back. Different series
never have the same table. -/
theorem ofSeries_readBack {series : Series} (h : series.Aligned) :
    (ofSeries series).getLast? = some '\n' ∧
      (∃ rows : List (List Char),
        Text.segments (ofSeries series) = header :: rows ++ [[]] ∧
        rows.length = series.size ∧
        Text.split '\t' header = columns.map String.toList ∧ columns.length = 7 ∧
        ∀ i text, rows[i]? = some text → ReadsAs series i (Text.split '\t' text)) ∧
      ∀ other : Series, other.Aligned →
        (Text.encode (ofSeries other) = Text.encode (ofSeries series) ↔ other = series) := by
  rw [ofSeries_of_aligned h]
  refine ⟨getLast?_ofSamples _, ?_, ?_⟩
  · refine ⟨series.samples.map fun sample => row (cells sample), segments_ofSamples _, ?_,
      split_row (by decide) (by decide), rfl, ?_⟩
    · rw [List.length_map, h.length_samples]
    · intro i text htext
      rw [List.getElem?_map, Option.map_eq_some_iff] at htext
      obtain ⟨sample, hsample, rfl⟩ := htext
      have hi : i < series.size := by
        rw [← h.length_samples]
        exact (List.getElem?_eq_some_iff.1 hsample).1
      rw [h.getElem?_samples hi] at hsample
      rw [split_row_cells]
      exact readsAs_cells hsample
  · intro other hother
    rw [Text.encode_inj, ofSeries_of_aligned hother]
    constructor
    · intro heq
      have hsamples := ofSamples_inj heq
      rw [← h.ofSamples_samples, ← hsamples, hother.ofSamples_samples]
    · rintro rfl
      rfl

/-- The sign of a zero and the last digit of a subnormal are in the table. -/
theorem ofSeries_readBack_of_extremes :
    let least := Binary64.ofUnits false 1 1
    let largest := Binary64.ofUnits true (Binary64.limit - Binary64.twoPow 2045) 1
    let sample : Sample :=
      ⟨Binary64.zero true, 18446744073709551615, least, .nan, largest, .infinite false⟩
    let series := Series.ofSamples [sample, { sample with missRatio := largest }]
    series.Aligned ∧
      (∃ rows : List (List Char), Text.segments (ofSeries series) = header :: rows ++ [[]] ∧
        rows.length = 2 ∧ ∀ text, rows[0]? = some text →
          ReadsAs series 0 (Text.split '\t' text)) ∧
      ∀ other : Sample, other = { sample with time := Binary64.zero false } ∨
          other = { sample with missRatio := Binary64.ofUnits false 2 1 } →
        ofSeries (Series.ofSamples [other, { sample with missRatio := largest }]) ≠
          ofSeries series := by
  intro least largest sample series
  have haligned : series.Aligned := Series.aligned_ofSamples _
  obtain ⟨-, ⟨rows, hsegments, hlength, -, -, hrows⟩, hinj⟩ := ofSeries_readBack haligned
  refine ⟨haligned, ⟨rows, hsegments, ?_, hrows 0⟩, ?_⟩
  · rw [hlength, Series.size_ofSamples]
    rfl
  · intro other hother heq
    have hseries := (hinj _ (Series.aligned_ofSamples _)).1 (congrArg Text.encode heq)
    have hsamples := congrArg Series.samples hseries
    rw [Series.samples_ofSamples, Series.samples_ofSamples] at hsamples
    have hsame : other = sample := (List.cons.inj hsamples).1
    rcases hother with hother | hother
    · have htime : other.time = Binary64.zero false := by rw [hother]
      rw [hsame] at htime
      cases htime
    · have hmiss : other.missRatio = Binary64.ofUnits false 2 1 := by rw [hother]
      have hleast : other.missRatio = least := by rw [hsame]
      rw [hleast] at hmiss
      revert hmiss
      decide +kernel

end Table

end BenchChart
