import BenchChart.Text.Offset

/-!
# What a slice of a text is

Counting bytes splits a text in two or not at all, so that a slice is a piece of the text that
stands together. Between the ends of two texts that the whole starts with, a slice is what the
longer one has more; it is empty if the text that should be longer is not.
-/

namespace BenchChart

namespace Text

theorem append_of_dropBytes? {n : Nat} {cs back : List Char} (h : dropBytes? n cs = some back) :
    ∃ front, byteLength front = n ∧ front ++ back = cs := by
  fun_induction dropBytes? n cs with
  | case1 cs => exact ⟨[], rfl, (Option.some.inj h).symm⟩
  | case2 => cases h
  | case3 n c cs hle ih =>
      obtain ⟨front, hlength, rfl⟩ := ih h
      refine ⟨c :: front, ?_, rfl⟩
      rw [byteLength_cons, hlength, Nat.add_sub_cancel' hle]
  | case4 => cases h

theorem append_of_takeBytes? {n : Nat} {cs front : List Char} (h : takeBytes? n cs = some front) :
    byteLength front = n ∧ ∃ back, front ++ back = cs := by
  fun_induction takeBytes? n cs generalizing front with
  | case1 cs =>
      cases h
      exact ⟨rfl, cs, rfl⟩
  | case2 => cases h
  | case3 n c cs hle ih =>
      obtain ⟨rest, hrest, rfl⟩ := Option.map_eq_some_iff.1 h
      obtain ⟨hlength, back, rfl⟩ := ih hrest
      refine ⟨?_, back, rfl⟩
      rw [byteLength_cons, hlength, Nat.add_sub_cancel' hle]
  | case4 => cases h

/-- A slice stands together in the text that it is taken from. -/
theorem slice_infix (cs : List Char) (start stop : Int) : slice cs start stop <:+: cs := by
  rw [slice]
  split
  · cases hdrop : dropBytes? (clampOffset (byteLength cs) start) cs with
    | none => exact List.nil_infix
    | some back =>
        obtain ⟨before, _, rfl⟩ := append_of_dropBytes? hdrop
        rw [Option.bind_some]
        cases htake : takeBytes? _ back with
        | none => exact List.nil_infix
        | some piece =>
            obtain ⟨_, after, rfl⟩ := append_of_takeBytes? htake
            exact ⟨before, after, List.append_assoc ..⟩
  · exact List.nil_infix

theorem dropBytes?_append (front back : List Char) :
    dropBytes? (byteLength front) (front ++ back) = some back := by
  induction front with
  | nil => simp [dropBytes?]
  | cons c front ih =>
      obtain ⟨n, hn⟩ := Nat.exists_eq_succ_of_ne_zero (Nat.ne_of_gt (Char.utf8Size_pos c))
      have hlength : byteLength (c :: front) = n + byteLength front + 1 := by
        rw [byteLength_cons, hn]
        omega
      have hrest : n + byteLength front + 1 - c.utf8Size = byteLength front := by omega
      rw [hlength, List.cons_append, dropBytes?, if_pos (by omega), hrest, ih]

theorem takeBytes?_append (front back : List Char) :
    takeBytes? (byteLength front) (front ++ back) = some front := by
  induction front with
  | nil => simp [takeBytes?]
  | cons c front ih =>
      obtain ⟨n, hn⟩ := Nat.exists_eq_succ_of_ne_zero (Nat.ne_of_gt (Char.utf8Size_pos c))
      have hlength : byteLength (c :: front) = n + byteLength front + 1 := by
        rw [byteLength_cons, hn]
        omega
      have hrest : n + byteLength front + 1 - c.utf8Size = byteLength front := by omega
      rw [hlength, List.cons_append, takeBytes?, if_pos (by omega), hrest, ih, Option.map_some]

theorem clampOffset_natCast {length n : Nat} (h : n ≤ length) : clampOffset length n = n := by
  rw [clampOffset, if_neg (by omega), Int.toNat_natCast, Nat.min_eq_left h]

theorem byteLength_le_of_isPrefix {front cs : List Char} (h : front <+: cs) :
    byteLength front ≤ byteLength cs := by
  obtain ⟨back, rfl⟩ := h
  rw [byteLength_append]
  exact Nat.le_add_right ..

theorem byteLength_eq_zero_iff {cs : List Char} : byteLength cs = 0 ↔ cs = [] := by
  cases cs with
  | nil => simp
  | cons c cs => simp [Nat.ne_of_gt (Char.utf8Size_pos c)]

/-- The piece of a text between two others. -/
theorem slice_of_isPrefix {front piece cs : List Char} (h : front ++ piece <+: cs) :
    slice cs (byteLength front) (byteLength (front ++ piece)) = piece := by
  have hpiece : byteLength (front ++ piece) ≤ byteLength cs := byteLength_le_of_isPrefix h
  have hfront : byteLength front ≤ byteLength (front ++ piece) :=
    byteLength_le_of_isPrefix (List.prefix_append ..)
  obtain ⟨back, rfl⟩ := h
  rw [slice, clampOffset_natCast (Nat.le_trans hfront hpiece), clampOffset_natCast hpiece,
    byteLength_append front piece, Nat.add_sub_cancel_left, List.append_assoc, dropBytes?_append,
    Option.bind_some, takeBytes?_append, Option.getD_some]
  by_cases hne : piece = []
  · simp [hne]
  · rw [if_pos (Nat.lt_add_of_pos_right (Nat.pos_of_ne_zero (mt byteLength_eq_zero_iff.1 hne)))]

theorem slice_eq_nil {cs : List Char} {start stop : Nat} (hstart : start ≤ byteLength cs)
    (h : stop ≤ start) : slice cs start stop = [] := by
  rw [slice, clampOffset_natCast hstart, clampOffset_natCast (Nat.le_trans h hstart),
    if_neg (by omega)]

theorem byteLength_slice {front longer cs : List Char} (hfront : front <+: cs)
    (hlonger : longer <+: cs) :
    byteLength (slice cs (byteLength front) (byteLength longer)) =
      byteLength longer - byteLength front := by
  rcases List.prefix_or_prefix_of_prefix hfront hlonger with ⟨piece, rfl⟩ | hle
  · rw [slice_of_isPrefix hlonger, byteLength_append, Nat.add_sub_cancel_left]
  · have hlength := byteLength_le_of_isPrefix hle
    rw [slice_eq_nil (byteLength_le_of_isPrefix hfront) hlength, Nat.sub_eq_zero_of_le hlength,
      byteLength_nil]

end Text

end BenchChart
