import BenchChart.Proofs.Text.Search

/-!
# Pieces of a text around literals

`pieces? lits cs` cuts a text at the first occurrence of each literal after the one before it.
`Woven lits pieces cs` says that `cs` is the pieces with the literals between them, wherever in the
text these stand; `CutInTurn` asks in addition that each literal stands where it first occurs. The
cut in turn misses no split, and among all of them it is the one whose first piece is shortest, then
whose second piece is shortest, and so on.
-/

namespace BenchChart

namespace Text

/-- The pieces of a text around literals, each of which is taken where it first occurs. -/
def pieces? : List (List Char) → List Char → Option (List (List Char))
  | [], cs => some [cs]
  | lit :: lits, cs =>
    (cut lit cs).bind fun (piece, rest) => (pieces? lits rest).map (piece :: ·)

/-- The text is the pieces with the literals between them. -/
inductive Woven : List (List Char) → List (List Char) → List Char → Prop where
  | last (cs : List Char) : Woven [] [cs] cs
  | cons (piece lit : List Char) {lits pieces : List (List Char)} {rest : List Char}
      (later : Woven lits pieces rest) :
      Woven (lit :: lits) (piece :: pieces) (piece ++ lit ++ rest)

/-- The text is the pieces with the literals between them, and each literal stands where it first
occurs after the one before it. -/
inductive CutInTurn : List (List Char) → List (List Char) → List Char → Prop where
  | last (cs : List Char) : CutInTurn [] [cs] cs
  | cons {piece lit : List Char} {lits pieces : List (List Char)} {rest : List Char}
      (first : ∀ before after, piece ++ lit ++ rest = before ++ lit ++ after →
        piece.length ≤ before.length)
      (later : CutInTurn lits pieces rest) :
      CutInTurn (lit :: lits) (piece :: pieces) (piece ++ lit ++ rest)

@[simp] theorem pieces?_nil (cs : List Char) : pieces? [] cs = some [cs] := rfl

theorem pieces?_cons (lit : List Char) (lits : List (List Char)) (cs : List Char) :
    pieces? (lit :: lits) cs =
      (cut lit cs).bind fun (piece, rest) => (pieces? lits rest).map (piece :: ·) := rfl

theorem pieces?_of_cut {lit cs piece rest : List Char} (h : cut lit cs = some (piece, rest))
    (lits : List (List Char)) :
    pieces? (lit :: lits) cs = (pieces? lits rest).map (piece :: ·) := by
  rw [pieces?_cons, h, Option.bind_some]

theorem Woven.ne_nil {lits pieces : List (List Char)} {cs : List Char}
    (h : Woven lits pieces cs) : pieces ≠ [] := by
  cases h <;> simp

theorem Woven.length_eq {lits pieces : List (List Char)} {cs : List Char}
    (h : Woven lits pieces cs) : pieces.length = lits.length + 1 := by
  induction h with
  | last cs => rfl
  | cons piece lit later ih => simp [ih]

theorem Woven.occurs_of_mem {lits pieces : List (List Char)} {cs lit : List Char}
    (h : Woven lits pieces cs) (hm : lit ∈ lits) : lit <:+: cs := by
  induction h with
  | last cs => cases hm
  | cons piece head later ih =>
      rcases List.mem_cons.1 hm with rfl | hm
      · exact ⟨piece, _, rfl⟩
      · exact (ih hm).trans (List.suffix_append _ _).isInfix

/-- A character of the text is in a piece or in a literal. -/
theorem Woven.exists_of_mem {lits pieces : List (List Char)} {cs : List Char}
    (h : Woven lits pieces cs) {c : Char} (hc : c ∈ cs) :
    (∃ piece ∈ pieces, c ∈ piece) ∨ ∃ lit ∈ lits, c ∈ lit := by
  induction h with
  | last cs => exact .inl ⟨cs, List.mem_cons_self, hc⟩
  | cons piece lit later ih =>
      rcases List.mem_append.1 hc with hc | hc
      · rcases List.mem_append.1 hc with hc | hc
        · exact .inl ⟨piece, List.mem_cons_self, hc⟩
        · exact .inr ⟨lit, List.mem_cons_self, hc⟩
      · rcases ih hc with ⟨found, hmem, hfound⟩ | ⟨found, hmem, hfound⟩
        · exact .inl ⟨found, List.mem_cons_of_mem _ hmem, hfound⟩
        · exact .inr ⟨found, List.mem_cons_of_mem _ hmem, hfound⟩

/-- The pieces and the literals tell the text. -/
theorem Woven.text_eq {lits pieces : List (List Char)} {cs ds : List Char}
    (hc : Woven lits pieces cs) (hd : Woven lits pieces ds) : cs = ds := by
  induction hc generalizing ds with
  | last cs => cases hd with | last => rfl
  | cons piece lit later ih => cases hd with | cons _ _ later' => rw [ih later']

theorem woven_of_pieces? {lits pieces : List (List Char)} {cs : List Char}
    (h : pieces? lits cs = some pieces) : Woven lits pieces cs := by
  induction lits generalizing cs pieces with
  | nil =>
      cases h
      exact .last cs
  | cons lit lits ih =>
      rw [pieces?_cons, Option.bind_eq_some_iff] at h
      obtain ⟨⟨piece, rest⟩, hc, hp⟩ := h
      obtain ⟨later, hl, rfl⟩ := Option.map_eq_some_iff.1 hp
      rw [eq_of_cut hc]
      exact .cons piece lit (ih hl)

/-- A split of the end of a text is found in the whole text: more text in front only makes the
first piece longer. -/
theorem exists_pieces?_of_suffix {lits pieces : List (List Char)} {cs ds : List Char}
    (h : Woven lits pieces cs) (hs : cs <:+ ds) : ∃ found, pieces? lits ds = some found := by
  induction h generalizing ds with
  | last cs => exact ⟨[ds], rfl⟩
  | @cons piece lit lits pieces rest later ih =>
      obtain ⟨front, rfl⟩ := hs
      have heq : front ++ (piece ++ lit ++ rest) = (front ++ piece) ++ lit ++ rest := by simp
      obtain ⟨before, after, hc, -⟩ := exists_cut_of_eq _ _ _ heq
      obtain ⟨found, hf⟩ := ih (suffix_of_cut hc heq)
      exact ⟨before :: found, by rw [pieces?_of_cut hc, hf]; rfl⟩

theorem pieces?_eq_some_iff {lits pieces : List (List Char)} {cs : List Char} :
    pieces? lits cs = some pieces ↔ CutInTurn lits pieces cs := by
  constructor
  · intro h
    induction lits generalizing cs pieces with
    | nil =>
        cases h
        exact .last cs
    | cons lit lits ih =>
        rw [pieces?_cons, Option.bind_eq_some_iff] at h
        obtain ⟨⟨piece, rest⟩, hc, hp⟩ := h
        obtain ⟨later, hl, rfl⟩ := Option.map_eq_some_iff.1 hp
        obtain ⟨rfl, hfirst⟩ := cut_eq_some_iff.1 hc
        exact .cons hfirst (ih hl)
  · intro h
    induction h with
    | last cs => rfl
    | cons first later ih => rw [pieces?_of_cut (cut_eq_some_iff.2 ⟨rfl, first⟩), ih]; rfl

theorem exists_pieces?_iff {lits : List (List Char)} {cs : List Char} :
    (∃ pieces, pieces? lits cs = some pieces) ↔ ∃ pieces, Woven lits pieces cs := by
  constructor
  · rintro ⟨pieces, h⟩
    exact ⟨pieces, woven_of_pieces? h⟩
  · rintro ⟨_, h⟩
    exact exists_pieces?_of_suffix h List.suffix_rfl

/-- Any other split of the text has a longer piece where it first differs. -/
theorem eq_or_lex_of_pieces? {lits pieces others : List (List Char)} {cs : List Char}
    (h : pieces? lits cs = some pieces) (ho : Woven lits others cs) :
    others = pieces ∨
      List.Lex (· < ·) (pieces.dropLast.map List.length) (others.dropLast.map List.length) := by
  induction ho generalizing pieces with
  | last cs =>
      cases h
      exact .inl rfl
  | @cons other lit lits others rest later ih =>
      rw [pieces?_cons, Option.bind_eq_some_iff] at h
      obtain ⟨⟨piece, after⟩, hc, hp⟩ := h
      obtain ⟨found, hf, rfl⟩ := Option.map_eq_some_iff.1 hp
      have hle := length_le_of_cut hc rfl
      rw [List.dropLast_cons_of_ne_nil (woven_of_pieces? hf).ne_nil,
        List.dropLast_cons_of_ne_nil later.ne_nil, List.map_cons, List.map_cons]
      -- The literal is found where the other split has it, or earlier; if earlier, that decides.
      rcases Nat.lt_or_eq_of_le hle with hlt | heq
      · exact .inr (.rel hlt)
      · have hsame : other ++ (lit ++ rest) = piece ++ (lit ++ after) := by
          simpa [List.append_assoc] using eq_of_cut hc
        obtain ⟨rfl, hrest⟩ := List.append_inj hsame heq.symm
        obtain rfl := List.append_cancel_left hrest
        rcases ih hf with rfl | hlex
        · exact .inl rfl
        · exact .inr (.cons hlex)

end Text

end BenchChart
