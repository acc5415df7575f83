import BenchChart.Proofs.Text.Offset
import BenchChart.Proofs.Text.Utf8

/-!
# Indices and byte offsets

`indexOf`, `lastIndexOf` and `between` find and cut in any sequence by counting its items, so they
can be used on the characters of a text and on its bytes alike. In UTF-8 the byte of an ASCII
character stands for nothing else. A mark of ASCII characters is therefore found at the same places
in the bytes as in the text, and the bytes between two ends of characters are those of a text.
-/

namespace BenchChart

namespace Text

section Sequence

variable {α : Type}

/-- The indices at which a literal occurs. -/
def places [BEq α] (lit cs : List α) : List Nat :=
  (List.range (cs.length + 1)).filter fun index => lit.isPrefixOf (cs.drop index)

/-- The least index at which a literal occurs, or `-1`. -/
def indexOf [BEq α] (lit cs : List α) : Int := (places lit cs).min?.elim (-1) Int.ofNat

/-- The greatest index at which a literal occurs, or `-1`. -/
def lastIndexOf [BEq α] (lit cs : List α) : Int := (places lit cs).max?.elim (-1) Int.ofNat

/-- An index counted from the end if it is negative, moved to an end if it lies outside. -/
def clampIndex (length : Nat) (index : Int) : Nat :=
  if index < 0 then (max (index + length) 0).toNat else (min index length).toNat

/-- The items from an index up to another one. -/
def between (cs : List α) (start stop : Int) : List α :=
  (cs.take (clampIndex cs.length stop)).drop (clampIndex cs.length start)

variable [BEq α] [LawfulBEq α] {lit cs : List α}

theorem mem_places_iff {index : Nat} :
    index ∈ places lit cs ↔ ∃ before, before ++ lit <+: cs ∧ before.length = index := by
  simp only [places, List.mem_filter, List.mem_range, Nat.lt_succ_iff, List.isPrefixOf_iff_prefix]
  constructor
  · rintro ⟨hle, rest, hrest⟩
    refine ⟨cs.take index, ⟨rest, ?_⟩, List.length_take_of_le hle⟩
    rw [List.append_assoc, hrest, List.take_append_drop]
  · rintro ⟨before, ⟨rest, rfl⟩, rfl⟩
    refine ⟨by simp, ?_⟩
    rw [List.append_assoc, List.drop_left]
    exact List.prefix_append lit rest

theorem indexOf_of_absent (h : ¬ lit <:+: cs) :
    indexOf lit cs = -1 ∧ lastIndexOf lit cs = -1 := by
  have hnone : places lit cs = [] := by
    rw [List.eq_nil_iff_forall_not_mem]
    intro index hmem
    obtain ⟨before, ⟨rest, hsplit⟩, _⟩ := mem_places_iff.1 hmem
    exact h ⟨before, rest, hsplit⟩
  rw [indexOf, lastIndexOf, hnone]
  exact ⟨rfl, rfl⟩

theorem indexOf_of_least {before : List α} (h : before ++ lit <+: cs)
    (hleast : ∀ other, other ++ lit <+: cs → before.length ≤ other.length) :
    indexOf lit cs = before.length := by
  have hmin : (places lit cs).min? = some before.length := by
    refine List.min?_eq_some_iff.2 ⟨mem_places_iff.2 ⟨before, h, rfl⟩, ?_⟩
    intro index hmem
    obtain ⟨other, hother, rfl⟩ := mem_places_iff.1 hmem
    exact hleast other hother
  rw [indexOf, hmin]
  rfl

theorem lastIndexOf_of_greatest {before : List α} (h : before ++ lit <+: cs)
    (hgreatest : ∀ other, other ++ lit <+: cs → other.length ≤ before.length) :
    lastIndexOf lit cs = before.length := by
  have hmax : (places lit cs).max? = some before.length := by
    refine List.max?_eq_some_iff.2 ⟨mem_places_iff.2 ⟨before, h, rfl⟩, ?_⟩
    intro index hmem
    obtain ⟨other, hother, rfl⟩ := mem_places_iff.1 hmem
    exact hgreatest other hother
  rw [lastIndexOf, hmax]
  rfl

omit [BEq α] [LawfulBEq α] in
theorem between_of_isPrefix {front longer : List α} (hlonger : longer <+: cs) {start stop : Int}
    (hstart : clampIndex cs.length start = front.length)
    (hstop : clampIndex cs.length stop = longer.length) :
    between cs start stop = longer.drop front.length := by
  rw [between, hstart, hstop, ← List.prefix_iff_eq_take.1 hlonger]

end Sequence

theorem clampOffset_eq_clampIndex (length : Nat) (position : Int) :
    clampOffset length position = clampIndex length position := by
  rw [clampOffset, clampIndex]
  split <;> omega

theorem clampIndex_natCast {length n : Nat} (h : n ≤ length) : clampIndex length n = n := by
  rw [← clampOffset_eq_clampIndex, clampOffset_natCast h]

theorem length_encode (cs : List Char) : (encode cs).length = byteLength cs := by
  induction cs with
  | nil => rfl
  | cons c cs ih =>
      rw [encode_cons, List.length_append, String.length_utf8EncodeChar, ih, byteLength_cons]

theorem encode_isPrefix {front cs : List Char} (h : front <+: cs) : encode front <+: encode cs := by
  obtain ⟨back, rfl⟩ := h
  rw [encode_append]
  exact List.prefix_append ..

theorem byteLength_le_iff_of_isPrefix {front longer cs : List Char} (hfront : front <+: cs)
    (hlonger : longer <+: cs) :
    byteLength front ≤ byteLength longer ↔ front.length ≤ longer.length := by
  constructor
  · intro hle
    rcases List.prefix_or_prefix_of_prefix hfront hlonger with hshort | ⟨piece, rfl⟩
    · exact hshort.length_le
    · rw [byteLength_append] at hle
      have hpiece : piece = [] := byteLength_eq_zero_iff.1 (by omega)
      simp [hpiece]
  · intro hle
    exact byteLength_le_of_isPrefix (List.prefix_of_prefix_length_le hfront hlonger hle)

/-- The text between the ends of two texts that a text starts with. -/
theorem slice_eq_drop {front longer cs : List Char} (hfront : front <+: cs)
    (hlonger : longer <+: cs) :
    slice cs (byteLength front) (byteLength longer) = longer.drop front.length := by
  rcases List.prefix_or_prefix_of_prefix hfront hlonger with ⟨piece, rfl⟩ | hshort
  · rw [slice_of_isPrefix hlonger, List.drop_left]
  · rw [slice_eq_nil (byteLength_le_of_isPrefix hfront) (byteLength_le_of_isPrefix hshort),
      List.drop_eq_nil_of_le hshort.length_le]

theorem slice_clampOffset (cs : List Char) (start stop : Int) :
    slice cs (clampOffset (byteLength cs) start) (clampOffset (byteLength cs) stop) =
      slice cs start stop := by
  rw [slice, slice, clampOffset_natCast (clampOffset_le ..),
    clampOffset_natCast (clampOffset_le ..)]

section Ascii

/-- All characters take one byte. -/
def Ascii (cs : List Char) : Prop := ∀ c ∈ cs, c.toNat < 0x80

-- Decided along the list, as there are only finitely many characters to try instead.
instance : DecidablePred Ascii := fun cs =>
  decidable_of_iff (cs.all fun c => decide (c.toNat < 0x80)) (by simp [Ascii])

theorem byteLength_of_ascii {cs : List Char} (h : Ascii cs) : byteLength cs = cs.length := by
  rw [← length_encode]
  induction cs with
  | nil => rfl
  | cons c cs ih =>
      obtain ⟨hc, hcs⟩ := List.forall_mem_cons.1 h
      rw [encode_cons, utf8EncodeChar_of_ascii hc, List.length_append, ih hcs]
      exact Nat.add_comm ..

theorem encode_isPrefix_iff_of_ascii {lit cs : List Char} (h : Ascii lit) :
    encode lit <+: encode cs ↔ lit <+: cs := by
  refine ⟨fun hbytes => ?_, encode_isPrefix⟩
  induction lit generalizing cs with
  | nil => exact List.nil_prefix
  | cons c lit ih =>
      obtain ⟨hc, hlit⟩ := List.forall_mem_cons.1 h
      rw [encode_cons, utf8EncodeChar_of_ascii hc, List.singleton_append] at hbytes
      cases cs with
      | nil => simp [encode] at hbytes
      | cons d cs =>
          have hne : String.utf8EncodeChar d ≠ [] := by
            rw [← List.length_pos_iff, String.length_utf8EncodeChar]
            exact Char.utf8Size_pos d
          obtain ⟨b, more, hd⟩ := List.exists_cons_of_ne_nil hne
          rw [encode_cons, hd, List.cons_append, List.cons_prefix_cons] at hbytes
          -- The byte of an ASCII character is in no other one, so the characters are the same.
          obtain rfl : d = c := by
            rw [← mem_utf8EncodeChar_iff hc, hd, hbytes.1]
            exact List.mem_cons_self
          rw [utf8EncodeChar_of_ascii hc, List.cons.injEq] at hd
          rw [← hd.2, List.nil_append] at hbytes
          exact List.cons_prefix_cons.2 ⟨rfl, ih hlit hbytes.2⟩

/-- Where the bytes of an ASCII literal are found, a character ends and the literal stands. -/
theorem exists_front_of_encode {lit cs : List Char} (hlit : Ascii lit) (hne : lit ≠ [])
    {before : List UInt8} (h : before ++ encode lit <+: encode cs) :
    ∃ front, encode front = before ∧ front ++ lit <+: cs := by
  obtain ⟨c, tail, rfl⟩ := List.exists_cons_of_ne_nil hne
  have hc : c.toNat < 0x80 := hlit c List.mem_cons_self
  have hbytes : encode (c :: tail) = UInt8.ofNat c.toNat :: encode tail := by
    rw [encode_cons, utf8EncodeChar_of_ascii hc, List.singleton_append]
  induction cs generalizing before with
  | nil => simp [encode] at h
  | cons d cs ih =>
      obtain ⟨rest, hrest⟩ := h
      rw [encode_cons d cs, List.append_assoc] at hrest
      have hlater : ∀ more, before = String.utf8EncodeChar d ++ more →
          encode cs = more ++ (encode (c :: tail) ++ rest) →
          ∃ front, encode front = before ∧ front ++ c :: tail <+: d :: cs := by
        rintro more rfl hmore
        obtain ⟨front, rfl, hfront⟩ := ih ⟨rest, by rw [List.append_assoc, hmore]⟩
        exact ⟨d :: front, encode_cons d front, List.cons_prefix_cons.2 ⟨rfl, hfront⟩⟩
      rcases List.append_eq_append_iff.1 hrest with ⟨more, hd, hmore⟩ | ⟨more, hd, hmore⟩
      · cases more with
        | nil => exact hlater [] (by simp [hd]) hmore.symm
        | cons b more =>
            -- The first byte of the literal is in the bytes of `d`, which is thus its character.
            rw [hbytes, List.cons_append, List.cons_append, List.cons.injEq] at hmore
            obtain rfl : d = c := by
              rw [← mem_utf8EncodeChar_iff hc, hd, hmore.1]
              simp
            rw [utf8EncodeChar_of_ascii hc] at hd
            obtain rfl : before = [] := by
              have hlength := congrArg List.length hd
              simp only [List.length_append, List.length_cons, List.length_nil] at hlength
              exact List.eq_nil_of_length_eq_zero (by omega)
            refine ⟨[], rfl, (encode_isPrefix_iff_of_ascii hlit).1 ⟨rest, ?_⟩⟩
            rw [encode_cons d cs, ← hrest, List.nil_append]
      · exact hlater more hd hmore

theorem encode_infix_iff_of_ascii {lit cs : List Char} (hlit : Ascii lit) (hne : lit ≠ []) :
    encode lit <:+: encode cs ↔ lit <:+: cs := by
  constructor
  · rintro ⟨before, rest, hsplit⟩
    obtain ⟨front, _, back, hback⟩ := exists_front_of_encode hlit hne ⟨rest, hsplit⟩
    exact ⟨front, back, hback⟩
  · rintro ⟨front, back, rfl⟩
    rw [encode_append, encode_append]
    exact ⟨encode front, encode back, rfl⟩

end Ascii

/-- An offset in bytes and an index in characters at which a literal was found, or not. -/
inductive Mark (lit cs : List Char) : Int → Int → Prop
  | absent : Mark lit cs (-1) (-1)
  | found (before : List Char) (h : before ++ lit <+: cs) :
      Mark lit cs (byteLength before) before.length

theorem cutLast_eq_none_iff {lit cs : List Char} : cutLast lit cs = none ↔ ¬ lit <:+: cs := by
  rw [cutLast, Option.map_eq_none_iff, cut_eq_none_iff, List.reverse_infix]

theorem length_le_of_cutLast {lit cs before rest other : List Char}
    (h : cutLast lit cs = some (before, rest)) (hother : other ++ lit <+: cs) :
    other.length ≤ before.length := by
  obtain ⟨more, rfl⟩ := hother
  simp only [cutLast, Option.map_eq_some_iff, Prod.mk.injEq, Prod.exists] at h
  obtain ⟨after, front, hcut, rfl, rfl⟩ := h
  have hsplit : (other ++ lit ++ more).reverse = more.reverse ++ lit.reverse ++ other.reverse := by
    simp
  have hle := length_le_of_cut hcut hsplit
  have hlength := congrArg List.length (eq_of_cut hcut)
  simp only [List.length_reverse, List.length_append] at hle hlength ⊢
  omega

theorem isPrefix_of_cutLast {lit cs before rest : List Char}
    (h : cutLast lit cs = some (before, rest)) : before ++ lit <+: cs := by
  simp only [cutLast, Option.map_eq_some_iff, Prod.mk.injEq, Prod.exists] at h
  obtain ⟨after, front, hcut, rfl, rfl⟩ := h
  refine ⟨after.reverse, ?_⟩
  rw [← List.reverse_reverse cs, eq_of_cut hcut]
  simp

section Found

variable {lit : List Char} (hlit : Ascii lit) (hne : lit ≠ [])

include hlit hne

/-- The first occurrence in the bytes is the first one in the characters. -/
theorem indexOf_encode (cs : List Char) :
    indexOf (encode lit) (encode cs) = offsetOf lit cs ∧
      Mark lit cs (offsetOf lit cs) (indexOf lit cs) := by
  cases hcut : cut lit cs with
  | none =>
      have hnone := cut_eq_none_iff.1 hcut
      rw [(indexOf_of_absent (mt (encode_infix_iff_of_ascii hlit hne).1 hnone)).1,
        (indexOf_of_absent hnone).1, offsetOf, hcut]
      exact ⟨rfl, .absent⟩
  | some halves =>
      obtain ⟨before, rest⟩ := halves
      have hbegin : before ++ lit <+: cs := ⟨rest, (eq_of_cut hcut).symm⟩
      have hleast : ∀ other, other ++ lit <+: cs → before.length ≤ other.length := by
        rintro other ⟨more, rfl⟩
        exact length_le_of_cut hcut rfl
      have hbytes : indexOf (encode lit) (encode cs) = byteLength before := by
        rw [← length_encode]
        apply indexOf_of_least
        · rw [← encode_append]
          exact encode_isPrefix hbegin
        · intro other hother
          obtain ⟨front, rfl, hfront⟩ := exists_front_of_encode hlit hne hother
          rw [length_encode, length_encode, byteLength_le_iff_of_isPrefix
            ((List.prefix_append ..).trans hbegin) ((List.prefix_append ..).trans hfront)]
          exact hleast front hfront
      rw [offsetOf_of_cut hcut, indexOf_of_least hbegin hleast]
      exact ⟨hbytes, .found before hbegin⟩

/-- The last occurrence in the bytes is the last one in the characters. -/
theorem lastIndexOf_encode (cs : List Char) :
    lastIndexOf (encode lit) (encode cs) = lastOffsetOf lit cs ∧
      Mark lit cs (lastOffsetOf lit cs) (lastIndexOf lit cs) := by
  cases hcut : cutLast lit cs with
  | none =>
      have hnone := cutLast_eq_none_iff.1 hcut
      rw [(indexOf_of_absent (mt (encode_infix_iff_of_ascii hlit hne).1 hnone)).2,
        (indexOf_of_absent hnone).2, lastOffsetOf, hcut]
      exact ⟨rfl, .absent⟩
  | some halves =>
      obtain ⟨before, rest⟩ := halves
      have hbegin := isPrefix_of_cutLast hcut
      have hbytes : lastIndexOf (encode lit) (encode cs) = byteLength before := by
        rw [← length_encode]
        apply lastIndexOf_of_greatest
        · rw [← encode_append]
          exact encode_isPrefix hbegin
        · intro other hother
          obtain ⟨front, rfl, hfront⟩ := exists_front_of_encode hlit hne hother
          rw [length_encode, length_encode, byteLength_le_iff_of_isPrefix
            ((List.prefix_append ..).trans hfront) ((List.prefix_append ..).trans hbegin)]
          exact length_le_of_cutLast hcut hfront
      rw [lastOffsetOf, hcut, lastIndexOf_of_greatest hbegin fun other => length_le_of_cutLast hcut]
      exact ⟨hbytes, .found before hbegin⟩

end Found

/-- An offset in bytes and an index in characters that point to the same end of a character. -/
def SamePlace (cs : List Char) (offset index : Int) : Prop :=
  ∃ front, front <+: cs ∧ clampIndex (encode cs).length offset = (encode front).length ∧
    clampIndex cs.length index = front.length

theorem SamePlace.of_isPrefix {front cs : List Char} (h : front <+: cs) :
    SamePlace cs (byteLength front) front.length := by
  refine ⟨front, h, ?_, clampIndex_natCast h.length_le⟩
  rw [length_encode, length_encode, clampIndex_natCast (byteLength_le_of_isPrefix h)]

/-- Both positions before a text are the end of the text without its last character if this takes
one byte. -/
theorem SamePlace.neg_one {front : List Char} {c : Char} (h : c.toNat < 0x80) :
    SamePlace (front ++ [c]) (-1) (-1) := by
  have hlast : byteLength [c] = 1 := byteLength_of_ascii (by simpa [Ascii] using h)
  refine ⟨front, List.prefix_append .., ?_, ?_⟩
  · rw [length_encode, length_encode, byteLength_append, hlast, clampIndex, if_pos (by decide)]
    omega
  · rw [List.length_append, List.length_singleton, clampIndex, if_pos (by decide)]
    omega

/-- Near the start of a text that starts with ASCII characters, offset and index are the same. -/
theorem SamePlace.of_ascii {front cs : List Char} (h : front <+: cs) (hascii : Ascii front)
    {n : Nat} (hn : n ≤ front.length) : SamePlace cs n n := by
  have htake : front.take n <+: cs := (List.take_prefix n front).trans h
  have hplace := SamePlace.of_isPrefix htake
  rwa [byteLength_of_ascii fun c hc => hascii c (List.mem_of_mem_take hc),
    List.length_take_of_le hn] at hplace

section SamePlace

variable {cs : List Char} {startOffset stopOffset startIndex stopIndex : Int}
  (hstart : SamePlace cs startOffset startIndex) (hstop : SamePlace cs stopOffset stopIndex)

include hstart hstop

theorem slice_eq_between :
    slice cs startOffset stopOffset = between cs startIndex stopIndex ∧
      encode (slice cs startOffset stopOffset) = between (encode cs) startOffset stopOffset := by
  obtain ⟨front, hfront, hstartBytes, hstartChars⟩ := hstart
  obtain ⟨longer, hlonger, hstopBytes, hstopChars⟩ := hstop
  have hslice : slice cs startOffset stopOffset = longer.drop front.length := by
    rw [← slice_clampOffset, clampOffset_eq_clampIndex, clampOffset_eq_clampIndex, ← length_encode,
      hstartBytes, hstopBytes, length_encode, length_encode, slice_eq_drop hfront hlonger]
  refine ⟨?_, ?_⟩
  · rw [hslice, between_of_isPrefix hlonger hstartChars hstopChars]
  · rw [hslice, between_of_isPrefix (encode_isPrefix hlonger) hstartBytes hstopBytes]
    rcases List.prefix_or_prefix_of_prefix hfront hlonger with ⟨piece, rfl⟩ | hshort
    · rw [List.drop_left, encode_append, List.drop_left]
    · rw [List.drop_eq_nil_of_le hshort.length_le,
        List.drop_eq_nil_of_le (encode_isPrefix hshort).length_le]
      rfl

end SamePlace

end Text

end BenchChart
