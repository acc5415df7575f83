import BenchChart.Text.Utf8

/-!
# Reading UTF-8 loses nothing

Bytes that can be read as text are the bytes of that text. A character comes from its first byte and
the bytes that continue it; `Sequence` says which bytes can stand together in one character, and
`utf8EncodeChar_codePoint` that the character they stand for has just these bytes.
-/

namespace BenchChart

namespace Text

/-- A first byte and the bytes that continue it to one character. -/
structure Sequence (first : UInt8) (tail : List UInt8) : Prop where
  complete : continuations? first = some tail.length
  second : ∀ b, tail.head? = some b → isSecond first b = true
  later : ∀ b ∈ tail, isContinuation b = true

theorem isContinuation_iff {b : UInt8} :
    isContinuation b = true ↔ 0x80 ≤ b.toNat ∧ b.toNat ≤ 0xBF := by
  simp [isContinuation, UInt8.le_iff_toNat_le]

theorem isSecond_iff {first b : UInt8} :
    isSecond first b = true ↔
      0x80 ≤ b.toNat ∧ b.toNat ≤ 0xBF ∧ (first.toNat = 0xE0 → 0xA0 ≤ b.toNat) ∧
        (first.toNat = 0xED → b.toNat ≤ 0x9F) ∧ (first.toNat = 0xF0 → 0x90 ≤ b.toNat) ∧
        (first.toNat = 0xF4 → b.toNat ≤ 0x8F) := by
  simp only [isSecond, ← UInt8.toNat_inj]
  split
  · simp [UInt8.le_iff_toNat_le, *]; omega
  split
  · simp [UInt8.le_iff_toNat_le, *]
    omega
  split
  · simp [UInt8.le_iff_toNat_le, *]; omega
  split
  · simp [UInt8.le_iff_toNat_le, *]; omega
  · simp_all [isContinuation_iff]

theorem continuations?_eq_some_iff {first : UInt8} {count : Nat} :
    continuations? first = some count ↔
      count = 0 ∧ first.toNat < 0x80 ∨
        count = 1 ∧ 0xC2 ≤ first.toNat ∧ first.toNat < 0xE0 ∨
        count = 2 ∧ 0xE0 ≤ first.toNat ∧ first.toNat < 0xF0 ∨
        count = 3 ∧ 0xF0 ≤ first.toNat ∧ first.toNat < 0xF5 := by
  have h80 : (0x80 : UInt8).toNat = 0x80 := rfl
  have hC2 : (0xC2 : UInt8).toNat = 0xC2 := rfl
  have hE0 : (0xE0 : UInt8).toNat = 0xE0 := rfl
  have hF0 : (0xF0 : UInt8).toNat = 0xF0 := rfl
  have hF5 : (0xF5 : UInt8).toNat = 0xF5 := rfl
  simp only [continuations?, UInt8.lt_iff_toNat_lt, h80, hC2, hE0, hF0, hF5]
  repeat' split
  all_goals simp
  all_goals omega

theorem toNat_val_ofNat {n : Nat} (h : n.isValidChar) : (Char.ofNat n).val.toNat = n := by
  rw [Char.ofNat, dif_pos h]
  rfl

theorem ofNat_eq_of_eq_toNat {n : Nat} {b : UInt8} (h : n = b.toNat) : UInt8.ofNat n = b := by
  rw [h, UInt8.ofNat_toNat]

/-- A character has the bytes that it was read from. -/
theorem utf8EncodeChar_codePoint {first : UInt8} {tail : List UInt8} (h : Sequence first tail) :
    String.utf8EncodeChar (Char.ofNat (codePoint first tail)) = first :: tail := by
  obtain ⟨complete, second, later⟩ := h
  rw [continuations?_eq_some_iff] at complete
  simp only [isSecond_iff] at second
  simp only [isContinuation_iff] at later
  match tail with
  | [] =>
      have hn : first.toNat < 0x80 := by simpa using complete
      have hvalid : first.toNat.isValidChar := .inl (by omega)
      simp only [codePoint, List.length_nil, List.foldl_nil, String.utf8EncodeChar,
        toNat_val_ofNat hvalid]
      rw [if_pos (by omega), UInt8.ofNat_toNat]
  | [a] =>
      have hfirst : 0xC2 ≤ first.toNat ∧ first.toNat < 0xE0 := by simpa using complete
      have ha := later a (by simp)
      have hvalid : Nat.isValidChar (first.toNat % 0x20 * 0x40 + a.toNat % 0x40) :=
        .inl (by omega)
      simp only [codePoint, List.length_cons, List.length_nil, List.foldl_cons, List.foldl_nil,
        String.utf8EncodeChar, toNat_val_ofNat hvalid]
      rw [if_neg (by omega), if_pos (by omega), ofNat_eq_of_eq_toNat (b := first) (by omega),
        ofNat_eq_of_eq_toNat (b := a) (by omega)]
  | [a, b] =>
      have hfirst : 0xE0 ≤ first.toNat ∧ first.toNat < 0xF0 := by simpa using complete
      have ha := second a rfl
      have hb := later b (by simp)
      have hvalid : Nat.isValidChar
          ((first.toNat % 0x10 * 0x40 + a.toNat % 0x40) * 0x40 + b.toNat % 0x40) := by
        rcases Nat.lt_or_ge first.toNat 0xEE with h | h
        · exact .inl (by omega)
        · exact .inr (by omega)
      simp only [codePoint, List.length_cons, List.length_nil, List.foldl_cons, List.foldl_nil,
        String.utf8EncodeChar, toNat_val_ofNat hvalid]
      rw [if_neg (by omega), if_neg (by omega), if_pos (by omega),
        ofNat_eq_of_eq_toNat (b := first) (by omega), ofNat_eq_of_eq_toNat (b := a) (by omega),
        ofNat_eq_of_eq_toNat (b := b) (by omega)]
  | [a, b, c] =>
      have hfirst : 0xF0 ≤ first.toNat ∧ first.toNat < 0xF5 := by simpa using complete
      have ha := second a rfl
      have hb := later b (by simp)
      have hc := later c (by simp)
      have hvalid : Nat.isValidChar
          (((first.toNat % 0x08 * 0x40 + a.toNat % 0x40) * 0x40 + b.toNat % 0x40) * 0x40 +
            c.toNat % 0x40) := .inr (by omega)
      simp only [codePoint, List.length_cons, List.length_nil, List.foldl_cons, List.foldl_nil,
        String.utf8EncodeChar, toNat_val_ofNat hvalid]
      rw [if_neg (by omega), if_neg (by omega), if_neg (by omega),
        ofNat_eq_of_eq_toNat (b := first) (by omega), ofNat_eq_of_eq_toNat (b := a) (by omega),
        ofNat_eq_of_eq_toNat (b := b) (by omega), ofNat_eq_of_eq_toNat (b := c) (by omega)]
  | _ :: _ :: _ :: _ :: _ => simp at complete

theorem prefix_continuationRun (count : Nat) (bs : List UInt8) :
    continuationRun count bs <+: bs := by
  fun_induction continuationRun count bs with
  | case1 => exact List.nil_prefix
  | case2 => exact List.nil_prefix
  | case3 count b bs hb ih => exact (List.prefix_cons_inj b).2 ih
  | case4 => exact List.nil_prefix

theorem prefix_tailRun (first : UInt8) (count : Nat) (bs : List UInt8) :
    tailRun first count bs <+: bs := by
  cases bs with
  | nil => exact List.nil_prefix
  | cons b bs =>
      rw [tailRun]
      split
      · exact List.nil_prefix
      split
      · exact (List.prefix_cons_inj b).2 (prefix_continuationRun _ _)
      · exact List.nil_prefix

theorem isContinuation_of_mem_continuationRun {count : Nat} {bs : List UInt8} {b : UInt8}
    (h : b ∈ continuationRun count bs) : isContinuation b = true := by
  fun_induction continuationRun count bs with
  | case1 => cases h
  | case2 => cases h
  | case3 count c bs hc ih =>
      rcases List.mem_cons.1 h with rfl | h
      · exact hc
      · exact ih h
  | case4 => cases h

theorem isContinuation_of_isSecond {first b : UInt8} (h : isSecond first b = true) :
    isContinuation b = true := by
  have hb := isSecond_iff.1 h
  exact isContinuation_iff.2 ⟨hb.1, hb.2.1⟩

theorem isSecond_of_tailRun {first b : UInt8} {count : Nat} {bs later : List UInt8}
    (h : tailRun first count bs = b :: later) :
    isSecond first b = true ∧ ∀ c ∈ later, isContinuation c = true := by
  cases bs with
  | nil => cases h
  | cons second rest =>
      rw [tailRun] at h
      split at h
      · cases h
      split at h
      · next _ hsecond =>
          cases h
          exact ⟨hsecond, fun _ => isContinuation_of_mem_continuationRun⟩
      · cases h

theorem sequence_tailRun {first : UInt8} {count : Nat} {bs : List UInt8}
    (hcount : continuations? first = some count)
    (hlength : (tailRun first count bs).length = count) :
    Sequence first (tailRun first count bs) := by
  refine ⟨by rw [hlength, hcount], ?_, ?_⟩
  · intro b hb
    obtain ⟨others, htail⟩ := List.head?_eq_some_iff.1 hb
    exact (isSecond_of_tailRun htail).1
  · intro b hb
    obtain ⟨second, others, htail⟩ := List.exists_cons_of_ne_nil (List.ne_nil_of_mem hb)
    obtain ⟨hsecond, hothers⟩ := isSecond_of_tailRun htail
    rw [htail] at hb
    rcases List.mem_cons.1 hb with rfl | hb
    · exact isContinuation_of_isSecond hsecond
    · exact hothers b hb

/-- A chunk that is a character is made of the bytes of that character. -/
theorem utf8EncodeChar_of_firstChunk {first : UInt8} {rest : List UInt8} {c : Char}
    (h : (firstChunk first rest).1 = .char c) :
    String.utf8EncodeChar c = first :: rest.take (firstChunk first rest).2 := by
  rw [firstChunk] at h ⊢
  cases hcount : continuations? first with
  | none => simp [hcount] at h
  | some count =>
      simp only [hcount] at h ⊢
      split at h
      · next hlength =>
          cases h
          rw [utf8EncodeChar_codePoint (sequence_tailRun hcount hlength),
            ← List.prefix_iff_eq_take.1 (prefix_tailRun first count rest)]
      · cases h

theorem encode_of_chunksAfter {skip : Nat} {bytes : List UInt8} {cs : List Char}
    (h : (chunksAfter skip bytes).mapM Chunk.char? = some cs) : encode cs = bytes.drop skip := by
  -- A character takes more bytes than the one that the induction goes on by; `skip` counts them.
  induction bytes generalizing skip cs with
  | nil =>
      obtain rfl : cs = [] := by simpa [chunksAfter, eq_comm] using h
      simp
  | cons first rest ih =>
      cases skip with
      | succ skip => exact ih h
      | zero =>
          simp only [chunksAfter, List.mapM_cons, Option.bind_eq_bind, Option.bind_eq_some_iff] at h
          obtain ⟨c, hc, others, hothers, he⟩ := h
          cases he
          have hchunk : (firstChunk first rest).1 = .char c := by
            cases hchunk : (firstChunk first rest).1 <;> simp_all [Chunk.char?]
          rw [encode_cons, utf8EncodeChar_of_firstChunk hchunk, ih hothers, List.drop_zero,
            List.cons_append, List.take_append_drop]

/-- The bytes of the text that is read are the bytes that it is read from. -/
theorem encode_of_decode? {bytes : List UInt8} {cs : List Char} (h : decode? bytes = some cs) :
    encode cs = bytes :=
  encode_of_chunksAfter h

theorem toByteArray_encode (cs : List Char) : (encode cs).toByteArray = cs.utf8Encode := rfl

theorem encode_inj {cs ds : List Char} : encode cs = encode ds ↔ cs = ds := by
  constructor
  · intro h
    have hbytes := congrArg List.toByteArray h
    rwa [toByteArray_encode, toByteArray_encode, ← String.toByteArray_ofList,
      ← String.toByteArray_ofList, String.toByteArray_inj, String.ofList_inj] at hbytes
  · rintro rfl
    rfl

theorem utf8EncodeChar_of_ascii {c : Char} (h : c.toNat < 0x80) :
    String.utf8EncodeChar c = [UInt8.ofNat c.toNat] := by
  have hle : c.val.toNat ≤ 0x7F := Nat.le_of_lt_succ h
  rw [String.utf8EncodeChar, if_pos hle]
  rfl

theorem le_toNat_of_mem_utf8EncodeChar {c : Char} {b : UInt8} (h : 0x80 ≤ c.toNat)
    (hb : b ∈ String.utf8EncodeChar c) : 0x80 ≤ b.toNat := by
  have hlead : ¬ c.val.toNat ≤ 0x7F := Nat.not_le.2 h
  rw [String.utf8EncodeChar, if_neg hlead] at hb
  split at hb
  · simp only [List.mem_cons, List.not_mem_nil, or_false] at hb
    rcases hb with rfl | rfl <;> rw [UInt8.toNat_ofNat'] <;> omega
  split at hb
  · simp only [List.mem_cons, List.not_mem_nil, or_false] at hb
    rcases hb with rfl | rfl | rfl <;> rw [UInt8.toNat_ofNat'] <;> omega
  · simp only [List.mem_cons, List.not_mem_nil, or_false] at hb
    rcases hb with rfl | rfl | rfl | rfl <;> rw [UInt8.toNat_ofNat'] <;> omega

/-- The byte of an ASCII character is only in the bytes of that character. -/
theorem mem_utf8EncodeChar_iff {c d : Char} (h : c.toNat < 0x80) :
    UInt8.ofNat c.toNat ∈ String.utf8EncodeChar d ↔ d = c := by
  have hbyte : (UInt8.ofNat c.toNat).toNat = c.toNat := by
    rw [UInt8.toNat_ofNat']
    omega
  constructor
  · intro hmem
    rcases Nat.lt_or_ge d.toNat 0x80 with hd | hd
    · rw [utf8EncodeChar_of_ascii hd, List.mem_singleton] at hmem
      have htoNat := congrArg UInt8.toNat hmem
      rw [hbyte, UInt8.toNat_ofNat', Nat.mod_eq_of_lt (by omega)] at htoNat
      exact (Char.toNat_inj.1 htoNat).symm
    · have hle := le_toNat_of_mem_utf8EncodeChar hd hmem
      omega
  · rintro rfl
    rw [utf8EncodeChar_of_ascii h]
    exact List.mem_singleton_self _

/-- The bytes of a text have the byte of an ASCII character if the text has the character. -/
theorem mem_encode_iff {cs : List Char} {c : Char} (h : c.toNat < 0x80) :
    UInt8.ofNat c.toNat ∈ encode cs ↔ c ∈ cs := by
  simp [encode, List.mem_flatMap, mem_utf8EncodeChar_iff h]

theorem getLast?_encode {cs : List Char} {c : Char} (h : c.toNat < 0x80)
    (hlast : cs.getLast? = some c) : (encode cs).getLast? = some (UInt8.ofNat c.toNat) := by
  obtain ⟨front, rfl⟩ := List.getLast?_eq_some_iff.1 hlast
  rw [encode_append, encode_cons, utf8EncodeChar_of_ascii h]
  simp

end Text

end BenchChart
