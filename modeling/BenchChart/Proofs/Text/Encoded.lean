import BenchChart.Proofs.Text.Utf8

/-!
# Every text can be read back

The bytes of a character are a sequence that reading takes for one chunk, whatever comes after it.
So bytes can be read as text if they are the bytes of some text, and it is that text that is read.
-/

namespace BenchChart

namespace Text

/-- The bytes of a character stand together in one. -/
theorem exists_sequence (c : Char) :
    ∃ first tail, String.utf8EncodeChar c = first :: tail ∧ Sequence first tail := by
  have hvalid := c.valid
  simp only [UInt32.isValidChar, Nat.isValidChar] at hvalid
  have hbyte (n : Nat) : (UInt8.ofNat n).toNat = n % 256 := UInt8.toNat_ofNat'
  rw [String.utf8EncodeChar]
  generalize c.val.toNat = n at hvalid
  split
  · refine ⟨_, _, rfl, ?_, by simp, by simp⟩
    rw [continuations?_eq_some_iff, hbyte, List.length_nil]
    omega
  split
  · refine ⟨_, _, rfl, continuations?_eq_some_iff.2 ?_, ?_, ?_⟩
    · rw [hbyte, List.length_singleton]
      omega
    · rintro _ ⟨⟩
      simp only [isSecond_iff, hbyte]
      omega
    · simp only [List.forall_mem_singleton, isContinuation_iff, hbyte]
      omega
  split
  · refine ⟨_, _, rfl, continuations?_eq_some_iff.2 ?_, ?_, ?_⟩
    · rw [hbyte, List.length_cons, List.length_singleton]
      omega
    · rintro _ ⟨⟩
      simp only [isSecond_iff, hbyte]
      omega
    · simp only [List.mem_cons, List.not_mem_nil, or_false, forall_eq_or_imp, forall_eq,
        isContinuation_iff, hbyte]
      omega
  · refine ⟨_, _, rfl, continuations?_eq_some_iff.2 ?_, ?_, ?_⟩
    · rw [hbyte, List.length_cons, List.length_cons, List.length_singleton]
      omega
    · rintro _ ⟨⟩
      simp only [isSecond_iff, hbyte]
      omega
    · simp only [List.mem_cons, List.not_mem_nil, or_false, forall_eq_or_imp, forall_eq,
        isContinuation_iff, hbyte]
      omega

theorem continuationRun_append {tail : List UInt8} (h : ∀ b ∈ tail, isContinuation b = true)
    (rest : List UInt8) : continuationRun tail.length (tail ++ rest) = tail := by
  induction tail with
  | nil => cases rest <;> rfl
  | cons b tail ih =>
      rw [List.forall_mem_cons] at h
      rw [List.length_cons, List.cons_append, continuationRun, if_pos h.1, ih h.2]

theorem tailRun_append {first : UInt8} {tail : List UInt8} (h : Sequence first tail)
    (rest : List UInt8) : tailRun first tail.length (tail ++ rest) = tail := by
  cases tail with
  | nil => cases rest <;> rfl
  | cons b tail =>
      have hlater := (List.forall_mem_cons.1 h.later).2
      rw [List.cons_append, tailRun, if_neg (by simp), if_pos (h.second b rfl), List.length_cons,
        Nat.add_sub_cancel, continuationRun_append hlater]

/-- The bytes of a character are read as that character. -/
theorem firstChunk_append {c : Char} {first : UInt8} {tail : List UInt8}
    (hc : String.utf8EncodeChar c = first :: tail) (h : Sequence first tail) (rest : List UInt8) :
    firstChunk first (tail ++ rest) = (.char c, tail.length) := by
  have hsame : encode [Char.ofNat (codePoint first tail)] = encode [c] := by
    rw [encode_cons, encode_cons, utf8EncodeChar_codePoint h, hc]
  obtain ⟨hchar, _⟩ := List.cons.inj (encode_inj.1 hsame)
  rw [firstChunk, h.complete]
  simp only [tailRun_append h, hchar, if_true]

theorem chunksAfter_append (tail rest : List UInt8) :
    chunksAfter tail.length (tail ++ rest) = chunks rest := by
  induction tail with
  | nil => rfl
  | cons b tail ih => exact ih

theorem chunks_encode (cs : List Char) : chunks (encode cs) = cs.map .char := by
  induction cs with
  | nil => rfl
  | cons c cs ih =>
      obtain ⟨first, tail, hc, h⟩ := exists_sequence c
      rw [encode_cons, hc, List.cons_append, chunks, chunksAfter, firstChunk_append hc h,
        chunksAfter_append, ih, List.map_cons]

theorem decode?_encode (cs : List Char) : decode? (encode cs) = some cs := by
  rw [decode?, chunks_encode]
  induction cs with
  | nil => rfl
  | cons c cs ih => simp [ih, Chunk.char?]

/-- Bytes are read as a text if they are the bytes of this text. -/
theorem decode?_eq_some_iff {bytes : List UInt8} {cs : List Char} :
    decode? bytes = some cs ↔ encode cs = bytes := by
  constructor
  · exact encode_of_decode?
  · rintro rfl
    exact decode?_encode cs

end Text

end BenchChart
