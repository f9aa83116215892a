import Mathlib.Data.List.TakeWhile
import Mathlib.Tactic.Common
import Traceability.Text.Utf8

/-! # Encoded texts are decoded

Each character is decoded from the bytes that encode it, and no bytes behind these are touched. A
text without carriage returns is read as it was written, whatever ends its lines.
-/
namespace Traceability.Text

/-! ## One character -/

/-- A continuation byte within the bounds adds its six bits. -/
theorem readContinuation_cons {least greatest : ℕ} (missing code done x : ℕ) (rest : List UInt8)
    (hleast : least ≤ x % 64 + 128) (hgreatest : x % 64 + 128 ≤ greatest) :
    readContinuation least greatest (missing + 1) code done (UInt8.ofNat (x % 64 + 128) :: rest) =
      readContinuation 0x80 0xBF missing (code * 64 + x % 64) (done + 1) rest := by
  have hbyte : (UInt8.ofNat (x % 64 + 128)).toNat = x % 64 + 128 := by
    rw [UInt8.toNat_ofNat']
    omega
  have hbits : (x % 64 + 128) % 64 = x % 64 := by omega
  rw [readContinuation, hbyte, if_pos ⟨hleast,hgreatest⟩, hbits]

theorem readContinuation_tail (missing code done x : ℕ) (rest : List UInt8) :
    readContinuation 0x80 0xBF (missing + 1) code done (UInt8.ofNat (x % 64 + 128) :: rest) =
      readContinuation 0x80 0xBF missing (code * 64 + x % 64) (done + 1) rest :=
  readContinuation_cons missing code done x rest (by omega) (by omega)

/-- What a first byte of a long form says: how long the form is and how its second byte is bound. -/
theorem decodeChar_of_sequenceForm? {first : UInt8} {n least greatest length : ℕ} {c : Char}
    {bytes rest : List UInt8} (hfirst : first.toNat = n) (hlong : 0x80 ≤ n)
    (hform : sequenceForm? n = some (least,greatest,length))
    (hread : readContinuation least greatest (length - 1) (leadBits length n) 1 bytes =
      .ok (c.toNat,rest)) : decodeChar first bytes = .ok (c,length,rest) := by
  subst hfirst
  rw [decodeChar, if_neg (Nat.not_lt.mpr hlong), hform]
  simp only [hread]
  show Except.ok (Char.ofNat c.toNat,length,rest) = _
  rw [Char.ofNat_toNat]

/-- The second byte of three is bound so that neither short forms nor halves of pairs are read. -/
theorem exists_sequenceForm?_three {n : ℕ} (hlong : 0x7FF < n) (hshort : n ≤ 0xFFFF)
    (hhalf : n < 0xD800 ∨ 0xDFFF < n) : ∃ least greatest,
      sequenceForm? (n / 4096 % 16 + 224) = some (least,greatest,3) ∧
      least ≤ n / 64 % 64 + 128 ∧ n / 64 % 64 + 128 ≤ greatest := by
  rw [sequenceForm?, if_neg (by omega)]
  split_ifs with h₁ h₂ h₃
  · exact ⟨0xA0,0xBF,rfl,by omega⟩
  · exact ⟨0x80,0x9F,rfl,by omega⟩
  · exact ⟨0x80,0xBF,rfl,by omega⟩
  all_goals omega

/-- The second byte of four is bound so that neither short forms nor numbers behind the last
character are read. -/
theorem exists_sequenceForm?_four {n : ℕ} (hlong : 0xFFFF < n) (hlast : n < 0x110000) :
    ∃ least greatest, sequenceForm? (n / 262144 % 8 + 240) = some (least,greatest,4) ∧
      least ≤ n / 4096 % 64 + 128 ∧ n / 4096 % 64 + 128 ≤ greatest := by
  rw [sequenceForm?, if_neg (by omega), if_neg (by omega), if_neg (by omega), if_neg (by omega)]
  split_ifs with h₁ h₂ h₃
  · exact ⟨0x90,0xBF,rfl,by omega⟩
  · exact ⟨0x80,0xBF,rfl,by omega⟩
  · exact ⟨0x80,0x8F,rfl,by omega⟩
  all_goals omega

theorem toNat_ofNat_of_lt {n : ℕ} (h : n < 256) : (UInt8.ofNat n).toNat = n := by
  rw [UInt8.toNat_ofNat', Nat.mod_eq_of_lt h]

/-- What encodes a character is decoded to it, whatever follows. -/
theorem decodeChar_encoded (c : Char) (rest : List UInt8) : ∃ first bytes length,
    String.utf8EncodeChar c = first :: bytes ∧
      decodeChar first (bytes ++ rest) = .ok (c,length,rest) := by
  have hvalid : c.toNat < 0xD800 ∨ 0xDFFF < c.toNat ∧ c.toNat < 0x110000 := c.valid
  have hval : c.val.toNat = c.toNat := rfl
  simp only [String.utf8EncodeChar, hval]
  split_ifs with h₁ h₂ h₃
  · refine ⟨_,[],1,rfl,?_⟩
    rw [decodeChar, toNat_ofNat_of_lt (by omega), if_pos (by omega), Char.ofNat_toNat]
    rfl
  · refine ⟨_,_,2,rfl,?_⟩
    have hform : sequenceForm? (c.toNat / 64 % 32 + 192) = some (0x80,0xBF,2) := by
      rw [sequenceForm?, if_pos (by omega)]
    refine decodeChar_of_sequenceForm? (toNat_ofNat_of_lt (by omega)) (by omega) hform ?_
    rw [List.cons_append, readContinuation_tail, readContinuation, leadBits, if_pos rfl]
    congr 2
    omega
  · obtain ⟨least,greatest,hform,hleast,hgreatest⟩ :=
      exists_sequenceForm?_three (by omega) h₃ (by omega)
    refine ⟨_,_,3,rfl,?_⟩
    refine decodeChar_of_sequenceForm? (toNat_ofNat_of_lt (by omega)) (by omega) hform ?_
    rw [List.cons_append, readContinuation_cons _ _ _ _ _ hleast hgreatest, List.cons_append,
      readContinuation_tail, readContinuation, leadBits, if_neg (by decide), if_pos rfl]
    congr 2
    omega
  · obtain ⟨least,greatest,hform,hleast,hgreatest⟩ :=
      exists_sequenceForm?_four (n := c.toNat) (by omega) (by omega)
    refine ⟨_,_,4,rfl,?_⟩
    refine decodeChar_of_sequenceForm? (toNat_ofNat_of_lt (by omega)) (by omega) hform ?_
    rw [List.cons_append, readContinuation_cons _ _ _ _ _ hleast hgreatest, List.cons_append,
      readContinuation_tail, List.cons_append, readContinuation_tail, readContinuation, leadBits,
      if_neg (by decide), if_neg (by decide)]
    congr 2
    omega

/-! ## Texts -/

theorem decodeFrom_encoded {fuel : ℕ} (position : ℕ) {cs : List Char}
    (hfuel : (cs.flatMap String.utf8EncodeChar).length ≤ fuel) :
    decodeFrom fuel position (cs.flatMap String.utf8EncodeChar) = .ok cs := by
  induction cs generalizing fuel position with
  | nil => cases fuel <;> rfl
  | cons c cs ih =>
    rw [List.flatMap_cons] at hfuel ⊢
    obtain ⟨first,bytes,length,hbytes,hdecode⟩ :=
      decodeChar_encoded c (cs.flatMap String.utf8EncodeChar)
    rw [hbytes, List.cons_append] at hfuel ⊢
    cases fuel with
    | zero => simp at hfuel
    | succ fuel =>
      have hrest : (cs.flatMap String.utf8EncodeChar).length ≤ fuel := by
        rw [List.length_cons, List.length_append] at hfuel
        omega
      simp only [decodeFrom, hdecode, ih (position + length) hrest]
      rfl

theorem toList_loop (bytes : ByteArray) (i : ℕ) (done : List UInt8) :
    ByteArray.toList.loop bytes i done = done.reverse ++ bytes.data.toList.drop i := by
  fun_induction ByteArray.toList.loop bytes i done with
  | case1 i done h ih =>
    have hlist : i < bytes.data.toList.length := by simpa using h
    have hget : bytes.get! i = bytes.data.toList[i] := by
      rw [Array.getElem_toList]
      exact getElem!_pos bytes.data i h
    rw [ih, List.reverse_cons, List.append_assoc, hget, List.singleton_append,
      List.getElem_cons_drop]
  | case2 i done h =>
    have hend : bytes.data.toList.length ≤ i := by simpa using h
    rw [List.drop_eq_nil_of_le hend, List.append_nil]

theorem encodeUtf8_eq (s : String) : encodeUtf8 s = s.toList.flatMap String.utf8EncodeChar := by
  rw [encodeUtf8, String.toUTF8, ← String.utf8Encode_toList, List.utf8Encode, ByteArray.toList,
    toList_loop, List.reverse_nil, List.nil_append, List.drop_zero, List.toList_data_toByteArray]

/-- A text is decoded from the bytes that encode it. -/
theorem decodeUtf8_encodeUtf8 (s : String) : decodeUtf8 (encodeUtf8 s) = .ok s.toList := by
  rw [decodeUtf8, encodeUtf8_eq]
  exact decodeFrom_encoded 0 (Nat.le_refl _)

theorem isHalf_of_lt {c : Char} (h : c.toNat < firstHalfChar) : isHalf c = false := by
  rw [isHalf, decide_eq_false (by omega), Bool.false_and]

theorem encodingError?_of_holdsHalf_eq_false {cs : List Char} (h : holdsHalf cs = false) :
    encodingError? cs = none := by
  have hdrop : (cs.dropWhile fun c => !isHalf c) = [] := by
    simpa [List.dropWhile_eq_nil_iff, holdsHalf] using h
  rw [encodingError?, hdrop]

theorem isSome_encodingError?_of_holdsHalf {cs : List Char} (h : holdsHalf cs = true) :
    (encodingError? cs).isSome = true := by
  rw [encodingError?]
  split
  · next hdrop =>
    rw [holdsHalf, List.any_eq_true] at h
    obtain ⟨c,hc,hhalf⟩ := h
    have hnone := List.dropWhile_eq_nil_iff.mp hdrop c hc
    simp [hhalf] at hnone
  · rfl

theorem encode?_of_holdsHalf_eq_false {s : String} (h : holdsHalf s.toList = false) :
    encode? s = .ok (encodeUtf8 s) := by
  rw [encode?, encodingError?_of_holdsHalf_eq_false h]

/-! ## Line ends -/

theorem universalLines_eq_self {cs : List Char} (h : '\r' ∉ cs) : universalLines cs = cs := by
  fun_induction universalLines cs with
  | case1 => rfl
  | case2 => simp at h
  | case3 => simp at h
  | case4 c cs hr hcr ih =>
    rw [ih (fun hm => h (List.mem_cons_of_mem _ hm))]

end Traceability.Text
