import Mathlib.Data.Int.Notation
import Mathlib.Data.List.Basic
import Traceability.Number.Integer
import Traceability.Proofs.Json.ReadNumber
import Traceability.Proofs.Text.Classes

/-! # Decimal numerals

A text of decimal digits, of whatever scripts, reads as the number that its digits make, unless it
has too many of them.
-/
namespace Traceability.Number
open Text

theorem exists_zero_of_decimalValue? {c : Char} {v : ℕ} (h : decimalValue? c = some v) :
    ∃ first ∈ decimalZeros, first ≤ c.toNat ∧ c.toNat ≤ first + 9 ∧ v = c.toNat - first := by
  obtain ⟨first,hf,rfl⟩ := Option.map_eq_some_iff.mp h
  have hrange := List.find?_some hf
  simp only [Bool.and_eq_true, decide_eq_true_eq] at hrange
  exact ⟨first,List.mem_of_find?_eq_some hf,hrange.1,hrange.2,rfl⟩

theorem decimalValue?_lt {c : Char} {v : ℕ} (h : decimalValue? c = some v) : v < 10 := by
  obtain ⟨first,-,-,hlast,rfl⟩ := exists_zero_of_decimalValue? h
  omega

theorem isBlank_eq_false_of_isDecimal {c : Char} (h : isDecimal c = true) : isBlank c = false := by
  obtain ⟨v,hv⟩ := Option.isSome_iff_exists.mp h
  obtain ⟨first,hmem,hfirst,hlast,-⟩ := exists_zero_of_decimalValue? hv
  have hapart : ∀ first ∈ decimalZeros, ∀ range ∈ blankRanges,
      first + 9 < range.1 ∨ range.2 < first := by decide
  rw [← Bool.not_eq_true]
  intro hb
  obtain ⟨range,hrange,hlow,hhigh⟩ := (Ranges.contains_iff blankRanges c).mp hb
  have hdisjoint := hapart first hmem range hrange
  omega

theorem isNumberBlank_eq_false_of_isDecimal {c : Char} (h : isDecimal c = true) :
    isNumberBlank c = false := by
  simp [isNumberBlank, isBlank_eq_false_of_isDecimal h]

theorem decimalValue?_of_isAsciiDigit {c : Char} (h : isAsciiDigit c = true) :
    decimalValue? c = some (c.toNat - 48) := by
  simp only [isAsciiDigit, Bool.and_eq_true, decide_eq_true_eq] at h
  simp [decimalValue?, decimalZeros, h]

theorem isDecimal_of_isAsciiDigit {c : Char} (h : isAsciiDigit c = true) : isDecimal c = true := by
  rw [isDecimal, decimalValue?_of_isAsciiDigit h]
  rfl

def decimalDigit (c : Char) : ℕ := (decimalValue? c).getD 0

def decimalNumber (cs : List Char) : ℕ := ofDigits 10 (cs.map decimalDigit)

theorem digitIn?_ten_of_isDecimal {c : Char} (h : isDecimal c = true) :
    digitIn? 10 c = some (decimalDigit c) := by
  obtain ⟨v,hv⟩ := Option.isSome_iff_exists.mp h
  simp [digitIn?, digitValue?, decimalDigit, hv, decimalValue?_lt hv]

theorem digitRun?_ten_of_isDecimal {cs : List Char} (h : ∀ c ∈ cs, isDecimal c = true) :
    digitRun? 10 false cs = some (cs.map decimalDigit,[]) := by
  induction cs with
  | nil => rfl
  | cons c cs ih =>
    obtain ⟨hc,hcs⟩ := List.forall_mem_cons.mp h
    simp [digitRun?, digitIn?_ten_of_isDecimal hc, ih hcs]

theorem dropBaseMark_ten (cs : List Char) : dropBaseMark 10 cs = cs := by
  unfold dropBaseMark
  split
  · next m rest =>
    have hmark : baseMark 10 = none := rfl
    simp [hmark]
  · rfl

theorem splitSign_of_isDigit {c : Char} {cs : List Char} (h : isDigit c = true) :
    splitSign (c :: cs) = (false,c :: cs) := by
  unfold splitSign
  split
  · next heq =>
    rw [(List.cons.inj heq).1] at h
    exact absurd h (by decide)
  · next heq =>
    rw [(List.cons.inj heq).1] at h
    exact absurd h (by decide)
  · rfl

/-- A numeral reads as its number if it is not too long. -/
theorem readInteger_ten_of_isDecimal {cs : List Char} (hne : cs ≠ [])
    (h : ∀ c ∈ cs, isDecimal c = true) :
    readInteger 10 (String.ofList cs) =
      if maxDigits < cs.length then .error (.tooManyDigits cs.length)
      else .ok (decimalNumber cs) := by
  obtain ⟨c,cs,rfl⟩ := List.exists_cons_of_ne_nil hne
  obtain ⟨hc,hcs⟩ := List.forall_mem_cons.mp h
  have hrun : digitRun? 10 true (c :: cs) = some ((c :: cs).map decimalDigit,[]) := by
    simp [digitRun?, digitIn?_ten_of_isDecimal hc, digitRun?_ten_of_isDecimal hcs]
  rw [readInteger, String.toList_ofList,
    List.dropWhile_cons_of_neg (by simp [isNumberBlank_eq_false_of_isDecimal hc]),
    splitSign_of_isDigit (by simp [isDigit, hc])]
  simp only [dropBaseMark_ten, hrun, List.length_map, true_and, List.all_nil, if_true,
    Bool.false_eq_true, if_false]
  rfl

theorem decimalDigit_of_isAsciiDigit {c : Char} (h : isAsciiDigit c = true) :
    decimalDigit c = c.toNat - 48 := by
  rw [decimalDigit, decimalValue?_of_isAsciiDigit h, Option.getD_some]

theorem decimalNumber_toDigits (n : ℕ) : decimalNumber (Nat.toDigits 10 n) = n := by
  have hmap : (Nat.toDigits 10 n).map decimalDigit = (Nat.toDigits 10 n).map (·.toNat - 48) :=
    List.map_congr_left fun c hc =>
      decimalDigit_of_isAsciiDigit (Json.isAsciiDigit_of_mem_toDigits hc)
  rw [decimalNumber, hmap, Json.ofDigits_toDigits]

/-- Leading zeros do not count. -/
theorem decimalNumber_replicate_append (k : ℕ) (cs : List Char) :
    decimalNumber (List.replicate k '0' ++ cs) = decimalNumber cs := by
  have hzero : decimalDigit '0' = 0 := by decide
  induction k with
  | zero => simp
  | succ k ih =>
    simp only [decimalNumber, ofDigits, List.map_append, List.map_replicate, hzero] at ih ⊢
    simpa [List.replicate_succ] using ih

theorem toList_padded (width n : ℕ) : (padded width n).toList =
    List.replicate (width - (Nat.toDigits 10 n).length) '0' ++ Nat.toDigits 10 n := by
  rw [padded, String.toList_ofList]

theorem isAsciiDigit_of_mem_padded {width n : ℕ} {c : Char} (h : c ∈ (padded width n).toList) :
    isAsciiDigit c = true := by
  rw [toList_padded] at h
  rcases List.mem_append.mp h with h | h
  · rw [List.eq_of_mem_replicate h]
    decide
  · exact Json.isAsciiDigit_of_mem_toDigits h

theorem le_length_padded (width n : ℕ) : width ≤ (padded width n).toList.length := by
  rw [toList_padded, List.length_append, List.length_replicate]
  omega

theorem decimalNumber_padded (width n : ℕ) : decimalNumber (padded width n).toList = n := by
  rw [toList_padded, decimalNumber_replicate_append, decimalNumber_toDigits]

/-! ## Digits without a place value -/

theorem isBlank_eq_false_of_isDigit {c : Char} (h : isDigit c = true) : isBlank c = false := by
  rcases Bool.or_eq_true _ _ ▸ h with h | h
  · exact isBlank_eq_false_of_isDecimal h
  · exact Ranges.contains_eq_false_of_apart (by decide) h

theorem digitIn?_ten_eq_none {c : Char} (h : isDecimal c = false) : digitIn? 10 c = none := by
  have hvalue : decimalValue? c = none := by simpa [isDecimal] using h
  rw [digitIn?, Option.filter_eq_none_iff]
  intro v hv
  rw [digitValue?, hvalue] at hv
  dsimp only at hv
  split_ifs at hv with hlower hupper
  · simp only [Bool.and_eq_true, decide_eq_true_eq] at hlower
    have hv := Option.some.inj hv
    simp only [decide_eq_true_eq]
    omega
  · simp only [Bool.and_eq_true, decide_eq_true_eq] at hupper
    have hv := Option.some.inj hv
    simp only [decide_eq_true_eq]
    omega

/-- A run of digits stops at the first one without a place value. -/
theorem digitRun?_ten_of_isDigit {cs : List Char} (h : ∀ c ∈ cs, isDigit c = true)
    (hother : ∃ c ∈ cs, isDecimal c = false) (needed : Bool) : digitRun? 10 needed cs = none ∨
      ∃ digits c rest, digitRun? 10 needed cs = some (digits,c :: rest) ∧ isDigit c = true := by
  induction cs generalizing needed with
  | nil => simp at hother
  | cons c cs ih =>
    obtain ⟨hc,hcs⟩ := List.forall_mem_cons.mp h
    by_cases hdecimal : isDecimal c = true
    · have hrest : ∃ c ∈ cs, isDecimal c = false := by
        obtain ⟨d,hd,hfalse⟩ := hother
        rcases List.mem_cons.mp hd with rfl | hd
        · simp [hdecimal] at hfalse
        · exact ⟨d,hd,hfalse⟩
      rw [digitRun?, digitIn?_ten_of_isDecimal hdecimal]
      rcases ih hcs hrest false with hnone | ⟨digits,d,rest,hsome,hd⟩
      · simp [hnone]
      · exact .inr ⟨_,d,rest,by rw [hsome]; rfl,hd⟩
    · have hmark : c ≠ '_' := by
        rintro rfl
        exact absurd hc (by decide)
      rw [digitRun?, digitIn?_ten_eq_none (Bool.eq_false_iff.mpr hdecimal)]
      cases needed with
      | true => exact .inl rfl
      | false => exact .inr ⟨[],c,cs,by simp [hmark],hc⟩

/-- A text of digits is a numeral if all of them have a place value and there are not too many. -/
theorem exists_readInteger_ten_iff {cs : List Char} (hne : cs ≠ []) (h : ∀ c ∈ cs, isDigit c = true) :
    (∃ n, readInteger 10 (String.ofList cs) = .ok n) ↔
      (∀ c ∈ cs, isDecimal c = true) ∧ cs.length ≤ maxDigits := by
  by_cases hall : ∀ c ∈ cs, isDecimal c = true
  · rw [readInteger_ten_of_isDecimal hne hall]
    by_cases hlen : maxDigits < cs.length
    · simp [hlen]
    · simpa [hlen, Nat.not_lt.mp hlen] using hall
  · have hother : ∃ c ∈ cs, isDecimal c = false := by simpa using hall
    obtain ⟨c,cs,rfl⟩ := List.exists_cons_of_ne_nil hne
    have hc := h c List.mem_cons_self
    refine iff_of_false ?_ fun hdec => hall hdec.1
    rintro ⟨n,hn⟩
    rw [readInteger, String.toList_ofList,
      List.dropWhile_cons_of_neg (by simp [isNumberBlank, isBlank_eq_false_of_isDigit hc]),
      splitSign_of_isDigit hc] at hn
    simp only [dropBaseMark_ten] at hn
    rcases digitRun?_ten_of_isDigit h hother true with hnone | ⟨digits,d,rest,hsome,hd⟩
    · simp [hnone] at hn
    · have hblank : isNumberBlank d = false := by
        simp [isNumberBlank, isBlank_eq_false_of_isDigit hd]
      rw [hsome] at hn
      dsimp only at hn
      split_ifs at hn with hlong hrest
      all_goals simp [hblank] at hrest

end Traceability.Number
