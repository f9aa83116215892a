import Mathlib.Data.Int.Notation
import Mathlib.Data.List.Basic
import Traceability.Json.Parser
import Traceability.Proofs.Json.OneLine

/-! # Reading integers

The digits of an integer are read up to a character that ends a value. Neither a fraction nor an
exponent begins there, and no word begins like an integer.
-/
namespace Traceability.Json
open Number Text

theorem isAsciiDigit_of_isDigit {c : Char} (h : c.isDigit = true) : isAsciiDigit c = true := by
  simp only [Char.isDigit, isAsciiDigit, Bool.and_eq_true, decide_eq_true_eq] at h ⊢
  exact ⟨h.1,h.2⟩

theorem isAsciiDigit_of_mem_toDigits {n : ℕ} {c : Char} (h : c ∈ Nat.toDigits 10 n) :
    isAsciiDigit c = true :=
  isAsciiDigit_of_isDigit (Nat.isDigit_of_mem_toDigits (by decide) (by decide) h)

/-- A positive number does not begin with a zero. -/
theorem head?_toDigits_ne {n : ℕ} (h : 0 < n) : (Nat.toDigits 10 n).head? ≠ some '0' := by
  induction n using Nat.strongRecOn with
  | ind n ih =>
    by_cases hn : n < 10
    · have hall : ∀ n < 10, 0 < n → Nat.digitChar n ≠ '0' := by decide
      rw [Nat.toDigits_of_lt_base hn]
      simpa using hall n hn h
    · have hhead := ih (n / 10) (by omega) (by omega)
      rw [Nat.toDigits_of_base_le (by decide) (by omega), List.head?_append_of_ne_nil]
      · exact hhead
      · exact Nat.toDigits_ne_nil

/-- What may stand behind a value: the end, or a character that ends it. -/
def EndsValue (rest : List Char) : Prop := ∀ c ∈ rest.head?, c = ',' ∨ c = ']' ∨ c = '\x7d'

theorem takeWhile_append_of_endsValue {cs rest : List Char} (hcs : ∀ c ∈ cs, isAsciiDigit c = true)
    (h : EndsValue rest) : (cs ++ rest).takeWhile isAsciiDigit = cs := by
  rw [List.takeWhile_append_of_pos hcs]
  cases rest with
  | nil => simp
  | cons c rest =>
    have hc : isAsciiDigit c = false := by
      rcases h c rfl with rfl | rfl | rfl <;> decide
    simp [hc]

theorem integerPart_toDigits (n : ℕ) {rest : List Char} (h : EndsValue rest) :
    integerPart (Nat.toDigits 10 n ++ rest) = Nat.toDigits 10 n := by
  rcases Nat.eq_zero_or_pos n with rfl | hn
  · rfl
  · have hhead := head?_toDigits_ne hn
    have htake := takeWhile_append_of_endsValue (fun c => isAsciiDigit_of_mem_toDigits (n := n)) h
    unfold integerPart
    split
    · next heq =>
      cases hd : Nat.toDigits 10 n with
      | nil => exact absurd hd Nat.toDigits_ne_nil
      | cons c cs =>
        rw [hd] at heq hhead
        simp only [List.cons_append, List.cons.injEq] at heq
        exact absurd (congrArg some heq.1) hhead
    · exact htake

theorem fractionPart_of_endsValue {rest : List Char} (h : EndsValue rest) :
    fractionPart rest = [] := by
  unfold fractionPart
  split
  · next cs =>
    rcases h '.' rfl with h | h | h <;> exact absurd h (by decide)
  · rfl

theorem exponentPart_of_endsValue {rest : List Char} (h : EndsValue rest) :
    exponentPart rest = [] := by
  cases rest with
  | nil => rfl
  | cons c rest =>
    have hc : ¬ (c = 'e' ∨ c = 'E') := by
      rcases h c rfl with rfl | rfl | rfl <;> decide
    simp [exponentPart, hc]

theorem ofDigits_toDigits (n : ℕ) :
    ofDigits 10 ((Nat.toDigits 10 n).map (·.toNat - 48)) = n := by
  have h := Nat.ofDigitChars_ten_toDigits (n := n)
  rw [Nat.ofDigitChars_eq_foldl] at h
  rw [ofDigits, List.foldl_map]
  simpa [Nat.mul_comm] using h

theorem length_toDigits_le {n : ℕ} (h : n < writableBound) :
    (Nat.toDigits 10 n).length ≤ maxDigits :=
  (Nat.length_toDigits_le_iff (by decide) (by decide)).mpr h

theorem ne_of_isAsciiDigit {c d : Char} (hc : isAsciiDigit c = true)
    (hd : isAsciiDigit d = false) : c ≠ d := by
  rintro rfl
  exact absurd hc (by simp [hd])

theorem exists_toDigits_eq_cons (n : ℕ) :
    ∃ c cs, Nat.toDigits 10 n = c :: cs ∧ isAsciiDigit c = true := by
  cases hd : Nat.toDigits 10 n with
  | nil => exact absurd hd Nat.toDigits_ne_nil
  | cons c cs =>
    exact ⟨c,cs,rfl,isAsciiDigit_of_mem_toDigits (n := n) (hd ▸ List.mem_cons_self)⟩

/-- The sign of a number at the start of a text, and the text behind it. -/
theorem readNumber_toDigits (negative : Bool) {n : ℕ} (hn : n < writableBound) {rest : List Char}
    (h : EndsValue rest) :
    readNumber ((if negative then ['-'] else []) ++ (Nat.toDigits 10 n ++ rest)) =
      .ok (.int (if negative then -n else n),rest) := by
  have hwhole := integerPart_toDigits n h
  have hlen : ¬ maxDigits < (Nat.toDigits 10 n).length := Nat.not_lt.mpr (length_toDigits_le hn)
  unfold readNumber
  split
  next sign body hread =>
  obtain ⟨rfl,rfl⟩ : sign = negative ∧ body = Nat.toDigits 10 n ++ rest := by
    cases negative with
    | true => exact ⟨(Prod.mk.inj hread).1.symm,(Prod.mk.inj hread).2.symm⟩
    | false =>
      obtain ⟨c,cs,hcs,hc⟩ := exists_toDigits_eq_cons n
      have hne := ne_of_isAsciiDigit hc (show isAsciiDigit '-' = false by decide)
      rw [hcs] at hread ⊢
      split at hread
      · next heq => exact absurd (List.cons.inj heq).1 hne
      · exact ⟨(Prod.mk.inj hread).1.symm,(Prod.mk.inj hread).2.symm⟩
  simp only [hwhole, List.drop_left, fractionPart_of_endsValue h, exponentPart_of_endsValue h,
    List.isEmpty_nil, List.length_nil, List.drop_zero, Bool.and_self, if_true, if_neg hlen,
    ofDigits_toDigits, List.isEmpty_eq_false_iff.mpr Nat.toDigits_ne_nil, Bool.false_eq_true,
    if_false]

/-- An integer is read back. -/
theorem readNumber_toString {n : ℤ} (hn : isWritable (.int n) = true) {rest : List Char}
    (h : EndsValue rest) : readNumber ((toString n).toList ++ rest) = .ok (.int n,rest) := by
  have hlt : n.natAbs < writableBound := by
    simpa [isWritable, Number.isWritable] using hn
  rw [toList_toString_int]
  by_cases hs : 0 ≤ n
  · have hr := readNumber_toDigits false hlt h
    have habs : (n.natAbs : ℤ) = n := Int.natAbs_of_nonneg hs
    rw [if_neg Bool.false_ne_true, if_neg Bool.false_ne_true, habs] at hr
    rw [if_pos hs]
    exact hr
  · have hr := readNumber_toDigits true hlt h
    have habs : -(n.natAbs : ℤ) = n := by omega
    rw [if_pos rfl, if_pos rfl, habs] at hr
    rw [if_neg hs]
    exact hr

/-- An integer begins with a digit, or with a minus sign and a digit. -/
theorem exists_toString_eq_append (n : ℤ) : ∃ c cs, isAsciiDigit c = true ∧
    ((toString n).toList = c :: cs ∨ (toString n).toList = '-' :: c :: cs) := by
  obtain ⟨c,cs,hcs,hc⟩ := exists_toDigits_eq_cons n.natAbs
  refine ⟨c,cs,hc,?_⟩
  rw [toList_toString_int, hcs]
  split
  · exact .inl rfl
  · exact .inr rfl

theorem quote_notMem_toString (n : ℤ) : '\x27' ∉ (toString n).toList := by
  have hdigits : '\x27' ∉ Nat.toDigits 10 n.natAbs := by
    intro h
    exact absurd (isAsciiDigit_of_mem_toDigits h) (by decide)
  rw [toList_toString_int]
  split
  · exact hdigits
  · simpa using hdigits

/-- No word is read where an integer stands. -/
theorem readWord?_toString (n : ℤ) (rest : List Char) :
    readWord? ((toString n).toList ++ rest) = none := by
  obtain ⟨c,cs,hc,h⟩ := exists_toString_eq_append n
  have hne := fun d (hd : isAsciiDigit d = false) => (ne_of_isAsciiDigit hc hd).symm
  rcases h with h | h
  · rw [h]
    simp [readWord?, words, after?, hne 'n' (by decide), hne 't' (by decide),
      hne 'f' (by decide), hne 'N' (by decide), hne 'I' (by decide), hne '-' (by decide)]
  · rw [h]
    simp [readWord?, words, after?, hne 'I' (by decide)]

end Traceability.Json
