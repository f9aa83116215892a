import Mathlib.Data.Nat.Notation
import Mathlib.Tactic.Common
import Traceability.Json.Parser
import Traceability.Json.Printer
import Traceability.Marker.Basic

/-! # Reading strings

A string is read up to the quote that closes it, whatever follows. Each character is read on its
own: none of them is written as half of a pair.
-/
namespace Traceability.Json
open Text Marker

/-! ## Escapes -/

theorem escapeQuotes_append (cs ds : List Char) :
    escapeQuotes (cs ++ ds) = escapeQuotes cs ++ escapeQuotes ds := List.flatMap_append

theorem escapeQuotes_cons_of_ne {c : Char} (h : c ≠ '\x27') (cs : List Char) :
    escapeQuotes (c :: cs) = c :: escapeQuotes cs := by
  simp [escapeQuotes, h]

theorem escapeQuotes_of_notMem {cs : List Char} (h : '\x27' ∉ cs) : escapeQuotes cs = cs := by
  induction cs with
  | nil => rfl
  | cons c cs ih =>
    simp only [List.mem_cons, not_or] at h
    rw [escapeQuotes_cons_of_ne (Ne.symm h.1), ih h.2]

theorem length_le_length_escapeQuotes (cs : List Char) :
    cs.length ≤ (escapeQuotes cs).length := by
  induction cs with
  | nil => simp
  | cons c cs ih =>
    by_cases h : c = '\x27'
    · simp only [escapeQuotes, List.flatMap_cons, if_pos h] at ih ⊢
      simp only [List.length_append, List.length_cons]
      omega
    · rw [escapeQuotes_cons_of_ne h]
      simpa using ih

/-! ## Strings -/

/-- An escape by number that is no half of a pair is read as its character. -/
theorem readText_numberEscape {a b c d : Char} {n : ℕ} (h : hexFour? a b c d = some n)
    (hn : isLeadingHalf n = false) (rest : List Char) :
    readText ('\\' :: 'u' :: a :: b :: c :: d :: rest) =
      consChar (ofCodePoint n) (readText rest) := by
  rw [readText]
  simp only [h]
  split
  · next e f g k after =>
    cases hm : hexFour? e f g k with
    | none => simp [readText, hm, consChar]
    | some m => simp [hn]
  · rfl

theorem readText_escape {c d : Char} (h : escape? c = some d) (hu : c ≠ 'u') (rest : List Char) :
    readText ('\\' :: c :: rest) = consChar d (readText rest) := by
  rw [readText]
  · simp only [h]
  · intro _ _ _ _ _ hc _
    exact hu hc

theorem readText_plain {c : Char} (hq : c ≠ '\x22') (hb : c ≠ '\\') (hc : 32 ≤ c.toNat)
    (rest : List Char) : readText (c :: rest) = consChar c (readText rest) := by
  have hplain : ¬ (c.toNat < 32 ∨ c = '\\') := by
    rintro (h | h)
    · omega
    · exact hb h
  rw [readText]
  · rw [if_neg hq, if_neg hplain]
  · intro _ _ _ _ _ h _
    exact hb h
  · intro _ _ h _
    exact hb h

/-- The escape of a control character is four hexadecimal digits. -/
theorem exists_hexPadded_of_lt {n : ℕ} (h : n < 32) : ∃ a b c d, hexPadded 4 n = [a, b, c, d] ∧
    hexFour? a b c d = some n ∧ '\x27' ∉ hexPadded 4 n := by
  have hall : ∀ n < 32, hexPadded 4 n = ['0', '0', Nat.digitChar (n / 16), Nat.digitChar (n % 16)] ∧
      hexFour? '0' '0' (Nat.digitChar (n / 16)) (Nat.digitChar (n % 16)) = some n ∧
      '\x27' ∉ hexPadded 4 n := by
    decide +kernel
  exact ⟨_,_,_,_,hall n h⟩

theorem ofCodePoint_toNat {c : Char} (h : c.toNat < 128) : ofCodePoint c.toNat = c := by
  rw [ofCodePoint, if_neg (by simp only [firstHalf]; omega), Char.ofNat_toNat]

/-- One character is read back. -/
theorem readText_escapedChar (c : Char) (rest : List Char) :
    readText (escapeQuotes (escapedChar c) ++ rest) = consChar c (readText rest) := by
  by_cases hq : c = '\x27'
  · have hx : hexFour? '0' '0' '2' '7' = some 39 := by decide +kernel
    subst hq
    exact readText_numberEscape hx (by decide) rest
  · unfold escapedChar
    split_ifs with h₁ h₂ h₃ h₄ h₅ h₆ h₇ h₈
    · subst h₁
      exact readText_escape (by decide) (by decide) rest
    · subst h₂
      exact readText_escape (by decide) (by decide) rest
    · subst h₃
      exact readText_escape (by decide) (by decide) rest
    · subst h₄
      exact readText_escape (by decide) (by decide) rest
    · subst h₅
      exact readText_escape (by decide) (by decide) rest
    · subst h₆
      exact readText_escape (by decide) (by decide) rest
    · subst h₇
      exact readText_escape (by decide) (by decide) rest
    · obtain ⟨x,y,z,w,hx,hn,hquote⟩ := exists_hexPadded_of_lt h₈
      have hhalf : isLeadingHalf c.toNat = false := by
        simp only [isLeadingHalf, Bool.and_eq_false_iff, decide_eq_false_iff_not]
        omega
      rw [hx] at hquote ⊢
      rw [escapeQuotes_of_notMem (by simpa using hquote)]
      simp only [List.cons_append, List.nil_append]
      rw [readText_numberEscape hn hhalf, ofCodePoint_toNat (by omega)]
    · rw [escapeQuotes_cons_of_ne hq]
      exact readText_plain h₁ h₂ (by omega) rest

/-- A string is read back up to its closing quote. -/
theorem readText_quoted (cs rest : List Char) :
    readText (escapeQuotes (cs.flatMap escapedChar) ++ '\x22' :: rest) = some (cs,rest) := by
  induction cs with
  | nil => simp [escapeQuotes, readText]
  | cons c cs ih =>
    rw [List.flatMap_cons, escapeQuotes_append, List.append_assoc, readText_escapedChar, ih]
    rfl

theorem escapeQuotes_quotedText (s : String) : escapeQuotes (quotedText s) =
    '\x22' :: (escapeQuotes (s.toList.flatMap escapedChar) ++ ['\x22']) := by
  rw [quotedText, escapeQuotes_cons_of_ne (by decide), escapeQuotes_append]
  rfl

end Traceability.Json
