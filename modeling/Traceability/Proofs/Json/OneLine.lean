import Mathlib.Data.Int.Notation
import Mathlib.Data.Nat.Notation
import Mathlib.Tactic.Common
import Traceability.Json.Printer

/-! # Control characters in JSON

Strings escape their control characters and numbers have none. So the compact form is one line, and
the indented form holds no control characters but its line ends.
-/
namespace Traceability
open Number Text

/-- The text of an integer: a sign if it is negative, and decimal digits. -/
theorem toList_toString_int (n : ℤ) :
    (toString n).toList =
      if 0 ≤ n then Nat.toDigits 10 n.natAbs else '-' :: Nat.toDigits 10 n.natAbs := by
  rw [Int.toString_eq_repr, Int.repr_eq_if]
  by_cases h : 0 ≤ n
  · rw [if_pos h, if_pos h, Nat.toList_repr, show n.toNat = n.natAbs by omega]
  · rw [if_neg h, if_neg h, String.toList_append, Nat.toList_repr,
      show (-n).toNat = n.natAbs by omega]
    rfl

def Visible (cs : List Char) : Prop := ∀ c ∈ cs, 32 ≤ c.toNat

instance : DecidablePred Visible := fun cs => List.decidableBAll (fun c : Char => 32 ≤ c.toNat) cs

namespace Visible
variable {c : Char} {cs ds : List Char}

@[simp]
theorem nil : Visible [] := List.forall_mem_nil _

@[simp]
theorem cons_iff : Visible (c :: cs) ↔ 32 ≤ c.toNat ∧ Visible cs := List.forall_mem_cons

@[simp]
theorem append_iff : Visible (cs ++ ds) ↔ Visible cs ∧ Visible ds := List.forall_mem_append

theorem of_subset (h : Visible ds) (hsub : cs ⊆ ds) : Visible cs := fun c hc => h c (hsub hc)

theorem replicate (h : 32 ≤ c.toNat) (n : ℕ) : Visible (List.replicate n c) := by
  intro d hd
  rwa [List.eq_of_mem_replicate hd]

theorem notMem (h : Visible cs) (hc : c.toNat < 32) : c ∉ cs := fun hm => by
  have hle := h c hm
  omega

end Visible

theorem visible_toDigits (n : ℕ) : Visible (Nat.toDigits 10 n) := by
  intro c hc
  have hd := Nat.isDigit_of_mem_toDigits (by decide) (by decide) hc
  simp only [Char.isDigit, Bool.and_eq_true, decide_eq_true_eq] at hd
  have hle : 48 ≤ c.toNat := hd.1
  omega

namespace Number.Binary64

theorem visible_shortest (mantissa : ℕ) (exponent : ℤ) :
    Visible (shortest mantissa exponent).digits := by
  intro c hc
  have hm := (List.dropWhile_sublist _).subset (List.mem_reverse.mp hc)
  exact visible_toDigits _ c (List.mem_reverse.mp hm)

theorem visible_positional {d : Digits} (h : Visible d.digits) : Visible (positional d) := by
  have hzero : ∀ n, Visible (List.replicate n '0') := Visible.replicate (by decide)
  unfold positional
  split
  · simpa using h
  · next k _ _ =>
    split
    · simpa using ⟨h,hzero _⟩
    · have ht : Visible (d.digits.take k) := h.of_subset (List.take_subset k _)
      have hd : Visible (d.digits.drop k) := h.of_subset (List.drop_subset k _)
      simpa using ⟨ht,hd⟩
  · simpa using ⟨hzero _,h⟩

theorem visible_scientific {d : Digits} (h : Visible d.digits) : Visible (scientific d) := by
  have hd := visible_toDigits (d.point - 1).natAbs
  have hzero : ∀ n, Visible (List.replicate n '0') := Visible.replicate (by decide)
  simp only [scientific]
  split
  · next c c' cs he =>
    rw [he, Visible.cons_iff, Visible.cons_iff] at h
    by_cases hp : d.point - 1 < 0 <;> simp [h, hd, hp, hzero]
  · by_cases hp : d.point - 1 < 0 <;> simp [h, hd, hp, hzero]

theorem visible_toText (x : Binary64) : Visible x.toText.toList := by
  cases x with
  | nan => decide
  | infinite negative => cases negative <;> decide
  | finite negative mantissa exponent =>
    have hs := visible_shortest mantissa exponent
    simp only [toText, String.toList_ofList]
    have hb : Visible (if mantissa = 0 then ['0', '.', '0']
        else if -4 < (shortest mantissa exponent).point ∧ (shortest mantissa exponent).point ≤ 16
          then positional (shortest mantissa exponent)
          else scientific (shortest mantissa exponent)) := by
      split
      · simp
      · split
        · exact visible_positional hs
        · exact visible_scientific hs
    cases negative with
    | false => simpa using hb
    | true => simpa using hb

theorem visible_toJsonText (x : Binary64) : Visible x.toJsonText.toList := by
  unfold toJsonText
  split
  · decide
  · next negative => cases negative <;> decide
  · exact visible_toText x

end Number.Binary64

namespace Json

theorem visible_toString (n : ℤ) : Visible (toString n).toList := by
  have hd := visible_toDigits n.natAbs
  rw [toList_toString_int]
  split <;> simpa using hd

theorem visible_escapedChar (c : Char) : Visible (escapedChar c) := by
  have hx : ∀ n < 32, Visible (hexPadded 4 n) := by decide
  unfold escapedChar
  split_ifs with _ _ _ _ _ _ _ hc
  all_goals try simp
  · exact hx c.toNat hc
  · omega

theorem visible_quotedText (s : String) : Visible (quotedText s) := by
  simp only [quotedText, Visible.cons_iff, Visible.append_iff]
  refine ⟨by decide,fun d hd => ?_,by decide,Visible.nil⟩
  obtain ⟨c,-,hc⟩ := List.mem_flatMap.mp hd
  exact visible_escapedChar c d hc

mutual

theorem visible_compactChars : ∀ j : Json, Visible j.compactChars
  | .null => by simp [compactChars]
  | .bool b => by cases b <;> simp [compactChars]
  | .int n => visible_toString n
  | .float x => Binary64.visible_toJsonText x
  | .text s => visible_quotedText s
  | .list items => by simpa [compactChars] using visible_compactItems items
  | .object members => by simpa [compactChars] using visible_compactMembers members

theorem visible_compactItems : ∀ js : List Json, Visible (compactItems js)
  | [] => Visible.nil
  | [j] => visible_compactChars j
  | j :: i :: js => by
    have hj := visible_compactChars j
    have hi := visible_compactItems (i :: js)
    simpa [compactItems, hj] using hi

theorem visible_compactMembers : ∀ members : List (String × Json), Visible (compactMembers members)
  | [] => Visible.nil
  | [(name,j)] => by
    have hn := visible_quotedText name
    have hj := visible_compactChars j
    simpa [compactMembers, hn] using hj
  | (name,j) :: next :: rest => by
    have hn := visible_quotedText name
    have hj := visible_compactChars j
    have hr := visible_compactMembers (next :: rest)
    simpa [compactMembers, hn, hj] using hr

end

theorem newline_notMem_compactChars (j : Json) : '\n' ∉ j.compactChars :=
  (visible_compactChars j).notMem (by decide)

/-! ## The indented form -/

theorem escape_notMem_newLine (level : ℕ) : '\x1b' ∉ newLine level := by
  simp [newLine, List.mem_replicate]

theorem escape_notMem_quotedText (s : String) : '\x1b' ∉ quotedText s :=
  (visible_quotedText s).notMem (by decide)

mutual

/-- The indented form begins no terminal sequence. -/
theorem escape_notMem_indentedChars (level : ℕ) : ∀ j : Json, '\x1b' ∉ j.indentedChars level
  | .null => by simp [indentedChars]
  | .bool b => by cases b <;> simp [indentedChars]
  | .int n => (visible_toString n).notMem (by decide)
  | .float x => (Binary64.visible_toJsonText x).notMem (by decide)
  | .text s => escape_notMem_quotedText s
  | .list [] => by simp [indentedChars]
  | .list (j :: js) => by
    have hj := escape_notMem_indentedChars (level + 1) j
    have hjs := escape_notMem_indentedItems (level + 1) js
    simp [indentedChars, hj, hjs, escape_notMem_newLine]
  | .object [] => by simp [indentedChars]
  | .object ((name,j) :: rest) => by
    have hj := escape_notMem_indentedChars (level + 1) j
    have hrest := escape_notMem_indentedMembers (level + 1) rest
    simp [indentedChars, hj, hrest, escape_notMem_newLine, escape_notMem_quotedText]

theorem escape_notMem_indentedItems (level : ℕ) :
    ∀ js : List Json, '\x1b' ∉ indentedItems level js
  | [] => by simp [indentedItems]
  | j :: js => by
    have hj := escape_notMem_indentedChars level j
    have hjs := escape_notMem_indentedItems level js
    simp [indentedItems, hj, hjs, escape_notMem_newLine]

theorem escape_notMem_indentedMembers (level : ℕ) :
    ∀ members : List (String × Json), '\x1b' ∉ indentedMembers level members
  | [] => by simp [indentedMembers]
  | (name,j) :: rest => by
    have hj := escape_notMem_indentedChars level j
    have hrest := escape_notMem_indentedMembers level rest
    simp [indentedMembers, hj, hrest, escape_notMem_newLine, escape_notMem_quotedText]

end

end Json

end Traceability
