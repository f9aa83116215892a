import Mathlib.Data.Nat.Notation
import Mathlib.Tactic.Common
import Traceability.Proofs.Text.Search
import Traceability.Text.LowerCase

/-! # Words in the lower-case form of a text

A word of small ASCII letters occurs in the lower-case form of a text exactly when it occurs in the
text with its ASCII capitals alone put in lower case, unless it has one of the two letters that
capitals outside ASCII map to: an i comes from the dotted capital I and a k from the sign for
kelvin.
-/
namespace Traceability.Text

/-- A small ASCII letter that is the lower-case form of no capital but its own. -/
def isOwnLower (c : Char) : Bool := 97 ≤ c.toNat && c.toNat ≤ 122 && c != 'i' && c != 'k'

def lowerAsciiChar (c : Char) : Char :=
  if 65 ≤ c.toNat && c.toNat ≤ 90 then Char.ofNat (c.toNat + 32) else c

theorem lowerAscii_cons (c : Char) (cs : List Char) :
    lowerAscii (c :: cs) = lowerAsciiChar c :: lowerAscii cs := rfl

/-- Apart from the ASCII capitals, no run has small letters, and one alone maps to any: to a k. -/
theorem lowerRuns_beyond_ascii : ∀ run ∈ lowerRuns,
    (run.first = 0x41 ∧ run.last = 0x5A ∧ run.stride = 1 ∧ run.image = 0x61) ∨
      (0x7A < run.first ∧ (0x7A < run.image ∨ (run.last ≤ run.first ∧ run.image = 0x6B))) := by
  decide +kernel

theorem isOwnLower_eq_false_of_lt {c : Char} (h : 0x7A < c.toNat) : isOwnLower c = false := by
  have hc : ¬ c.toNat ≤ 122 := by omega
  simp [isOwnLower, hc]

theorem isOwnLower_ofNat_eq_false {n : ℕ} (h : 0x7A < n) : isOwnLower (Char.ofNat n) = false := by
  by_cases hv : n.isValidChar
  · apply isOwnLower_eq_false_of_lt
    rw [Char.ofNat, dif_pos hv]
    exact h
  · simp [Char.ofNat, hv, isOwnLower]

theorem lowerAsciiChar_of_lt {c : Char} (h : 0x5A < c.toNat) : lowerAsciiChar c = c := by
  have hc : ¬ c.toNat ≤ 90 := by omega
  simp [lowerAsciiChar, hc]

/-- The image of a character under a run. -/
theorem image?_spec {run : CaseRun} (hrun : run ∈ lowerRuns) {c : Char} {n : ℕ}
    (h : run.image? c.toNat = some n) : Char.ofNat n = lowerAsciiChar c ∨
      (isOwnLower (Char.ofNat n) = false ∧ isOwnLower (lowerAsciiChar c) = false) := by
  simp only [CaseRun.image?, Option.ite_none_right_eq_some, Bool.and_eq_true, decide_eq_true_eq,
    Option.some.injEq] at h
  obtain ⟨⟨⟨hfirst,hlast⟩,-⟩,rfl⟩ := h
  rcases lowerRuns_beyond_ascii run hrun with ⟨hf,hl,-,hi⟩ | ⟨hf,hi⟩
  · left
    have hc : 65 ≤ c.toNat ∧ c.toNat ≤ 90 := by omega
    have hn : run.image + (c.toNat - run.first) = c.toNat + 32 := by omega
    rw [hn, lowerAsciiChar, if_pos (by simpa using hc)]
  · right
    rw [lowerAsciiChar_of_lt (by omega)]
    refine ⟨?_,isOwnLower_eq_false_of_lt (by omega)⟩
    rcases hi with hi | ⟨hl,hi⟩
    · exact isOwnLower_ofNat_eq_false (by omega)
    · have hn : run.image + (c.toNat - run.first) = 0x6B := by omega
      rw [hn]
      decide

/-- The lower-case form of a character is the one of its ASCII capital, or neither of the two holds
a letter of its own. -/
theorem lowerChar_spec (before : List Char) (c : Char) (after : List Char) :
    (lowerChar before c after = ['i', '\u0307'] ∧ isOwnLower (lowerAsciiChar c) = false) ∨
      ∃ d, lowerChar before c after = [d] ∧ (d = lowerAsciiChar c ∨
        (isOwnLower d = false ∧ isOwnLower (lowerAsciiChar c) = false)) := by
  unfold lowerChar
  split_ifs with hi hs hm
  · subst hi
    exact .inl ⟨rfl,by decide⟩
  · subst hs
    exact .inr ⟨_,rfl,.inr ⟨by decide,by decide⟩⟩
  · subst hs
    exact .inr ⟨_,rfl,.inr ⟨by decide,by decide⟩⟩
  · refine .inr ⟨_,rfl,?_⟩
    cases hrun : lowerRuns.findSome? (·.image? c.toNat) with
    | some n =>
      obtain ⟨run,hmem,himage⟩ := List.exists_of_findSome?_eq_some hrun
      exact image?_spec hmem himage
    | none =>
      left
      have hcapital := List.findSome?_eq_none_iff.mp hrun ⟨0x41, 0x5A, 1, 0x61⟩ List.mem_cons_self
      have hc : ¬ (65 ≤ c.toNat ∧ c.toNat ≤ 90) := by
        simpa [CaseRun.image?, Nat.mod_one] using hcapital
      rw [lowerAsciiChar, if_neg (by simpa using hc)]
      rfl

/-- A word of letters of their own begins one form exactly if it begins the other one. -/
theorem prefix_lowerFrom_iff {word : List Char} (hword : ∀ c ∈ word, isOwnLower c = true)
    (before cs : List Char) : word <+: lowerFrom before cs ↔ word <+: lowerAscii cs := by
  induction cs generalizing before word with
  | nil => rfl
  | cons c cs ih =>
    cases word with
    | nil => simp
    | cons w word =>
      have hw := hword w List.mem_cons_self
      have ih := ih (fun c hc => hword c (List.mem_cons_of_mem w hc)) (c :: before)
      rw [lowerFrom, lowerAscii_cons, List.cons_prefix_cons]
      rcases lowerChar_spec before c cs with ⟨hl,ha⟩ | ⟨d,hl,rfl | ⟨hd,ha⟩⟩
      · rw [hl, List.cons_append, List.cons_prefix_cons]
        constructor
        · rintro ⟨rfl,-⟩
          exact absurd hw (by decide)
        · rintro ⟨rfl,-⟩
          simp [ha] at hw
      · rw [hl, List.singleton_append, List.cons_prefix_cons, ih]
      · rw [hl, List.singleton_append, List.cons_prefix_cons]
        constructor
        · rintro ⟨rfl,-⟩
          simp [hd] at hw
        · rintro ⟨rfl,-⟩
          simp [ha] at hw

theorem infix_lowerFrom_iff {word : List Char} (hne : word ≠ [])
    (hword : ∀ c ∈ word, isOwnLower c = true) (before cs : List Char) :
    word <:+: lowerFrom before cs ↔ word <:+: lowerAscii cs := by
  induction cs generalizing before with
  | nil => rfl
  | cons c cs ih =>
    have hprefix := prefix_lowerFrom_iff hword before (c :: cs)
    rw [lowerAscii_cons, List.infix_cons_iff, ← lowerAscii_cons, ← hprefix, ← ih (c :: before),
      lowerFrom]
    rcases lowerChar_spec before c cs with ⟨hl,-⟩ | ⟨d,hl,-⟩
    · have hapart : ∀ d ds, isOwnLower d = false → ¬ word <+: d :: ds := by
        intro d ds hd hp
        cases word with
        | nil => exact hne rfl
        | cons w word =>
          obtain ⟨rfl,-⟩ := List.cons_prefix_cons.mp hp
          simp [hd] at hword
      rw [hl, List.cons_append, List.infix_cons_iff, List.singleton_append, List.infix_cons_iff]
      simp only [hapart 'i' _ (by decide), hapart '\u0307' _ (by decide), false_or]
    · rw [hl, List.singleton_append, List.infix_cons_iff]

/-- A word of letters of their own occurs in the lower-case form of a text exactly if it occurs in
the text with its ASCII capitals put in lower case. -/
theorem infix_lower_iff {word : List Char} (hne : word ≠ [])
    (hword : ∀ c ∈ word, isOwnLower c = true) (cs : List Char) :
    word <:+: lower cs ↔ word <:+: lowerAscii cs :=
  infix_lowerFrom_iff hne hword [] cs

end Traceability.Text
