import Mathlib.Tactic.Common
import Traceability.Text.Blank
import Traceability.Text.Word

/-! # Classes of characters without common members -/
namespace Traceability.Text

/-- Classes of which no two ranges overlap have no common character. -/
theorem Ranges.contains_eq_false_of_apart {r s : Ranges} {c : Char}
    (h : ∀ a ∈ r, ∀ b ∈ s, a.2 < b.1 ∨ b.2 < a.1) (hc : r.contains c = true) :
    s.contains c = false := by
  obtain ⟨a,ha,ha₁,ha₂⟩ := (Ranges.contains_iff r c).mp hc
  rw [← Bool.not_eq_true, Ranges.contains_iff]
  rintro ⟨b,hb,hb₁,hb₂⟩
  have hab := h a ha b hb
  omega

theorem isBlank_of_isWord {c : Char} (h : isWord c = true) : isBlank c = false :=
  Ranges.contains_eq_false_of_apart (r := wordRanges) (s := blankRanges) (by decide +kernel) h

theorem isWord_of_isAsciiLetter {c : Char} (h : isAsciiLetter c = true) : isWord c = true := by
  apply (Ranges.contains_iff wordRanges c).mpr
  simp only [isAsciiLetter, isAsciiLetter.isAsciiUpper, isAsciiLetter.isAsciiLower, Bool.or_eq_true,
    Bool.and_eq_true, decide_eq_true_eq] at h
  rcases h with h | h
  · exact ⟨(0x41,0x5A),by decide +kernel,h⟩
  · exact ⟨(0x61,0x7A),by decide +kernel,h⟩

end Traceability.Text
