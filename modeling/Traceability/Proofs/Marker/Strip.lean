import Traceability.Marker.Inject
import Traceability.Proofs.Text.Search

/-! # Taking an attribute out again

A line that does not mention an attribute is left alone, and an attribute that was written behind a
tag is taken out without a trace: its name cannot begin in front of it, because a blank stands
there, and its value ends at its closing quote, because no quote is written inside it.
-/
namespace Traceability.Marker
open Text

theorem mentions_eq_false_iff {attr line : List Char} :
    mentions attr line = false ↔ ¬ attributeLead attr <:+: line := occursIn_eq_false_iff

theorem attributeLength?_eq_none {attr cs : List Char} (h : ¬ attributeLead attr <+: cs) :
    attributeLength? attr cs = none := by
  rw [attributeLength?, after?_eq_none_iff.mpr h]

theorem paddedLength?_eq_none {attr cs : List Char} (h : ¬ attributeLead attr <:+: cs) :
    paddedLength? attr cs = none := by
  induction cs with
  | nil => exact attributeLength?_eq_none fun hp => h hp.isInfix
  | cons c cs ih =>
    have hl : attributeLength? attr (c :: cs) = none :=
      attributeLength?_eq_none fun hp => h hp.isInfix
    have ht := ih fun hi => h (hi.trans (List.suffix_cons c cs).isInfix)
    simp [paddedLength?, ht, hl]

theorem strip_of_not_infix {attr line : List Char} (h : ¬ attributeLead attr <:+: line) :
    strip attr line = line := by
  rw [strip]
  induction line with
  | nil => rfl
  | cons c line ih =>
    have ht := ih fun hi => h (hi.trans (List.suffix_cons c line).isInfix)
    simp [stripFrom, paddedLength?_eq_none h, ht]

/-- Nothing is taken out of a line that does not mention the attribute. -/
theorem strip_of_mentions_eq_false {attr line : List Char} (h : mentions attr line = false) :
    strip attr line = line := strip_of_not_infix (mentions_eq_false_iff.mp h)

theorem blank_notMem_attributeLead {attr : List Char} (h : ∀ c ∈ attr, isBlank c = false) :
    ' ' ∉ attributeLead attr := by
  intro hm
  rcases List.mem_append.mp hm with hm | hm
  · exact absurd (h ' ' hm) (by decide +kernel)
  · simp at hm

theorem newline_notMem_of_notBlank {attr : List Char} (h : ∀ c ∈ attr, isBlank c = false) :
    '\n' ∉ attr := by
  intro hm
  exact absurd (h '\n' hm) (by decide +kernel)

/-- No attribute begins in front of a written one. -/
theorem paddedLength?_append_eq_none {attr front back : List Char}
    (hblank : ∀ c ∈ attr, isBlank c = false) (hne : front ≠ [])
    (hlast : ∀ c ∈ front.getLast?, isBlank c = false) (hfront : ¬ attributeLead attr <:+: front) :
    paddedLength? attr (front ++ ' ' :: back) = none := by
  induction front with
  | nil => exact absurd rfl hne
  | cons c front ih =>
    have hlead : attributeLength? attr (c :: front ++ ' ' :: back) = none := by
      apply attributeLength?_eq_none
      intro hp
      exact hfront (prefix_of_prefix_append_cons (blank_notMem_attributeLead hblank) hp).isInfix
    rw [List.cons_append] at hlead ⊢
    rw [paddedLength?, hlead]
    by_cases hc : isBlank c = true
    · have hf : front ≠ [] := by
        rintro rfl
        simp [hc] at hlast
      have ht := ih hf (by simpa [List.getLast?_cons, hf, List.getLast?_eq_some_getLast] using hlast)
        fun hi => hfront (hi.trans (List.suffix_cons c front).isInfix)
      simp [hc, ht]
    · simp [hc]

theorem closedLength?_append {close : Char} {value back : List Char} (h : close ∉ value) :
    closedLength? close (value ++ close :: back) = some (value.length + 1) := by
  induction value with
  | nil => simp [closedLength?]
  | cons c value ih =>
    simp only [List.mem_cons, not_or] at h
    simp [closedLength?, Ne.symm h.1, ih h.2]

/-- An attribute as it is written: a blank, the name, an equals sign and the value in single quotes. -/
def quotedAttribute (attr value : List Char) : List Char :=
  ' ' :: (attr ++ '=' :: '\x27' :: (value ++ ['\x27']))

theorem quotedAttribute_eq (attr value : List Char) : quotedAttribute attr value =
    ' ' :: (attributeLead attr ++ '\x27' :: (value ++ ['\x27'])) := by
  rw [quotedAttribute, attributeLead, List.append_assoc]
  rfl

theorem attributeText_eq (attr value : List Char) :
    attributeText attr value = quotedAttribute attr value :=
  (quotedAttribute_eq attr value).symm

theorem paddedLength?_quotedAttribute {attr value back : List Char} (hne : attr ≠ [])
    (hblank : ∀ c ∈ attr, isBlank c = false) (hvalue : '\x27' ∉ value) :
    paddedLength? attr (quotedAttribute attr value ++ back) =
      some (quotedAttribute attr value).length := by
  have hlen : attributeLength? attr (attributeLead attr ++ '\x27' :: (value ++ '\x27' :: back)) =
      some (value.length + 2 + (attributeLead attr).length) := by
    rw [attributeLength?, after?_append]
    simp [valueLength?, closing?, closedLength?_append hvalue]
  have hpad : paddedLength? attr (attributeLead attr ++ '\x27' :: (value ++ '\x27' :: back)) =
      some (value.length + 2 + (attributeLead attr).length) := by
    cases attr with
    | nil => exact absurd rfl hne
    | cons a attr =>
      have ha := hblank a (List.mem_cons_self ..)
      simp only [attributeLead, List.cons_append] at hlen ⊢
      rw [paddedLength?, if_neg (by simp [ha]), hlen]
  have hb : isBlank ' ' = true := by decide +kernel
  simp only [quotedAttribute_eq, List.cons_append, List.append_assoc, List.nil_append]
  rw [paddedLength?, if_pos hb, hpad]
  simp
  omega

theorem stripFrom_append_of_length {attr gone rest : List Char} {n : ℕ} (h : gone.length = n) :
    stripFrom attr n (gone ++ rest) = stripFrom attr 0 rest := by
  induction gone generalizing n with
  | nil => simp_all
  | cons c gone ih =>
    subst h
    simp [stripFrom, ih]

/-- A written attribute is taken out, and what stands in front of it stays. -/
theorem strip_append_quotedAttribute {attr value front back : List Char} (hne : attr ≠ [])
    (hblank : ∀ c ∈ attr, isBlank c = false) (hvalue : '\x27' ∉ value)
    (hlast : ∀ c ∈ front.getLast?, isBlank c = false) (hfront : ¬ attributeLead attr <:+: front) :
    strip attr (front ++ quotedAttribute attr value ++ back) = front ++ strip attr back := by
  induction front with
  | nil =>
    have hp : paddedLength? attr (quotedAttribute attr value ++ back) =
        some (quotedAttribute attr value).length := paddedLength?_quotedAttribute hne hblank hvalue
    simp only [strip, List.nil_append]
    rw [quotedAttribute_eq, List.cons_append] at hp ⊢
    rw [stripFrom, hp]
    simp only [List.length_cons, Nat.add_sub_cancel]
    exact stripFrom_append_of_length rfl
  | cons c front ih =>
    have hp : paddedLength? attr (c :: front ++ ' ' :: ((quotedAttribute attr value).tail ++ back)) =
        none := paddedLength?_append_eq_none hblank (List.cons_ne_nil c front) hlast hfront
    have ht := ih
      (by cases front with
        | nil => simp
        | cons d front => simpa [List.getLast?_cons] using hlast)
      fun hi => hfront (hi.trans (List.suffix_cons c front).isInfix)
    simp only [strip, quotedAttribute_eq, List.cons_append, List.tail_cons, List.append_assoc]
      at hp ht ⊢
    simp only [stripFrom, hp, ht]

end Traceability.Marker
