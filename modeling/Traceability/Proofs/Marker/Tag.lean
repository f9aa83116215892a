import Mathlib.Data.List.TakeWhile
import Traceability.Marker.Inject
import Traceability.Proofs.Text.Classes
import Traceability.Proofs.Text.Search

/-! # The place behind the first tag of a line

A text is inserted behind the first tag of the given name, and the place is described apart from
the search for it. The search for the first tag of any name sees the same tag before and after
something was inserted there.
-/
namespace Traceability.Marker
open Text

/-! ## Characters of names -/

theorem endsName_eq_false_of_isWord {c : Char} (h : isWord c = true) : endsName c = false := by
  have hs : c ≠ '/' := by rintro rfl; revert h; decide +kernel
  have hg : c ≠ '>' := by rintro rfl; revert h; decide +kernel
  simp [endsName, isBlank_of_isWord h, hs, hg]

theorem endsName_eq_false_of_isElementNameChar {c : Char} (h : isElementNameChar c = true) :
    endsName c = false := by
  simp only [isElementNameChar, Bool.or_eq_true, beq_iff_eq] at h
  rcases h with (h | rfl) | rfl
  · exact endsName_eq_false_of_isWord h
  · decide +kernel
  · decide +kernel

theorem isElementNameChar_of_isAsciiLetter {c : Char} (h : isAsciiLetter c = true) :
    isElementNameChar c = true := by
  simp [isElementNameChar, isWord_of_isAsciiLetter h]

theorem isElementNameChar_of_mem {name : List Char} (h : isElementName name = true) {c : Char}
    (hc : c ∈ name) : isElementNameChar c = true := by
  cases name with
  | nil => simp at hc
  | cons d name =>
    simp only [isElementName, Bool.and_eq_true, List.all_eq_true] at h
    rcases List.mem_cons.mp hc with rfl | hc
    · have hb := h.1
      simp only [beginsElementName, Bool.or_eq_true, beq_iff_eq] at hb
      rcases hb with (hb | rfl) | rfl
      · exact isElementNameChar_of_isAsciiLetter hb
      · decide +kernel
      · decide +kernel
    · exact h.2 c hc

theorem isElementNameChar_of_isTagNameChar {c : Char} (h : isTagNameChar c = true) :
    isElementNameChar c = true := by
  simp only [isTagNameChar, Bool.or_eq_true, beq_iff_eq] at h
  rcases h with (h | h) | rfl
  · exact isElementNameChar_of_isAsciiLetter h
  · have hw : isWord c = true := by
      apply (Ranges.contains_iff wordRanges c).mpr
      simp only [isAsciiDigit, Bool.and_eq_true, decide_eq_true_eq] at h
      exact ⟨(0x30,0x39),by decide +kernel,h⟩
    simp [isElementNameChar, hw]
  · decide +kernel

/-! ## The place -/

/-- A name in front of the text is complete: a blank, a slash, an angle bracket or nothing follows. -/
def NameEnds (rest : List Char) : Prop := ∀ c ∈ rest.head?, endsName c = true

/-- The first place in a line behind a tag of the given name that is complete there. -/
structure BehindFirstTag (tag line before after : List Char) : Prop where
  cut : line = before ++ after
  tagged : '<' :: tag <:+ before
  ends : NameEnds after
  first : ∀ b a, line = b ++ a → '<' :: tag <:+ b → NameEnds a → before.length ≤ b.length

theorem afterTag?_eq_some_iff {tag cs rest : List Char} :
    afterTag? tag cs = some rest ↔ cs = '<' :: tag ++ rest ∧ NameEnds rest := by
  rw [afterTag?]
  cases h : after? ('<' :: tag) cs with
  | none =>
    rw [after?_eq_none_iff] at h
    constructor
    · intro hn
      simp at hn
    · rintro ⟨rfl,-⟩
      exact absurd (List.prefix_append ..) h
  | some found =>
    rw [after?_eq_some_iff] at h
    subst h
    cases found with
    | nil => simp +contextual [NameEnds]
    | cons c found =>
      by_cases hc : endsName c = true
      · simp only [hc, if_true, Option.some.injEq, List.append_cancel_left_eq]
        constructor
        · rintro rfl
          exact ⟨rfl,by simp [NameEnds, hc]⟩
        · exact fun h => h.1
      · simp only [hc]
        constructor
        · intro hn
          simp at hn
        · rintro ⟨he,hn⟩
          rw [List.append_cancel_left_eq] at he
          subst he
          exact absurd (hn c rfl) hc

/-- Where no tag begins with the first character, the place is one behind the remaining line. -/
theorem BehindFirstTag.cons_iff {tag cs before after : List Char} {c : Char}
    (h : afterTag? tag (c :: cs) = none) :
    BehindFirstTag tag (c :: cs) before after ↔
      ∃ b, before = c :: b ∧ BehindFirstTag tag cs b after := by
  have inner : ∀ b a, c :: cs = b ++ a → '<' :: tag <:+ b → NameEnds a →
      ∃ b', b = c :: b' ∧ cs = b' ++ a ∧ '<' :: tag <:+ b' := by
    intro b a hb ht ha
    cases b with
    | nil => simp at ht
    | cons d b =>
      obtain ⟨rfl,hcs⟩ := List.cons.inj hb
      rcases List.suffix_cons_iff.mp ht with he | hs
      · have hn := afterTag?_eq_some_iff.mpr ⟨show c :: cs = '<' :: tag ++ a by rw [hb, he],ha⟩
        simp [h] at hn
      · exact ⟨b,rfl,hcs,hs⟩
  constructor
  · intro hb
    obtain ⟨b,rfl,hcs,hs⟩ := inner before after hb.cut hb.tagged hb.ends
    refine ⟨b,rfl,hcs,hs,hb.ends,?_⟩
    intro b' a' hcut ht ha
    have hf := hb.first (c :: b') a' (by simp [hcut]) (ht.trans (List.suffix_cons ..)) ha
    simpa using hf
  · rintro ⟨b,rfl,hb⟩
    refine ⟨by simp [hb.cut],hb.tagged.trans (List.suffix_cons ..),hb.ends,?_⟩
    intro b' a' hcut ht ha
    obtain ⟨b',rfl,hcs,hs⟩ := inner b' a' hcut ht ha
    have hf := hb.first b' a' hcs hs ha
    simpa using hf

theorem insertInTag?_of_behindFirstTag {tag line before after : List Char}
    (h : BehindFirstTag tag line before after) (inserted : List Char) :
    insertInTag? tag inserted line = some (before ++ inserted ++ after) := by
  induction line generalizing before with
  | nil =>
    have ht := h.tagged
    simp [(List.append_eq_nil_iff.mp h.cut.symm).1] at ht
  | cons c cs ih =>
    rw [insertInTag?]
    cases ha : afterTag? tag (c :: cs) with
    | none =>
      obtain ⟨b,rfl,hb⟩ := (BehindFirstTag.cons_iff ha).mp h
      simp [ih hb]
    | some rest =>
      obtain ⟨hcut,hends⟩ := afterTag?_eq_some_iff.mp ha
      have hlen := h.first ('<' :: tag) rest hcut List.suffix_rfl hends
      have hbefore := h.tagged.eq_of_length_le hlen
      have hafter := hcut.symm.trans h.cut
      rw [← hbefore, List.append_cancel_left_eq] at hafter
      simp [← hbefore, hafter]

theorem exists_behindFirstTag {tag inserted line marked : List Char}
    (h : insertInTag? tag inserted line = some marked) :
    ∃ before after, BehindFirstTag tag line before after := by
  induction line generalizing marked with
  | nil => simp [insertInTag?] at h
  | cons c cs ih =>
    rw [insertInTag?] at h
    cases ha : afterTag? tag (c :: cs) with
    | none =>
      rw [ha] at h
      obtain ⟨rest,hr,-⟩ := Option.map_eq_some_iff.mp h
      obtain ⟨before,after,hb⟩ := ih hr
      exact ⟨c :: before,after,(BehindFirstTag.cons_iff ha).mpr ⟨before,rfl,hb⟩⟩
    | some rest =>
      obtain ⟨hcut,hends⟩ := afterTag?_eq_some_iff.mp ha
      refine ⟨'<' :: tag,rest,hcut,List.suffix_rfl,hends,?_⟩
      intro b a _ ht _
      exact ht.length_le

/-- The text is inserted at the place behind the first tag and nowhere else. -/
theorem insertInTag?_eq_some_iff {tag inserted line marked : List Char} :
    insertInTag? tag inserted line = some marked ↔
      ∃ before after, BehindFirstTag tag line before after ∧ marked = before ++ inserted ++ after := by
  constructor
  · intro h
    obtain ⟨before,after,hb⟩ := exists_behindFirstTag h
    have hi := insertInTag?_of_behindFirstTag hb inserted
    exact ⟨before,after,hb,Option.some.inj (h.symm.trans hi)⟩
  · rintro ⟨before,after,hb,rfl⟩
    exact insertInTag?_of_behindFirstTag hb inserted

theorem insertInTag?_eq_none_iff {tag inserted line : List Char} :
    insertInTag? tag inserted line = none ↔ ∀ before after, ¬ BehindFirstTag tag line before after := by
  constructor
  · intro h before after hb
    simp [insertInTag?_of_behindFirstTag hb inserted] at h
  · intro h
    cases hi : insertInTag? tag inserted line with
    | none => rfl
    | some marked =>
      obtain ⟨before,after,hb⟩ := exists_behindFirstTag hi
      exact absurd hb (h before after)

/-! ## The first tag of any name -/

theorem anySuffix_iff {test : List Char → Bool} {cs : List Char} :
    anySuffix test cs = true ↔ ∃ s, s <:+ cs ∧ test s = true := by
  induction cs with
  | nil => simp [anySuffix]
  | cons c cs ih =>
    rw [anySuffix, Bool.or_eq_true, ih]
    constructor
    · rintro (h | ⟨s,hs,h⟩)
      · exact ⟨c :: cs,List.suffix_rfl,h⟩
      · exact ⟨s,hs.trans (List.suffix_cons ..),h⟩
    · rintro ⟨s,hs,h⟩
      rcases List.suffix_cons_iff.mp hs with rfl | hs
      · exact Or.inl h
      · exact Or.inr ⟨s,hs,h⟩

theorem opensTag_iff {line : List Char} :
    opensTag line = true ↔ ∃ c rest, '<' :: c :: rest <:+ line ∧ isAsciiLetter c = true := by
  rw [opensTag, anySuffix_iff]
  constructor
  · rintro ⟨s,hs,h⟩
    unfold beginsTag at h
    split at h
    · exact ⟨_,_,hs,h⟩
    · simp at h
  · rintro ⟨c,rest,hs,h⟩
    exact ⟨_,hs,h⟩

theorem opensTag_append_right {line : List Char} (h : opensTag line = true) (more : List Char) :
    opensTag (line ++ more) = true := by
  obtain ⟨c,rest,⟨front,rfl⟩,hc⟩ := opensTag_iff.mp h
  exact opensTag_iff.mpr ⟨c,rest ++ more,⟨front,by simp⟩,hc⟩

theorem tagName?_cons_cons (c d : Char) (cs : List Char) :
    tagName? (c :: d :: cs) =
      if c = '<' ∧ isAsciiLetter d = true then some (d :: cs.takeWhile isTagNameChar)
      else tagName? (d :: cs) := by
  by_cases hc : c = '<'
  · subst hc
    simp [tagName?]
  · rw [tagName?]
    · simp [hc]
    · intro e es he
      exact absurd he hc

theorem opensTag_cons_cons (c d : Char) (cs : List Char) :
    opensTag (c :: d :: cs) = true ↔
      (c = '<' ∧ isAsciiLetter d = true) ∨ opensTag (d :: cs) = true := by
  rw [opensTag, anySuffix, Bool.or_eq_true]
  by_cases hc : c = '<'
  · subst hc
    simp [beginsTag, opensTag]
  · have hb : beginsTag (c :: d :: cs) = false := by
      unfold beginsTag
      split
      · next h => exact absurd (List.cons.inj h).1 hc
      · rfl
    simp [hb, hc, opensTag]

/-- A line that opens a tag has a first one, and its name is a letter and more name characters. -/
theorem exists_tagName?_of_opensTag {line : List Char} (h : opensTag line = true) :
    ∃ c rest, tagName? line = some (c :: rest) ∧ isAsciiLetter c = true ∧
      ∀ d ∈ rest, isTagNameChar d = true := by
  induction line with
  | nil => simp [opensTag, anySuffix, beginsTag] at h
  | cons c line ih =>
    cases line with
    | nil => simp [opensTag, anySuffix, beginsTag] at h
    | cons d cs =>
      rw [tagName?_cons_cons]
      by_cases hc : c = '<' ∧ isAsciiLetter d = true
      · rw [if_pos hc]
        exact ⟨d,_,rfl,hc.2,fun e he => List.mem_takeWhile_imp he⟩
      · rw [if_neg hc]
        exact ih (((opensTag_cons_cons c d cs).mp h).resolve_left hc)

theorem takeWhile_append_congr {test : Char → Bool} (cs : List Char) {x y : List Char}
    (hx : ∀ c ∈ x.head?, test c = false) (hy : ∀ c ∈ y.head?, test c = false) :
    (cs ++ x).takeWhile test = (cs ++ y).takeWhile test := by
  induction cs with
  | nil => cases x <;> cases y <;> simp_all
  | cons c cs ih => simp only [List.cons_append, List.takeWhile_cons, ih]

/-- What follows a tag does not change its name if the name ends there. -/
theorem tagName?_append_congr {front x y : List Char} (ho : opensTag front = true)
    (hx : ∀ c ∈ x.head?, isTagNameChar c = false) (hy : ∀ c ∈ y.head?, isTagNameChar c = false) :
    tagName? (front ++ x) = tagName? (front ++ y) := by
  induction front with
  | nil => simp [opensTag, anySuffix, beginsTag] at ho
  | cons c front ih =>
    cases front with
    | nil => simp [opensTag, anySuffix, beginsTag] at ho
    | cons d cs =>
      simp only [List.cons_append, tagName?_cons_cons, takeWhile_append_congr cs hx hy]
      by_cases hc : c = '<' ∧ isAsciiLetter d = true
      · simp only [if_pos hc]
      · simp only [if_neg hc]
        exact ih (((opensTag_cons_cons c d cs).mp ho).resolve_left hc)

end Traceability.Marker
