import Mathlib.Data.List.GetD
import Traceability.Proofs.Marker.Tag

/-! # The line that is found stays the line that is found

Another text may take the place of the line that an element is looked for on. As long as it still
uses the element where the line did and opens a tag where the line did, the search ends there again.
-/
namespace Traceability.Marker
open Text

theorem findIdx?_set_of_some {test : List Char → Bool} {lines : List (List Char)} {i : ℕ}
    {l : List Char} (h : lines.findIdx? test = some i) (hl : test l = true) :
    (lines.set i l).findIdx? test = some i := by
  induction lines generalizing i with
  | nil => simp at h
  | cons line lines ih =>
    rw [List.findIdx?_cons] at h
    by_cases hline : test line = true
    · rw [if_pos hline] at h
      cases h
      simp [List.findIdx?_cons, hl]
    · rw [if_neg hline] at h
      obtain ⟨j,hj,rfl⟩ := Option.map_eq_some_iff.mp h
      simp [List.findIdx?_cons, hline, ih hj]

theorem findIdx?_set_of_none {test : List Char → Bool} {lines : List (List Char)} {i : ℕ}
    {l : List Char} (h : lines.findIdx? test = none) (hi : i < lines.length) :
    (lines.set i l).findIdx? test = if test l = true then some i else none := by
  induction lines generalizing i with
  | nil => simp at hi
  | cons line lines ih =>
    rw [List.findIdx?_cons] at h
    by_cases hline : test line = true
    · simp [hline] at h
    · rw [if_neg hline, Option.map_eq_none_iff] at h
      cases i with
      | zero => simp [List.findIdx?_cons, h]
      | succ i =>
        have ht := ih h (by simpa using hi)
        by_cases hl : test l = true <;> simp_all [List.findIdx?_cons]

theorem getD_of_findIdx? {test : List Char → Bool} {lines : List (List Char)} {i : ℕ}
    (h : lines.findIdx? test = some i) : i < lines.length ∧ test (lines.getD i []) = true := by
  obtain ⟨hi,ht,-⟩ := List.findIdx?_eq_some_iff_getElem.mp h
  rw [List.getD_eq_getElem _ _ hi]
  exact ⟨hi,ht⟩

theorem getD_of_findIdx?_take {test : List Char → Bool} {lines : List (List Char)} {i n : ℕ}
    (h : (lines.take n).findIdx? test = some i) :
    i < n ∧ i < lines.length ∧ test (lines.getD i []) = true := by
  obtain ⟨hi,ht,-⟩ := List.findIdx?_eq_some_iff_getElem.mp h
  rw [List.length_take] at hi
  rw [List.getElem_take] at ht
  refine ⟨by omega,by omega,?_⟩
  rw [List.getD_eq_getElem _ _ (by omega)]
  exact ht

/-- Behind a declaration, too, the search ends at the same line once it is replaced by another one
that opens a tag: the declaration lies in front of the line. -/
theorem targetBehindDeclaration_set {name : List Char} {start target : ℕ}
    {lines : List (List Char)} (h : targetBehindDeclaration name start lines = some target) :
    ∃ i < lines.length, target = start + i ∧ opensTag (lines.getD i []) = true ∧
      ∀ l, opensTag l = true → targetBehindDeclaration name start (lines.set i l) = some target := by
  induction lines generalizing start with
  | nil => simp [targetBehindDeclaration] at h
  | cons line rest ih =>
    rw [targetBehindDeclaration] at h
    by_cases hd : declaresName name line = true
    · rw [if_pos hd] at h
      cases hf : (rest.take (declarationWindow - 1)).findIdx? opensTag with
      | some i =>
        simp only [hf, Option.some.injEq] at h
        obtain ⟨hw,hi,ho⟩ := getD_of_findIdx?_take hf
        refine ⟨i + 1,by simpa using hi,by omega,by simpa using ho,?_⟩
        intro l hl
        have hs : ((rest.set i l).take (declarationWindow - 1)).findIdx? opensTag = some i := by
          rw [List.take_set]
          exact findIdx?_set_of_some hf hl
        simp [targetBehindDeclaration, hd, hs, h]
      | none =>
        simp only [hf] at h
        obtain ⟨i,hi,rfl,ho,hset⟩ := ih h
        refine ⟨i + 1,by simpa using hi,by omega,by simpa using ho,?_⟩
        intro l hl
        -- the window is closed in front of the line, so replacing it opens no tag in the window
        have hw : declarationWindow - 1 ≤ i := by
          by_contra hlt
          have hm : rest.getD i [] ∈ rest.take (declarationWindow - 1) := by
            rw [List.getD_eq_getElem _ _ hi]
            exact List.mem_take_iff_getElem.mpr ⟨i,by omega,rfl⟩
          have hn := List.findIdx?_eq_none_iff.mp hf _ hm
          exact absurd (ho.symm.trans hn) (by simp)
        have hs : ((rest.set i l).take (declarationWindow - 1)).findIdx? opensTag = none := by
          rw [List.take_set_of_le hw, hf]
        simp [targetBehindDeclaration, hd, hs, hset l hl]
    · rw [if_neg hd] at h
      obtain ⟨i,hi,rfl,ho,hset⟩ := ih h
      refine ⟨i + 1,by simpa using hi,by omega,by simpa using ho,?_⟩
      intro l hl
      simp [targetBehindDeclaration, hd, hset l hl]

/-- A line is found by its use of the element, or behind a declaration where no line uses it. -/
theorem findTarget_cases {lines : List (List Char)} {name : List Char} {i : ℕ}
    (h : findTarget lines name = some i) :
    lines.findIdx? (usesElement name) = some i ∨
      lines.findIdx? (usesElement name) = none ∧ targetBehindDeclaration name 0 lines = some i := by
  rw [findTarget] at h
  cases hf : lines.findIdx? (usesElement name) with
  | some j =>
    rw [hf] at h
    exact .inl h
  | none =>
    rw [hf] at h
    exact .inr ⟨rfl,h⟩

/-- The line that is found exists, and it uses the element or opens a tag. -/
theorem findTarget_spec {lines : List (List Char)} {name : List Char} {i : ℕ}
    (h : findTarget lines name = some i) :
    i < lines.length ∧
      (usesElement name (lines.getD i []) = true ∨ opensTag (lines.getD i []) = true) := by
  rcases findTarget_cases h with hf | ⟨-,hbehind⟩
  · obtain ⟨hi,huse⟩ := getD_of_findIdx? hf
    exact ⟨hi,Or.inl huse⟩
  · obtain ⟨j,hj,rfl,ho,-⟩ := targetBehindDeclaration_set hbehind
    rw [Nat.zero_add]
    exact ⟨hj,Or.inr ho⟩

theorem findTarget_set {lines : List (List Char)} {name l : List Char} {i : ℕ}
    (h : findTarget lines name = some i)
    (hu : usesElement name (lines.getD i []) = true → usesElement name l = true)
    (ho : opensTag (lines.getD i []) = true → opensTag l = true) :
    findTarget (lines.set i l) name = some i := by
  rcases findTarget_cases h with hf | ⟨hf,hbehind⟩
  · have hl := hu (getD_of_findIdx? hf).2
    simp [findTarget, findIdx?_set_of_some hf hl]
  · obtain ⟨j,hj,rfl,hopen,hset⟩ := targetBehindDeclaration_set hbehind
    rw [Nat.zero_add] at hu ho ⊢
    rw [findTarget, findIdx?_set_of_none hf hj]
    by_cases hl : usesElement name l = true
    · simp [hl]
    · have ht := hset l (ho hopen)
      rw [Nat.zero_add] at ht
      simp [hl, ht]

/-! ## Uses of the element -/

theorem usesElement_iff {name line : List Char} :
    usesElement name line = true ↔
      ∃ front c back, line = front ++ '<' :: name ++ c :: back ∧ endsName c = true := by
  rw [usesElement, anySuffix_iff]
  constructor
  · rintro ⟨s,⟨front,rfl⟩,h⟩
    rw [beginsUse] at h
    cases ha : after? ('<' :: name) s with
    | none => simp [ha] at h
    | some rest =>
      cases rest with
      | nil => simp [ha] at h
      | cons c back =>
        rw [after?_eq_some_iff] at ha
        subst ha
        simp only [after?_append] at h
        exact ⟨front,c,back,by simp,h⟩
  · rintro ⟨front,c,back,rfl,hc⟩
    refine ⟨'<' :: name ++ c :: back,⟨front,by simp⟩,?_⟩
    rw [beginsUse, after?_append]
    exact hc

/-- A use survives when a text that begins with a blank is put behind a complete tag name: a use
that reaches over the place would have a blank, a slash or an angle bracket in its own name. -/
theorem usesElement_insert {name front inserted back : List Char} {c : Char}
    (hname : ∀ d ∈ name, endsName d = false) (hc : endsName c = true) (hends : NameEnds back)
    (h : usesElement name (front ++ back) = true) :
    usesElement name (front ++ c :: inserted ++ back) = true := by
  obtain ⟨lead,d,rest,he,hd⟩ := usesElement_iff.mp h
  apply usesElement_iff.mpr
  rw [List.append_assoc] at he
  rcases List.append_eq_append_iff.mp he with ⟨gap,hlead,hback⟩ | ⟨gap,hfront,hgap⟩
  · refine ⟨front ++ c :: inserted ++ gap,d,rest,?_,hd⟩
    rw [hback]
    simp
  · rcases List.append_eq_append_iff.mp hgap with ⟨beyond,hgap',hrest⟩ | ⟨beyond,huse,hback⟩
    · cases beyond with
      | nil =>
        refine ⟨lead,c,inserted ++ back,?_,hc⟩
        rw [hfront, hgap']
        simp
      | cons e beyond =>
        obtain ⟨rfl,-⟩ := List.cons.inj hrest
        refine ⟨lead,d,beyond ++ c :: inserted ++ back,?_,hd⟩
        rw [hfront, hgap']
        simp
    · cases beyond with
      | nil =>
        refine ⟨lead,c,inserted ++ back,?_,hc⟩
        rw [hfront, ← List.append_nil gap, ← huse]
        simp
      | cons e beyond =>
        have hends' := hends e (by simp [hback])
        cases gap with
        | nil =>
          obtain ⟨rfl,-⟩ := List.cons.inj huse
          exact absurd hends' (by decide +kernel)
        | cons g gap =>
          have hm : e ∈ name := by
            rw [(List.cons.inj huse).2]
            simp
          simp [hname e hm] at hends'

end Traceability.Marker
