import Mathlib.Order.Bounds.Basic
import Traceability.Proofs.Marker.Inert

/-! # Where an element is found

The search is described apart from the way it goes through the lines. The line of an element is the
first one that uses it. If there is none, it is the first one that opens a tag and has a declaration
of the name among the 79 lines in front of it, whichever declaration that is: the windows of the
declarations overlap, and a declaration whose window holds no tag leaves the others in force.
-/
namespace Traceability.Marker
open Text

/-! ## Lines -/

/-- The line holds a tag of the element whose name is complete and not at the end of the line. -/
def Uses (name line : List Char) : Prop :=
  ∃ front c back, line = front ++ '<' :: name ++ c :: back ∧ (isBlank c = true ∨ c = '/' ∨ c = '>')

def Opens (line : List Char) : Prop :=
  ∃ front c back, line = front ++ '<' :: c :: back ∧ isAsciiLetter c = true

/-- The line holds a word, blanks and the name, and what stands in front of the end of the name and
behind it is as it has to be. -/
def Follows (word name : List Char) (ends : Option Char → List Char → Prop) (line : List Char) :
    Prop :=
  ∃ front blanks rest, line = front ++ word ++ blanks ++ name ++ rest ∧ blanks ≠ [] ∧
    (∀ c ∈ blanks, isBlank c = true) ∧ ends (blanks ++ name).getLast? rest

/-- The line declares a function of the name: behind `function` and blanks, a word begins or ends
where the name ends. -/
def DeclaresFunction (name : List Char) : List Char → Prop :=
  Follows functionWord name fun last rest => isBoundary last rest.head? = true

/-- The line binds the name: an equals sign stands behind it, perhaps with blanks in between. -/
def Binds (name line : List Char) : Prop :=
  ∃ word ∈ bindingWords, Follows word name (fun _ rest => ∃ blanks back,
    rest = blanks ++ '=' :: back ∧ ∀ c ∈ blanks, isBlank c = true) line

def Declares (name line : List Char) : Prop := DeclaresFunction name line ∨ Binds name line

theorem uses_iff {name line : List Char} : usesElement name line = true ↔ Uses name line := by
  simp only [usesElement_iff, Uses, endsName, Bool.or_eq_true, beq_iff_eq, or_assoc]

theorem opens_iff {line : List Char} : opensTag line = true ↔ Opens line := by
  rw [opensTag_iff]
  constructor
  · rintro ⟨c,rest,⟨front,rfl⟩,hc⟩
    exact ⟨front,c,rest,rfl,hc⟩
  · rintro ⟨front,c,back,rfl,hc⟩
    exact ⟨c,back,⟨front,rfl⟩,hc⟩

theorem head?_trimStart_eq_some_iff {rest : List Char} {c : Char} (hc : isBlank c = false) :
    (trimStart rest).head? = some c ↔
      ∃ blanks back, rest = blanks ++ c :: back ∧ ∀ d ∈ blanks, isBlank d = true := by
  constructor
  · intro h
    obtain ⟨back,hback⟩ := List.head?_eq_some_iff.mp h
    refine ⟨rest.takeWhile isBlank,back,?_,fun d hd => List.mem_takeWhile_imp hd⟩
    rw [← hback, trimStart, List.takeWhile_append_dropWhile]
  · rintro ⟨blanks,back,rfl,hblank⟩
    rw [trimStart, List.dropWhile_append_of_pos hblank]
    simp [hc]

/-- A text with the word at its beginning may stand anywhere in the line. -/
theorem exists_suffix_follows_iff {word name line : List Char}
    {ends : Option Char → List Char → Prop} :
    (∃ cs, cs <:+ line ∧ ∃ blanks rest, cs = word ++ blanks ++ name ++ rest ∧ blanks ≠ [] ∧
      (∀ c ∈ blanks, isBlank c = true) ∧ ends (blanks ++ name).getLast? rest) ↔
        Follows word name ends line := by
  constructor
  · rintro ⟨cs,⟨front,rfl⟩,blanks,rest,rfl,h⟩
    exact ⟨front,blanks,rest,by simp,h⟩
  · rintro ⟨front,blanks,rest,rfl,h⟩
    exact ⟨_,⟨front,by simp⟩,blanks,rest,rfl,h⟩

theorem declaresFunction_iff {name line : List Char} :
    anySuffix (beginsFunction name) line = true ↔ DeclaresFunction name line := by
  simp only [anySuffix_iff, beginsFunction_iff, DeclaresFunction, ← exists_suffix_follows_iff]

theorem binds_iff {name line : List Char} :
    anySuffix (beginsConstant name) line = true ↔ Binds name line := by
  have hequals : isBlank '=' = false := by decide +kernel
  simp only [anySuffix_iff, beginsConstant_iff, head?_trimStart_eq_some_iff hequals, Binds,
    ← exists_suffix_follows_iff]
  constructor
  · rintro ⟨cs,hs,word,hword,h⟩
    exact ⟨word,hword,cs,hs,h⟩
  · rintro ⟨word,hword,cs,hs,h⟩
    exact ⟨cs,hs,word,hword,h⟩

theorem declares_iff {name line : List Char} :
    declaresName name line = true ↔ Declares name line := by
  rw [Declares, ← declaresFunction_iff, ← binds_iff]
  simp only [declaresName, anySuffix_iff, Bool.or_eq_true, and_or_left, exists_or]

instance (name : List Char) : DecidablePred (Uses name) := fun _ => decidable_of_iff _ uses_iff

instance (name : List Char) : DecidablePred (Binds name) := fun _ => decidable_of_iff _ binds_iff

/-! ## Places -/

def LineAt (lines : List (List Char)) (i : ℕ) (p : List Char → Prop) : Prop :=
  ∃ line, lines[i]? = some line ∧ p line

/-- The line opens a tag, and a line that declares the name stands in front of it, less than 80
lines away. -/
def BehindDeclaration (declares : List Char → Prop) (lines : List (List Char)) (i : ℕ) : Prop :=
  LineAt lines i Opens ∧ ∃ d, LineAt lines d declares ∧ d < i ∧ i ≤ d + 79

/-- What a search for an element finds: the first line that uses it, or else the first one behind a
declaration, or else nothing. -/
inductive Found (uses declares : List Char → Prop) (lines : List (List Char)) : Option ℕ → Prop
  | used {i : ℕ} (h : IsLeast {i | LineAt lines i uses} i) : Found uses declares lines (some i)
  | declared {i : ℕ} (hunused : ∀ j, ¬ LineAt lines j uses)
    (h : IsLeast {i | BehindDeclaration declares lines i} i) : Found uses declares lines (some i)
  | nowhere (hunused : ∀ j, ¬ LineAt lines j uses)
    (h : ∀ i, ¬ BehindDeclaration declares lines i) : Found uses declares lines none

section Search
variable {uses declares : List Char → Prop} {lines : List (List Char)} {target other : Option ℕ}

theorem Found.unique (h : Found uses declares lines target)
    (h' : Found uses declares lines other) : target = other := by
  cases h with
  | used h =>
    cases h' with
    | used h' => rw [h.unique h']
    | declared hunused => exact absurd h.1 (hunused _)
    | nowhere hunused => exact absurd h.1 (hunused _)
  | declared hunused h =>
    cases h' with
    | used h' => exact absurd h'.1 (hunused _)
    | declared _ h' => rw [h.unique h']
    | nowhere _ hnone => exact absurd h.1 (hnone _)
  | nowhere hunused hnone =>
    cases h' with
    | used h' => exact absurd h'.1 (hunused _)
    | declared _ h' => exact absurd h'.1 (hnone _)
    | nowhere => rfl

theorem lineAt_congr {p q : List Char → Prop} (h : ∀ line ∈ lines, (p line ↔ q line)) (i : ℕ) :
    LineAt lines i p ↔ LineAt lines i q :=
  exists_congr fun line => and_congr_right fun hline => h line (List.mem_of_getElem? hline)

theorem Found.of_alike {uses' declares' : List Char → Prop}
    (huses : ∀ line ∈ lines, (uses line ↔ uses' line))
    (hdeclares : ∀ line ∈ lines, (declares line ↔ declares' line))
    (h : Found uses declares lines target) : Found uses' declares' lines target := by
  have huse := lineAt_congr huses
  have hbehind : ∀ i, BehindDeclaration declares lines i ↔ BehindDeclaration declares' lines i := by
    intro i
    simp only [BehindDeclaration, lineAt_congr hdeclares]
  cases h with
  | used h => exact .used (by simpa only [huse] using h)
  | declared hunused h =>
    exact .declared (by simpa only [huse] using hunused) (by simpa only [hbehind] using h)
  | nowhere hunused h =>
    exact .nowhere (by simpa only [huse] using hunused) (by simpa only [hbehind] using h)

/-- A search only asks what a line is. -/
theorem Found.congr {uses' declares' : List Char → Prop}
    (huses : ∀ line ∈ lines, (uses line ↔ uses' line))
    (hdeclares : ∀ line ∈ lines, (declares line ↔ declares' line)) :
    Found uses declares lines target ↔ Found uses' declares' lines target :=
  ⟨of_alike huses hdeclares,
    of_alike (fun line hline => (huses line hline).symm)
      fun line hline => (hdeclares line hline).symm⟩

theorem lineAt_of_findIdx? {test : List Char → Bool} {p : List Char → Prop}
    (htest : ∀ line, test line = true ↔ p line) {i : ℕ} (h : lines.findIdx? test = some i) :
    IsLeast {i | LineAt lines i p} i := by
  obtain ⟨hi,ht,hfirst⟩ := List.findIdx?_eq_some_iff_getElem.mp h
  refine ⟨⟨_,List.getElem?_eq_getElem hi,(htest _).mp ht⟩,?_⟩
  rintro j ⟨line,hline,hp⟩
  by_contra hlt
  obtain ⟨hj,rfl⟩ := List.getElem?_eq_some_iff.mp hline
  exact hfirst j (by omega) ((htest _).mpr hp)

theorem not_lineAt_of_findIdx? {test : List Char → Bool} {p : List Char → Prop}
    (htest : ∀ line, test line = true ↔ p line) (h : lines.findIdx? test = none) (i : ℕ) :
    ¬ LineAt lines i p := by
  rintro ⟨line,hline,hp⟩
  have hn := List.findIdx?_eq_none_iff.mp h line (List.mem_of_getElem? hline)
  rw [(htest line).mpr hp] at hn
  cases hn

theorem lineAt_take {p : List Char → Prop} {n i : ℕ} :
    LineAt (lines.take n) i p ↔ i < n ∧ LineAt lines i p := by
  simp only [LineAt, List.getElem?_take]
  by_cases h : i < n <;> simp [h]

/-- No declaration stands in front of the first line. -/
theorem not_behindDeclaration_zero : ¬ BehindDeclaration declares lines 0 := by
  rintro ⟨-,d,-,hlt,-⟩
  omega

/-- A line stands behind a declaration in the other lines, or behind the first line. -/
theorem behindDeclaration_succ {line : List Char} {i : ℕ} :
    BehindDeclaration declares (line :: lines) (i + 1) ↔
      BehindDeclaration declares lines i ∨ (declares line ∧ i < 79 ∧ LineAt lines i Opens) := by
  constructor
  · rintro ⟨hopen,d,hd,hlt,hle⟩
    cases d with
    | zero =>
      obtain ⟨_,hline,hd⟩ := hd
      obtain rfl := Option.some.inj hline
      exact .inr ⟨hd,by omega,hopen⟩
    | succ d => exact .inl ⟨hopen,d,hd,by omega,by omega⟩
  · rintro (⟨hopen,d,hd,hlt,hle⟩ | ⟨hd,hlt,hopen⟩)
    · exact ⟨hopen,d + 1,hd,by omega,by omega⟩
    · exact ⟨hopen,0,⟨line,rfl,hd⟩,by omega,by omega⟩

/-- The first place behind a declaration among the lines that are left, counted from the first
line. -/
def FirstBehind (declares : List Char → Prop) (lines : List (List Char)) (start : ℕ) :
    Option ℕ → Prop
  | none => ∀ i, ¬ BehindDeclaration declares lines i
  | some target =>
    ∃ i, target = start + i ∧ IsLeast {i | BehindDeclaration declares lines i} i

/-- A line that brings no place behind a declaration is passed over. -/
theorem FirstBehind.cons {start : ℕ} {line : List Char}
    (h : FirstBehind declares lines (start + 1) target)
    (hskip : declares line → ∀ i < 79, ¬ LineAt lines i Opens) :
    FirstBehind declares (line :: lines) start target := by
  have hsucc : ∀ i, BehindDeclaration declares (line :: lines) (i + 1) ↔
      BehindDeclaration declares lines i := by
    intro i
    rw [behindDeclaration_succ, or_iff_left]
    rintro ⟨hd,hlt,hopen⟩
    exact hskip hd i hlt hopen
  cases target with
  | none =>
    intro i
    cases i with
    | zero => exact not_behindDeclaration_zero
    | succ i => exact fun hi => h i ((hsucc i).mp hi)
  | some target =>
    obtain ⟨i,rfl,hi,hleast⟩ := h
    refine ⟨i + 1,by omega,(hsucc i).mpr hi,?_⟩
    intro j hj
    cases j with
    | zero => exact absurd hj not_behindDeclaration_zero
    | succ j => exact Nat.succ_le_succ (hleast ((hsucc j).mp hj))

theorem firstBehind_targetBehindDeclaration (name : List Char) (start : ℕ)
    (lines : List (List Char)) :
    FirstBehind (Declares name) lines start (targetBehindDeclaration name start lines) := by
  induction lines generalizing start with
  | nil =>
    rintro i ⟨⟨line,hline,-⟩,-⟩
    simp at hline
  | cons line rest ih =>
    rw [targetBehindDeclaration]
    by_cases hd : declaresName name line = true
    · rw [if_pos hd]
      cases hf : (rest.take (declarationWindow - 1)).findIdx? opensTag with
      | some i =>
        -- in the window of the first declaration nothing is nearer than its first tag
        obtain ⟨hi,hleast⟩ := lineAt_of_findIdx? (fun _ => opens_iff) hf
        obtain ⟨hlt,hopen⟩ := lineAt_take.mp hi
        refine ⟨i + 1,by omega,
          behindDeclaration_succ.mpr (.inr ⟨declares_iff.mp hd,hlt,hopen⟩),?_⟩
        intro j hj
        cases j with
        | zero => exact absurd hj not_behindDeclaration_zero
        | succ j =>
          by_contra hjlt
          have hj' : LineAt rest j Opens := hj.1
          have hle := hleast (show LineAt (rest.take (declarationWindow - 1)) j Opens from
            lineAt_take.mpr ⟨by omega,hj'⟩)
          omega
      | none =>
        refine (ih (start + 1)).cons fun _ i hlt hopen => ?_
        exact not_lineAt_of_findIdx? (fun _ => opens_iff) hf i (lineAt_take.mpr ⟨hlt,hopen⟩)
    · rw [if_neg hd]
      exact (ih (start + 1)).cons fun hdeclares => absurd (declares_iff.mpr hdeclares) hd

/-- The search finds what it is described to find. -/
theorem found_findTarget (lines : List (List Char)) (name : List Char) :
    Found (Uses name) (Declares name) lines (findTarget lines name) := by
  rw [findTarget]
  cases hf : lines.findIdx? (usesElement name) with
  | some i => exact .used (lineAt_of_findIdx? (fun _ => uses_iff) hf)
  | none =>
    have hunused := not_lineAt_of_findIdx? (fun _ => uses_iff) hf
    have hfirst := firstBehind_targetBehindDeclaration name 0 lines
    show Found _ _ _ (targetBehindDeclaration name 0 lines)
    cases ht : targetBehindDeclaration name 0 lines with
    | none =>
      rw [ht] at hfirst
      exact .nowhere hunused hfirst
    | some target =>
      rw [ht] at hfirst
      obtain ⟨i,rfl,hleast⟩ := hfirst
      rw [Nat.zero_add]
      exact .declared hunused hleast

end Search

end Traceability.Marker
