import Traceability.Proofs.Marker.Location

/-! # Where the name of a function ends

The declaration of a function is recognized by a word boundary behind its name. An identifier may
also hold dollar signs, which belong to no word. So a boundary stands within an identifier that goes
on with a dollar sign, and behind a name that ends in one a boundary only stands where the
identifier goes on. For other names and lines the boundary is the end of the identifier.
-/
namespace Traceability.Marker
open Text

/-- The line holds `function`, blanks and the name, and the next character is as it has to be. -/
def NamesFunction (name : List Char) (ends : Option Char → Prop) : List Char → Prop :=
  Follows functionWord name fun _ rest => ends rest.head?

def EndsIdentifier (next : Option Char) : Prop := ∀ c ∈ next, isWord c = false ∧ c ≠ '$'

/-- A word boundary stands behind the name: no word goes on, or one begins behind a dollar sign. -/
def EndsWord (name : List Char) (next : Option Char) : Prop :=
  if name.getLast? = some '$' then ∃ c ∈ next, isWord c = true else ∀ c ∈ next, isWord c = false

def Serves (name line : List Char) : Prop := findTarget [line,['<','a']] name = some 1

section Ends
variable {name line : List Char}

theorem Follows.congr {word : List Char} {ends ends' : Option Char → List Char → Prop}
    (h : ∀ blanks rest,
      ends (blanks ++ name).getLast? rest ↔ ends' (blanks ++ name).getLast? rest) :
    Follows word name ends line ↔ Follows word name ends' line := by
  simp only [Follows, h]

/-- A name without dots ends in a character of a word or in a dollar sign. -/
theorem isWord_getLast_of_isElementName (hname : isElementName name = true) (hdot : '.' ∉ name)
    (hdollar : name.getLast? ≠ some '$') :
    ∃ c, name.getLast? = some c ∧ isWord c = true := by
  have hne := ne_nil_of_isElementName hname
  refine ⟨name.getLast hne,List.getLast?_eq_some_getLast hne,?_⟩
  have hmem := List.getLast_mem hne
  have hchar := isElementNameChar_of_mem hname hmem
  simp only [isElementNameChar, Bool.or_eq_true, beq_iff_eq] at hchar
  rcases hchar with (hword | he) | he
  · exact hword
  · exact absurd (he ▸ List.getLast?_eq_some_getLast hne) hdollar
  · exact absurd (he ▸ hmem) hdot

theorem isBoundary_getLast?_iff (hname : isElementName name = true) (hdot : '.' ∉ name)
    {next : Option Char} : isBoundary name.getLast? next = true ↔ EndsWord name next := by
  by_cases hdollar : name.getLast? = some '$'
  · have hno : isWord '$' = false := by decide +kernel
    rw [EndsWord, if_pos hdollar, hdollar]
    cases next <;> simp [isBoundary, hno]
  · obtain ⟨c,hlast,hword⟩ := isWord_getLast_of_isElementName hname hdot hdollar
    rw [EndsWord, if_neg hdollar, hlast]
    cases next <;> simp [isBoundary, hword]

theorem declaresFunction_iff_namesFunction (hname : isElementName name = true) (hdot : '.' ∉ name) :
    DeclaresFunction name line ↔ NamesFunction name (EndsWord name) line := by
  refine Follows.congr fun blanks rest => ?_
  rw [List.getLast?_append_of_ne_nil blanks (ne_nil_of_isElementName hname),
    isBoundary_getLast?_iff hname hdot]

/-- Behind a name that ends in a word and is not followed by a dollar sign, the word ends where the
identifier does. -/
theorem namesFunction_endsWord_iff (hdollar : name.getLast? ≠ some '$')
    (hline : ¬ NamesFunction name (· = some '$') line) :
    NamesFunction name (EndsWord name) line ↔ NamesFunction name EndsIdentifier line := by
  constructor
  · rintro ⟨front,blanks,rest,hcut,hne,hblank,hends⟩
    refine ⟨front,blanks,rest,hcut,hne,hblank,?_⟩
    simp only [EndsWord, if_neg hdollar] at hends
    intro c hc
    refine ⟨hends c hc,?_⟩
    rintro rfl
    exact hline ⟨front,blanks,rest,hcut,hne,hblank,hc⟩
  · rintro ⟨front,blanks,rest,hcut,hne,hblank,hends⟩
    refine ⟨front,blanks,rest,hcut,hne,hblank,?_⟩
    simp only [EndsWord, if_neg hdollar]
    exact fun c hc => (hends c hc).1

theorem serves_iff_declares (hne : name ≠ []) (hunused : ¬ Uses name line) :
    Serves name line ↔ Declares name line := by
  have hline : usesElement name line = false := by
    rw [← Bool.not_eq_true, uses_iff]
    exact hunused
  have htag : usesElement name ['<','a'] = false := by
    rw [← Bool.not_eq_true, uses_iff]
    rintro ⟨front,c,back,hcut,-⟩
    have hlen := congrArg List.length hcut
    have hpos := List.length_pos_iff.mpr hne
    simp only [List.length_append, List.length_cons, List.length_nil] at hlen
    omega
  have hnone : [line,['<','a']].findIdx? (usesElement name) = none := by
    simp [List.findIdx?_cons, hline, htag]
  have hopen : opensTag ['<','a'] = true := by decide +kernel
  rw [← declares_iff, Serves, findTarget, hnone]
  by_cases hd : declaresName name line = true
  · simp [hd, hopen, targetBehindDeclaration, declarationWindow]
  · by_cases hd' : declaresName name ['<','a'] = true <;>
      simp [hd, hd', targetBehindDeclaration]

end Ends

/-- Among lines that neither use the element nor bind its name, those with `function`, blanks, the
name and a word boundary serve as declarations, and the search goes by them. They are those with the
name as a whole identifier, unless the name ends in a dollar sign or is followed by one. -/
theorem serves_iff {name : List Char} {lines : List (List Char)}
    (hname : isElementName name = true) (hdot : '.' ∉ name)
    (hunused : ∀ line ∈ lines, ¬ Uses name line) (hunbound : ∀ line ∈ lines, ¬ Binds name line) :
    (∀ line ∈ lines, (Serves name line ↔ NamesFunction name (EndsWord name) line)) ∧
      (∀ target, findTarget lines name = target ↔
        Found (fun _ => False) (NamesFunction name (EndsWord name)) lines target) ∧
      (name.getLast? ≠ some '$' → (∀ line ∈ lines, ¬ NamesFunction name (· = some '$') line) →
        (∀ line ∈ lines, (Serves name line ↔ NamesFunction name EndsIdentifier line)) ∧
        ∀ target, findTarget lines name = target ↔
          Found (fun _ => False) (NamesFunction name EndsIdentifier) lines target) := by
  have hdeclares : ∀ line ∈ lines,
      (Declares name line ↔ NamesFunction name (EndsWord name) line) := by
    intro line hline
    rw [Declares, or_iff_left (hunbound line hline), declaresFunction_iff_namesFunction hname hdot]
  have hserves : ∀ line ∈ lines, (Serves name line ↔ NamesFunction name (EndsWord name) line) := by
    intro line hline
    rw [serves_iff_declares (ne_nil_of_isElementName hname) (hunused line hline),
      hdeclares line hline]
  have hfound : ∀ target, findTarget lines name = target ↔
      Found (fun _ => False) (NamesFunction name (EndsWord name)) lines target := by
    intro target
    rw [← Found.congr (fun line hline => iff_false_intro (hunused line hline)) hdeclares]
    constructor
    · rintro rfl
      exact found_findTarget lines name
    · exact (found_findTarget lines name).unique
  refine ⟨hserves,hfound,fun hdollar hlines => ?_⟩
  have hends : ∀ line ∈ lines,
      (NamesFunction name (EndsWord name) line ↔ NamesFunction name EndsIdentifier line) :=
    fun line hline => namesFunction_endsWord_iff hdollar (hlines line hline)
  refine ⟨fun line hline => (hserves line hline).trans (hends line hline),fun target => ?_⟩
  exact (hfound target).trans (Found.congr (fun _ _ => Iff.rfl) hends)

theorem serves_iff_twoFunctions :
    ∃ lines : List (List Char), isElementName "foo".toList = true ∧ '.' ∉ "foo".toList ∧
      (∀ line ∈ lines, ¬ Uses "foo".toList line) ∧ (∀ line ∈ lines, ¬ Binds "foo".toList line) ∧
      (∀ line ∈ lines, (Serves "foo".toList line ↔
        NamesFunction "foo".toList (EndsWord "foo".toList) line)) ∧
      Found (fun _ => False) (NamesFunction "foo".toList (EndsWord "foo".toList)) lines
        (some 2) := by
  have hname : isElementName "foo".toList = true := by decide +kernel
  have hdot : '.' ∉ "foo".toList := by decide
  have hunused : ∀ line ∈ ["function fooBar(a)".toList,"function foo(a)".toList,"<a>".toList],
      ¬ Uses "foo".toList line := by decide +kernel
  have hunbound : ∀ line ∈ ["function fooBar(a)".toList,"function foo(a)".toList,"<a>".toList],
      ¬ Binds "foo".toList line := by decide +kernel
  obtain ⟨hserves,hfound,-⟩ := serves_iff hname hdot hunused hunbound
  exact ⟨_,hname,hdot,hunused,hunbound,hserves,(hfound (some 2)).mp (by decide +kernel)⟩

/-- What follows the name of a function follows it at some place of the line. -/
theorem ends_of_namesFunction {name line : List Char} {ends : Option Char → Prop}
    (h : NamesFunction name ends line) : ∃ cs ∈ line.tails, ∃ rest, after? name cs = some rest ∧
      ends rest.head? := by
  obtain ⟨front,blanks,rest,rfl,-,-,hends⟩ := h
  refine ⟨name ++ rest,(List.mem_tails _ _).mpr ?_,rest,after?_append _ _,hends⟩
  exact ⟨front ++ functionWord ++ blanks,by simp⟩

/-- The line of a function is taken for one with a shorter name, and the line of a function whose
name ends in a dollar sign is not recognized. -/
theorem serves_dollar :
    (isElementName "foo".toList = true ∧ ¬ Uses "foo".toList "function foo$bar(a)".toList ∧
      ¬ Binds "foo".toList "function foo$bar(a)".toList ∧
      Serves "foo".toList "function foo$bar(a)".toList ∧
      ¬ NamesFunction "foo".toList EndsIdentifier "function foo$bar(a)".toList) ∧
    (isElementName "foo$".toList = true ∧ ¬ Uses "foo$".toList "function foo$(a)".toList ∧
      ¬ Binds "foo$".toList "function foo$(a)".toList ∧
      ¬ Serves "foo$".toList "function foo$(a)".toList ∧
      NamesFunction "foo$".toList EndsIdentifier "function foo$(a)".toList) := by
  refine ⟨⟨by decide +kernel,by decide +kernel,by decide +kernel,?_,fun h => ?_⟩,
    by decide +kernel,by decide +kernel,by decide +kernel,?_,?_⟩
  · rw [Serves]
    decide +kernel
  · obtain ⟨cs,hcs,rest,hrest,hends⟩ := ends_of_namesFunction h
    have hdollar : ∀ cs ∈ "function foo$bar(a)".toList.tails,
        (after? "foo".toList cs).all (·.head? = some '$') = true := by decide +kernel
    have hnext := hdollar cs hcs
    simp only [hrest, Option.all_some, decide_eq_true_eq] at hnext
    exact (hends '$' hnext).2 rfl
  · rw [Serves]
    decide +kernel
  · refine ⟨[],[' '],"(a)".toList,by decide,by simp,List.forall_mem_singleton.mpr ?_,?_⟩
    · decide +kernel
    · rintro c ⟨⟩
      decide +kernel

end Traceability.Marker
