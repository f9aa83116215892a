import Mathlib.Data.List.Forall2
import Traceability.Proofs.Marker.Frame

/-! # A marker beside the other elements of a text

The search for an element asks three things of a line: whether it uses the element, whether it
declares its name and whether it opens a tag. An attribute leaves the answers alone as far as they
come from the rest of the line. Its own text is searched like any other text, so a title that holds
a tag of another element makes the line a use of that element; and a declaring word at the end of
the marked tag's name takes the attribute's name for what it declares.
-/
namespace Traceability.Marker
open Text

/-! ## Lines that the search does not tell apart -/

/-- The search for an element does not tell two lines apart. -/
structure Alike (name a b : List Char) : Prop where
  uses : usesElement name a = usesElement name b
  declares : declaresName name a = declaresName name b
  opens : opensTag a = opensTag b

theorem Alike.refl (name a : List Char) : Alike name a a := ⟨rfl,rfl,rfl⟩

theorem findIdx?_eq_of_forall₂ {test : List Char → Bool} {ls ls' : List (List Char)}
    (h : List.Forall₂ (fun a b => test a = test b) ls ls') :
    ls.findIdx? test = ls'.findIdx? test := by
  induction h with
  | nil => rfl
  | cons hl _ ih => simp only [List.findIdx?_cons, hl, ih]

theorem targetBehindDeclaration_eq {name : List Char} {start : ℕ} {ls ls' : List (List Char)}
    (h : List.Forall₂ (Alike name) ls ls') :
    targetBehindDeclaration name start ls = targetBehindDeclaration name start ls' := by
  induction h generalizing start with
  | nil => rfl
  | cons hl hrest ih =>
    have hopens := (List.forall₂_take (declarationWindow - 1) hrest).imp fun _ _ h => h.opens
    simp only [targetBehindDeclaration, hl.declares, findIdx?_eq_of_forall₂ hopens, ih]

theorem findTarget_eq_of_alike {name : List Char} {ls ls' : List (List Char)}
    (h : List.Forall₂ (Alike name) ls ls') : findTarget ls name = findTarget ls' name := by
  have huses := findIdx?_eq_of_forall₂ (h.imp fun _ _ h => h.uses)
  simp only [findTarget, huses, targetBehindDeclaration_eq h]

theorem forall₂_alike_set {name l : List Char} {ls : List (List Char)} {i : ℕ}
    (h : Alike name l (ls.getD i [])) : List.Forall₂ (Alike name) (ls.set i l) ls := by
  induction ls generalizing i with
  | nil => exact .nil
  | cons line ls ih =>
    cases i with
    | zero => exact .cons h (List.forall₂_same.2 fun l _ => Alike.refl name l)
    | succ i => exact .cons (Alike.refl name line) (ih h)

/-- Lines that are not told apart may stand for each other. -/
theorem findTarget_set_of_alike {name l : List Char} {ls : List (List Char)} {i : ℕ}
    (h : Alike name l (ls.getD i [])) : findTarget (ls.set i l) name = findTarget ls name :=
  findTarget_eq_of_alike (forall₂_alike_set h)

/-! ## Occurrences over a cut -/

/-- What occurs in two joined texts occurs in one of them, or a part of it ends the first one and
the rest of it begins the second one. -/
theorem infix_append_iff {p a b : List Char} :
    p <:+: a ++ b ↔ p <:+: a ∨ p <:+: b ∨
      ∃ u v, p = u ++ v ∧ u ≠ [] ∧ v ≠ [] ∧ u <:+ a ∧ v <+: b := by
  constructor
  · rintro ⟨s,t,h⟩
    rw [List.append_assoc] at h
    rcases List.append_eq_append_iff.mp h with ⟨u,ha,hp⟩ | ⟨u,-,hb⟩
    · rcases List.append_eq_append_iff.mp hp with ⟨w,hu,-⟩ | ⟨v,hpv,hb⟩
      · exact Or.inl ⟨s,w,by rw [ha, hu, List.append_assoc]⟩
      · cases u with
        | nil => exact Or.inr (Or.inl ⟨[],t,by rw [hb, hpv]; simp⟩)
        | cons x u =>
          cases v with
          | nil => exact Or.inl ⟨s,[],by simp [ha, hpv]⟩
          | cons y v =>
            exact Or.inr (Or.inr ⟨x :: u,y :: v,hpv,by simp,by simp,⟨s,ha.symm⟩,⟨t,hb.symm⟩⟩)
    · exact Or.inr (Or.inl ⟨u,t,by rw [hb]; simp⟩)
  · rintro (h | h | ⟨u,v,rfl,-,-,⟨s,rfl⟩,⟨t,rfl⟩⟩)
    · exact h.trans (List.prefix_append a b).isInfix
    · exact h.trans (List.suffix_append a b).isInfix
    · exact ⟨s,t,by simp⟩

/-- Nothing reaches over the end of a text whose last character does not occur in it. -/
theorem infix_concat_append_iff {p a b : List Char} {k : Char} (hk : k ∉ p) :
    p <:+: a ++ [k] ++ b ↔ p <:+: a ++ [k] ∨ p <:+: b := by
  rw [infix_append_iff]
  constructor
  · rintro (h | h | ⟨u,v,rfl,hu,-,hs,-⟩)
    · exact Or.inl h
    · exact Or.inr h
    · rcases List.suffix_concat_iff.mp hs with rfl | ⟨w,rfl,-⟩
      · exact absurd rfl hu
      · simp at hk
  · rintro (h | h)
    · exact Or.inl h
    · exact Or.inr (Or.inl h)

/-! ## Uses and tags -/

theorem usesElement_iff_occurs {name line : List Char} :
    usesElement name line = true ↔ ∃ c, endsName c = true ∧ '<' :: name ++ [c] <:+: line := by
  rw [usesElement_iff]
  constructor
  · rintro ⟨front,c,back,rfl,hc⟩
    exact ⟨c,hc,front,back,by simp⟩
  · rintro ⟨c,hc,front,back,rfl⟩
    exact ⟨front,c,back,by simp,hc⟩

/-- Behind a complete tag name, a use begins anew, or the tag is the use. -/
theorem usesElement_append_iff {name a b : List Char} (hname : ∀ d ∈ name, endsName d = false)
    (hends : NameEnds b) :
    usesElement name (a ++ b) = true ↔
      usesElement name a = true ∨ ('<' :: name <:+ a ∧ b ≠ []) ∨ usesElement name b = true := by
  simp only [usesElement_iff_occurs]
  constructor
  · rintro ⟨c,hc,h⟩
    rcases infix_append_iff.mp h with h | h | ⟨u,v,hp,hu,hv,hs,ht⟩
    · exact Or.inl ⟨c,hc,h⟩
    · exact Or.inr (Or.inr ⟨c,hc,h⟩)
    · obtain ⟨d,v,rfl⟩ := List.exists_cons_of_ne_nil hv
      have hd := hends d (by obtain ⟨t,rfl⟩ := ht; simp)
      obtain ⟨e,u,rfl⟩ := List.exists_cons_of_ne_nil hu
      simp only [List.cons_append, List.cons.injEq] at hp
      obtain ⟨rfl,hp⟩ := hp
      refine Or.inr (Or.inl ⟨?_,fun hb => by simp [hb] at ht⟩)
      -- a longer part behind the cut would begin with a character of the name
      rcases List.append_eq_append_iff.mp hp with ⟨w,rfl,hw⟩ | ⟨w,rfl,hw⟩
      · obtain ⟨rfl,-⟩ : w = [] ∧ _ := by simpa [List.singleton_eq_append_iff] using hw
        simpa using hs
      · cases w with
        | nil => simpa using hs
        | cons x w =>
          obtain ⟨rfl,-⟩ := List.cons.inj hw
          simp [hname d (by simp)] at hd
  · rintro (⟨c,hc,h⟩ | ⟨hs,hb⟩ | ⟨c,hc,h⟩)
    · exact ⟨c,hc,h.trans (List.prefix_append a b).isInfix⟩
    · obtain ⟨c,b,rfl⟩ := List.exists_cons_of_ne_nil hb
      obtain ⟨front,rfl⟩ := hs
      exact ⟨c,hends c rfl,front,b,by simp⟩
    · exact ⟨c,hc,h.trans (List.suffix_append a b).isInfix⟩

theorem usesElement_concat_append_iff {name a b : List Char} {k : Char} (hk : k ∉ name)
    (hlt : k ≠ '<') (hends : endsName k = false) :
    usesElement name (a ++ [k] ++ b) = true ↔
      usesElement name (a ++ [k]) = true ∨ usesElement name b = true := by
  simp only [usesElement_iff_occurs, ← exists_or, ← and_or_left]
  refine exists_congr fun c => and_congr_right fun hc => infix_concat_append_iff ?_
  have hkc : k ≠ c := by
    rintro rfl
    simp [hc] at hends
  simp [hk, hlt, hkc]

theorem opensTag_iff_occurs {line : List Char} :
    opensTag line = true ↔ ∃ c, isAsciiLetter c = true ∧ ['<', c] <:+: line := by
  rw [opensTag_iff]
  constructor
  · rintro ⟨c,rest,⟨front,rfl⟩,hc⟩
    exact ⟨c,hc,front,rest,by simp⟩
  · rintro ⟨c,hc,front,rest,rfl⟩
    exact ⟨c,rest,⟨front,by simp⟩,hc⟩

theorem isAsciiLetter_eq_false_of_endsName {c : Char} (h : endsName c = true) :
    isAsciiLetter c = false := by
  rw [← Bool.not_eq_true]
  intro hc
  simp [endsName_eq_false_of_isElementNameChar (isElementNameChar_of_isAsciiLetter hc)] at h

theorem opensTag_append_iff {a b : List Char} (hends : ∀ c ∈ b.head?, isAsciiLetter c = false) :
    opensTag (a ++ b) = true ↔ opensTag a = true ∨ opensTag b = true := by
  simp only [opensTag_iff_occurs, ← exists_or, ← and_or_left]
  refine exists_congr fun c => and_congr_right fun hc => ?_
  rw [infix_append_iff]
  refine or_congr_right (or_iff_left ?_)
  rintro ⟨u,v,hp,hu,hv,-,ht⟩
  obtain ⟨e,u,rfl⟩ := List.exists_cons_of_ne_nil hu
  obtain ⟨d,v,rfl⟩ := List.exists_cons_of_ne_nil hv
  have hd := hends d (by obtain ⟨t,rfl⟩ := ht; simp)
  obtain ⟨-,hp⟩ := List.cons.inj hp
  cases u with
  | nil =>
    obtain ⟨rfl,-⟩ := List.cons.inj hp
    simp [hc] at hd
  | cons f u => simp at hp

/-! ## Declarations -/

def functionWord : List Char := ['f', 'u', 'n', 'c', 't', 'i', 'o', 'n']

def declaringWords : List (List Char) := ['f', 'u', 'n', 'c', 't', 'i', 'o', 'n'] :: bindingWords

/-- What may follow a declared name: behind a function's name no word goes on, and a bound name has
an equals sign behind it. -/
def EndsDeclaration (word name rest : List Char) : Prop :=
  if word ∈ bindingWords then (trimStart rest).head? = some '='
  else isBoundary name.getLast? rest.head? = true

structure BeginsDeclaration (name word blanks rest cs : List Char) : Prop where
  word_mem : word ∈ declaringWords
  blanks_ne_nil : blanks ≠ []
  isBlank : ∀ c ∈ blanks, isBlank c = true
  cut : cs = word ++ (blanks ++ (name ++ rest))
  ends : EndsDeclaration word name rest

theorem afterBlanks_iff {test : Char → List Char → Bool} {cs : List Char} :
    afterBlanks test cs = true ↔ ∃ front c back, cs = front ++ c :: back ∧
      (∀ d ∈ front, isBlank d = true) ∧ isBlank c = true ∧ test c back = true := by
  induction cs with
  | nil => simp [afterBlanks]
  | cons d cs ih =>
    simp only [afterBlanks, Bool.and_eq_true, Bool.or_eq_true, ih]
    constructor
    · rintro ⟨hd,ht | ⟨front,c,back,rfl,hf,hc,ht⟩⟩
      · exact ⟨[],d,cs,rfl,by simp,hd,ht⟩
      · exact ⟨d :: front,c,back,rfl,List.forall_mem_cons.mpr ⟨hd,hf⟩,hc,ht⟩
    · rintro ⟨front,c,back,he,hf,hc,ht⟩
      cases front with
      | nil =>
        obtain ⟨rfl,rfl⟩ := List.cons.inj he
        exact ⟨hc,Or.inl ht⟩
      | cons e front =>
        obtain ⟨rfl,rfl⟩ := List.cons.inj he
        exact ⟨hf d List.mem_cons_self,
          Or.inr ⟨front,c,back,rfl,fun x hx => hf x (List.mem_cons_of_mem _ hx),hc,ht⟩⟩

/-- Blanks in front of a text that passes the test, whatever the last of the blanks. -/
theorem afterBlanks_const_iff {test : List Char → Bool} {cs : List Char} :
    afterBlanks (fun _ => test) cs = true ↔ ∃ blanks back, cs = blanks ++ back ∧ blanks ≠ [] ∧
      (∀ d ∈ blanks, isBlank d = true) ∧ test back = true := by
  rw [afterBlanks_iff]
  constructor
  · rintro ⟨front,c,back,rfl,hf,hc,ht⟩
    refine ⟨front ++ [c],back,by simp,by simp,?_,ht⟩
    simpa [or_imp, forall_and] using And.intro hf hc
  · rintro ⟨blanks,back,rfl,hne,hb,ht⟩
    refine ⟨blanks.dropLast,blanks.getLast hne,back,?_,fun d hd => hb d (List.mem_of_mem_dropLast hd),
      hb _ (List.getLast_mem hne),ht⟩
    rw [← List.singleton_append, ← List.append_assoc, List.dropLast_concat_getLast hne]

section Declarations
variable {name : List Char}

theorem beginsBinding_iff {cs : List Char} :
    beginsBinding name cs = true ↔
      ∃ rest, cs = name ++ rest ∧ (trimStart rest).head? = some '=' := by
  rw [beginsBinding]
  cases h : after? name cs with
  | none =>
    constructor
    · intro hn
      simp at hn
    · rintro ⟨rest,rfl,-⟩
      simp at h
  | some rest =>
    rw [after?_eq_some_iff] at h
    subst h
    simp

/-- The last blank counts as what stands in front of the end of a name that is empty. -/
theorem beginsWhole_concat_iff (blanks : List Char) {c : Char} {cs : List Char} :
    beginsWhole name c cs = true ↔
      ∃ rest, cs = name ++ rest ∧
        isBoundary (blanks ++ [c] ++ name).getLast? rest.head? = true := by
  have hlast : (blanks ++ [c] ++ name).getLast? = some (name.getLast?.getD c) := by
    cases name.eq_nil_or_concat with
    | inl h => simp [h]
    | inr h =>
      obtain ⟨front,d,rfl⟩ := h
      rw [List.concat_eq_append, ← List.append_assoc, List.getLast?_concat, List.getLast?_concat,
        Option.getD_some]
  rw [beginsWhole, hlast]
  cases h : after? name cs with
  | none =>
    constructor
    · intro hn
      simp at hn
    · rintro ⟨rest,rfl,-⟩
      simp at h
  | some rest =>
    rw [after?_eq_some_iff] at h
    subst h
    simp

theorem beginsFunction_iff {cs : List Char} : beginsFunction name cs = true ↔
    ∃ blanks rest, cs = functionWord ++ blanks ++ name ++ rest ∧ blanks ≠ [] ∧
      (∀ c ∈ blanks, isBlank c = true) ∧
        isBoundary (blanks ++ name).getLast? rest.head? = true := by
  rw [beginsFunction, ← functionWord]
  constructor
  · intro h
    split at h
    · next back hback =>
      obtain ⟨front,c,back,rfl,hfront,hc,hwhole⟩ := afterBlanks_iff.mp h
      obtain ⟨rest,rfl,hend⟩ := (beginsWhole_concat_iff front).mp hwhole
      refine ⟨front ++ [c],rest,?_,by simp,?_,hend⟩
      · rw [after?_eq_some_iff.mp hback]
        simp
      · simpa [or_imp, forall_and] using And.intro hfront hc
    · simp at h
  · rintro ⟨blanks,rest,rfl,hne,hblank,h⟩
    obtain ⟨front,c,rfl⟩ := blanks.eq_nil_or_concat'.resolve_left hne
    have hblanks : (∀ d ∈ front, isBlank d = true) ∧ isBlank c = true := by
      simpa [or_imp, forall_and] using hblank
    simp only [List.append_assoc, after?_append]
    exact afterBlanks_iff.mpr ⟨front,c,name ++ rest,by simp,hblanks.1,hblanks.2,
      (beginsWhole_concat_iff front).mpr ⟨rest,rfl,h⟩⟩

theorem beginsConstant_iff {cs : List Char} : beginsConstant name cs = true ↔
    ∃ word ∈ bindingWords, ∃ blanks rest, cs = word ++ blanks ++ name ++ rest ∧ blanks ≠ [] ∧
      (∀ c ∈ blanks, isBlank c = true) ∧ (trimStart rest).head? = some '=' := by
  simp only [beginsConstant, List.any_eq_true]
  refine exists_congr fun word => and_congr_right fun _ => ?_
  constructor
  · intro h
    split at h
    · next back hback =>
      obtain ⟨blanks,back,rfl,hne,hblank,hbinding⟩ := afterBlanks_const_iff.mp h
      obtain ⟨rest,rfl,hequals⟩ := beginsBinding_iff.mp hbinding
      exact ⟨blanks,rest,by simpa using after?_eq_some_iff.mp hback,hne,hblank,hequals⟩
    · simp at h
  · rintro ⟨blanks,rest,rfl,hne,hblank,h⟩
    simp only [List.append_assoc, after?_append]
    exact afterBlanks_const_iff.mpr
      ⟨blanks,name ++ rest,rfl,hne,hblank,beginsBinding_iff.mpr ⟨rest,rfl,h⟩⟩

theorem beginsDeclaration_iff (hne : name ≠ []) {cs : List Char} :
    (beginsFunction name cs || beginsConstant name cs) = true ↔
      ∃ word blanks rest, BeginsDeclaration name word blanks rest cs := by
  simp only [Bool.or_eq_true, beginsFunction_iff, beginsConstant_iff,
    List.getLast?_append_of_ne_nil _ hne]
  constructor
  · rintro (⟨blanks,rest,rfl,hb,hblank,h⟩ | ⟨word,hword,blanks,rest,rfl,hb,hblank,h⟩)
    · refine ⟨functionWord,blanks,rest,List.mem_cons_self,hb,hblank,by simp,?_⟩
      rwa [EndsDeclaration, if_neg (by decide)]
    · refine ⟨word,blanks,rest,List.mem_cons_of_mem _ hword,hb,hblank,by simp,?_⟩
      rwa [EndsDeclaration, if_pos hword]
  · rintro ⟨word,blanks,rest,hword,hb,hblank,rfl,hends⟩
    rw [EndsDeclaration] at hends
    by_cases hbind : word ∈ bindingWords
    · rw [if_pos hbind] at hends
      exact .inr ⟨word,hbind,blanks,rest,by simp,hb,hblank,hends⟩
    · rw [if_neg hbind] at hends
      obtain rfl := (List.mem_cons.mp hword).resolve_right hbind
      exact .inl ⟨blanks,rest,by simp [functionWord],hb,hblank,hends⟩

theorem declaresName_iff (hne : name ≠ []) {line : List Char} :
    declaresName name line = true ↔
      ∃ cs, cs <:+ line ∧ ∃ word blanks rest, BeginsDeclaration name word blanks rest cs := by
  rw [declaresName, anySuffix_iff]
  exact exists_congr fun cs => and_congr_right fun _ => beginsDeclaration_iff hne

theorem head?_trimStart_append_cons {rest b : List Char} {k : Char} (hk : isBlank k = false) :
    (trimStart (rest ++ k :: b)).head? = (trimStart (rest ++ [k])).head? := by
  induction rest with
  | nil => simp [trimStart, hk]
  | cons c rest ih =>
    by_cases hc : isBlank c = true
    · simpa [trimStart, hc] using ih
    · simp [trimStart, hc]

/-- What follows a declared name decides as soon as it holds a character that is not blank. -/
theorem endsDeclaration_append_cons {word rest b : List Char} {k : Char} (hk : isBlank k = false) :
    EndsDeclaration word name (rest ++ k :: b) ↔ EndsDeclaration word name (rest ++ [k]) := by
  rw [EndsDeclaration, EndsDeclaration, head?_trimStart_append_cons hk]
  cases rest <;> simp

/-- A declaration does not reach over a character that can stand neither in its name nor in front
of it. -/
theorem exists_beginsDeclaration_append_cons {a b : List Char} {k : Char} (hk : isBlank k = false)
    (hname : k ∉ name) (hword : ∀ word ∈ declaringWords, k ∉ word) :
    (∃ word blanks rest, BeginsDeclaration name word blanks rest (a ++ k :: b)) ↔
      ∃ word blanks rest, BeginsDeclaration name word blanks rest (a ++ [k]) := by
  have cut : ∀ {word blanks rest c : List Char}, word ∈ declaringWords →
      (∀ d ∈ blanks, isBlank d = true) → a ++ k :: c = word ++ (blanks ++ (name ++ rest)) →
      ∃ rest', a = word ++ (blanks ++ (name ++ rest')) ∧ rest = rest' ++ k :: c := by
    intro word blanks rest c hw hb he
    have hknot : k ∉ word ++ (blanks ++ name) := by
      simp only [List.mem_append, not_or]
      refine ⟨hword word hw,fun hm => ?_,hname⟩
      simp [hb k hm] at hk
    have hlead : word ++ (blanks ++ name) <+: a :=
      prefix_of_prefix_append_cons hknot ⟨rest,by rw [he]; simp⟩
    obtain ⟨rest',rfl⟩ := hlead
    refine ⟨rest',by simp,?_⟩
    simpa using he.symm
  constructor
  · rintro ⟨word,blanks,rest,h⟩
    obtain ⟨rest',ha,rfl⟩ := cut h.word_mem h.isBlank h.cut
    exact ⟨word,blanks,rest' ++ [k],h.word_mem,h.blanks_ne_nil,h.isBlank,by simp [ha],
      (endsDeclaration_append_cons hk).mp h.ends⟩
  · rintro ⟨word,blanks,rest,h⟩
    obtain ⟨rest',ha,rfl⟩ := cut h.word_mem h.isBlank h.cut
    exact ⟨word,blanks,rest' ++ k :: b,h.word_mem,h.blanks_ne_nil,h.isBlank,by simp [ha],
      (endsDeclaration_append_cons hk).mpr h.ends⟩

theorem suffix_append_iff {s a b : List Char} :
    s <:+ a ++ b ↔ s <:+ b ∨ ∃ u, u ≠ [] ∧ u <:+ a ∧ s = u ++ b := by
  constructor
  · rintro ⟨t,h⟩
    rcases List.append_eq_append_iff.mp h with ⟨u,ha,rfl⟩ | ⟨u,-,hb⟩
    · cases u with
      | nil => exact Or.inl List.suffix_rfl
      | cons c u => exact Or.inr ⟨c :: u,by simp,⟨t,ha.symm⟩,rfl⟩
    · exact Or.inl ⟨u,hb.symm⟩
  · rintro (h | ⟨u,-,⟨t,rfl⟩,rfl⟩)
    · exact h.trans (List.suffix_append a b)
    · exact ⟨t,by simp⟩

theorem declaresName_concat_append_iff (hne : name ≠ []) {a b : List Char} {k : Char}
    (hk : isBlank k = false) (hname : k ∉ name) (hword : ∀ word ∈ declaringWords, k ∉ word) :
    declaresName name (a ++ [k] ++ b) = true ↔
      declaresName name (a ++ [k]) = true ∨ declaresName name b = true := by
  simp only [declaresName_iff hne]
  constructor
  · rintro ⟨cs,hs,h⟩
    rcases suffix_append_iff.mp hs with hs | ⟨u,hu,hua,rfl⟩
    · exact Or.inr ⟨cs,hs,h⟩
    · left
      rcases List.suffix_concat_iff.mp hua with rfl | ⟨w,rfl,hw⟩
      · exact absurd rfl hu
      · rw [List.append_assoc, List.singleton_append] at h
        exact ⟨w ++ [k],hua,(exists_beginsDeclaration_append_cons hk hname hword).mp h⟩
  · rintro (⟨cs,hs,h⟩ | ⟨cs,hs,h⟩)
    · rcases List.suffix_concat_iff.mp hs with rfl | ⟨w,rfl,hw⟩
      · obtain ⟨word,blanks,rest,h⟩ := h
        have hcut := h.cut
        simp [hne] at hcut
      · refine ⟨w ++ k :: b,suffix_append_iff.mpr (Or.inr ⟨w ++ [k],by simp,hs,by simp⟩),?_⟩
        exact (exists_beginsDeclaration_append_cons hk hname hword).mpr h
    · exact ⟨cs,hs.trans (List.suffix_append ..),h⟩

/-- Behind a complete tag name, a declaration begins anew, or the name ends in a declaring word. -/
theorem declaresName_tag_append_iff (hne : name ≠ []) {tag b : List Char}
    (htag : ∀ c ∈ tag, isBlank c = false) (hends : NameEnds b) :
    declaresName name (tag ++ b) = true ↔
      declaresName name b = true ∨ ∃ word, word <:+ tag ∧
        ∃ blanks rest, BeginsDeclaration name word blanks rest (word ++ b) := by
  simp only [declaresName_iff hne]
  constructor
  · rintro ⟨cs,hs,word,blanks,rest,h⟩
    rcases suffix_append_iff.mp hs with hs | ⟨u,-,hut,rfl⟩
    · exact Or.inl ⟨cs,hs,word,blanks,rest,h⟩
    · right
      have hublank : ∀ c ∈ u, isBlank c = false := fun c hc => htag c (hut.subset hc)
      -- the word ends exactly where the tag does
      obtain rfl : u = word := by
        rcases List.append_eq_append_iff.mp h.cut with ⟨w,rfl,hb⟩ | ⟨w,rfl,hw⟩
        · cases w with
          | nil => simp
          | cons c w =>
            have hc := hends c (by simp [hb])
            have hall : ∀ word ∈ declaringWords, word.all (!endsName ·) = true := by
              decide +kernel
            have hopen := List.all_eq_true.mp (hall _ h.word_mem) c (by simp)
            simp [hc] at hopen
        · cases w with
          | nil => simp
          | cons c w =>
            obtain ⟨d,blanks',hbl⟩ := List.exists_cons_of_ne_nil h.blanks_ne_nil
            rw [hbl, List.cons_append] at hw
            obtain ⟨rfl,-⟩ := List.cons.inj hw
            have hd := h.isBlank d (by simp [hbl])
            simp [hublank d (by simp)] at hd
      exact ⟨u,hut,blanks,rest,h⟩
  · rintro (⟨cs,hs,h⟩ | ⟨word,⟨front,rfl⟩,blanks,rest,h⟩)
    · exact ⟨cs,hs.trans (List.suffix_append tag b),h⟩
    · exact ⟨word ++ b,⟨front,by simp⟩,word,blanks,rest,h⟩

end Declarations

/-! ## The attribute -/

theorem isElementNameChar_of_mem_tagName? {line tag : List Char} (h : tagName? line = some tag)
    {c : Char} (hc : c ∈ tag) : isElementNameChar c = true := by
  induction line with
  | nil => simp [tagName?] at h
  | cons d line ih =>
    cases line with
    | nil => simp [tagName?] at h
    | cons e cs =>
      rw [tagName?_cons_cons] at h
      by_cases ht : d = '<' ∧ isAsciiLetter e = true
      · rw [if_pos ht, Option.some.injEq] at h
        subst h
        rcases List.mem_cons.mp hc with rfl | hc
        · exact isElementNameChar_of_isAsciiLetter ht.2
        · exact isElementNameChar_of_isTagNameChar (List.mem_takeWhile_imp hc)
      · rw [if_neg ht] at h
        exact ih h

theorem isElementNameChar_of_mem_tagOf {element line : List Char}
    (h : isElementName element = true) {c : Char} (hc : c ∈ tagOf element line) :
    isElementNameChar c = true := by
  rw [tagOf] at hc
  cases ht : tagName? line with
  | none =>
    rw [ht] at hc
    exact isElementNameChar_of_mem h hc
  | some tag =>
    rw [ht] at hc
    exact isElementNameChar_of_mem_tagName? ht hc

theorem isBlank_eq_false_of_isElementNameChar {c : Char} (h : isElementNameChar c = true) :
    isBlank c = false := by
  have he := endsName_eq_false_of_isElementNameChar h
  simp only [endsName, Bool.or_eq_false_iff] at he
  exact he.1.1

theorem ne_nil_of_isElementName {name : List Char} (h : isElementName name = true) : name ≠ [] := by
  rintro rfl
  simp [isElementName] at h

/-- A new attribute that does not concern the search for an element: it holds no use and no
declaration of the element; it opens a tag at most where the line does; it is not put behind a tag of
the element that ends the line; and when the tag's name ends in a declaring word, the element's
name follows neither in the line nor as the beginning of the attribute's name. -/
structure Inert (name attr json tag before after : List Char) : Prop where
  unused : usesElement name (quotedAttribute attr json) = false
  undeclared : declaresName name (quotedAttribute attr json) = false
  opens : opensTag (quotedAttribute attr json) = true → opensTag (before ++ after) = true
  not_last : tag = name → after ≠ []
  not_behind : ∀ word ∈ declaringWords, word <:+ tag →
    ¬ name <+: trimStart after ∧ ¬ name <+: attr

theorem prefix_trimStart_of_beginsDeclaration {name word blanks rest b : List Char}
    (hname : ∀ c ∈ name, isBlank c = false)
    (h : BeginsDeclaration name word blanks rest (word ++ b)) : name <+: trimStart b := by
  obtain rfl := List.append_cancel_left h.cut
  rw [trimStart, List.dropWhile_append_of_pos h.isBlank]
  cases name with
  | nil => exact List.nil_prefix
  | cons c name => simp [hname c List.mem_cons_self]

theorem quotedAttribute_eq_concat (attr json : List Char) :
    quotedAttribute attr json = ' ' :: attributeLead attr ++ '\x27' :: json ++ ['\x27'] := by
  simp [quotedAttribute_eq]

theorem trimStart_quotedAttribute_append {attr : List Char} (h : ∀ c ∈ attr, isBlank c = false)
    (json b : List Char) :
    trimStart (quotedAttribute attr json ++ b) = attr ++ '=' :: '\x27' :: (json ++ '\x27' :: b) := by
  have hspace : isBlank ' ' = true := by decide +kernel
  have hequals : isBlank '=' = false := by decide +kernel
  cases attr with
  | nil => simp [trimStart, quotedAttribute, hspace, hequals]
  | cons c attr => simp [trimStart, quotedAttribute, hspace, h c List.mem_cons_self]

section Insert
variable {name attr json tag before after : List Char}

theorem usesElement_attribute_append (hname : ∀ c ∈ name, isElementNameChar c = true)
    (hunused : usesElement name (quotedAttribute attr json) = false) :
    usesElement name (quotedAttribute attr json ++ after) = usesElement name after := by
  have hquote : '\x27' ∉ name := fun hm => absurd (hname _ hm) (by decide +kernel)
  rw [quotedAttribute_eq_concat] at hunused ⊢
  rw [Bool.eq_iff_iff, usesElement_concat_append_iff hquote (by decide) (by decide +kernel), hunused]
  simp

theorem declaresName_attribute_append (hne : name ≠ [])
    (hname : ∀ c ∈ name, isElementNameChar c = true)
    (hundeclared : declaresName name (quotedAttribute attr json) = false) :
    declaresName name (quotedAttribute attr json ++ after) = declaresName name after := by
  have hquote : '\x27' ∉ name := fun hm => absurd (hname _ hm) (by decide +kernel)
  rw [quotedAttribute_eq_concat] at hundeclared ⊢
  rw [Bool.eq_iff_iff, declaresName_concat_append_iff hne (by decide +kernel) hquote (by decide),
    hundeclared]
  simp

theorem nameEnds_attribute_append : NameEnds (quotedAttribute attr json ++ after) := by
  intro c hc
  obtain rfl : ' ' = c := by simpa [quotedAttribute] using hc
  decide +kernel

/-- A tag of another name that ends a text is no tag of the element. -/
theorem eq_of_suffix_of_tagged (hname : ∀ c ∈ name, isElementNameChar c = true)
    (htag : ∀ c ∈ tag, isElementNameChar c = true) (htagged : '<' :: tag <:+ before)
    (h : '<' :: name <:+ before) : tag = name := by
  have hlt : ∀ {cs : List Char}, (∀ c ∈ cs, isElementNameChar c = true) → '<' ∉ cs :=
    fun hall hm => absurd (hall _ hm) (by decide +kernel)
  rcases List.suffix_or_suffix_of_suffix htagged h with hs | hs
  · rcases List.suffix_cons_iff.mp hs with he | hs
    · exact (List.cons.inj he).2
    · exact absurd (hs.subset List.mem_cons_self) (hlt hname)
  · rcases List.suffix_cons_iff.mp hs with he | hs
    · exact (List.cons.inj he).2.symm
    · exact absurd (hs.subset List.mem_cons_self) (hlt htag)

theorem usesElement_insert_of_inert (hname : ∀ c ∈ name, isElementNameChar c = true)
    (htag : ∀ c ∈ tag, isElementNameChar c = true) (htagged : '<' :: tag <:+ before)
    (hends : NameEnds after) (h : Inert name attr json tag before after) :
    usesElement name (before ++ quotedAttribute attr json ++ after) =
      usesElement name (before ++ after) := by
  have hnot : ∀ d ∈ name, endsName d = false := fun d hd =>
    endsName_eq_false_of_isElementNameChar (hname d hd)
  have hlast : '<' :: name <:+ before → after ≠ [] := fun hs =>
    h.not_last (eq_of_suffix_of_tagged hname htag htagged hs)
  rw [Bool.eq_iff_iff, List.append_assoc, usesElement_append_iff hnot nameEnds_attribute_append,
    usesElement_attribute_append hname h.unused, usesElement_append_iff hnot hends]
  refine or_congr_right (or_congr_left (and_congr_right fun hs => ?_))
  simp [hlast hs, quotedAttribute_ne_nil]

theorem declaresName_tag_insert (hne : name ≠ []) (hname : ∀ c ∈ name, isElementNameChar c = true)
    (htag : ∀ c ∈ tag, isElementNameChar c = true) (hattr : ∀ c ∈ attr, isBlank c = false)
    (hends : NameEnds after) (h : Inert name attr json tag before after) :
    declaresName name (tag ++ (quotedAttribute attr json ++ after)) =
      declaresName name (tag ++ after) := by
  have htagblank : ∀ c ∈ tag, isBlank c = false := fun c hc =>
    isBlank_eq_false_of_isElementNameChar (htag c hc)
  have hnameblank : ∀ c ∈ name, isBlank c = false := fun c hc =>
    isBlank_eq_false_of_isElementNameChar (hname c hc)
  have hequals : '=' ∉ name := fun hm => absurd (hname _ hm) (by decide +kernel)
  rw [Bool.eq_iff_iff, declaresName_tag_append_iff hne htagblank nameEnds_attribute_append,
    declaresName_tag_append_iff hne htagblank hends,
    declaresName_attribute_append hne hname h.undeclared]
  refine or_congr_right (iff_of_false ?_ ?_)
  · rintro ⟨word,hs,blanks,rest,hd⟩
    have hp := prefix_trimStart_of_beginsDeclaration hnameblank hd
    rw [trimStart_quotedAttribute_append hattr] at hp
    exact (h.not_behind word hd.word_mem hs).2 (prefix_of_prefix_append_cons hequals hp)
  · rintro ⟨word,hs,blanks,rest,hd⟩
    exact (h.not_behind word hd.word_mem hs).1
      (prefix_trimStart_of_beginsDeclaration hnameblank hd)

theorem declaresName_insert_of_inert (hne : name ≠ [])
    (hname : ∀ c ∈ name, isElementNameChar c = true)
    (htag : ∀ c ∈ tag, isElementNameChar c = true) (hattr : ∀ c ∈ attr, isBlank c = false)
    (htagged : '<' :: tag <:+ before) (hends : NameEnds after)
    (h : Inert name attr json tag before after) :
    declaresName name (before ++ quotedAttribute attr json ++ after) =
      declaresName name (before ++ after) := by
  obtain ⟨front,rfl⟩ := htagged
  have hlt : '<' ∉ name := fun hm => absurd (hname _ hm) (by decide +kernel)
  have hcut : ∀ b, front ++ '<' :: tag ++ b = front ++ ['<'] ++ (tag ++ b) := by simp
  have hiff := fun b : List Char => declaresName_concat_append_iff hne (a := front) (b := tag ++ b)
    (k := '<') (by decide +kernel) hlt (by decide)
  rw [Bool.eq_iff_iff, List.append_assoc, hcut, hcut, hiff, hiff,
    declaresName_tag_insert hne hname htag hattr hends h]

theorem opensTag_insert_of_inert (hends : NameEnds after)
    (h : Inert name attr json tag before after) :
    opensTag (before ++ quotedAttribute attr json ++ after) = opensTag (before ++ after) := by
  have hafter : ∀ c ∈ after.head?, isAsciiLetter c = false := fun c hc =>
    isAsciiLetter_eq_false_of_endsName (hends c hc)
  have hboth : ∀ c ∈ (quotedAttribute attr json ++ after).head?, isAsciiLetter c = false := fun c hc =>
    isAsciiLetter_eq_false_of_endsName (nameEnds_attribute_append c hc)
  have hopens := h.opens
  rw [opensTag_append_iff hafter] at hopens
  rw [Bool.eq_iff_iff, List.append_assoc, opensTag_append_iff hboth, opensTag_append_iff hafter,
    opensTag_append_iff hafter]
  tauto

/-- The search for an element does not tell a line from the line with an attribute that does not
concern it. -/
theorem alike_insert (hname : isElementName name = true)
    (htag : ∀ c ∈ tag, isElementNameChar c = true) (hattr : ∀ c ∈ attr, isBlank c = false)
    (htagged : '<' :: tag <:+ before) (hends : NameEnds after)
    (h : Inert name attr json tag before after) :
    Alike name (before ++ quotedAttribute attr json ++ after) (before ++ after) := by
  have hchars : ∀ c ∈ name, isElementNameChar c = true := fun c hc =>
    isElementNameChar_of_mem hname hc
  exact ⟨usesElement_insert_of_inert hchars htag htagged hends h,
    declaresName_insert_of_inert (ne_nil_of_isElementName hname) hchars htag hattr htagged hends h,
    opensTag_insert_of_inert hends h⟩

end Insert

/-! ## Other elements -/

theorem BehindFirstTag.unique {tag line before after before' after' : List Char}
    (h : BehindFirstTag tag line before after) (h' : BehindFirstTag tag line before' after') :
    before = before' ∧ after = after' := by
  have hlen : before.length = before'.length :=
    Nat.le_antisymm (h.first _ _ h'.cut h'.tagged h'.ends) (h'.first _ _ h.cut h.tagged h.ends)
  exact List.append_inj (h.cut.symm.trans h'.cut) hlen

/-- A first marker on one element leaves the search for another one as it was, if the new attribute
does not concern that element. -/
theorem findTarget_inject {text element other key : String} {a : Marker} {m : Marked}
    {json before after : List Char} (hother : isElementName other.toList = true)
    (hkey : ∀ c ∈ key.toList, isBlank c = false)
    (hmarked : inject text element a key = .ok (.marked m)) (hprior : m.hadPrior = false)
    (hwritten : a.written = .ok json)
    (hplace : MarkPlace text element key.toList (m.line - 1) before after)
    (hinert : Inert other.toList key.toList json
      (tagOf element.toList ((lines text).getD (m.line - 1) [])) before after) :
    findTarget (lines m.text) other.toList = findTarget (lines text) other.toList := by
  obtain ⟨i,before',after',json',hp,hw,rfl⟩ := inject_eq_marked_iff.mp hmarked
  obtain rfl : json = json' := Except.ok.inj (hwritten.symm.trans hw)
  obtain ⟨rfl,rfl⟩ := hplace.behind.unique hp.behind
  have hline : (lines text).getD i [] = before ++ after := by
    rw [← hp.behind.cut, strip_of_mentions_eq_false hprior]
  have halike := alike_insert hother (fun c hc => isElementNameChar_of_mem_tagOf hp.name hc) hkey
    hp.behind.tagged hp.behind.ends hinert
  rw [← hline] at halike
  show findTarget (lines (withAttribute text i key.toList json before after)) other.toList = _
  rw [hp.lines_withAttribute (newline_notMem_of_notBlank hkey) (newline_notMem_written hw)]
  exact findTarget_set_of_alike halike

theorem findTarget_inject_saving :
    isElementName "B".toList = true ∧ (∀ c ∈ "data".toList, isBlank c = false) ∧
      ∃ m json before after, inject "<A/>\n<B k>" "A" saving "data" = .ok (.marked m) ∧
        m.hadPrior = false ∧ saving.written = .ok json ∧
        MarkPlace "<A/>\n<B k>" "A" "data".toList (m.line - 1) before after ∧
        Inert "B".toList "data".toList json
          (tagOf "A".toList ((lines "<A/>\n<B k>").getD (m.line - 1) [])) before after ∧
        findTarget (lines m.text) "B".toList = findTarget (lines "<A/>\n<B k>") "B".toList := by
  have hname : isElementName "B".toList = true := by decide +kernel
  have hkey := isBlank_data
  obtain ⟨m,hm,htested⟩ := exists_marked_of_any (show ((inject "<A/>\n<B k>" "A" saving
    "data").toOption.bind Outcome.marked?).any (fun m => m.line == 1 && !m.hadPrior) = true by
      decide +kernel)
  simp only [Bool.and_eq_true, beq_iff_eq, Bool.not_eq_true'] at htested
  obtain ⟨hline,hprior⟩ := htested
  obtain ⟨i,before,after,json,hp,hw,rfl⟩ := inject_eq_marked_iff.mp hm
  have htag : tagOf "A".toList ((lines "<A/>\n<B k>").getD 0 []) = ['A'] := by decide +kernel
  obtain rfl : i = 0 := by simpa [markedAt] using hline
  have hquiet : saving.written.toOption.all (fun json =>
      !usesElement "B".toList (quotedAttribute "data".toList json) &&
      !declaresName "B".toList (quotedAttribute "data".toList json) &&
      !opensTag (quotedAttribute "data".toList json)) = true := by
    decide +kernel
  simp only [hw, Except.toOption, Option.all_some, Bool.and_eq_true, Bool.not_eq_true'] at hquiet
  have hinert : Inert "B".toList "data".toList json
      (tagOf "A".toList ((lines "<A/>\n<B k>").getD 0 [])) before after := by
    rw [htag]
    refine ⟨hquiet.1.1,hquiet.1.2,fun ho => ?_,fun hn => ?_,fun word hword hs => ?_⟩
    · exact absurd (ho.symm.trans hquiet.2) (by simp)
    · simp at hn
    · have hnone : ∀ word ∈ declaringWords, ¬ word <:+ ['A'] := by decide
      exact absurd hs (hnone word hword)
  exact ⟨hname,hkey,_,json,before,after,hm,hprior,hw,hp,hinert,
    findTarget_inject hname hkey hm hprior hw hp hinert⟩

def tagTitled : Marker where
  useCaseId := .text "UC-001"
  useCaseTitle := .text "<B >"
  function := .text "f"
  file := .text "a.py"
  line := .int 1

/-- The marker's text is searched, too: the title of a marker makes its line a use of another
element. -/
theorem exists_inject_found_in_title :
    ¬ ∀ (text element other key : String) (a : Marker) (m : Marked),
      isElementName element.toList = true → isElementName other.toList = true → element ≠ other →
        key ≠ "" → (∀ c ∈ key.toList, isBlank c = false) →
        inject text element a key = .ok (.marked m) → m.hadPrior = false →
        findTarget (lines m.text) other.toList = findTarget (lines text) other.toList := by
  intro h
  obtain ⟨m,hm,htested⟩ := exists_marked_of_any (show ((inject "<A/>\n" "A" tagTitled
    "data").toOption.bind Outcome.marked?).any (fun m => !m.hadPrior &&
      findTarget (lines m.text) "B".toList != findTarget (lines "<A/>\n") "B".toList) = true by
        decide +kernel)
  simp only [Bool.and_eq_true, Bool.not_eq_true', bne_iff_ne] at htested
  exact htested.2 (h "<A/>\n" "A" "B" "data" tagTitled m (by decide +kernel) (by decide +kernel)
    (by decide) (by decide) isBlank_data hm htested.1)

end Traceability.Marker
