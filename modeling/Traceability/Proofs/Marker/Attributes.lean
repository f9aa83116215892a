import Traceability.Proofs.Marker.Frame

/-! # The attributes that are taken out of a line

A line is cut from left to right into characters that stay and attributes that are taken out. Two
kinds of attributes are compared. A complete one has a blank in front of it, and a value in braces
ends where the braces balance. What is taken out may stand behind any character, and its value ends
at the first closing brace. The two agree unless the name is the end of a longer one or the braces
are nested.
-/
namespace Traceability.Marker
open Text

/-! ## Cutting a line -/

/-- A part of a line: a character that stays, or a text that is taken out. -/
inductive Part
  | kept (c : Char)
  | taken (cs : List Char)
  deriving DecidableEq, Repr

def Part.rest : Part → List Char
  | kept c => [c]
  | taken _ => []

def remainder (parts : List Part) : List Char := parts.flatMap Part.rest

/-- The parts of a line when every text with a property is taken out as soon as it begins. -/
inductive Cuts (P : List Char → Prop) : List Char → List Part → Prop
  | nil : Cuts P [] []
  | keep {c : Char} {cs : List Char} {parts : List Part} :
      (∀ p, p <+: c :: cs → ¬ P p) → Cuts P cs parts → Cuts P (c :: cs) (.kept c :: parts)
  | take {p cs : List Char} {parts : List Part} :
      p ≠ [] → P p → Cuts P cs parts → Cuts P (p ++ cs) (.taken p :: parts)

section Cuts
variable {P Q : List Char → Prop} {line : List Char} {parts : List Part}

/-- No text with the property begins another one. -/
def PrefixFree (P : List Char → Prop) : Prop := ∀ p q, P p → P q → p <+: q → p = q

theorem PrefixFree.eq (hP : PrefixFree P) {p q : List Char} (hp : P p) (hq : P q)
    (hpl : p <+: line) (hql : q <+: line) : p = q := by
  rcases List.prefix_or_prefix_of_prefix hpl hql with h | h
  · exact hP p q hp hq h
  · exact (hP q p hq hp h).symm

/-- There is only one way to cut a line. -/
theorem Cuts.unique (hP : PrefixFree P) {parts' : List Part} (h : Cuts P line parts)
    (h' : Cuts P line parts') : parts = parts' := by
  induction h generalizing parts' with
  | nil =>
    generalize hline : ([] : List Char) = line at h'
    cases h' with
    | nil => rfl
    | keep => cases hline
    | take hne => exact absurd (List.append_eq_nil_iff.mp hline.symm).1 hne
  | @keep c cs parts hnone _ ih =>
    generalize hline : c :: cs = line at h'
    cases h' with
    | nil => cases hline
    | keep _ hrest =>
      obtain ⟨rfl,rfl⟩ := List.cons.inj hline
      rw [ih hrest]
    | @take p rest _ _ hp =>
      exact absurd hp (hnone p (hline ▸ List.prefix_append p rest))
  | @take p cs parts hne hp _ ih =>
    generalize hline : p ++ cs = line at h'
    cases h' with
    | nil => exact absurd (List.append_eq_nil_iff.mp hline).1 hne
    | keep hnone => exact absurd hp (hnone p (hline ▸ List.prefix_append p cs))
    | @take q rest _ _ hq hrest =>
      have hpq : p = q := hP.eq hp hq (List.prefix_append p cs) (hline ▸ List.prefix_append q rest)
      subst hpq
      rw [List.append_cancel_left hline] at ih
      rw [ih hrest]

end Cuts

/-! ## Values and attributes -/

/-- Each opening brace has its closing one, and none is left over. -/
inductive Balanced : List Char → Prop
  | nil : Balanced []
  | plain {c : Char} {cs : List Char} :
      c ≠ '\x7b' → c ≠ '\x7d' → Balanced cs → Balanced (c :: cs)
  | nested {inner cs : List Char} :
      Balanced inner → Balanced cs → Balanced ('\x7b' :: (inner ++ '\x7d' :: cs))

def Unclosed (cs : List Char) : Prop := '\x7d' ∉ cs

/-- A quoted text, or a text in braces with the given property. -/
inductive IsValue (inBraces : List Char → Prop) : List Char → Prop
  | single {body : List Char} : '\x27' ∉ body → IsValue inBraces ('\x27' :: (body ++ ['\x27']))
  | double {body : List Char} : '\x22' ∉ body → IsValue inBraces ('\x22' :: (body ++ ['\x22']))
  | braced {body : List Char} : inBraces body → IsValue inBraces ('\x7b' :: (body ++ ['\x7d']))

structure IsAttribute (inBraces : List Char → Prop) (attr blanks value p : List Char) : Prop where
  text : p = blanks ++ (attributeLead attr ++ value)
  blank : ∀ c ∈ blanks, isBlank c = true
  value : IsValue inBraces value

/-- An attribute of exactly the given name, with its whole value. -/
def CompleteAttribute (attr p : List Char) : Prop :=
  ∃ blanks value, IsAttribute Balanced attr blanks value p ∧ blanks ≠ []

/-- What looks like an attribute of the given name when the character in front of the name is not
looked at and its value ends at the first closing brace. -/
def LooseAttribute (attr p : List Char) : Prop :=
  ∃ blanks value, IsAttribute Unclosed attr blanks value p

/-! ### Where a value ends -/

theorem Balanced.append_cons_inj {xs ys s t : List Char} (hx : Balanced xs) (hy : Balanced ys)
    (h : xs ++ '\x7d' :: s = ys ++ '\x7d' :: t) : xs = ys ∧ s = t := by
  induction hx generalizing ys s t with
  | nil =>
    cases hy with
    | nil => exact ⟨rfl,List.tail_eq_of_cons_eq h⟩
    | plain _ hclose => exact absurd (List.head_eq_of_cons_eq h).symm hclose
    | nested => exact absurd (List.head_eq_of_cons_eq h) (by decide)
  | plain hopen hclose _ ih =>
    cases hy with
    | nil => exact absurd (List.head_eq_of_cons_eq h) hclose
    | plain _ _ hcs =>
      obtain ⟨rfl,htail⟩ := List.cons.inj h
      obtain ⟨rfl,hst⟩ := ih hcs htail
      exact ⟨rfl,hst⟩
    | nested => exact absurd (List.head_eq_of_cons_eq h) hopen
  | nested _ _ ihinner ihcs =>
    cases hy with
    | nil => exact absurd (List.head_eq_of_cons_eq h) (by decide)
    | plain hopen => exact absurd (List.head_eq_of_cons_eq h).symm hopen
    | nested hinner hcs =>
      simp only [List.append_assoc, List.cons_append, List.cons.injEq, true_and] at h
      -- the inner texts end first, and what follows them is compared afterwards
      obtain ⟨rfl,hrest⟩ := ihinner hinner h
      obtain ⟨rfl,hst⟩ := ihcs hcs hrest
      exact ⟨rfl,hst⟩

section Values
variable {B C : List Char → Prop} {attr value value' : List Char}

theorem delimited_inj {o o' c c' : Char} {xs ys : List Char}
    (h : o :: (xs ++ [c]) <+: o' :: (ys ++ [c'])) : o = o' ∧ ∃ more, xs ++ c :: more = ys ++ [c'] := by
  obtain ⟨more,hmore⟩ := h
  simp only [List.cons_append, List.append_assoc, List.cons.injEq, List.nil_append] at hmore
  exact ⟨hmore.1,more,hmore.2⟩

/-- The value of one attribute does not begin the longer value of another one. -/
theorem IsValue.eq_of_prefix
    (hB : ∀ xs ys s t, B xs → B ys → xs ++ '\x7d' :: s = ys ++ '\x7d' :: t → xs = ys)
    (h : IsValue B value) (h' : IsValue B value') (hp : value <+: value') : value = value' := by
  cases h with
  | single hx =>
    cases h' with
    | single hy =>
      obtain ⟨-,more,hmore⟩ := delimited_inj hp
      rw [(append_cons_inj hx hy hmore).1]
    | double => exact absurd (delimited_inj hp).1 (by decide)
    | braced => exact absurd (delimited_inj hp).1 (by decide)
  | double hx =>
    cases h' with
    | single => exact absurd (delimited_inj hp).1 (by decide)
    | double hy =>
      obtain ⟨-,more,hmore⟩ := delimited_inj hp
      rw [(append_cons_inj hx hy hmore).1]
    | braced => exact absurd (delimited_inj hp).1 (by decide)
  | braced hx =>
    cases h' with
    | single => exact absurd (delimited_inj hp).1 (by decide)
    | double => exact absurd (delimited_inj hp).1 (by decide)
    | braced hy =>
      obtain ⟨-,more,hmore⟩ := delimited_inj hp
      rw [hB _ _ _ _ hx hy hmore]

/-- A whole value begins with one that ends at the first closing brace. -/
theorem IsValue.exists_unclosed (h : IsValue Balanced value) :
    ∃ v, v <+: value ∧ IsValue Unclosed v := by
  cases h with
  | single hx => exact ⟨_,List.prefix_rfl,.single hx⟩
  | double hx => exact ⟨_,List.prefix_rfl,.double hx⟩
  | @braced body =>
    have hclose : '\x7d' ∈ body ++ ['\x7d'] := by simp
    obtain ⟨front,back,hcut,hfront⟩ := List.eq_append_cons_of_mem hclose
    refine ⟨'\x7b' :: (front ++ ['\x7d']),⟨back,?_⟩,.braced hfront⟩
    rw [hcut, List.cons_append, List.append_assoc]
    rfl

end Values

/-! ### Where an attribute begins -/

section Attributes
variable {B C : List Char → Prop} {attr blanks value p blanks' value' q : List Char}

theorem blanks_eq_of_prefix {a : Char} {xs ys : List Char} (ha : isBlank a = false)
    (hblanks : ∀ c ∈ blanks, isBlank c = true) (hblanks' : ∀ c ∈ blanks', isBlank c = true)
    (h : blanks ++ a :: xs <+: blanks' ++ a :: ys) : blanks = blanks' ∧ xs <+: ys := by
  induction blanks generalizing blanks' with
  | nil =>
    cases blanks' with
    | nil => exact ⟨rfl,(List.cons_prefix_cons.mp h).2⟩
    | cons b blanks' =>
      have hb := hblanks' b List.mem_cons_self
      rw [← (List.cons_prefix_cons.mp h).1, ha] at hb
      cases hb
  | cons b blanks ih =>
    cases blanks' with
    | nil =>
      have hb := hblanks b List.mem_cons_self
      rw [(List.cons_prefix_cons.mp h).1, ha] at hb
      cases hb
    | cons b' blanks' =>
      obtain ⟨rfl,htail⟩ := List.cons_prefix_cons.mp h
      obtain ⟨rfl,hxy⟩ := ih (fun c hc => hblanks c (List.mem_cons_of_mem _ hc))
        (fun c hc => hblanks' c (List.mem_cons_of_mem _ hc)) htail
      exact ⟨rfl,hxy⟩

/-- Attributes that begin at one place have the same blanks, and their values begin alike. -/
theorem attribute_eq_of_prefix (hne : attr ≠ []) (hattr : ∀ c ∈ attr, isBlank c = false)
    (hblanks : ∀ c ∈ blanks, isBlank c = true) (hblanks' : ∀ c ∈ blanks', isBlank c = true)
    (h : blanks ++ (attributeLead attr ++ value) <+: blanks' ++ (attributeLead attr ++ value')) :
    blanks = blanks' ∧ value <+: value' := by
  obtain ⟨a,name,rfl⟩ := List.exists_cons_of_ne_nil hne
  obtain ⟨heq,hrest⟩ := blanks_eq_of_prefix (hattr a List.mem_cons_self) hblanks hblanks' h
  exact ⟨heq,(List.prefix_append_right_inj (name ++ ['='])).mp hrest⟩

/-- Of two attributes at one place neither ends first if values in braces end where they do. -/
theorem IsAttribute.eq_of_prefix (hne : attr ≠ []) (hattr : ∀ c ∈ attr, isBlank c = false)
    (hB : ∀ xs ys s t, B xs → B ys → xs ++ '\x7d' :: s = ys ++ '\x7d' :: t → xs = ys)
    (h : IsAttribute B attr blanks value p) (h' : IsAttribute B attr blanks' value' q)
    (hp : p <+: q) : p = q := by
  rw [h.text, h'.text] at hp
  obtain ⟨rfl,hvalue⟩ := attribute_eq_of_prefix hne hattr h.blank h'.blank hp
  rw [h.text, h'.text, h.value.eq_of_prefix hB h'.value hvalue]

theorem prefixFree_completeAttribute (hne : attr ≠ []) (hattr : ∀ c ∈ attr, isBlank c = false) :
    PrefixFree (CompleteAttribute attr) := by
  rintro p q ⟨_,_,hp,-⟩ ⟨_,_,hq,-⟩ hpq
  exact hp.eq_of_prefix hne hattr (fun _ _ _ _ hx hy h => (hx.append_cons_inj hy h).1) hq hpq

/-- Where a complete attribute begins, one is taken out. -/
theorem CompleteAttribute.exists_loose (h : CompleteAttribute attr q) {line : List Char}
    (hq : q <+: line) : ∃ p, p <+: line ∧ LooseAttribute attr p := by
  obtain ⟨blanks,value,hattr,-⟩ := h
  obtain ⟨v,⟨more,hv⟩,hvalue⟩ := hattr.value.exists_unclosed
  refine ⟨blanks ++ (attributeLead attr ++ v),?_,blanks,v,rfl,hattr.blank,hvalue⟩
  refine List.IsPrefix.trans ⟨more,?_⟩ hq
  rw [hattr.text, ← hv, List.append_assoc, List.append_assoc]

end Attributes

/-! ## Stripping -/

theorem closedLength?_eq_some_iff {close : Char} {cs : List Char} {n : ℕ} :
    closedLength? close cs = some n ↔
      ∃ body rest, cs = body ++ close :: rest ∧ close ∉ body ∧ n = body.length + 1 := by
  constructor
  · intro h
    induction cs generalizing n with
    | nil => cases h
    | cons c cs ih =>
      rw [closedLength?] at h
      split at h
      · next hc =>
        subst hc
        exact ⟨[],cs,rfl,List.not_mem_nil,(Option.some.inj h).symm⟩
      · next hc =>
        obtain ⟨m,hm,rfl⟩ := Option.map_eq_some_iff.mp h
        obtain ⟨body,rest,rfl,hbody,rfl⟩ := ih hm
        refine ⟨c :: body,rest,rfl,?_,rfl⟩
        simpa using ⟨Ne.symm hc,hbody⟩
  · rintro ⟨body,rest,rfl,hbody,rfl⟩
    exact closedLength?_append hbody

theorem closing?_eq_some_iff {c close : Char} : closing? c = some close ↔
    c = '\x27' ∧ close = '\x27' ∨ c = '\x22' ∧ close = '\x22' ∨ c = '\x7b' ∧ close = '\x7d' := by
  rw [closing?]
  split_ifs with h₁ h₂ h₃
  · subst h₁
    simp [eq_comm]
  · subst h₂
    simp [eq_comm]
  · subst h₃
    simp [eq_comm]
  · simp [h₁, h₂, h₃]

theorem valueLength?_eq_some_iff {cs : List Char} {n : ℕ} : valueLength? cs = some n ↔
    ∃ value rest, cs = value ++ rest ∧ IsValue Unclosed value ∧ n = value.length := by
  constructor
  · intro h
    cases cs with
    | nil => cases h
    | cons c cs =>
      rw [valueLength?] at h
      cases hclose : closing? c with
      | none =>
        rw [hclose] at h
        cases h
      | some close =>
        rw [hclose] at h
        obtain ⟨m,hm,rfl⟩ := Option.map_eq_some_iff.mp h
        obtain ⟨body,rest,rfl,hbody,rfl⟩ := closedLength?_eq_some_iff.mp hm
        refine ⟨c :: (body ++ [close]),rest,by simp,?_,by simp⟩
        rcases closing?_eq_some_iff.mp hclose with ⟨rfl,rfl⟩ | ⟨rfl,rfl⟩ | ⟨rfl,rfl⟩
        · exact .single hbody
        · exact .double hbody
        · exact .braced hbody
  · rintro ⟨value,rest,rfl,hvalue,rfl⟩
    cases hvalue with
    | single hbody => simp [valueLength?, closing?, closedLength?_append hbody]
    | double hbody => simp [valueLength?, closing?, closedLength?_append hbody]
    | braced hbody => simp [valueLength?, closing?, closedLength?_append hbody]

theorem attributeLength?_eq_some_iff {attr cs : List Char} {n : ℕ} :
    attributeLength? attr cs = some n ↔ ∃ value rest, cs = attributeLead attr ++ value ++ rest ∧
      IsValue Unclosed value ∧ n = (attributeLead attr ++ value).length := by
  rw [attributeLength?]
  cases hlead : after? (attributeLead attr) cs with
  | none =>
    rw [after?_eq_none_iff] at hlead
    simp only [reduceCtorEq, false_iff, not_exists, not_and]
    rintro value rest rfl
    rw [List.append_assoc] at hlead
    exact absurd (List.prefix_append _ _) hlead
  | some behind =>
    obtain rfl := after?_eq_some_iff.mp hlead
    simp only [Option.map_eq_some_iff, valueLength?_eq_some_iff, List.append_assoc,
      List.append_cancel_left_eq, List.length_append]
    constructor
    · rintro ⟨m,⟨value,rest,hcut,hvalue,rfl⟩,rfl⟩
      exact ⟨value,rest,hcut,hvalue,Nat.add_comm _ _⟩
    · rintro ⟨value,rest,hcut,hvalue,rfl⟩
      exact ⟨_,⟨value,rest,hcut,hvalue,rfl⟩,Nat.add_comm _ _⟩

section Strip
variable {attr : List Char}

/-- The longest run of blanks in front of the name is the one that is found. -/
theorem paddedLength?_eq_some_iff (hne : attr ≠ []) (hattr : ∀ c ∈ attr, isBlank c = false)
    {cs : List Char} {n : ℕ} : paddedLength? attr cs = some n ↔
      ∃ p rest, cs = p ++ rest ∧ LooseAttribute attr p ∧ n = p.length := by
  have hplain : ∀ {cs : List Char} {n : ℕ}, attributeLength? attr cs = some n →
      ∃ p rest, cs = p ++ rest ∧ LooseAttribute attr p ∧ n = p.length := by
    intro cs n h
    obtain ⟨value,rest,hcut,hvalue,hn⟩ := attributeLength?_eq_some_iff.mp h
    exact ⟨_,rest,hcut,⟨[],value,rfl,by simp,hvalue⟩,hn⟩
  constructor
  · intro h
    induction cs generalizing n with
    | nil => exact hplain h
    | cons c cs ih =>
      rw [paddedLength?] at h
      split at h
      · next hc =>
        split at h
        · next m hm =>
          obtain ⟨p,rest,rfl,⟨blanks,value,hp⟩,rfl⟩ := ih hm
          refine ⟨c :: p,rest,rfl,⟨c :: blanks,value,?_,?_,hp.value⟩,(Option.some.inj h).symm⟩
          · rw [hp.text]
            rfl
          · exact List.forall_mem_cons.mpr ⟨hc,hp.blank⟩
        · exact hplain h
      · exact hplain h
  · rintro ⟨p,rest,rfl,⟨blanks,value,hp⟩,rfl⟩
    have hlead : attributeLength? attr (attributeLead attr ++ value ++ rest) =
        some (attributeLead attr ++ value).length :=
      attributeLength?_eq_some_iff.mpr ⟨value,rest,rfl,hp.value,rfl⟩
    have hblank := hp.blank
    rw [hp.text]
    clear hp
    -- a blank is taken whenever an attribute is found behind it, so all of them are
    induction blanks with
    | nil =>
      obtain ⟨a,name,rfl⟩ := List.exists_cons_of_ne_nil hne
      have ha := hattr a List.mem_cons_self
      simp only [attributeLead, List.cons_append] at hlead
      simp only [attributeLead, List.cons_append, List.nil_append]
      rw [paddedLength?, if_neg (by simp [ha]), hlead]
    | cons c blanks ih =>
      obtain ⟨hc,hblanks⟩ := List.forall_mem_cons.mp hblank
      have hrest := ih hblanks
      simp only [List.cons_append] at hrest ⊢
      rw [paddedLength?, if_pos hc, hrest]
      rfl

end Strip

/-! ## Marking -/

theorem CompleteAttribute.isBlank_of_prefix {attr p cs : List Char} {c : Char}
    (h : CompleteAttribute attr p) (hp : p <+: c :: cs) : isBlank c = true := by
  obtain ⟨blanks,value,hattribute,hspaced⟩ := h
  obtain ⟨b,blanks,rfl⟩ := List.exists_cons_of_ne_nil hspaced
  rw [hattribute.text] at hp
  rw [← (List.cons_prefix_cons.mp hp).1]
  exact hattribute.blank b List.mem_cons_self

theorem not_complete_of_prefix {attr cs p : List Char} {c : Char} (hne : attr ≠ [])
    (hattr : ∀ c ∈ attr, isBlank c = false)
    (h : (isBlank c && (paddedLength? attr (c :: cs)).isSome) = false) (hp : p <+: c :: cs) :
    ¬ CompleteAttribute attr p := by
  intro hcomplete
  obtain ⟨q,⟨rest,hcut⟩,hq⟩ := hcomplete.exists_loose hp
  have hsome := (paddedLength?_eq_some_iff hne hattr).mpr ⟨q,rest,hcut.symm,hq,rfl⟩
  rw [hcomplete.isBlank_of_prefix hp, hsome] at h
  cases h

/-- No blank of the line has something like an attribute of the name behind it. -/
def isFree (attr : List Char) : List Char → Bool
  | [] => true
  | c :: cs => !(isBlank c && (paddedLength? attr (c :: cs)).isSome) && isFree attr cs

theorem cuts_kept {attr line : List Char} (hne : attr ≠ [])
    (hattr : ∀ c ∈ attr, isBlank c = false) (h : isFree attr line = true) :
    Cuts (CompleteAttribute attr) line (line.map .kept) := by
  induction line with
  | nil => exact .nil
  | cons c cs ih =>
    simp only [isFree, Bool.and_eq_true, Bool.not_eq_true'] at h
    exact .keep (fun p hp => not_complete_of_prefix hne hattr h.1 hp) (ih h.2)

/-- The element of a text on one line is marked, and what the strip leaves of the line is not what is
left without the complete attributes. -/
def LosesOther (text : String) : Prop :=
  lines text = [text.toList] ∧ (∃ m, inject text "A" saving "data" = .ok (.marked m)) ∧
    (∃ parts, Cuts (CompleteAttribute "data".toList) text.toList parts) ∧
    ∀ parts, Cuts (CompleteAttribute "data".toList) text.toList parts →
      strip "data".toList text.toList ≠ remainder parts

/-- A longer name loses its end, and a value with braces inside its braces leaves one behind. -/
theorem losesOther_longer_and_nested :
    LosesOther "<A x-data='1'/>" ∧ LosesOther "<A b data=\x7b\x7ba\x7d\x7d/>" := by
  have hmarked : ∀ text : String, ((inject text "A" saving "data").toOption.bind
      Outcome.marked?).any (·.changed) = true → ∃ m, inject text "A" saving "data" = .ok (.marked m) :=
    fun _ h => (exists_marked_of_any h).imp fun _ hm => hm.1
  have hne : "data".toList ≠ [] := by decide
  have hattr := isBlank_data
  have hlonger : Cuts (CompleteAttribute "data".toList) "<A x-data='1'/>".toList
      ("<A x-data='1'/>".toList.map .kept) := cuts_kept hne hattr (by decide +kernel)
  have hnested : Cuts (CompleteAttribute "data".toList)
      "<A b data=\x7b\x7ba\x7d\x7d/>".toList (.kept '<' :: .kept 'A' :: .kept ' ' :: .kept 'b' ::
        .taken " data=\x7b\x7ba\x7d\x7d".toList :: "/>".toList.map .kept) := by
    have hinner : Balanced ['a'] := .plain (by decide) (by decide) .nil
    have hbalanced : Balanced ['\x7b', 'a', '\x7d'] := hinner.nested .nil
    have hblank : [' '].all isBlank = true := by decide
    have hcomplete : CompleteAttribute "data".toList " data=\x7b\x7ba\x7d\x7d".toList :=
      ⟨[' '],_,⟨by rfl,List.all_eq_true.mp hblank,.braced hbalanced⟩,by decide⟩
    have hrest : Cuts (CompleteAttribute "data".toList) "/>".toList ("/>".toList.map .kept) :=
      cuts_kept hne hattr (by decide +kernel)
    have hnone : ∀ c cs, (isBlank c && (paddedLength? "data".toList (c :: cs)).isSome) = false →
        ∀ p, p <+: c :: cs → ¬ CompleteAttribute "data".toList p :=
      fun c cs h p hp => not_complete_of_prefix hne hattr h hp
    exact .keep (hnone _ _ (by decide +kernel)) (.keep (hnone _ _ (by decide +kernel))
      (.keep (hnone _ _ (by decide +kernel)) (.keep (hnone _ _ (by decide +kernel))
        (.take (by decide) hcomplete hrest))))
  have honly : ∀ {line parts parts'}, Cuts (CompleteAttribute "data".toList) line parts →
      Cuts (CompleteAttribute "data".toList) line parts' → parts = parts' :=
    fun h h' => h.unique (prefixFree_completeAttribute hne hattr) h'
  refine ⟨⟨by decide,?_,⟨_,hlonger⟩,fun parts h => ?_⟩,by decide,?_,⟨_,hnested⟩,fun parts h => ?_⟩
  · exact hmarked _ (by decide +kernel)
  · rw [← honly hlonger h]
    decide +kernel
  · exact hmarked _ (by decide +kernel)
  · rw [← honly hnested h]
    decide +kernel

end Traceability.Marker
