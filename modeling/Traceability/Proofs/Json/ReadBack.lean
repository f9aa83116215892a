import Traceability.Proofs.Json.ReadNumber
import Traceability.Proofs.Json.ReadText

/-! # Reading the compact form

The compact form of a value is read as that value, also when single quotes are written as escapes.
Numbers with a fraction are left out: their spelling is the shortest one, and what is read from it
is a matter of rounding.
-/
namespace Traceability.Json
open Number Text Marker

/-! ## Values -/

mutual

/-- The value is read back: it has no number with a fraction, its integers are short enough to be
written, and no object has two members of one name. -/
def ReadsBack : Json → Prop
  | .float _ => False
  | .int n => isWritable (.int n) = true
  | .list items => ItemsReadBack items
  | .object members => (members.map Prod.fst).Nodup ∧ MembersReadBack members
  | _ => True

def ItemsReadBack : List Json → Prop
  | [] => True
  | j :: js => ReadsBack j ∧ ItemsReadBack js

def MembersReadBack : List (String × Json) → Prop
  | [] => True
  | (_, j) :: rest => ReadsBack j ∧ MembersReadBack rest

end

theorem skipBlanks_cons {c : Char} (h : isJsonBlank c = false) (cs : List Char) :
    skipBlanks (c :: cs) = c :: cs := by
  simp [skipBlanks, h]

def BeginsValue (c : Char) : Prop := isJsonBlank c = false ∧ c ≠ ']'

theorem exists_escapeQuotes_compactChars {j : Json} (h : ReadsBack j) :
    ∃ c cs, escapeQuotes j.compactChars = c :: cs ∧ BeginsValue c := by
  cases j with
  | null => exact ⟨'n',['u', 'l', 'l'],rfl,by decide,by decide⟩
  | bool b =>
    cases b with
    | true => exact ⟨'t',['r', 'u', 'e'],rfl,by decide,by decide⟩
    | false => exact ⟨'f',['a', 'l', 's', 'e'],rfl,by decide,by decide⟩
  | int n =>
    obtain ⟨c,cs,hc,hn⟩ := exists_toString_eq_append n
    have hne := fun d (hd : isAsciiDigit d = false) => ne_of_isAsciiDigit hc hd
    have hbegins : BeginsValue c := by
      simp [BeginsValue, isJsonBlank, hne ' ' (by decide), hne '\n' (by decide),
        hne '\t' (by decide), hne '\r' (by decide), hne ']' (by decide)]
    rcases hn with hn | hn
    · refine ⟨c,escapeQuotes cs,?_,hbegins⟩
      rw [compactChars, hn, escapeQuotes_cons_of_ne (hne '\x27' (by decide))]
    · refine ⟨'-',escapeQuotes (c :: cs),?_,by decide,by decide⟩
      rw [compactChars, hn, escapeQuotes_cons_of_ne (by decide)]
  | float x => exact h.elim
  | text s => exact ⟨_,_,escapeQuotes_quotedText s,by decide,by decide⟩
  | list items =>
    exact ⟨'[',_,escapeQuotes_cons_of_ne (by decide) _,by decide,by decide⟩
  | object members =>
    exact ⟨'\x7b',_,escapeQuotes_cons_of_ne (by decide) _,by decide,by decide⟩

theorem putMember_of_notMem {name : String} {members : List (String × Json)}
    (h : name ∉ members.map Prod.fst) (j : Json) :
    putMember name j members = members ++ [(name, j)] := by
  induction members with
  | nil => rfl
  | cons m members ih =>
    simp only [List.map_cons, List.mem_cons, not_or] at h
    rw [putMember, if_neg (Ne.symm h.1), ih h.2]
    rfl

theorem readValue_text (s : String) (fuel : ℕ) (rest : List Char) :
    readValue (fuel + 1) (escapeQuotes (quotedText s) ++ rest) = .ok (.text s,rest) := by
  rw [escapeQuotes_quotedText, List.cons_append, List.append_assoc, readValue]
  simp [readText_quoted]

theorem readValue_int {n : ℤ} (hn : isWritable (.int n) = true) (fuel : ℕ) {rest : List Char}
    (h : EndsValue rest) :
    readValue (fuel + 1) (escapeQuotes (compactChars (.int n)) ++ rest) = .ok (.int n,rest) := by
  obtain ⟨c,cs,hc,hcs⟩ := exists_toString_eq_append n
  have hne := fun d (hd : isAsciiDigit d = false) => ne_of_isAsciiDigit hc hd
  have hquote := quote_notMem_toString n
  have hword := readWord?_toString n rest
  have hnumber := readNumber_toString hn h
  rw [compactChars, escapeQuotes_of_notMem hquote]
  rcases hcs with hcs | hcs
  · rw [hcs, List.cons_append] at hword hnumber ⊢
    rw [readValue, if_neg (hne _ (by decide)), if_neg (hne _ (by decide)),
      if_neg (hne _ (by decide)), hword]
    exact hnumber
  · rw [hcs, List.cons_append] at hword hnumber ⊢
    rw [readValue, if_neg (by decide), if_neg (by decide), if_neg (by decide), hword]
    exact hnumber

theorem exists_escapeQuotes_compactItems {items : List Json} (hne : items ≠ [])
    (h : ItemsReadBack items) :
    ∃ c cs, escapeQuotes (compactItems items) = c :: cs ∧ BeginsValue c := by
  cases items with
  | nil => exact absurd rfl hne
  | cons j js =>
    obtain ⟨c,cs,hc,hb⟩ := exists_escapeQuotes_compactChars h.1
    cases js with
    | nil => exact ⟨c,cs,hc,hb⟩
    | cons i js =>
      rw [compactItems, escapeQuotes_append, hc, List.cons_append]
      · exact ⟨c,_,rfl,hb⟩
      · simp

theorem readValue_list {items : List Json} {fuel : ℕ} {rest : List Char}
    (h : ItemsReadBack items)
    (hitems : items ≠ [] →
      readItems fuel (escapeQuotes (compactItems items) ++ ']' :: rest) = .ok (items,rest)) :
    readValue (fuel + 1) (escapeQuotes (compactChars (.list items)) ++ rest) =
      .ok (.list items,rest) := by
  have htext : escapeQuotes (compactChars (.list items)) ++ rest =
      '[' :: (escapeQuotes (compactItems items) ++ ']' :: rest) := by
    rw [compactChars, escapeQuotes_cons_of_ne (by decide), escapeQuotes_append]
    simp [escapeQuotes]
  rw [htext, readValue, if_neg (by decide), if_pos rfl]
  by_cases hne : items = []
  · subst hne
    rfl
  · obtain ⟨c,cs,hc,hblank,hclose⟩ := exists_escapeQuotes_compactItems hne h
    have hread := hitems hne
    rw [hc, List.cons_append] at hread ⊢
    rw [skipBlanks_cons hblank]
    split
    · next heq => exact absurd (List.cons.inj heq).1 hclose
    · rw [hread]
      rfl

theorem exists_escapeQuotes_compactMembers {members : List (String × Json)} (hne : members ≠ []) :
    ∃ cs, escapeQuotes (compactMembers members) = '\x22' :: cs := by
  cases members with
  | nil => exact absurd rfl hne
  | cons m members =>
    cases members with
    | nil =>
      rw [compactMembers, escapeQuotes_append, escapeQuotes_quotedText]
      exact ⟨_,rfl⟩
    | cons next members =>
      rw [compactMembers, escapeQuotes_append, escapeQuotes_quotedText]
      · exact ⟨_,rfl⟩
      · simp

theorem readValue_object {members : List (String × Json)} {fuel : ℕ} {rest : List Char}
    (hmembers : members ≠ [] →
      readMembers fuel [] (escapeQuotes (compactMembers members) ++ '\x7d' :: rest) =
        .ok (members,rest)) :
    readValue (fuel + 1) (escapeQuotes (compactChars (.object members)) ++ rest) =
      .ok (.object members,rest) := by
  have htext : escapeQuotes (compactChars (.object members)) ++ rest =
      '\x7b' :: (escapeQuotes (compactMembers members) ++ '\x7d' :: rest) := by
    rw [compactChars, escapeQuotes_cons_of_ne (by decide), escapeQuotes_append]
    simp [escapeQuotes]
  rw [htext, readValue, if_neg (by decide), if_neg (by decide), if_pos rfl]
  by_cases hne : members = []
  · subst hne
    rfl
  · obtain ⟨cs,hc⟩ := exists_escapeQuotes_compactMembers hne
    have hread := hmembers hne
    rw [hc, List.cons_append] at hread ⊢
    rw [skipBlanks_cons (by decide)]
    split
    · next heq => exact absurd (List.cons.inj heq).1 (by decide)
    · rw [hread]
      rfl

/-! ### Items and members -/

theorem readItems_last {j : Json} {fuel : ℕ} {cs rest : List Char}
    (h : readValue fuel cs = .ok (j,']' :: rest)) :
    readItems (fuel + 1) cs = .ok ([j],rest) := by
  rw [readItems, h]
  rfl

theorem readItems_next {j : Json} {js : List Json} {fuel : ℕ} {cs next rest : List Char}
    (h : readValue fuel cs = .ok (j,',' :: next))
    (hnext : readItems fuel (skipBlanks next) = .ok (js,rest)) :
    readItems (fuel + 1) cs = .ok (j :: js,rest) := by
  rw [readItems, h]
  show (readItems fuel (skipBlanks next)).bind _ = _
  rw [hnext]
  rfl

theorem skipBlanks_compactChars {j : Json} (h : ReadsBack j) (rest : List Char) :
    skipBlanks (escapeQuotes j.compactChars ++ rest) = escapeQuotes j.compactChars ++ rest := by
  obtain ⟨c,cs,hc,hb⟩ := exists_escapeQuotes_compactChars h
  rw [hc]
  exact skipBlanks_cons hb.1 _

theorem skipBlanks_compactItems {items : List Json} (hne : items ≠ []) (h : ItemsReadBack items)
    (rest : List Char) : skipBlanks (escapeQuotes (compactItems items) ++ rest) =
      escapeQuotes (compactItems items) ++ rest := by
  obtain ⟨c,cs,hc,hb⟩ := exists_escapeQuotes_compactItems hne h
  rw [hc]
  exact skipBlanks_cons hb.1 _

theorem skipBlanks_compactMembers {members : List (String × Json)} (hne : members ≠ [])
    (rest : List Char) : skipBlanks (escapeQuotes (compactMembers members) ++ rest) =
      escapeQuotes (compactMembers members) ++ rest := by
  obtain ⟨cs,hc⟩ := exists_escapeQuotes_compactMembers hne
  rw [hc]
  exact skipBlanks_cons (by decide) _

theorem endsValue_cons {c : Char} (h : c = ',' ∨ c = ']' ∨ c = '\x7d') (rest : List Char) :
    EndsValue (c :: rest) := by
  intro d hd
  obtain rfl : c = d := by simpa using hd
  exact h

theorem notMem_of_nodup {name : String} {j : Json} {before members : List (String × Json)}
    (h : ((before ++ (name, j) :: members).map Prod.fst).Nodup) :
    name ∉ before.map Prod.fst := by
  rw [List.map_append, List.nodup_append] at h
  intro hm
  exact h.2.2 name hm name (by simp) rfl

section Member
variable {name : String} {j : Json} {fuel : ℕ} {before : List (String × Json)}
  {cs rest : List Char}

/-- One member of an object is read behind others with other names. -/
theorem readMembers_of_readValue {after : List Char} (hcs : skipBlanks cs = cs)
    (hname : name ∉ before.map Prod.fst) (h : readValue fuel cs = .ok (j,after)) :
    readMembers (fuel + 1) before (escapeQuotes (quotedText name) ++ ':' :: cs) =
      match skipBlanks after with
      | ',' :: next => readMembers fuel (before ++ [(name, j)]) (skipBlanks next)
      | '\x7d' :: rest => .ok (before ++ [(name, j)],rest)
      | _ => .error .malformed := by
  rw [escapeQuotes_quotedText, List.cons_append, List.append_assoc, readMembers]
  have hcolon : isJsonBlank ':' = false := by decide
  simp only [List.singleton_append, readText_quoted, skipBlanks_cons hcolon, hcs, h]
  simp only [bind, Except.bind, String.ofList_toList, putMember_of_notMem hname]
  rfl

end Member

theorem length_compactChars_pos {j : Json} (h : ReadsBack j) : 0 < j.compactChars.length := by
  obtain ⟨c,cs,hc,-⟩ := exists_escapeQuotes_compactChars h
  apply List.length_pos_iff.mpr
  intro hnil
  rw [hnil] at hc
  exact absurd hc (by simp [escapeQuotes])

mutual

theorem readValue_compactChars : ∀ (j : Json) {fuel : ℕ} {rest : List Char}, ReadsBack j →
    j.compactChars.length ≤ fuel → EndsValue rest →
    readValue fuel (escapeQuotes j.compactChars ++ rest) = .ok (j,rest)
  | j, 0, _, h, hf, _ => absurd (length_compactChars_pos h) (Nat.not_lt.mpr hf)
  | .null, _ + 1, _, _, _, _ => rfl
  | .bool b, _ + 1, _, _, _, _ => by cases b <;> rfl
  | .int n, fuel + 1, rest, h, _, hr => readValue_int h fuel hr
  | .text s, fuel + 1, rest, _, _, _ => readValue_text s fuel rest
  | .list items, fuel + 1, rest, h, hf, _ => by
    apply readValue_list h
    intro hne
    apply readItems_compactItems items hne h
    simp [compactChars] at hf
    omega
  | .object members, fuel + 1, rest, h, hf, _ => by
    apply readValue_object
    intro hne
    refine readMembers_compactMembers members hne h.2 ?_ ?_
    · simpa using h.1
    · simp [compactChars] at hf
      omega

theorem readItems_compactItems : ∀ (items : List Json) {fuel : ℕ} {rest : List Char},
    items ≠ [] → ItemsReadBack items → (compactItems items).length < fuel →
    readItems fuel (escapeQuotes (compactItems items) ++ ']' :: rest) = .ok (items,rest)
  | [], _, _, hne, _, _ => absurd rfl hne
  | _, 0, _, _, _, hf => absurd hf (Nat.not_lt_zero _)
  | [j], fuel + 1, rest, _, h, hf => by
    apply readItems_last
    exact readValue_compactChars j h.1 (Nat.lt_succ_iff.mp hf) (endsValue_cons (by decide) _)
  | j :: i :: js, fuel + 1, rest, _, h, hf => by
    have htext : escapeQuotes (compactItems (j :: i :: js)) ++ ']' :: rest =
        escapeQuotes j.compactChars ++
          ',' :: (escapeQuotes (compactItems (i :: js)) ++ ']' :: rest) := by
      rw [compactItems, escapeQuotes_append, escapeQuotes_cons_of_ne (by decide)]
      · simp
      · simp
    simp only [compactItems, List.length_append, List.length_cons] at hf
    rw [htext]
    refine readItems_next (readValue_compactChars j h.1 (by omega) (endsValue_cons (by decide) _)) ?_
    rw [skipBlanks_compactItems (by simp) h.2]
    exact readItems_compactItems (i :: js) (by simp) h.2 (by omega)

theorem readMembers_compactMembers : ∀ (members : List (String × Json)) {fuel : ℕ}
    {before : List (String × Json)} {rest : List Char},
    members ≠ [] → MembersReadBack members → ((before ++ members).map Prod.fst).Nodup →
    (compactMembers members).length < fuel →
    readMembers fuel before (escapeQuotes (compactMembers members) ++ '\x7d' :: rest) =
      .ok (before ++ members,rest)
  | [], _, _, _, hne, _, _, _ => absurd rfl hne
  | _, 0, _, _, _, _, _, hf => absurd hf (Nat.not_lt_zero _)
  | [(name,j)], fuel + 1, before, rest, _, h, hd, hf => by
    have htext : escapeQuotes (compactMembers [(name, j)]) ++ '\x7d' :: rest =
        escapeQuotes (quotedText name) ++
          ':' :: (escapeQuotes j.compactChars ++ '\x7d' :: rest) := by
      rw [compactMembers, escapeQuotes_append, escapeQuotes_cons_of_ne (by decide)]
      simp
    simp only [compactMembers, List.length_append, List.length_cons] at hf
    rw [htext, readMembers_of_readValue (skipBlanks_compactChars h.1 _) (notMem_of_nodup hd)
      (readValue_compactChars j h.1 (by omega) (endsValue_cons (by decide) _)),
      skipBlanks_cons (by decide)]
    rfl
  | (name,j) :: next :: members, fuel + 1, before, rest, _, h, hd, hf => by
    have htext : escapeQuotes (compactMembers ((name, j) :: next :: members)) ++ '\x7d' :: rest =
        escapeQuotes (quotedText name) ++ ':' :: (escapeQuotes j.compactChars ++
          ',' :: (escapeQuotes (compactMembers (next :: members)) ++ '\x7d' :: rest)) := by
      rw [compactMembers, escapeQuotes_append, escapeQuotes_cons_of_ne (by decide),
        escapeQuotes_append, escapeQuotes_cons_of_ne (by decide)]
      · simp
      · simp
    simp only [compactMembers, List.length_append, List.length_cons] at hf
    rw [htext, readMembers_of_readValue (skipBlanks_compactChars h.1 _) (notMem_of_nodup hd)
      (readValue_compactChars j h.1 (by omega) (endsValue_cons (by decide) _)),
      skipBlanks_cons (by decide)]
    show readMembers fuel (before ++ [(name, j)]) (skipBlanks _) = _
    rw [skipBlanks_compactMembers (by simp), readMembers_compactMembers (next :: members) (by simp)
      h.2 (by simpa using hd) (by omega)]
    simp

end

/-- What is written on one line is read back, also with its single quotes written as escapes. -/
theorem parse_escapeQuotes_compactChars {j : Json} (h : ReadsBack j) :
    parse (escapeQuotes j.compactChars) = .ok j := by
  have hlen := length_le_length_escapeQuotes j.compactChars
  have hread : readValue ((escapeQuotes j.compactChars).length + 1)
      (escapeQuotes j.compactChars ++ []) = .ok (j,[]) :=
    readValue_compactChars j h (by omega) (by simp [EndsValue])
  have hskip := skipBlanks_compactChars h []
  rw [List.append_nil] at hread hskip
  rw [parse, hskip, hread]
  rfl

end Traceability.Json
