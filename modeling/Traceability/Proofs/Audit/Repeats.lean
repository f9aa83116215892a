import Mathlib.Data.List.Nodup
import Traceability.Proofs.Audit.Clean
import Traceability.Proofs.FirstUses

/-! # Repeated values

The checks of ids, of attributes and of visual elements go through the records once and remember
what they have seen. In the end that is the first use of each key; for ids it is one row for each id
in the order of first uses, with every position of the id and nothing else. So none of the checks
finds a repeat exactly when no two records have the same filled text.
-/
namespace Traceability.Audit
open Text

def filledText? (v : Option String) : Option String := v.bind nonEmpty?

theorem filledText?_eq_some_iff {v : Option String} {s : String} :
    filledText? v = some s ↔ v = some s ∧ s ≠ "" := by
  cases v with
  | none => simp [filledText?]
  | some t =>
    by_cases h : t = ""
    · simp only [filledText?, nonEmpty?, Option.bind_some, if_pos h, Option.some.injEq]
      constructor
      · simp
      · rintro ⟨rfl,hs⟩
        exact absurd h hs
    · simp only [filledText?, nonEmpty?, Option.bind_some, if_neg h, Option.some.injEq]
      constructor
      · rintro rfl
        exact ⟨rfl,h⟩
      · exact fun hs => hs.1

theorem filled_iff {v : Option String} : filled v = true ↔ ∃ s, filledText? v = some s := by
  cases v with
  | none => simp [filled, filledText?]
  | some t => simp [filled, filledText?_eq_some_iff]

theorem filled_eq_isSome (v : Option String) : filled v = (filledText? v).isSome := by
  rw [Bool.eq_iff_iff, filled_iff, Option.isSome_iff_exists]

theorem shown_of_filledText? {v : Option String} {s : String} (h : filledText? v = some s) :
    shown v = s := by
  rw [(filledText?_eq_some_iff.mp h).1, shown]

/-- The filled texts are shown by the members that fill them. -/
theorem filterMap_filledText? {α β : Type} (value : α → Option String) (make : α → String → β)
    (xs : List α) : (xs.filterMap fun x => (filledText? (value x)).map (make x)) =
      (xs.filter fun x => filled (value x)).map fun x => make x (shown (value x)) := by
  rw [← List.filterMap_eq_map', List.filterMap_filter]
  congr 1
  funext x
  rw [filled_eq_isSome]
  cases h : filledText? (value x) with
  | none => rfl
  | some s =>
    have hshown : shown (value x) = s := shown_of_filledText? h
    rw [hshown]
    rfl

def Distinct {α : Type} (value : α → Option String) (xs : List α) : Prop :=
  xs.Pairwise fun x y => filled (value x) = true → value x ≠ value y

theorem distinct_iff_nodup {α : Type} {value : α → Option String} {xs : List α} :
    Distinct value xs ↔ (xs.filterMap fun x => filledText? (value x)).Nodup := by
  rw [List.Nodup, List.pairwise_filterMap, Distinct]
  apply List.Pairwise.iff
  intro x y
  simp only [filled_iff, filledText?_eq_some_iff]
  constructor
  · rintro h s ⟨hx,hs⟩ t ⟨hy,ht⟩ rfl
    exact h ⟨s,hx,hs⟩ (hx.trans hy.symm)
  · rintro h ⟨s,hx,hs⟩ he
    exact h s ⟨hx,hs⟩ s ⟨he ▸ hx,hs⟩ rfl

/-! ## Attributes of functions -/

theorem lookup_eq_none_iff_notMem {owners : Uses} {key : String} :
    owners.lookup key = none ↔ key ∉ owners.map Prod.fst := by
  simp only [List.lookup_eq_none_iff, List.mem_map, not_exists, not_and, bne_iff_ne]
  constructor
  · rintro h use hu rfl
    exact h use hu rfl
  · intro h use hu he
    exact h use hu he.symm

theorem repeatsFrom_concat (owners uses : Uses) (use : String × String) :
    repeatsFrom owners (uses ++ [use]) =
      match (repeatsFrom owners uses).2.lookup use.1 with
      | none => ((repeatsFrom owners uses).1,(repeatsFrom owners uses).2 ++ [use])
      | some owner => ((repeatsFrom owners uses).1 ++ [⟨use.1,owner,use.2⟩],
          (repeatsFrom owners uses).2) := by
  induction uses generalizing owners with
  | nil =>
    obtain ⟨key,user⟩ := use
    rw [List.nil_append, repeatsFrom, repeatsFrom]
    cases owners.lookup key <;> rfl
  | cons earlier uses ih =>
    obtain ⟨key,user⟩ := earlier
    rw [List.cons_append, repeatsFrom, repeatsFrom]
    cases owners.lookup key with
    | none => exact ih _
    | some owner =>
      simp only [ih]
      cases (repeatsFrom owners uses).2.lookup use.1 <;> rfl

/-- The owners in the end are the first uses of the keys, and the first use of a key is looked up in
them as in all uses. -/
theorem owners_repeatsFrom (uses : Uses) :
    (repeatsFrom [] uses).2.map Prod.fst = (uses.map Prod.fst).eraseDups ∧
      ∀ key, (repeatsFrom [] uses).2.lookup key = uses.lookup key := by
  induction uses using List.reverseRecOn with
  | nil => exact ⟨rfl,fun key => rfl⟩
  | append_singleton uses use ih =>
    obtain ⟨hkeys,hlookup⟩ := ih
    rw [repeatsFrom_concat, hlookup, List.map_append, List.map_cons, List.map_nil, eraseDups_concat]
    cases huse : uses.lookup use.1 with
    | none =>
      have hnew : use.1 ∉ (uses.map Prod.fst).eraseDups := by
        rw [List.mem_eraseDups]
        exact lookup_eq_none_iff_notMem.mp huse
      rw [if_neg hnew]
      refine ⟨?_,fun key => ?_⟩
      · rw [List.map_append, hkeys, List.map_cons, List.map_nil]
      · rw [List.lookup_append, List.lookup_append, hlookup]
    | some owner =>
      have hold : use.1 ∈ (uses.map Prod.fst).eraseDups := by
        rw [List.mem_eraseDups]
        by_contra hnew
        rw [lookup_eq_none_iff_notMem.mpr hnew] at huse
        cases huse
      rw [if_pos hold]
      refine ⟨hkeys,fun key => ?_⟩
      rw [hlookup, List.lookup_append]
      by_cases hkey : key = use.1
      · rw [hkey, huse, Option.some_or]
      · have hother : [use].lookup key = none :=
          lookup_eq_none_iff_notMem.mpr (by simpa using hkey)
        rw [hother, Option.or_none]

theorem lookup_eq_find? (uses : Uses) (key : String) :
    uses.lookup key = (uses.find? fun first => first.1 == key).map Prod.snd := by
  induction uses with
  | nil => rfl
  | cons use uses ih =>
    rw [List.lookup_cons, List.find?_cons, ih, BEq.comm]
    cases use.1 == key <;> rfl

theorem repeatsFrom_eq (uses : Uses) : (repeatsFrom [] uses).1 =
    (repeatsOf Prod.fst uses).map fun r => ⟨r.2.1,r.1.2,r.2.2⟩ := by
  induction uses using List.reverseRecOn with
  | nil => rfl
  | append_singleton uses use ih =>
    rw [repeatsFrom_concat, (owners_repeatsFrom uses).2, lookup_eq_find?, repeatsOf_concat,
      List.map_append, ← ih]
    cases uses.find? (fun first => first.1 == use.1) <;> simp

theorem clean_checkRepeats {kind lowerKind : String} {uses : Uses} :
    Clean (checkRepeats kind lowerKind uses) ↔ (uses.map Prod.fst).Nodup := by
  rw [← repeatsOf_eq_nil_iff, checkRepeats]
  simp only [repeatsFrom_eq]
  simp [repeatFinding, List.eq_nil_iff_forall_not_mem]

theorem map_fst_usesOf (value : FunctionRecord → Option String) (d : Document) :
    (usesOf value d).map Prod.fst =
      d.activeFunctions.filterMap fun p => filledText? (value p.2) := by
  rw [usesOf, List.map_filterMap]
  congr 1
  funext p
  rw [Option.map_map]
  exact Option.map_id'

/-- No attribute is repeated if no two active records share it. -/
theorem clean_checkRepeats_usesOf {kind lowerKind : String}
    {value : FunctionRecord → Option String} {d : Document} :
    Clean (checkRepeats kind lowerKind (usesOf value d)) ↔
      Distinct (fun p => value p.2) d.activeFunctions := by
  rw [clean_checkRepeats, map_fst_usesOf, distinct_iff_nodup]

/-! ## Ids -/

def idsAt (us : List (String × UseCase)) : List String :=
  us.filterMap fun p => filledText? p.2.id

def positionsAt (us : List (String × UseCase)) (id : String) : List String :=
  (us.filter fun p => p.2.id == some id).map Prod.fst

theorem idsAt_append (us vs : List (String × UseCase)) : idsAt (us ++ vs) = idsAt us ++ idsAt vs :=
  List.filterMap_append

theorem ne_empty_of_mem_idsAt {us : List (String × UseCase)} {id : String} (h : id ∈ idsAt us) :
    id ≠ "" := by
  obtain ⟨p,-,hp⟩ := List.mem_filterMap.mp h
  exact (filledText?_eq_some_iff.mp hp).2

theorem positionsAt_concat (us : List (String × UseCase)) (p : String × UseCase) (id : String) :
    positionsAt (us ++ [p]) id =
      if p.2.id = some id then positionsAt us id ++ [p.1] else positionsAt us id := by
  rw [positionsAt, List.filter_append, List.map_append, positionsAt]
  by_cases hp : p.2.id = some id <;> simp [hp]

theorem length_positionsAt {us : List (String × UseCase)} {id : String} (hid : id ≠ "") :
    (positionsAt us id).length = (idsAt us).count id := by
  rw [positionsAt, List.length_map, ← List.countP_eq_length_filter, idsAt, List.count_filterMap]
  refine List.countP_congr fun p _ => ?_
  rw [beq_iff_eq, beq_iff_eq, filledText?_eq_some_iff]
  exact (and_iff_left hid).symm

theorem notePosition_of_notMem {id position : String} {table : List (String × List String)}
    (h : id ∉ table.map Prod.fst) :
    notePosition id position table = table ++ [(id, [position])] := by
  induction table with
  | nil => rfl
  | cons row table ih =>
    simp only [List.map_cons, List.mem_cons, not_or] at h
    rw [notePosition, if_neg (Ne.symm h.1), ih h.2]
    rfl

theorem map_rows_of_notMem {id position : String} {ids : List String}
    (rows : String → List String) (hid : id ∉ ids) :
    ids.map (fun i => (i,if id = i then rows i ++ [position] else rows i)) =
      ids.map fun i => (i,rows i) := by
  refine List.map_congr_left fun i hi => ?_
  have hne : id ≠ i := by
    rintro rfl
    exact hid hi
  rw [if_neg hne]

/-- Noting a position adds it to the row of its id and leaves the other rows as they are. -/
theorem notePosition_map {id position : String} {ids : List String} (rows : String → List String)
    (hnodup : ids.Nodup) (hid : id ∈ ids) :
    notePosition id position (ids.map fun i => (i,rows i)) =
      ids.map fun i => (i,if id = i then rows i ++ [position] else rows i) := by
  induction ids with
  | nil => cases hid
  | cons i ids ih =>
    obtain ⟨hnotin,htail⟩ := List.nodup_cons.mp hnodup
    rw [List.map_cons, notePosition, List.map_cons]
    by_cases hi : i = id
    · rw [if_pos hi, if_pos hi.symm, map_rows_of_notMem rows (hi ▸ hnotin)]
    · have hmem : id ∈ ids := (List.mem_cons.mp hid).resolve_left (Ne.symm hi)
      rw [if_neg hi, if_neg (Ne.symm hi), ih htail hmem]

/-- The table has a row for each id in the order of first uses, by induction on the entries from the
last one. -/
theorem positionTable_eq (us : List (String × UseCase)) : positionTable us =
    (idsAt us).eraseDups.map fun id => (id,positionsAt us id) := by
  rw [positionTable]
  induction us using List.reverseRecOn with
  | nil => rfl
  | append_singleton us p ih =>
    rw [List.foldl_append, ih, List.foldl_cons, List.foldl_nil, noteUse, idsAt_append]
    cases hp : p.2.id.bind nonEmpty? with
    | none =>
      have hlast : idsAt [p] = [] := List.filterMap_cons_none (by exact hp)
      rw [hlast, List.append_nil]
      refine List.map_congr_left fun id hid => ?_
      have hne : p.2.id ≠ some id := by
        intro heq
        have hsome := filledText?_eq_some_iff.mpr
          ⟨heq,ne_empty_of_mem_idsAt (List.mem_eraseDups.mp hid)⟩
        rw [filledText?, hp] at hsome
        cases hsome
      rw [positionsAt_concat, if_neg hne]
    | some id =>
      obtain ⟨hsome,hne⟩ := filledText?_eq_some_iff.mp hp
      have hlast : idsAt [p] = [id] := List.filterMap_cons_some (by exact hp)
      have hrow : (fun i => (i,positionsAt (us ++ [p]) i)) = fun i =>
          (i,if id = i then positionsAt us i ++ [p.1] else positionsAt us i) := by
        funext i
        rw [positionsAt_concat, hsome]
        simp only [Option.some.injEq]
      rw [hlast, eraseDups_concat, hrow]
      show notePosition id p.1 _ = _
      by_cases hmem : id ∈ (idsAt us).eraseDups
      · rw [if_pos hmem]
        exact notePosition_map (positionsAt us) (nodup_eraseDups _) hmem
      · have hnone : positionsAt us id = [] := by
          have hzero : (idsAt us).count id = 0 :=
            List.count_eq_zero.mpr fun hin => hmem (List.mem_eraseDups.mpr hin)
          rw [← length_positionsAt hne] at hzero
          exact List.length_eq_zero_iff.mp hzero
        rw [if_neg hmem, notePosition_of_notMem (by simpa using hmem), List.map_append,
          map_rows_of_notMem (positionsAt us) hmem, List.map_cons, List.map_nil, if_pos rfl, hnone,
          List.nil_append]

/-- The ids that come more than once, in the order of their first uses, with all their positions. -/
theorem duplicateIds_eq (us : List (String × UseCase)) : duplicateIds us =
    ((idsAt us).eraseDups.filter fun id => 1 < (idsAt us).count id).map
      fun id => (id,positionsAt us id) := by
  have hlong : (idsAt us).eraseDups.filter (fun id => 1 < (positionsAt us id).length) =
      (idsAt us).eraseDups.filter fun id => 1 < (idsAt us).count id := by
    refine List.filter_congr fun id hid => ?_
    rw [length_positionsAt (ne_empty_of_mem_idsAt (List.mem_eraseDups.mp hid))]
  rw [duplicateIds, positionTable_eq, List.filter_map, ← hlong]
  rfl

/-- No id has two positions if no two use cases share it. -/
theorem duplicateIds_eq_nil_iff {us : List (String × UseCase)} :
    duplicateIds us = [] ↔ Distinct (fun p => p.2.id) us := by
  rw [duplicateIds_eq, List.map_eq_nil_iff, List.filter_eq_nil_iff, distinct_iff_nodup, ← idsAt,
    List.nodup_iff_count_eq_one]
  refine forall_congr' fun id => ?_
  rw [List.mem_eraseDups]
  refine forall_congr' fun hid => ?_
  have hpos := List.count_pos_iff.mpr hid
  rw [decide_eq_true_iff]
  omega

/-! ## Visual elements -/

/-- The visual element that a use case claims for itself. -/
def ownElement (u : UseCase) : Option String :=
  u.visualElementId.filter fun element => element != pendingElement

theorem visualElementId_of_none {u : UseCase} (h : filledText? (ownElement u) = none) :
    u.visualElementId = none ∨ u.visualElementId = some pendingElement ∨
      u.visualElementId = some "" := by
  cases hu : u.visualElementId with
  | none => exact .inl rfl
  | some element =>
    by_contra hne
    obtain ⟨-,hpending,hempty⟩ : True ∧ element ≠ pendingElement ∧ element ≠ "" := by
      simpa using hne
    have hsome : filledText? (ownElement u) = some element := by
      simp [filledText?_eq_some_iff, ownElement, hu, hpending, hempty]
    simp [h] at hsome

theorem visualElementId_of_some {u : UseCase} {element : String}
    (h : filledText? (ownElement u) = some element) :
    u.visualElementId = some element ∧ element ≠ pendingElement ∧ element ≠ "" := by
  obtain ⟨hown,hne⟩ := filledText?_eq_some_iff.mp h
  obtain ⟨hu,hpending⟩ : u.visualElementId = some element ∧ element ≠ pendingElement := by
    simpa [ownElement, Option.filter_eq_some_iff] using hown
  exact ⟨hu,hpending,hne⟩

theorem checkElement_of_none {u : UseCase} (h : filledText? (ownElement u) = none)
    (seen : List String) : Clean (checkElement u seen).1 ∧ (checkElement u seen).2 = seen := by
  have hformat : Format.isVisualElementId "" = false := by decide
  have hempty : ("" : String) ≠ pendingElement := by decide
  obtain hu | hu | hu := visualElementId_of_none h <;> simp [checkElement, hu, hformat, hempty]

theorem checkElement_of_some {u : UseCase} {element : String}
    (h : filledText? (ownElement u) = some element) (seen : List String) :
    (checkElement u seen).2 = seen ++ [element] := by
  obtain ⟨hu,hpending,hne⟩ := visualElementId_of_some h
  simp only [checkElement, hu, if_neg hpending, if_neg hne]

/-- What is found on visual elements is found on one of the use cases. -/
theorem exists_of_mem_checkElementsFrom {seen : List String} {us : List UseCase} {g : Finding}
    (h : g ∈ checkElementsFrom seen us) : ∃ u ∈ us, ∃ seen, g ∈ (checkElement u seen).1 := by
  induction us generalizing seen with
  | nil => cases h
  | cons u us ih =>
    rcases List.mem_append.mp h with hu | hus
    · exact ⟨u,List.mem_cons_self,seen,hu⟩
    · obtain ⟨v,hv,hg⟩ := ih hus
      exact ⟨v,List.mem_cons_of_mem u hv,hg⟩

/-- Findings for which it does not matter what has been seen are found use case by use case. -/
theorem filter_checkElementsFrom {wanted : Finding → Bool} {check : UseCase → List Finding}
    (h : ∀ u seen, (checkElement u seen).1.filter wanted = check u) (seen : List String)
    (us : List UseCase) : (checkElementsFrom seen us).filter wanted = us.flatMap check := by
  induction us generalizing seen with
  | nil => rfl
  | cons u us ih => rw [checkElementsFrom, List.filter_append, h, ih, List.flatMap_cons]

/-- The last use case is judged with the elements of the others before it seen. -/
theorem checkElementsFrom_concat (seen : List String) (us : List UseCase) (u : UseCase) :
    checkElementsFrom seen (us ++ [u]) = checkElementsFrom seen us ++
      (checkElement u (seen ++ us.filterMap fun w => filledText? (ownElement w))).1 := by
  induction us generalizing seen with
  | nil => simp [checkElementsFrom]
  | cons w us ih =>
    rw [List.cons_append, checkElementsFrom, checkElementsFrom]
    simp only [ih, List.append_assoc]
    cases h : filledText? (ownElement w) with
    | none =>
      have hseen : (checkElement w seen).2 = seen := (checkElement_of_none h seen).2
      rw [List.filterMap_cons_none (by exact h), hseen]
    | some element =>
      rw [List.filterMap_cons_some (by exact h), checkElement_of_some h, List.append_assoc,
        List.singleton_append]

def duplicateElement (u : UseCase) : Finding :=
  failure .metaInjection
    s!"Duplicate visual_element_id \"{shown (ownElement u)}\" across use cases"

theorem filterMap_ownElement (us : List UseCase) :
    (us.filterMap fun u => filledText? (ownElement u)) =
      (us.filter fun u => filled (ownElement u)).map fun u => shown (ownElement u) := by
  have h := filterMap_filledText? ownElement (fun _ element => element) us
  simpa only [Option.map_id'] using h

/-- The only error on a visual element is that another use case has claimed it. -/
theorem errors_checkElement (u : UseCase) (seen : List String) :
    (checkElement u seen).1.filter (·.severity == .error) =
      onlyIf (filled (ownElement u) && seen.contains (shown (ownElement u)))
        (duplicateElement u) := by
  rw [filled_eq_isSome]
  cases h : filledText? (ownElement u) with
  | none =>
    have hclean : Clean (checkElement u seen).1 := (checkElement_of_none h seen).1
    rw [Option.isSome_none, Bool.false_and, onlyIf, if_neg Bool.false_ne_true,
      List.filter_eq_nil_iff]
    intro f hf herror
    exact hclean f hf (beq_iff_eq.mp herror)
  | some element =>
    obtain ⟨hu,hpending,hne⟩ := visualElementId_of_some h
    have hshown : shown (ownElement u) = element := shown_of_filledText? h
    simp only [checkElement, hu, if_neg hpending, if_neg hne, Option.isSome_some, Bool.true_and,
      hshown, duplicateElement]
    by_cases hseen : seen.contains element = true <;> split <;> simp [onlyIf]

/-- The use cases that claim an element are judged one after the other. -/
theorem errors_checkElementsFrom (us : List UseCase) :
    (checkElementsFrom [] us).filter (·.severity == .error) =
      (repeatsOf (fun u => shown (ownElement u)) (us.filter fun u => filled (ownElement u))).map
        fun r => duplicateElement r.2 := by
  induction us using List.reverseRecOn with
  | nil => rfl
  | append_singleton us u ih =>
    rw [checkElementsFrom_concat, List.filter_append, ih, errors_checkElement,
      filterMap_ownElement, List.nil_append, List.filter_append]
    cases hu : filled (ownElement u) with
    | false => simp [onlyIf, hu]
    | true =>
      have hlast : [u].filter (fun w => filled (ownElement w)) = [u] := by simp [hu]
      rw [hlast, repeatsOf_concat, List.map_append, Bool.true_and]
      congr 1
      generalize us.filter (fun w => filled (ownElement w)) = claiming
      by_cases hmem : shown (ownElement u) ∈ claiming.map fun w => shown (ownElement w)
      · obtain ⟨first,hfirst⟩ := exists_find?_key hmem
        rw [hfirst, List.contains_iff_mem.mpr hmem]
        rfl
      · have hnew : (claiming.map fun w => shown (ownElement w)).contains (shown (ownElement u)) =
            false := by
          rw [Bool.eq_false_iff]
          exact fun h => hmem (List.contains_iff_mem.mp h)
        rw [find?_key_eq_none_iff.mpr hmem, hnew]
        rfl

/-- No visual element is repeated if no two use cases claim it. -/
theorem clean_checkElements {d : Document} :
    Clean (checkElements d) ↔ Distinct ownElement d.active := by
  rw [clean_iff_filter_eq_nil, checkElements, errors_checkElementsFrom, List.map_eq_nil_iff,
    repeatsOf_eq_nil_iff, ← filterMap_ownElement, distinct_iff_nodup]

end Traceability.Audit
