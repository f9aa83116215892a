import Mathlib.Data.List.Forall2
import Traceability.Proofs.Audit.RepeatedIds
import Traceability.Proofs.Audit.Tally

/-! # The order of records

The records of a document stand in lists, and an audit goes through these in order. Which record is
blamed for a repeat depends on that order, and so do the positions that findings name. What is counted
does not: a document and a reordered one have the same tally, and the same files are asked for.
-/
namespace Traceability

/-- The same use case with its function records in another order. -/
def UseCase.Reordered (u v : UseCase) : Prop :=
  ∃ functions, u.functions.Perm functions ∧ v = { u with functions := functions }

def UseCase.ListReordered (us vs : List UseCase) : Prop :=
  ∃ ws, us.Perm ws ∧ List.Forall₂ UseCase.Reordered ws vs

/-- The same document with its use cases, their function records and its decisions in another
order. -/
inductive Document.Reordered (d : Document) : Document → Prop
  | intro {useCases : Option (List UseCase)} {deprecated : List UseCase}
      {decisions : List Decision} :
      Option.Rel UseCase.ListReordered d.useCases useCases →
      UseCase.ListReordered d.deprecated deprecated → d.decisions.Perm decisions →
      Document.Reordered d
        { d with useCases := useCases, deprecated := deprecated, decisions := decisions }

namespace UseCase

/-- What is read off the use cases without regard to the order of functions comes in another
order. -/
theorem ListReordered.map_perm {us vs : List UseCase} (h : ListReordered us vs) {α : Type}
    {value : UseCase → α} (hvalue : ∀ u v, Reordered u v → value u = value v) :
    (us.map value).Perm (vs.map value) := by
  obtain ⟨ws,hperm,hall⟩ := h
  have hmap : ws.map value = vs.map value := by
    clear hperm
    induction hall with
    | nil => rfl
    | cons hhead _ ih => rw [List.map_cons, List.map_cons, hvalue _ _ hhead, ih]
  exact hmap ▸ hperm.map value

theorem ListReordered.filterMap_perm {us vs : List UseCase} (h : ListReordered us vs)
    {value : UseCase → Option String} (hvalue : ∀ u v, Reordered u v → value u = value v) :
    (us.filterMap value).Perm (vs.filterMap value) := by
  have hperm := (h.map_perm hvalue).filterMap fun text => text
  rwa [List.filterMap_map, List.filterMap_map] at hperm

theorem ListReordered.length_eq {us vs : List UseCase} (h : ListReordered us vs) :
    us.length = vs.length := by
  obtain ⟨ws,hperm,hall⟩ := h
  rw [hperm.length_eq, hall.length_eq]

theorem ListReordered.append {us vs us' vs' : List UseCase} (h : ListReordered us vs)
    (h' : ListReordered us' vs') : ListReordered (us ++ us') (vs ++ vs') := by
  obtain ⟨ws,hperm,hall⟩ := h
  obtain ⟨ws',hperm',hall'⟩ := h'
  exact ⟨ws ++ ws',hperm.append hperm',List.rel_append hall hall'⟩

theorem ListReordered.refl (us : List UseCase) : ListReordered us us :=
  ⟨us,.refl us,List.forall₂_same.mpr fun u _ => ⟨u.functions,.refl _,rfl⟩⟩

end UseCase

theorem Document.Reordered.active {d e : Document} (h : d.Reordered e) :
    UseCase.ListReordered d.active e.active := by
  obtain ⟨hactive,-,-⟩ := h
  rw [Document.active, Document.active]
  generalize d.useCases = useCases at hactive
  cases hactive with
  | some hlist => exact hlist
  | none => exact .refl []

theorem Document.Reordered.deprecated {d e : Document} (h : d.Reordered e) :
    UseCase.ListReordered d.deprecated e.deprecated := by
  obtain ⟨-,hdeprecated,-⟩ := h
  exact hdeprecated

theorem Document.Reordered.allUseCases {d e : Document} (h : d.Reordered e) :
    UseCase.ListReordered d.allUseCases e.allUseCases :=
  h.active.append h.deprecated

namespace Audit
open Text

/-! ## Use case by use case -/

section UseCases
variable {us vs : List UseCase}

/-- Checks of the single use cases count the same if they do so for a reordered use case. -/
theorem tally_flatMap_eq (h : UseCase.ListReordered us vs) {check : UseCase → List Finding}
    (hcheck : ∀ u v, UseCase.Reordered u v → tally (check u) = tally (check v)) :
    tally (us.flatMap check) = tally (vs.flatMap check) := by
  rw [tally_flatMap, tally_flatMap]
  exact (h.map_perm hcheck).sum_eq

theorem tally_flatMap_implemented_eq (h : UseCase.ListReordered us vs)
    {check : UseCase → List Finding}
    (hcheck : ∀ u v, UseCase.Reordered u v → tally (check u) = tally (check v)) :
    tally ((us.filter (·.isImplemented)).flatMap check) =
      tally ((vs.filter (·.isImplemented)).flatMap check) := by
  rw [tally_flatMap_filter, tally_flatMap_filter]
  refine (h.map_perm fun u v huv => ?_).sum_eq
  have himplemented : u.isImplemented = v.isImplemented := by
    obtain ⟨functions,-,rfl⟩ := huv
    rfl
  rw [himplemented, hcheck u v huv]

/-- The values of an attribute in the function records come in another order. -/
theorem filterMap_functions_perm (h : UseCase.ListReordered us vs)
    (value : FunctionRecord → Option String) :
    ((us.flatMap fun u => u.functions.map fun f => (u, f)).filterMap fun p => value p.2).Perm
      ((vs.flatMap fun u => u.functions.map fun f => (u, f)).filterMap fun p => value p.2) := by
  have hvalues : ∀ ws : List UseCase, ((ws.flatMap fun u => u.functions.map fun f =>
      (u, f)).filterMap fun p => value p.2) = ws.flatMap fun u => u.functions.filterMap value := by
    intro ws
    rw [List.filterMap_flatMap]
    congr 1
    funext u
    rw [List.filterMap_map]
    rfl
  have hsum : ∀ ws : List UseCase, (↑(ws.flatMap fun u => u.functions.filterMap value) :
      Multiset String) = (ws.map fun u => (↑(u.functions.filterMap value) : Multiset String)).sum := by
    intro ws
    induction ws with
    | nil => rfl
    | cons w ws ih =>
      rw [List.flatMap_cons, ← Multiset.coe_add, ih, List.map_cons, List.sum_cons]
  -- as multisets, the values of all use cases are the sum of those of each
  rw [hvalues, hvalues, ← Multiset.coe_eq_coe, hsum, hsum]
  refine (h.map_perm fun u v huv => ?_).sum_eq
  obtain ⟨functions,hperm,rfl⟩ := huv
  exact Multiset.coe_eq_coe.mpr (hperm.filterMap value)

end UseCases

/-- A check of function records counts the same in whatever order they come. -/
theorem tally_flatMap_perm {α : Type} {xs ys : List α} (h : xs.Perm ys) (check : α → List Finding) :
    tally (xs.flatMap check) = tally (ys.flatMap check) := by
  rw [tally_flatMap, tally_flatMap]
  exact (h.map _).sum_eq

theorem tally_checkImplementedUseCase {u v : UseCase} (h : UseCase.Reordered u v) :
    tally (checkImplementedUseCase u) = tally (checkImplementedUseCase v) := by
  obtain ⟨functions,hperm,rfl⟩ := h
  rw [checkImplementedUseCase, checkImplementedUseCase]
  simp only [hperm.isEmpty_eq]
  split
  · rfl
  · rw [tally_cons, tally_cons, tally_flatMap_perm hperm]
    rfl

theorem tally_checkGenuineUseCase {u v : UseCase} (h : UseCase.Reordered u v) :
    tally (checkGenuineUseCase u) = tally (checkGenuineUseCase v) := by
  obtain ⟨functions,hperm,rfl⟩ := h
  rw [checkGenuineUseCase, checkGenuineUseCase]
  simp only [tally_append, tally_onlyIf, heading_passing, tally_flatMap_perm hperm,
    hperm.isEmpty_eq]
  rfl

/-! ## The checks of a document -/

section Document
variable {d e : Document} (h : d.Reordered e)
include h

theorem filterMap_activeFunctions_perm (value : FunctionRecord → Option String) :
    (d.activeFunctions.filterMap fun p => value p.2).Perm
      (e.activeFunctions.filterMap fun p => value p.2) :=
  filterMap_functions_perm h.active value

theorem checkTopLevel_eq : checkTopLevel d = checkTopLevel e := by
  obtain ⟨hactive,-,-⟩ := h
  rw [checkTopLevel, checkTopLevel]
  congr 1
  generalize d.useCases = useCases at hactive
  cases hactive with
  | some hlist => simp only [hlist.length_eq]
  | none => rfl

theorem checkStack_eq : checkStack d = checkStack e := by
  obtain ⟨-,-,-⟩ := h
  rfl

/-- A check of the located use cases that does not count the positions counts the same. -/
theorem tally_located_eq {check : String × UseCase → List Finding}
    (single : UseCase → List Finding) (hcheck : ∀ p, tally (check p) = tally (single p.2))
    (hsingle : ∀ u v, UseCase.Reordered u v → tally (single u) = tally (single v)) :
    tally ((locatedUseCases d).flatMap check) = tally ((locatedUseCases e).flatMap check) := by
  have hforget : ∀ d : Document, tally ((locatedUseCases d).flatMap check) =
      tally (d.allUseCases.flatMap single) := by
    intro d
    rw [Document.allUseCases, ← map_snd_locatedUseCases, List.flatMap_map, tally_flatMap,
      tally_flatMap]
    simp only [hcheck]
  rw [hforget, hforget, tally_flatMap_eq h.allUseCases hsingle]

theorem length_duplicateIds_eq :
    (duplicateIds (locatedUseCases d)).length = (duplicateIds (locatedUseCases e)).length := by
  refine length_duplicateIds_eq_of_perm ?_
  rw [Document.idsAt_locatedUseCases, Document.idsAt_locatedUseCases]
  refine h.allUseCases.filterMap_perm fun u v huv => ?_
  obtain ⟨functions,-,rfl⟩ := huv
  rfl

theorem tally_checkIdentity_eq : tally (checkIdentity d) = tally (checkIdentity e) := by
  have hlength := length_duplicateIds_eq h
  have hempty : (duplicateIds (locatedUseCases d)).isEmpty =
      (duplicateIds (locatedUseCases e)).isEmpty := by
    rw [Bool.eq_iff_iff, List.isEmpty_iff_length_eq_zero, List.isEmpty_iff_length_eq_zero, hlength]
  have hmissing : tally ((locatedUseCases d).flatMap fun p => onlyIf (!filled p.2.id)
        (failure .identity s!"Use case at {p.1} has no id field")) =
      tally ((locatedUseCases e).flatMap fun p => onlyIf (!filled p.2.id)
        (failure .identity s!"Use case at {p.1} has no id field")) := by
    refine tally_located_eq h (fun u => onlyIf (!filled u.id) (failure .identity ""))
      (fun p => ?_) fun u v huv => ?_
    · rw [tally_onlyIf, tally_onlyIf, heading_failure, heading_failure]
    · obtain ⟨functions,-,rfl⟩ := huv
      rfl
  have hsingle : tally ((locatedUseCases d).flatMap fun p => checkUseCase p.2) =
      tally ((locatedUseCases e).flatMap fun p => checkUseCase p.2) := by
    refine tally_located_eq h checkUseCase (fun _ => rfl) fun u v huv => ?_
    obtain ⟨functions,-,rfl⟩ := huv
    rfl
  have htally : ∀ d : Document, tally (checkIdentity d) =
      tally ((locatedUseCases d).flatMap fun p => onlyIf (!filled p.2.id)
        (failure .identity s!"Use case at {p.1} has no id field")) +
      Multiset.replicate (duplicateIds (locatedUseCases d)).length (.identity, .error) +
      (if (duplicateIds (locatedUseCases d)).isEmpty then {(.identity, .pass)} else 0) +
      tally ((locatedUseCases d).flatMap fun p => checkUseCase p.2) := by
    intro d
    show tally (_ ++ _ ++ _ ++ _) = _
    rw [tally_append, tally_append, tally_append, tally_onlyIf,
      tally_map_of_heading _ (.identity, .error) fun _ => rfl]
    rfl
  rw [htally, htally, hmissing, hlength, hempty, hsingle]

theorem tally_checkRepeats_usesOf_eq (kind lowerKind : String)
    (value : FunctionRecord → Option String) :
    tally (checkRepeats kind lowerKind (usesOf value d)) =
      tally (checkRepeats kind lowerKind (usesOf value e)) := by
  have hkeys : ((usesOf value d).map Prod.fst).Perm ((usesOf value e).map Prod.fst) := by
    rw [map_fst_usesOf, map_fst_usesOf]
    exact filterMap_activeFunctions_perm h fun f => filledText? (value f)
  have huses := hkeys.length_eq
  have hfirst := (eraseDups_perm hkeys).length_eq
  have hd := length_repeatsFrom (usesOf value d)
  have he := length_repeatsFrom (usesOf value e)
  rw [List.length_map, List.length_map] at huses
  have hrepeats : (repeatsFrom [] (usesOf value d)).1.length =
      (repeatsFrom [] (usesOf value e)).1.length := by omega
  rw [tally_checkRepeats, tally_checkRepeats, hrepeats]

theorem tally_checkImplemented_eq : tally (checkImplemented d) = tally (checkImplemented e) :=
  tally_flatMap_implemented_eq h.active fun _ _ => tally_checkImplementedUseCase

theorem tally_checkDeprecated_eq : tally (checkDeprecated d) = tally (checkDeprecated e) := by
  have hentries : tally (d.deprecated.flatMap checkDeprecatedEntry) =
      tally (e.deprecated.flatMap checkDeprecatedEntry) := by
    refine tally_flatMap_eq h.deprecated fun u v huv => ?_
    obtain ⟨functions,-,rfl⟩ := huv
    rfl
  rw [checkDeprecated, checkDeprecated, tally_append, tally_append, hentries]
  congr 1
  refine tally_flatMap_eq h.active fun u v huv => ?_
  obtain ⟨functions,-,rfl⟩ := huv
  rfl

theorem tally_checkElements_eq : tally (checkElements d) = tally (checkElements e) := by
  have hkeys : (d.active.filterMap fun u => filledText? (ownElement u)).Perm
      (e.active.filterMap fun u => filledText? (ownElement u)) := by
    refine h.active.filterMap_perm fun u v huv => ?_
    obtain ⟨functions,-,rfl⟩ := huv
    rfl
  have hsingle : (d.active.map elementTally).Perm (e.active.map elementTally) := by
    refine h.active.map_perm fun u v huv => ?_
    obtain ⟨functions,-,rfl⟩ := huv
    rfl
  have hclaims := hkeys.length_eq
  have hfirst := (eraseDups_perm hkeys).length_eq
  have hd := elementRepeats_add_length d.active
  have he := elementRepeats_add_length e.active
  have hrepeats : elementRepeats d.active = elementRepeats e.active := by omega
  rw [checkElements, checkElements, tally_checkElementsFrom, tally_checkElementsFrom, hrepeats,
    hsingle.sum_eq]

theorem tally_checkNoFake_eq : tally (checkNoFake d) = tally (checkNoFake e) :=
  tally_flatMap_implemented_eq h.active fun _ _ => tally_checkGenuineUseCase

theorem tally_checkDecisions_eq : tally (checkDecisions d) = tally (checkDecisions e) := by
  obtain ⟨-,-,hdecisions⟩ := h
  exact tally_flatMap_perm hdecisions checkDecision

theorem tally_checkDocument_eq : tally (checkDocument d) = tally (checkDocument e) := by
  have hnames := tally_checkRepeats_usesOf_eq h "Function" "function" (·.name)
  have hendpoints := tally_checkRepeats_usesOf_eq h "Endpoint" "endpoint" (·.endpoint)
  simp only [checkDocument, tally_append, checkFunctionNames, checkEndpoints]
  rw [checkTopLevel_eq h, checkStack_eq h, tally_checkIdentity_eq h, hnames, hendpoints,
    tally_checkImplemented_eq h, tally_checkDeprecated_eq h, tally_checkElements_eq h,
    tally_checkNoFake_eq h, tally_checkDecisions_eq h]

theorem asked_checkFiles_perm (present : String → Bool) :
    (checkFiles present d).asked.Perm (checkFiles present e).asked := by
  rw [checkFiles_eq, checkFiles_eq]
  exact eraseDups_perm (filterMap_activeFunctions_perm h fun f => filledText? f.file)

theorem tally_checkFiles_eq (present : String → Bool) :
    tally (checkFiles present d).findings = tally (checkFiles present e).findings := by
  have hfiles : d.files.Perm e.files := by
    simpa only [checkFiles_eq] using asked_checkFiles_perm h present
  rw [tally_checkFiles, tally_checkFiles]
  exact Multiset.coe_eq_coe.mpr (hfiles.map _)

end Document

/-- The order of records does not matter to what an audit counts, nor to its verdict, nor to the files
that it asks for. -/
theorem evaluate_reordered {d e : Document} (h : d.Reordered e) (present : String → Bool)
    (rulesDir : String) :
    (evaluate present rulesDir d).report.summary = (evaluate present rulesDir e).report.summary ∧
    (∀ rule severity, (evaluate present rulesDir d).report.count rule severity =
      (evaluate present rulesDir e).report.count rule severity) ∧
    (evaluate present rulesDir d).report.ok = (evaluate present rulesDir e).report.ok ∧
    (∀ strict, (evaluate present rulesDir d).report.failed strict =
      (evaluate present rulesDir e).report.failed strict) ∧
    (evaluate present rulesDir d).asked.Perm (evaluate present rulesDir e).asked := by
  have htally : tally (logged present rulesDir d).findings =
      tally (logged present rulesDir e).findings := by
    simp only [logged, findings_append, tally_append]
    rw [tally_checkDocument_eq h, tally_checkFiles_eq h]
  have hasked : ((checkFiles present d).asked ++
      (checkRuleFiles present rulesDir ruleFiles).asked).Perm
      ((checkFiles present e).asked ++ (checkRuleFiles present rulesDir ruleFiles).asked) :=
    (asked_checkFiles_perm h present).append_right _
  rw [report_evaluate, report_evaluate, asked_evaluate_eq, asked_evaluate_eq]
  refine ⟨summary_eq_of_tally_eq htally,fun rule severity => ?_,ok_eq_of_tally_eq htally,
    failed_eq_of_tally_eq htally,hasked⟩
  rw [count_ofFindings, count_ofFindings, htally]

def savingTwice (id : String) : UseCase where
  id := some id
  status := some "implemented"
  functions := [{ name := some "save", file := some "a.py" },
    { name := some "save", file := some "b.py" }]

def savingTwiceBack (id : String) : UseCase :=
  { savingTwice id with functions := (savingTwice id).functions.reverse }

/-- Two use cases of one function: another one is blamed, and the counts stay. -/
theorem evaluate_reordered_savingTwice :
    (evaluate (· == "a.py") "rules"
        { useCases := some [savingTwice "UC-001", savingTwice "UC-002"] }).report ≠
      (evaluate (· == "a.py") "rules"
        { useCases := some [savingTwiceBack "UC-002", savingTwice "UC-001"] }).report ∧
    (evaluate (· == "a.py") "rules"
        { useCases := some [savingTwice "UC-001", savingTwice "UC-002"] }).report.summary =
      (evaluate (· == "a.py") "rules"
        { useCases := some [savingTwiceBack "UC-002", savingTwice "UC-001"] }).report.summary := by
  have hlist : UseCase.ListReordered [savingTwice "UC-001", savingTwice "UC-002"]
      [savingTwiceBack "UC-002", savingTwice "UC-001"] := by
    refine ⟨[savingTwice "UC-002", savingTwice "UC-001"],.swap _ _ _,.cons ?_ (.cons ?_ .nil)⟩
    · exact ⟨_,(List.reverse_perm _).symm,rfl⟩
    · exact ⟨_,.refl _,rfl⟩
  have hreordered : Document.Reordered
      { useCases := some [savingTwice "UC-001", savingTwice "UC-002"] }
      { useCases := some [savingTwiceBack "UC-002", savingTwice "UC-001"] } :=
    .intro (.some hlist) (.refl []) (.refl [])
  exact ⟨by decide +kernel,(evaluate_reordered hreordered (· == "a.py") "rules").1⟩

end Audit

end Traceability
