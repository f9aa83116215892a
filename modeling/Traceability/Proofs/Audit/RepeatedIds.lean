import Traceability.Proofs.Audit.Rules
import Traceability.Proofs.Audit.Sound

/-! # Repeated ids

Each id that comes more than once is reported once, with all its positions in the document, and
that all ids are unique is reported exactly when there is none. Only the check of ids reports
anything under its rule.
-/
namespace Traceability
open Text

/-! ## Places in a document -/

namespace Document
open Audit

def givenIds (d : Document) : List String := d.allUseCases.filterMap fun u => filledText? u.id

/-- The ids that come more than once, in the order of their first uses. -/
def repeatedIds (d : Document) : List String :=
  d.givenIds.eraseDups.filter fun id => 1 < d.givenIds.count id

def placesIn (list : String) (us : List UseCase) (wanted : UseCase → Bool) : List String :=
  (us.findIdxs wanted).map fun i => s!"{list}[{i}]"

def places (d : Document) (wanted : UseCase → Bool) : List String :=
  placesIn "use_cases" d.active wanted ++ placesIn "deprecated" d.deprecated wanted

theorem map_fst_filter_located (list : String) (us : List UseCase) (wanted : UseCase → Bool) :
    ((located list us).filter fun p => wanted p.2).map Prod.fst = placesIn list us wanted := by
  rw [located, placesIn]
  generalize 0 = first
  induction us generalizing first with
  | nil => rfl
  | cons u us ih =>
    rw [List.zipIdx_cons, List.map_cons, List.filter_cons, List.findIdxs_cons]
    by_cases hu : wanted u = true
    · rw [if_pos hu, if_pos hu, List.map_cons, List.map_cons, ih]
    · rw [if_neg hu, if_neg hu, ih]

theorem map_fst_filter_locatedUseCases (d : Document) (wanted : UseCase → Bool) :
    ((locatedUseCases d).filter fun p => wanted p.2).map Prod.fst = d.places wanted := by
  rw [locatedUseCases, List.filter_append, List.map_append, map_fst_filter_located,
    map_fst_filter_located, places]

theorem idsAt_locatedUseCases (d : Document) : idsAt (locatedUseCases d) = d.givenIds := by
  rw [givenIds, allUseCases, ← map_snd_locatedUseCases, List.filterMap_map]
  rfl

theorem duplicateIds_locatedUseCases (d : Document) : duplicateIds (locatedUseCases d) =
    d.repeatedIds.map fun id => (id,d.places fun u => u.id == some id) := by
  have hplaces : ∀ id, positionsAt (locatedUseCases d) id = d.places fun u => u.id == some id :=
    fun id => map_fst_filter_locatedUseCases d fun u => u.id == some id
  rw [duplicateIds_eq, idsAt_locatedUseCases, ← repeatedIds]
  simp only [hplaces]

/-- An id is repeated as often as its places say. -/
theorem occurrences_repeatedIds (d : Document) : ∀ id ∈ d.repeatedIds, id ≠ "" ∧
    (d.places fun u => u.id == some id).length = d.allUseCases.countP fun u => u.id == some id := by
  intro id hid
  have hgiven : id ∈ d.givenIds := List.mem_eraseDups.mp (List.mem_of_mem_filter hid)
  rw [← idsAt_locatedUseCases] at hgiven
  refine ⟨ne_empty_of_mem_idsAt hgiven,?_⟩
  rw [places, placesIn, placesIn, List.length_append, List.length_map, List.length_map,
    List.length_findIdxs, List.length_findIdxs, allUseCases, List.countP_append]

end Document

/-! ## The report of ids -/

def Finding.opens (opening : String) (f : Finding) : Bool :=
  opening.toList.isPrefixOf f.detail.toList

namespace Audit

def onIds (opening : String) (fs : List Finding) : List Finding :=
  (ofRule .identity fs).filter (Finding.opens opening)

def missingId (place : String) : Finding :=
  failure .identity s!"Use case at {place} has no id field"

def uniqueIds (count : Nat) : Finding :=
  passing .identity s!"All use case IDs unique ({count} total)"

def foundOnIds (severity : Severity) (opening : String) (fs : List Finding) : List Finding :=
  onIds opening (fs.filter fun f => f.severity == severity)

section Lists
variable {severity : Severity} {opening : String} {fs : List Finding}

theorem foundOnIds_append (severity : Severity) (opening : String) (fs gs : List Finding) :
    foundOnIds severity opening (fs ++ gs) =
      foundOnIds severity opening fs ++ foundOnIds severity opening gs := by
  simp only [foundOnIds, onIds, ofRule, List.filter_append]

theorem foundOnIds_eq_self (h : ∀ f ∈ fs, f.rule = .identity ∧ f.severity = severity ∧
    f.opens opening = true) : foundOnIds severity opening fs = fs := by
  rw [foundOnIds, onIds, ofRule, List.filter_filter, List.filter_filter, List.filter_eq_self]
  intro f hf
  obtain ⟨hrule,hseverity,hopens⟩ := h f hf
  simp [hrule, hseverity, hopens]

theorem foundOnIds_eq_nil (h : ∀ f ∈ fs, f.rule = .identity → f.severity = severity →
    f.opens opening = false) : foundOnIds severity opening fs = [] := by
  rw [foundOnIds, onIds, ofRule, List.filter_filter, List.filter_filter, List.filter_eq_nil_iff]
  intro f hf hall
  simp only [Bool.and_eq_true, beq_iff_eq] at hall
  obtain ⟨⟨hopens,hrule⟩,hseverity⟩ := hall
  rw [h f hf hrule hseverity] at hopens
  cases hopens

end Lists

/-- Only the check of ids says something on them. -/
theorem foundOnIds_logged (severity : Severity) (opening : String) (present : String → Bool)
    (rulesDir : String) (d : Document) :
    foundOnIds severity opening (logged present rulesDir d).findings =
      foundOnIds severity opening (checkIdentity d) := by
  have hcomm : ∀ fs : List Finding, ofRule .identity (fs.filter fun f => f.severity == severity) =
      (ofRule .identity fs).filter fun f => f.severity == severity :=
    fun fs => List.filter_comm ..
  rw [foundOnIds, onIds, hcomm, ofRule_identity_logged, ← hcomm, ← onIds, ← foundOnIds]

theorem opens_missingId (place : String) : (missingId place).opens "Use case at " = true ∧
    (missingId place).opens "Duplicate use case ID " = false := by
  simp [Finding.opens, missingId, failure, List.isPrefixOf]

theorem opens_duplicateId (id : String) (positions : List String) :
    (duplicateId id positions).opens "Duplicate use case ID " = true ∧
      (duplicateId id positions).opens "Use case at " = false := by
  simp [Finding.opens, duplicateId, failure, List.isPrefixOf]

theorem opens_uniqueIds (count : Nat) :
    (uniqueIds count).opens "All use case IDs unique (" = true := by
  simp [Finding.opens, uniqueIds, passing]

/-- The findings on a single use case are no passes, and its errors name it by its label. -/
theorem mem_checkUseCase {u : UseCase} {f : Finding} (h : f ∈ checkUseCase u)
    (hrule : f.rule = .identity) : f.severity ≠ .pass ∧ (f.severity = .error →
      f.opens "Use case at " = false ∧ f.opens "Duplicate use case ID " = false) := by
  simp only [checkUseCase, onlyIf, List.mem_append, List.mem_ite_nil_right, List.mem_singleton] at h
  rcases h with ((⟨-,rfl⟩ | ⟨-,rfl⟩) | ⟨-,rfl⟩) | ⟨-,rfl⟩
  · simp
  · simp [Finding.opens, failure, List.isPrefixOf]
  · simp [Finding.opens, failure, List.isPrefixOf]
  · cases hrule

theorem flatMap_onlyIf {α : Type} (wanted : α → Bool) (finding : α → Finding) (xs : List α) :
    (xs.flatMap fun x => onlyIf (wanted x) (finding x)) = (xs.filter wanted).map finding := by
  induction xs with
  | nil => rfl
  | cons x xs ih =>
    rw [List.flatMap_cons, ih, List.filter_cons]
    cases wanted x <;> rfl

/-- The check of ids: the entries without one, the repeats, the pass and the single use cases. -/
theorem checkIdentity_eq (d : Document) : checkIdentity d =
    (d.places fun u => !filled u.id).map missingId ++
    d.repeatedIds.map (fun id => duplicateId id (d.places fun u => u.id == some id)) ++
    onlyIf d.repeatedIds.isEmpty (uniqueIds d.allUseCases.length) ++
    (locatedUseCases d).flatMap fun p => checkUseCase p.2 := by
  have hmissing : ((locatedUseCases d).flatMap fun p =>
      onlyIf (!filled p.2.id) (failure .identity s!"Use case at {p.1} has no id field")) =
      (d.places fun u => !filled u.id).map missingId := by
    rw [flatMap_onlyIf, ← Document.map_fst_filter_locatedUseCases, List.map_map]
    rfl
  have hlength : (locatedUseCases d).length = d.allUseCases.length := by
    rw [Document.allUseCases, ← map_snd_locatedUseCases, List.length_map]
  rw [checkIdentity]
  simp only [hmissing, hlength, Document.duplicateIds_locatedUseCases, List.map_map,
    List.isEmpty_map, Function.comp_def, uniqueIds]

section Pieces
variable {severity : Severity} {opening : String} {α : Type} {finding : α → Finding}

theorem foundOnIds_map_eq_self (h : ∀ x, (finding x).rule = .identity ∧
    (finding x).severity = severity ∧ (finding x).opens opening = true) (xs : List α) :
    foundOnIds severity opening (xs.map finding) = xs.map finding :=
  foundOnIds_eq_self (List.forall_mem_map.mpr fun x _ => h x)

theorem foundOnIds_map_eq_nil (h : ∀ x, (finding x).severity = severity →
    (finding x).opens opening = false) (xs : List α) :
    foundOnIds severity opening (xs.map finding) = [] :=
  foundOnIds_eq_nil (List.forall_mem_map.mpr fun x _ _ => h x)

theorem foundOnIds_flatMap_eq_nil {check : α → List Finding} (h : ∀ x, ∀ f ∈ check x,
    f.rule = .identity → f.severity = severity → f.opens opening = false) (xs : List α) :
    foundOnIds severity opening (xs.flatMap check) = [] :=
  foundOnIds_eq_nil (List.forall_mem_flatMap.mpr fun x _ => h x)

end Pieces

theorem foundOnIds_uniqueIds {severity : Severity} {opening : String} {condition : Bool} (count : Nat)
    (h : severity ≠ .pass) : foundOnIds severity opening (onlyIf condition (uniqueIds count)) = [] := by
  refine foundOnIds_eq_nil ?_
  intro f hf _ hseverity
  rw [onlyIf] at hf
  split at hf
  · rw [List.mem_singleton.mp hf] at hseverity
    exact absurd hseverity.symm h
  · cases hf

theorem repeats_checkIdentity (d : Document) :
    foundOnIds .error "Duplicate use case ID " (checkIdentity d) =
      d.repeatedIds.map fun id => duplicateId id (d.places fun u => u.id == some id) := by
  have hmissing : foundOnIds .error "Duplicate use case ID "
      ((d.places fun u => !filled u.id).map missingId) = [] :=
    foundOnIds_map_eq_nil (fun place _ => (opens_missingId place).2) _
  have hrepeats : ∀ rows : String → List String, foundOnIds .error "Duplicate use case ID "
      (d.repeatedIds.map fun id => duplicateId id (rows id)) =
      d.repeatedIds.map fun id => duplicateId id (rows id) := by
    intro rows
    refine foundOnIds_map_eq_self ?_ d.repeatedIds
    intro id
    exact ⟨rfl,rfl,(opens_duplicateId id (rows id)).1⟩
  have huseCases : foundOnIds .error "Duplicate use case ID "
      ((locatedUseCases d).flatMap fun p => checkUseCase p.2) = [] :=
    foundOnIds_flatMap_eq_nil (fun p f hf hrule herror => ((mem_checkUseCase hf hrule).2 herror).2) _
  rw [checkIdentity_eq, foundOnIds_append, foundOnIds_append, foundOnIds_append, hmissing, hrepeats,
    foundOnIds_uniqueIds _ (by decide), huseCases, List.nil_append, List.append_nil, List.append_nil]

theorem missing_checkIdentity (d : Document) : foundOnIds .error "Use case at " (checkIdentity d) =
    (d.places fun u => !filled u.id).map missingId := by
  have hmissing : foundOnIds .error "Use case at "
      ((d.places fun u => !filled u.id).map missingId) =
      (d.places fun u => !filled u.id).map missingId := by
    refine foundOnIds_map_eq_self ?_ (d.places fun u => !filled u.id)
    intro place
    exact ⟨rfl,rfl,(opens_missingId place).1⟩
  have hrepeats : ∀ rows : String → List String, foundOnIds .error "Use case at "
      (d.repeatedIds.map fun id => duplicateId id (rows id)) = [] :=
    fun rows => foundOnIds_map_eq_nil (fun id _ => (opens_duplicateId id (rows id)).2) _
  have huseCases : foundOnIds .error "Use case at "
      ((locatedUseCases d).flatMap fun p => checkUseCase p.2) = [] :=
    foundOnIds_flatMap_eq_nil (fun p f hf hrule herror => ((mem_checkUseCase hf hrule).2 herror).1) _
  rw [checkIdentity_eq, foundOnIds_append, foundOnIds_append, foundOnIds_append, hmissing, hrepeats,
    foundOnIds_uniqueIds _ (by decide), huseCases, List.append_nil, List.append_nil, List.append_nil]

theorem unique_checkIdentity (d : Document) :
    foundOnIds .pass "All use case IDs unique (" (checkIdentity d) =
      onlyIf d.repeatedIds.isEmpty (uniqueIds d.allUseCases.length) := by
  have hmissing : foundOnIds .pass "All use case IDs unique ("
      ((d.places fun u => !filled u.id).map missingId) = [] :=
    foundOnIds_map_eq_nil (fun place hpass => by cases hpass) _
  have hrepeats : ∀ rows : String → List String, foundOnIds .pass "All use case IDs unique ("
      (d.repeatedIds.map fun id => duplicateId id (rows id)) = [] :=
    fun rows => foundOnIds_map_eq_nil (fun id hpass => by cases hpass) _
  have hunique : foundOnIds .pass "All use case IDs unique ("
      (onlyIf d.repeatedIds.isEmpty (uniqueIds d.allUseCases.length)) =
      onlyIf d.repeatedIds.isEmpty (uniqueIds d.allUseCases.length) := by
    refine foundOnIds_eq_self ?_
    intro f hf
    rw [onlyIf] at hf
    split at hf
    · rw [List.mem_singleton.mp hf]
      exact ⟨rfl,rfl,opens_uniqueIds _⟩
    · cases hf
  have huseCases : foundOnIds .pass "All use case IDs unique ("
      ((locatedUseCases d).flatMap fun p => checkUseCase p.2) = [] :=
    foundOnIds_flatMap_eq_nil
      (fun p f hf hrule hpass => absurd hpass (mem_checkUseCase hf hrule).1) _
  rw [checkIdentity_eq, foundOnIds_append, foundOnIds_append, foundOnIds_append, hmissing, hrepeats,
    hunique, huseCases, List.nil_append, List.nil_append, List.append_nil]

/-- What a report says of ids. -/
structure IdsReported (d : Document) (r : Report) : Prop where
  repeats : onIds "Duplicate use case ID " r.errors = d.repeatedIds.map fun id =>
    let positions := d.places fun u => u.id == some id
    ⟨.identity,.error,"Duplicate use case ID \"" ++ id ++ "\" (" ++ toString positions.length ++
      " occurrences: " ++ ", ".intercalate positions ++ ")"⟩
  occurrences : ∀ id ∈ d.repeatedIds, id ≠ "" ∧ (d.places fun u => u.id == some id).length =
    d.allUseCases.countP fun u => u.id == some id
  unique : onIds "All use case IDs unique (" r.passes =
    onlyIf d.repeatedIds.isEmpty (uniqueIds d.allUseCases.length)
  missing : onIds "Use case at " r.errors = (d.places fun u => !filled u.id).map missingId

/-- Every audit reports each repeated id once with all its places, each entry without an id, and that
all ids are unique exactly when none is repeated. -/
theorem evaluate_idsReported (present : String → Bool) (rulesDir : String) (d : Document) :
    IdsReported d (evaluate present rulesDir d).report := by
  have herrors : ∀ opening, onIds opening (evaluate present rulesDir d).report.errors =
      foundOnIds .error opening (checkIdentity d) := by
    intro opening
    rw [← foundOnIds_logged .error opening present rulesDir, report_evaluate]
    simp only [Report.ofFindings, Report.addAll_eq, List.nil_append, foundOnIds]
  have hpasses : ∀ opening, onIds opening (evaluate present rulesDir d).report.passes =
      foundOnIds .pass opening (checkIdentity d) := by
    intro opening
    rw [← foundOnIds_logged .pass opening present rulesDir, report_evaluate]
    simp only [Report.ofFindings, Report.addAll_eq, List.nil_append, foundOnIds]
  refine ⟨?_,d.occurrences_repeatedIds,?_,?_⟩
  · rw [herrors, repeats_checkIdentity]
    rfl
  · rw [hpasses, unique_checkIdentity]
  · rw [herrors, missing_checkIdentity]

end Audit

end Traceability
