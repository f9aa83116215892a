import Traceability.Proofs.Audit.Rules

/-! # Who is blamed for a repeat

Of the records that give a value, all but the first one are blamed, each together with the first, and
of the use cases that claim a visual element all but the first one.
-/
namespace Traceability
open Text Audit

namespace Document

/-- The active function records that give an attribute, each with its use case. -/
def giving (value : FunctionRecord → Option String) (d : Document) :
    List (UseCase × FunctionRecord) :=
  d.activeFunctions.filter fun p => filled (value p.2)

def valuesGiven (value : FunctionRecord → Option String) (d : Document) : List String :=
  (d.giving value).map fun p => shown (value p.2)

/-- The active function records that are not the first with their value, each behind the first. -/
def repeatedUses (value : FunctionRecord → Option String) (d : Document) :
    List ((UseCase × FunctionRecord) × (UseCase × FunctionRecord)) :=
  repeatsOf (fun p => shown (value p.2)) (d.giving value)

/-- The active use cases that claim a visual element for themselves. -/
def claiming (d : Document) : List UseCase := d.active.filter fun u => filled (ownElement u)

/-- The active use cases that are not the first to claim their visual element, each behind the
first. -/
def repeatedElements (d : Document) : List (UseCase × UseCase) :=
  repeatsOf (fun u => shown (ownElement u)) d.claiming

end Document

namespace Audit

/-! ## Attributes of functions -/

theorem usesOf_eq (value : FunctionRecord → Option String) (d : Document) :
    usesOf value d = (d.giving value).map fun p => (shown (value p.2),label p.1) :=
  filterMap_filledText? (fun p : UseCase × FunctionRecord => value p.2)
    (fun p key => (key,label p.1)) d.activeFunctions

theorem repeats_usesOf (value : FunctionRecord → Option String) (d : Document) :
    (repeatsFrom [] (usesOf value d)).1 = (d.repeatedUses value).map fun r =>
      ⟨shown (value r.2.2),label r.1.1,label r.2.1⟩ := by
  rw [repeatsFrom_eq, usesOf_eq, repeatsOf_map, List.map_map]
  rfl

theorem length_owners_usesOf (value : FunctionRecord → Option String) (d : Document) :
    (repeatsFrom [] (usesOf value d)).2.length = (d.valuesGiven value).eraseDups.length := by
  have hkeys := (owners_repeatsFrom (usesOf value d)).1
  have hvalues : (usesOf value d).map Prod.fst = d.valuesGiven value := by
    rw [usesOf_eq, List.map_map, Document.valuesGiven]
    rfl
  rw [← hvalues, ← hkeys, List.length_map]

def blame (kind : String) (value : FunctionRecord → Option String)
    (r : (UseCase × FunctionRecord) × (UseCase × FunctionRecord)) : Finding :=
  failure .noDuplicate <|
    if label r.1.1 = label r.2.1 then
      s!"{kind} \"{shown (value r.2.2)}\" registered twice in {label r.2.1}"
    else s!"{kind} \"{shown (value r.2.2)}\" in both {label r.1.1} and {label r.2.1}"

def unrepeated (kind : String) (value : FunctionRecord → Option String) (d : Document) : Finding :=
  passing .noDuplicate s!"No duplicate {kind}s ({(d.valuesGiven value).eraseDups.length} checked)"

theorem checkRepeats_usesOf (kind lowerKind : String) (value : FunctionRecord → Option String)
    (d : Document) : checkRepeats kind lowerKind (usesOf value d) =
      (d.repeatedUses value).map (blame kind value) ++
        onlyIf (d.repeatedUses value).isEmpty (unrepeated lowerKind value d) := by
  have hrepeats := repeats_usesOf value d
  have hlength := length_owners_usesOf value d
  rw [checkRepeats]
  simp only [hrepeats, hlength, List.map_map, List.isEmpty_map, unrepeated]
  rfl

section
variable (kind lowerKind : String) (value : FunctionRecord → Option String) (d : Document)

theorem errors_checkRepeats :
    (checkRepeats kind lowerKind (usesOf value d)).filter (·.severity == .error) =
      (d.repeatedUses value).map (blame kind value) := by
  have hblame : ∀ f ∈ (d.repeatedUses value).map (blame kind value),
      (f.severity == .error) = true := by
    intro f hf
    obtain ⟨r,-,rfl⟩ := List.mem_map.mp hf
    rfl
  rw [checkRepeats_usesOf, List.filter_append, List.filter_eq_self.mpr hblame]
  cases (d.repeatedUses value).isEmpty <;> simp [onlyIf, unrepeated]

theorem passes_checkRepeats :
    (checkRepeats kind lowerKind (usesOf value d)).filter (·.severity == .pass) =
      onlyIf (d.repeatedUses value).isEmpty (unrepeated lowerKind value d) := by
  have hblame : ∀ f ∈ (d.repeatedUses value).map (blame kind value),
      ¬(f.severity == .pass) = true := by
    intro f hf
    obtain ⟨r,-,rfl⟩ := List.mem_map.mp hf
    exact Bool.false_ne_true
  rw [checkRepeats_usesOf, List.filter_append, List.filter_eq_nil_iff.mpr hblame]
  cases (d.repeatedUses value).isEmpty <;> simp [onlyIf, unrepeated]

end

/-! ## The report -/

/-- A report blames exactly the repeats in a document. -/
structure RepeatsBlamed (d : Document) (r : Report) : Prop where
  attributes : ofRule .noDuplicate r.errors =
    (d.repeatedUses (·.name)).map (blame "Function" (·.name)) ++
      (d.repeatedUses (·.endpoint)).map (blame "Endpoint" (·.endpoint))
  unrepeated : ofRule .noDuplicate r.passes =
    onlyIf (d.repeatedUses (·.name)).isEmpty (unrepeated "function" (·.name) d) ++
      onlyIf (d.repeatedUses (·.endpoint)).isEmpty (unrepeated "endpoint" (·.endpoint) d)
  elements : ofRule .metaInjection r.errors =
    d.repeatedElements.map fun repeated => duplicateElement repeated.2
  /-- A value that is given `n` times is blamed `n - 1` times. -/
  attributeCounts : ∀ (value : FunctionRecord → Option String) (text : String),
    ((d.repeatedUses value).countP fun repeated => shown (value repeated.2.2) == text) =
      ((d.giving value).countP fun p => shown (value p.2) == text) - 1
  elementCounts : ∀ text : String,
    (d.repeatedElements.countP fun repeated => shown (ownElement repeated.2) == text) =
      (d.claiming.countP fun u => shown (ownElement u) == text) - 1

/-- Of the records that give a value all but the first are blamed, each together with the first, and
that there is nothing to blame is said only then. -/
theorem evaluate_repeatsBlamed (present : String → Bool) (rulesDir : String) (d : Document) :
    RepeatsBlamed d (evaluate present rulesDir d).report := by
  have hnoDuplicate : ofRule .noDuplicate (logged present rulesDir d).findings =
      checkFunctionNames d ++ (checkEndpoints d ++ []) :=
    ofRule_logged_of_alone present rulesDir d (by simp [checks])
  have hmetaInjection : ofRule .metaInjection (logged present rulesDir d).findings =
      checkElements d ++ [] :=
    ofRule_logged_of_alone present rulesDir d (by simp [checks])
  rw [List.append_nil] at hnoDuplicate hmetaInjection
  rw [report_evaluate]
  refine ⟨?attributes,?unrepeated,?elements,?attributeCounts,?elementCounts⟩
  case attributes =>
    have herrors := ofRule_ofSeverity .noDuplicate .error (logged present rulesDir d).findings
    rw [hnoDuplicate, List.filter_append, checkFunctionNames, checkEndpoints, errors_checkRepeats,
      errors_checkRepeats] at herrors
    exact herrors
  case unrepeated =>
    have hpasses := ofRule_ofSeverity .noDuplicate .pass (logged present rulesDir d).findings
    rw [hnoDuplicate, List.filter_append, checkFunctionNames, checkEndpoints, passes_checkRepeats,
      passes_checkRepeats] at hpasses
    exact hpasses
  case elements =>
    have herrors := ofRule_ofSeverity .metaInjection .error (logged present rulesDir d).findings
    rw [hmetaInjection, checkElements, errors_checkElementsFrom] at herrors
    exact herrors
  case attributeCounts =>
    intro value text
    exact countP_repeatsOf (fun p : UseCase × FunctionRecord => shown (value p.2)) (d.giving value)
      text
  case elementCounts => exact countP_repeatsOf (fun u => shown (ownElement u)) d.claiming

end Audit

end Traceability
