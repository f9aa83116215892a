import Mathlib.Data.Nat.Notation
import Mathlib.Tactic.Common
import Traceability.Proofs.Audit.Written

/-! # What an audit looks at

An audit sees the modelled fields of the records that it judges. Of a deprecated entry it sees what
identifies it and when and why it was retired, and it sees nothing of the tables, endpoints and
functions that were found in the source. Documents of which it sees the same have the same audit.
-/
namespace Traceability
open Text

/-! ## What is seen -/

def FunctionRecord.audited (f : FunctionRecord) : FunctionRecord := { f with extra := [] }

def UseCase.audited (u : UseCase) : UseCase :=
  { u with functions := u.functions.map FunctionRecord.audited, extra := [] }

def UseCase.retired (u : UseCase) : UseCase :=
  { u with
    actor := none
    visualElementId := none
    preconditions := []
    postconditions := []
    functions := []
    rulesApplied := []
    replacedBy := none
    extra := [] }

/-- What an audit sees of a decision; of the alternatives it sees how many there are. -/
def Decision.audited (a : Decision) : Decision :=
  { a with
    alternativesConsidered := a.alternativesConsidered.map fun _ => .null
    extra := [] }

/-- What an audit sees of a document apart from the stack. -/
def Document.audited (d : Document) : Document :=
  { d with
    stack := none
    useCases := d.useCases.map (·.map UseCase.audited)
    decisions := d.decisions.map Decision.audited
    deprecated := d.deprecated.map UseCase.retired
    tables := []
    endpoints := []
    functions := []
    extra := [] }

namespace Audit
variable (d : Document)

/-! ## Use cases and functions as they are seen -/

theorem active_audited : d.audited.active = d.active.map UseCase.audited := by
  rw [Document.active, Document.active]
  show (d.useCases.map (·.map UseCase.audited)).getD [] = _
  cases d.useCases <;> rfl

theorem activeFunctions_audited : d.audited.activeFunctions =
    d.activeFunctions.map (Prod.map UseCase.audited FunctionRecord.audited) := by
  rw [Document.activeFunctions, Document.activeFunctions, active_audited, List.flatMap_map,
    List.map_flatMap]
  congr 1
  funext u
  show (u.functions.map FunctionRecord.audited).map _ = _
  rw [List.map_map, List.map_map]
  rfl

theorem usesOf_audited {value : FunctionRecord → Option String}
    (hvalue : ∀ f : FunctionRecord, value f.audited = value f) :
    usesOf value d.audited = usesOf value d := by
  rw [usesOf, usesOf, activeFunctions_audited, List.filterMap_map]
  congr 1
  funext p
  show ((value p.2.audited).bind nonEmpty?).map _ = _
  rw [hvalue]
  rfl

/-! ## Ids

Active and deprecated entries are seen differently, and what identifies them is the same for both. -/

def identity (u : UseCase) : UseCase :=
  { id := u.id, title := u.title, value := u.value, status := u.status }

def checkLocated (us : List (String × UseCase)) : List Finding :=
  us.flatMap (fun (position, u) =>
    onlyIf (!filled u.id) (failure .identity s!"Use case at {position} has no id field")) ++
  (duplicateIds us).map (fun row => duplicateId row.1 row.2) ++
  onlyIf (duplicateIds us).isEmpty
    (passing .identity s!"All use case IDs unique ({us.length} total)") ++
  us.flatMap fun (_, u) => checkUseCase u

theorem located_map (list : String) (f : UseCase → UseCase) (us : List UseCase) :
    located list (us.map f) = (located list us).map (Prod.map id f) := by
  rw [located, located, List.zipIdx_map, List.map_map, List.map_map]
  rfl

theorem checkLocated_identity (us : List (String × UseCase)) :
    checkLocated (us.map (Prod.map id identity)) = checkLocated us := by
  have hduplicates : duplicateIds (us.map (Prod.map id identity)) = duplicateIds us := by
    rw [duplicateIds, duplicateIds, positionTable, positionTable, List.foldl_map]
    rfl
  rw [checkLocated, checkLocated, hduplicates, List.flatMap_map, List.flatMap_map, List.length_map]
  rfl

theorem identity_locatedUseCases_audited :
    (locatedUseCases d.audited).map (Prod.map id identity) =
      (locatedUseCases d).map (Prod.map id identity) := by
  have hretired : d.audited.deprecated = d.deprecated.map UseCase.retired := rfl
  rw [locatedUseCases, locatedUseCases, active_audited, hretired]
  simp only [List.map_append, ← located_map, List.map_map]
  rfl

/-! ## Checks -/

theorem checkTopLevel_audited : checkTopLevel d.audited = checkTopLevel d := by
  have huseCases : d.audited.useCases = d.useCases.map (·.map UseCase.audited) := rfl
  rw [checkTopLevel, checkTopLevel, huseCases]
  congr 1
  cases d.useCases <;> simp

theorem checkIdentity_audited : checkIdentity d.audited = checkIdentity d := by
  have hsame := congrArg checkLocated (identity_locatedUseCases_audited d)
  rw [checkLocated_identity, checkLocated_identity] at hsame
  exact hsame

theorem checkFunctionNames_audited : checkFunctionNames d.audited = checkFunctionNames d := by
  rw [checkFunctionNames, checkFunctionNames, usesOf_audited d fun _ => rfl]

theorem checkEndpoints_audited : checkEndpoints d.audited = checkEndpoints d := by
  rw [checkEndpoints, checkEndpoints, usesOf_audited d fun _ => rfl]

/-- A check of implemented use cases goes over those that are seen. -/
theorem flatMap_implemented_audited {check : UseCase → List Finding}
    (hcheck : ∀ u : UseCase, check u.audited = check u) :
    (d.audited.active.filter (·.isImplemented)).flatMap check =
      (d.active.filter (·.isImplemented)).flatMap check := by
  have himplemented : (d.active.map UseCase.audited).filter (·.isImplemented) =
      (d.active.filter (·.isImplemented)).map UseCase.audited := by
    rw [List.filter_map]
    rfl
  rw [active_audited, himplemented, List.flatMap_map]
  simp only [hcheck]

theorem flatMap_functions_audited (u : UseCase) {check seen : FunctionRecord → List Finding}
    (h : ∀ f : FunctionRecord, seen f.audited = check f) :
    u.audited.functions.flatMap seen = u.functions.flatMap check := by
  show (u.functions.map FunctionRecord.audited).flatMap seen = _
  rw [List.flatMap_map]
  simp only [h]

theorem length_functions_audited (u : UseCase) :
    u.audited.functions.length = u.functions.length :=
  List.length_map _

theorem isEmpty_functions_audited (u : UseCase) :
    u.audited.functions.isEmpty = u.functions.isEmpty :=
  List.isEmpty_map

theorem checkImplementedUseCase_audited (u : UseCase) :
    checkImplementedUseCase u.audited = checkImplementedUseCase u := by
  have hrecords : u.audited.functions.flatMap (checkRecord u.audited) =
      u.functions.flatMap (checkRecord u) := flatMap_functions_audited u fun _ => rfl
  rw [checkImplementedUseCase, checkImplementedUseCase, hrecords, length_functions_audited,
    isEmpty_functions_audited]
  rfl

theorem checkImplemented_audited : checkImplemented d.audited = checkImplemented d :=
  flatMap_implemented_audited d checkImplementedUseCase_audited

theorem checkGenuineUseCase_audited (u : UseCase) :
    checkGenuineUseCase u.audited = checkGenuineUseCase u := by
  have hrecords : u.audited.functions.flatMap (checkGenuine u.audited) =
      u.functions.flatMap (checkGenuine u) := flatMap_functions_audited u fun _ => rfl
  rw [checkGenuineUseCase, checkGenuineUseCase, hrecords, length_functions_audited,
    isEmpty_functions_audited]
  rfl

theorem checkNoFake_audited : checkNoFake d.audited = checkNoFake d :=
  flatMap_implemented_audited d checkGenuineUseCase_audited

theorem checkDeprecated_audited : checkDeprecated d.audited = checkDeprecated d := by
  rw [checkDeprecated, checkDeprecated, active_audited, List.flatMap_map]
  show (d.deprecated.map UseCase.retired).flatMap _ ++ _ = _
  rw [List.flatMap_map]
  rfl

theorem checkElementsFrom_audited (seen : List String) (us : List UseCase) :
    checkElementsFrom seen (us.map UseCase.audited) = checkElementsFrom seen us := by
  induction us generalizing seen with
  | nil => rfl
  | cons u us ih =>
    rw [List.map_cons, checkElementsFrom, checkElementsFrom]
    simp only [ih]
    rfl

theorem checkElements_audited : checkElements d.audited = checkElements d := by
  rw [checkElements, checkElements, active_audited, checkElementsFrom_audited]

theorem checkDecisions_audited : checkDecisions d.audited = checkDecisions d := by
  have hdecision : ∀ a : Decision, checkDecision a.audited = checkDecision a := by
    intro a
    have hempty : a.audited.alternativesConsidered.isEmpty = a.alternativesConsidered.isEmpty :=
      List.isEmpty_map
    rw [checkDecision, checkDecision, hempty]
    rfl
  rw [checkDecisions, checkDecisions]
  show (d.decisions.map Decision.audited).flatMap _ = _
  rw [List.flatMap_map]
  simp only [hdecision]

theorem checkFilesFrom_audited (present : String → Bool) (checked : List String)
    (ps : List (UseCase × FunctionRecord)) :
    checkFilesFrom present checked (ps.map (Prod.map UseCase.audited FunctionRecord.audited)) =
      checkFilesFrom present checked ps := by
  induction ps generalizing checked with
  | nil => rfl
  | cons p ps ih =>
    rw [List.map_cons, checkFilesFrom, checkFilesFrom]
    simp only [ih]
    rfl

theorem checkFiles_audited (present : String → Bool) :
    checkFiles present d.audited = checkFiles present d := by
  rw [checkFiles, checkFiles, activeFunctions_audited, checkFilesFrom_audited]

/-! ## The audit -/

/-- Documents of which an audit sees the same have the same findings, and the same files are asked
for. -/
theorem logged_of_audited {d e : Document} (hstack : checkStack d = checkStack e)
    (h : d.audited = e.audited) (present : String → Bool) (rulesDir : String) :
    logged present rulesDir d = logged present rulesDir e := by
  have hdocument : checkDocument d = checkDocument e := by
    rw [checkDocument, checkDocument, hstack, ← checkTopLevel_audited d, ← checkIdentity_audited d,
      ← checkFunctionNames_audited d, ← checkEndpoints_audited d, ← checkImplemented_audited d,
      ← checkDeprecated_audited d, ← checkElements_audited d, ← checkNoFake_audited d,
      ← checkDecisions_audited d, h, checkTopLevel_audited, checkIdentity_audited,
      checkFunctionNames_audited, checkEndpoints_audited, checkImplemented_audited,
      checkDeprecated_audited, checkElements_audited, checkNoFake_audited, checkDecisions_audited]
  have hfiles : checkFiles present d = checkFiles present e := by
    rw [← checkFiles_audited d, h, checkFiles_audited]
  rw [logged, logged, hdocument, hfiles]

end Audit

end Traceability
