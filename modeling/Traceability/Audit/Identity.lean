import Traceability.Audit.Structure

/-! # Checks of use case identity

Ids are compared over active and deprecated use cases together. A position names the list and the
index in it.
-/
namespace Traceability.Audit

open Text

def located (list : String) (useCases : List UseCase) : List (String × UseCase) :=
  useCases.zipIdx.map fun (u, i) => (s!"{list}[{i}]", u)

def locatedUseCases (d : Document) : List (String × UseCase) :=
  located "use_cases" d.active ++ located "deprecated" d.deprecated

def notePosition (id position : String) : List (String × List String) → List (String × List String)
  | [] => [(id, [position])]
  | (i, ps) :: rest =>
    if i = id then (i, ps ++ [position]) :: rest else (i, ps) :: notePosition id position rest

/-- The positions of each id in the order of first use, behind those of a table; a use case without
an id is reported. -/
def notePositions (table : List (String × List String)) :
    List (String × UseCase) → Reporting (List (String × List String))
  | [] => pure table
  | (position, u) :: rest =>
    match u.id.bind nonEmpty? with
    | none => do
      error .identity s!"Use case at {position} has no id field"
      notePositions table rest
    | some id => notePositions (notePosition id position table) rest

def label (u : UseCase) : String := (u.id.bind nonEmpty?).getD "<no id>"

def reportUseCase (u : UseCase) : Reporting Unit := do
  warnIf (filled u.id && !Format.isUseCaseId (shown u.id)) .identity
    s!"Use case ID \"{shown u.id}\" does not follow UC-XXX format"
  errorIf (!(u.status.any UseCase.validStatuses.contains)) .identity
    s!"UC {label u} has invalid status: \"{shown u.status}\""
  errorIf (!filled u.title) .identity s!"UC {label u} is missing title"
  errorIf (!filled u.value) .useCaseFirst s!"UC {label u} is missing value statement"

def reportDuplicateId (id : String) (positions : List String) : Reporting Unit :=
  error .identity (s!"Duplicate use case ID \"{id}\" ({positions.length} occurrences: " ++
    ", ".intercalate positions ++ ")")

/-- Every use case has an id of its own, a valid status, a title and a value. -/
def reportIdentity (d : Document) : Reporting Unit := do
  let us := locatedUseCases d
  let table ← notePositions [] us
  let duplicates := table.filter fun row => 1 < row.2.length
  duplicates.forM fun row => reportDuplicateId row.1 row.2
  passedIf duplicates.isEmpty .identity s!"All use case IDs unique ({us.length} total)"
  us.forM fun located => reportUseCase located.2

end Traceability.Audit
