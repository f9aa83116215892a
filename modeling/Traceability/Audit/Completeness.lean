import Traceability.Audit.Structure
import Traceability.Text.LowerCase

/-! # Checks of completeness

Implemented use cases name real functions, retired ones say when and why, and decisions carry
their reasons.
-/
namespace Traceability.Audit

open Text

def reportRecord (u : UseCase) (f : FunctionRecord) : Reporting Unit := do
  let name := shown f.name
  errorIf (!filled f.name) .completeness s!"UC {shown u.id}: function record missing \"name\""
  errorIf (!filled f.file) .completeness
    s!"UC {shown u.id}: function \"{name}\" missing \"file\""
  errorIf f.line.isNone .completeness s!"UC {shown u.id}: function \"{name}\" missing \"line\""
  warnIf f.authRequired.isNone .completeness
    s!"UC {shown u.id}: function \"{name}\" missing \"auth_required\""
  warnIf (!filled f.lastModified) .completeness
    s!"UC {shown u.id}: function \"{name}\" missing \"last_modified\""

def reportImplementedUseCase (u : UseCase) : Reporting Unit :=
  if u.functions.isEmpty then
    error .completeness s!"UC {shown u.id} is \"implemented\" but has no functions registered"
  else do
    passed .completeness s!"UC {shown u.id} has {u.functions.length} function(s) registered"
    u.functions.forM (reportRecord u)

/-- Implemented use cases have complete function records. -/
def reportImplemented (d : Document) : Reporting Unit :=
  (d.active.filter (·.isImplemented)).forM reportImplementedUseCase

def reportDeprecatedEntry (u : UseCase) : Reporting Unit := do
  let id := shown u.id
  warnIf (!u.isDeprecated) .deprecation
    s!"Entry in deprecated list has status \"{shown u.status}\" (expected \"deprecated\"): {id}"
  errorIf (!filled u.deprecatedDate) .deprecation
    s!"Deprecated entry {id} missing \"deprecated_date\""
  errorIf (!filled u.deprecatedReason) .deprecation
    s!"Deprecated entry {id} missing \"deprecated_reason\""
  passedIf (filled u.deprecatedDate && filled u.deprecatedReason) .deprecation
    s!"Deprecated entry {id} has proper deprecation metadata"

def reportRetired (u : UseCase) : Reporting Unit :=
  warnIf u.isDeprecated .deprecation
    (s!"UC {shown u.id} has status \"deprecated\" but is still in use_cases. " ++
      "Move it to the deprecated list.")

/-- Retired use cases say when and why, and stand in their own list. -/
def reportDeprecated (d : Document) : Reporting Unit := do
  d.deprecated.forM reportDeprecatedEntry
  d.active.forM reportRetired

def stubTokens : List String := ["todo", "placeholder", "stub"]

/-- The first stub token in a name, in any case of letters. -/
def stubToken? (name : String) : Option String :=
  stubTokens.find? fun token => occursIn token.toList (lowerAscii name.toList)

def noFakeTag : String := "NO_FAKE"

def reportName (u : UseCase) (f : FunctionRecord) : Reporting Unit :=
  let name := shown f.name
  if !filled f.name || isBlankText name then
    error .noFake s!"UC {shown u.id}: function record with empty name - stub detected"
  else
    match stubToken? name with
    | some token =>
      error .noFake s!"UC {shown u.id}: function name \"{name}\" suggests a stub (\"{token}\")"
    | none => pure ()

def reportGenuine (u : UseCase) (f : FunctionRecord) : Reporting Unit := do
  let name := shown f.name
  warnIf (f.line.getD 0 == 0) .noFake
    s!"UC {shown u.id}: function \"{name}\" has line 0 or null"
  warnIf (filled f.endpoint && f.dbTables.isEmpty) .noFake
    (s!"UC {shown u.id}: function \"{name}\" has an endpoint but no db_tables. " ++
      "Register the tables it touches or confirm it touches none.")
  errorIf f.authRequired.isNone .noFake
    s!"UC {shown u.id}: function \"{name}\" has no auth_required value"
  reportName u f

def reportGenuineUseCase (u : UseCase) : Reporting Unit := do
  warnIf (!u.rulesApplied.contains noFakeTag) .noFake
    s!"UC {shown u.id} is \"implemented\" but {noFakeTag} is not in rules_applied"
  u.functions.forM (reportGenuine u)
  passedIf (!u.functions.isEmpty) .noFake
    s!"UC {shown u.id}: implemented with {u.functions.length} function(s)"

/-- Implemented use cases are genuine. -/
def reportNoFake (d : Document) : Reporting Unit :=
  (d.active.filter (·.isImplemented)).forM reportGenuineUseCase

def reportDecision (a : Decision) : Reporting Unit := do
  let label := if filled a.id then shown a.id else "unknown"
  warnIf (!filled a.id || !Format.isDecisionId (shown a.id)) .decisionFormat
    s!"ADR missing or invalid id (expected ADR-XXX): {literalOrNone a.id}"
  errorIf (!filled a.decision) .decisionFormat s!"ADR {label} missing \"decision\""
  errorIf (!filled a.context) .decisionFormat s!"ADR {label} missing \"context\""
  warnIf (!(a.status.any Decision.validStatuses.contains)) .decisionFormat
    s!"ADR {label} has invalid status \"{shown a.status}\""
  warnIf a.alternativesConsidered.isEmpty .decisionFormat
    s!"ADR {label} has no alternatives_considered"
  passedIf (filled a.id && filled a.decision && filled a.context) .decisionFormat
    s!"ADR {shown a.id} is well-formed"

def reportDecisions (d : Document) : Reporting Unit := d.decisions.forM reportDecision

end Traceability.Audit
