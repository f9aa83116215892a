import Traceability.Document.Lookup

/-! # Risks of discovered entities

Tables without an owner, without an audit log over personal data or without a retention period,
and endpoints and functions that no active use case refers to.
-/
namespace Traceability

open Text

inductive RiskSeverity
  | critical
  | warning
  | info
  deriving DecidableEq, Repr

namespace RiskSeverity

/-- All tiers, worst first. -/
def all : List RiskSeverity := [.critical, .warning, .info]

def name : RiskSeverity → String
  | critical => "critical"
  | warning => "warning"
  | info => "info"

def ofName? (name : String) : Option RiskSeverity := all.find? fun tier => tier.name == name

end RiskSeverity

structure UnknownTier where
  name : String
  deriving DecidableEq, Repr

def UnknownTier.message (e : UnknownTier) : String :=
  literal e.name ++ " is not a valid ViolationSeverity"

inductive ViolationCode
  | noOwner
  | piiNoAudit
  | noRetention
  | ghostEndpoint
  | ghostFunction
  deriving DecidableEq, Repr

def ViolationCode.name : ViolationCode → String
  | noOwner => "NO_OWNER"
  | piiNoAudit => "PII_NO_AUDIT"
  | noRetention => "NO_RETENTION"
  | ghostEndpoint => "GHOST_ENDPOINT"
  | ghostFunction => "GHOST_FUNCTION"

inductive EntityKind
  | table
  | endpoint
  | function
  deriving DecidableEq, Repr

def EntityKind.name : EntityKind → String
  | table => "table"
  | endpoint => "endpoint"
  | function => "function"

structure Violation where
  id : String
  entityId : String
  entityKind : EntityKind
  severity : RiskSeverity
  code : ViolationCode
  message : String
  autoFixable : Bool
  fixPrompt : Option String := none
  deriving DecidableEq, Repr

namespace Risk

def tableLabel (t : Table) : String := (nonEmpty? t.name).getD t.id

def noOwner (t : Table) : Violation where
  id := s!"v_{t.id}_no_owner"
  entityId := t.id
  entityKind := .table
  severity := .critical
  code := .noOwner
  message := s!"Table \"{tableLabel t}\" has no owner service. Nobody is responsible for it."
  autoFixable := true
  fixPrompt := some (s!"Review every endpoint that touches \"{tableLabel t}\", " ++
    "decide which service owns it, and set owner_service in the matrix.")

def piiNoAudit (t : Table) : Violation where
  id := s!"v_{t.id}_pii_no_audit"
  entityId := t.id
  entityKind := .table
  severity := .critical
  code := .piiNoAudit
  message := s!"Table \"{tableLabel t}\" holds PII but has no audit log. GDPR risk."
  autoFixable := true
  fixPrompt := some (s!"Add audit logging for every PII field in \"{tableLabel t}\". " ++
    "Record an audit entry on each write and delete.")

def noRetention (t : Table) : Violation where
  id := s!"v_{t.id}_no_retention"
  entityId := t.id
  entityKind := .table
  severity := .warning
  code := .noRetention
  message :=
    if t.retentionDeclared then
      s!"Table \"{tableLabel t}\" leaves retention_days unset. Data is never deleted."
    else s!"Table \"{tableLabel t}\" declares no retention policy. Data is never deleted."
  autoFixable := false
  fixPrompt := some (s!"Define a retention policy for \"{tableLabel t}\" " ++
    "based on the kind of data it stores and GDPR requirements.")

def ghostEndpoint (e : Endpoint) : Violation where
  id := s!"v_{e.id}_ghost"
  entityId := e.id
  entityKind := .endpoint
  severity := .warning
  code := .ghostEndpoint
  message := s!"Endpoint \"{e.signature}\" is not linked to any use case (ghost logic)."
  autoFixable := true
  fixPrompt := some (s!"Analyse \"{e.signature}\" and create a matching use case, " ++
    "or mark the endpoint as deprecated.")

def ghostFunction (f : FunctionEntity) : Violation where
  id := s!"v_{f.id}_ghost"
  entityId := f.id
  entityKind := .function
  severity := .warning
  code := .ghostFunction
  message := s!"Function \"{f.name}\" is not linked to any use case (possible dead code)."
  autoFixable := true
  fixPrompt := some (s!"Check whether \"{f.name}\" is still used. " ++
    "If it is, link it to a use case; otherwise mark it as deprecated.")

def tableViolations (t : Table) : List Violation :=
  (if t.ownerService.any (· != "") then [] else [noOwner t]) ++
  (if t.hasPii && !t.auditLog then [piiNoAudit t] else []) ++
  (if t.retentionDays.isNone then [noRetention t] else [])

/-- The endpoints that active use cases refer to, in comparable form. -/
def referencedEndpoints (d : Document) : List String :=
  d.activeFunctions.filterMap fun (_, f) => f.endpointKey?

def referencedFunctions (d : Document) : List String :=
  d.activeFunctions.filterMap fun (_, f) => f.name.bind nonEmpty?

def endpointViolations (referenced : List String) (e : Endpoint) : List Violation :=
  if referenced.contains (endpointKey e.signature) then [] else [ghostEndpoint e]

def functionViolations (referenced : List String) (f : FunctionEntity) : List Violation :=
  if referenced.contains f.name then [] else [ghostFunction f]

/-- The risks of all entities: tables, endpoints, functions, each in document order. -/
def classify (d : Document) : List Violation :=
  d.tables.flatMap tableViolations ++
  d.endpoints.flatMap (endpointViolations (referencedEndpoints d)) ++
  d.functions.flatMap (functionViolations (referencedFunctions d))

def ofEntity (vs : List Violation) (entityId : String) : List Violation :=
  vs.filter fun v => v.entityId == entityId

def worst? (vs : List Violation) : Option RiskSeverity :=
  RiskSeverity.all.find? fun tier => vs.any fun v => v.severity == tier

def count (vs : List Violation) (tier : RiskSeverity) : Nat :=
  vs.countP fun v => v.severity == tier

end Risk

end Traceability
