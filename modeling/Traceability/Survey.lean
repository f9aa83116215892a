import Traceability.Json.Basic
import Traceability.Risk

/-! # Surveys of risk

A survey lists the risks of a document, or those of one entity together with their worst tier.
-/
namespace Traceability

/-- The risks of a whole document or of one entity. -/
inductive Survey
  | whole (violations : List Violation)
  | entity (id : String) (violations : List Violation)
  deriving DecidableEq, Repr

namespace Survey

/-- The survey of a document, narrowed to one entity if one is named. -/
def ofDocument (d : Document) (entity : Option String) : Survey :=
  match entity with
  | none => .whole (Risk.classify d)
  | some id => .entity id (Risk.ofEntity (Risk.classify d) id)

def violations : Survey → List Violation
  | whole vs => vs
  | entity _ vs => vs

def violationJson (v : Violation) : Json := .object [
  ("id", .text v.id),
  ("entity_id", .text v.entityId),
  ("entity_type", .text v.entityKind.name),
  ("severity", .text v.severity.name),
  ("code", .text v.code.name),
  ("message", .text v.message),
  ("auto_fixable", .bool v.autoFixable),
  ("fix_prompt", .ofText? v.fixPrompt)]

def tierJson (tier : Option RiskSeverity) : Json := .ofText? (tier.map (·.name))

def toJson : Survey → Json
  | whole vs => .object [
      ("violations", .list (vs.map violationJson)),
      ("summary", .object (RiskSeverity.all.map fun tier =>
        (tier.name, .ofNat (Risk.count vs tier))))]
  | entity id vs => .object [
      ("entity_id", .text id),
      ("worst_severity", tierJson (Risk.worst? vs)),
      ("violations", .list (vs.map violationJson))]

end Survey

end Traceability
