import Traceability.Document.Lookup
import Traceability.Json.Basic

/-! # Answers to lookups -/
namespace Traceability

def EndpointMatch.members (m : EndpointMatch) : List (String × Json) := [
  ("endpoint", .text m.endpoint),
  ("function", .ofText? m.functionName),
  ("use_case_id", .ofText? m.useCaseId),
  ("file", .ofText? m.file),
  ("line", .ofInt? m.line)]

end Traceability
