import Traceability.Audit.Report
import Traceability.Json.Printer

/-! # Results of an audit run

A run is shown to programs as JSON or as one line per finding.
-/
namespace Traceability.Audit

open Number

/-- The result of a run; the time it took is in milliseconds. -/
structure Run where
  report : Report := {}
  projectRoot : String := ""
  ranAt : String := ""
  matrixLoaded : Bool := false
  filesChecked : Nat := 0
  elapsed : Binary64 := .zero false
  deriving Repr

namespace Run

def findingJson (f : Finding) : Json :=
  .object [("rule", .text f.rule.code), ("detail", .text f.detail)]

def jsonMembers (r : Run) : List (String × Json) := [
  ("errors", .list (r.report.errors.map findingJson)),
  ("warnings", .list (r.report.warnings.map findingJson)),
  ("passes", .list (r.report.passes.map findingJson)),
  ("summary", .object [
    ("project_root", .text r.projectRoot),
    ("ran_at", .text r.ranAt),
    ("errors_count", .ofNat r.report.errors.length),
    ("warnings_count", .ofNat r.report.warnings.length),
    ("passes_count", .ofNat r.report.passes.length),
    ("files_checked", .ofNat r.filesChecked),
    ("elapsed_ms", .float r.elapsed)])]

def toJson (r : Run) : Json := .object r.jsonMembers

def jsonText (r : Run) : String := r.toJson.indented

def findingLine (f : Finding) : String :=
  f.severity.name ++ ":" ++ f.rule.code ++ ":" ++ f.detail

def porcelain (r : Run) : String :=
  "\n".intercalate ((r.report.errors ++ r.report.warnings).map findingLine)

end Run

end Traceability.Audit
