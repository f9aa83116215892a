import Traceability.Audit.Run
import Traceability.Display.Line
import Traceability.Display.Table

/-! # Audit results for readers

Errors and warnings are listed, passes on demand; a table counts the findings of each rule, and a
panel gives the verdict.
-/
namespace Traceability.Audit.Run

open Display

structure View where
  width : Nat
  showPasses : Bool := false
  strict : Bool := false
  deriving DecidableEq, Repr

def icon : Severity → Char
  | .error => '✗'
  | .warning => '⚠'
  | .pass => '✓'

def findingText (width : Nat) (f : Finding) : String :=
  printed width (' ' :: ' ' :: icon f.severity ::
    ((" [" ++ f.rule.code ++ "] ").toList ++ shownDetail f.detail))

def findingsSection (width : Nat) (title : String) (fs : List Finding) : List String :=
  if fs.isEmpty then []
  else printed width s!"{title} ({fs.length})".toList :: (fs.map (findingText width) ++ ["\n"])

def rowSeverity (row : RuleCounts) : Severity :=
  if row.errors != 0 then .error else if row.warnings != 0 then .warning else .pass

def summaryRow (row : RuleCounts) : List (List Char) :=
  [[icon (rowSeverity row)], row.rule.code.toList, (toString row.passes).toList,
    (toString row.warnings).toList, (toString row.errors).toList]

def summaryTable (r : Report) : Table where
  title := "Compliance Summary".toList
  headings := [[' '], "rule".toList, "pass".toList, "warn".toList, "error".toList]
  aligns := [.left, .left, .right, .right, .right]
  rows := r.summary.map summaryRow

def verdict (r : Report) (strict : Bool) : String :=
  if r.failed strict then
    s!"Validation FAILED - {r.errors.length} error(s), {r.warnings.length} warning(s)" ++
      (if strict then " (strict: warnings count as errors)" else "")
  else s!"Validation PASSED - {r.passes.length} check(s) passed, {r.warnings.length} warning(s)"

/-- The result as it is shown, piece by piece. -/
def pieces (r : Run) (view : View) : List String :=
  let report := r.report
  findingsSection view.width "Errors" report.errors ++
  findingsSection view.width "Warnings" report.warnings ++
  (if view.showPasses then findingsSection view.width "Passing checks" report.passes
   else [printed view.width
    s!"Passing checks: {report.passes.length} (use --show-passes to list)".toList, "\n"]) ++
  [printLines (summaryTable report).plain, "\n",
    printLines (panel view.width (verdict report view.strict).toList)]

def render (r : Run) (view : View) : String := String.join (r.pieces view)

end Traceability.Audit.Run
