import Traceability.Number.Integer

/-! # Audit reports

A finding is an observation under a rule. A report keeps errors, warnings and passes apart, each
in the order in which they were found.
-/
namespace Traceability

inductive Rule
  | documentStructure
  | identity
  | completeness
  | decisionFormat
  | ruleDocuments
  | deprecation
  | useCaseFirst
  | noDuplicate
  | noFake
  | metaInjection
  | stackRules
  deriving DecidableEq, Repr

namespace Rule

def all : List Rule :=
  [.documentStructure, .identity, .completeness, .decisionFormat, .ruleDocuments, .deprecation,
    .useCaseFirst, .noDuplicate, .noFake, .metaInjection, .stackRules]

def code : Rule → String
  | documentStructure => "CR-01"
  | identity => "CR-02"
  | completeness => "CR-03"
  | decisionFormat => "CR-06"
  | ruleDocuments => "CR-07"
  | deprecation => "CR-09"
  | useCaseFirst => "USE_CASE_FIRST"
  | noDuplicate => "NO_DUPLICATE"
  | noFake => "NO_FAKE"
  | metaInjection => "META_INJECTION"
  | stackRules => "STACK_RULES"

def ofCode? (code : String) : Option Rule := all.find? fun rule => rule.code == code

theorem mem_all (rule : Rule) : rule ∈ all := by cases rule <;> simp [all]

end Rule

structure UnknownRule where
  code : String
  deriving DecidableEq, Repr

def UnknownRule.message (e : UnknownRule) : String :=
  Text.literal e.code ++ " is not a valid RuleCode"

inductive Severity
  | error
  | warning
  | pass
  deriving DecidableEq, Repr

namespace Severity

def all : List Severity := [.error, .warning, .pass]

def name : Severity → String
  | error => "error"
  | warning => "warning"
  | pass => "pass"

def ofName? (name : String) : Option Severity := all.find? fun severity => severity.name == name

end Severity

structure Finding where
  rule : Rule
  severity : Severity
  detail : String
  deriving DecidableEq, Repr

namespace Audit

def failure (rule : Rule) (detail : String) : Finding := ⟨rule, .error, detail⟩

/-- A finding that fails a strict audit. -/
def warning (rule : Rule) (detail : String) : Finding := ⟨rule, .warning, detail⟩

def passing (rule : Rule) (detail : String) : Finding := ⟨rule, .pass, detail⟩

end Audit

/-- Findings by severity, each list in the order of discovery. -/
structure Report where
  errors : List Finding := []
  warnings : List Finding := []
  passes : List Finding := []
  deriving DecidableEq, Repr

structure RuleCounts where
  rule : Rule
  errors : Nat
  warnings : Nat
  passes : Nat
  deriving DecidableEq, Repr

namespace Report

def add (r : Report) (f : Finding) : Report :=
  match f.severity with
  | .error => { r with errors := r.errors ++ [f] }
  | .warning => { r with warnings := r.warnings ++ [f] }
  | .pass => { r with passes := r.passes ++ [f] }

def error (r : Report) (rule : Rule) (detail : String) : Report := r.add (Audit.failure rule detail)

def warn (r : Report) (rule : Rule) (detail : String) : Report := r.add (Audit.warning rule detail)

def passed (r : Report) (rule : Rule) (detail : String) : Report :=
  r.add (Audit.passing rule detail)

def addAll (r : Report) (fs : List Finding) : Report := fs.foldl add r

def ofFindings (fs : List Finding) : Report := addAll {} fs

/-- All findings: errors, then warnings, then passes. -/
def toList (r : Report) : List Finding := r.errors ++ r.warnings ++ r.passes

def ok (r : Report) : Bool := r.errors.isEmpty

/-- Errors, or under strict judgement warnings as well. -/
def failed (r : Report) (strict : Bool) : Bool :=
  !r.errors.isEmpty || (strict && !r.warnings.isEmpty)

def count (r : Report) (rule : Rule) (severity : Severity) : Nat :=
  r.toList.countP fun f => f.rule == rule && f.severity == severity

def countsOf (r : Report) (rule : Rule) : RuleCounts :=
  ⟨rule, r.count rule .error, r.count rule .warning, r.count rule .pass⟩

def summary (r : Report) : List RuleCounts :=
  (Rule.all.map r.countsOf).filter fun row => row.errors + row.warnings + row.passes != 0

end Report

end Traceability
