import Traceability.Audit.Report

/-! # Reporting

The checks of an audit write to one report, which may hold findings already. Two of them ask which
files exist; the paths they ask for are recorded in order.
-/
namespace Traceability.Audit

/-- What an audit has written, and the paths it has asked for. -/
structure Evaluation where
  report : Report := {}
  asked : List String := []
  deriving DecidableEq, Repr

def Evaluation.findings (e : Evaluation) : List Finding := e.report.toList

/-- A check at work on the report that all checks share. -/
abbrev Reporting := StateM Evaluation

def error (rule : Rule) (detail : String) : Reporting Unit :=
  modify fun e => { e with report := e.report.error rule detail }

def warn (rule : Rule) (detail : String) : Reporting Unit :=
  modify fun e => { e with report := e.report.warn rule detail }

def passed (rule : Rule) (detail : String) : Reporting Unit :=
  modify fun e => { e with report := e.report.passed rule detail }

def errorIf (condition : Bool) (rule : Rule) (detail : String) : Reporting Unit :=
  if condition then error rule detail else pure ()

def warnIf (condition : Bool) (rule : Rule) (detail : String) : Reporting Unit :=
  if condition then warn rule detail else pure ()

def passedIf (condition : Bool) (rule : Rule) (detail : String) : Reporting Unit :=
  if condition then passed rule detail else pure ()

def ask (present : String → Bool) (path : String) : Reporting Bool :=
  modifyGet fun e => (present path, { e with asked := e.asked ++ [path] })

end Traceability.Audit
