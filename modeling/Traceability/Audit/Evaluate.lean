import Traceability.Audit.Completeness
import Traceability.Audit.Duplicates

/-! # The audit

An audit runs every check, and none of them stops another one. Two checks ask which files exist.
-/
namespace Traceability.Audit

open Text

def reportPresence (present : String → Bool) (path : String) (rule : Rule) (there missing : String) :
    Reporting Unit := do
  if ← ask present path then passed rule there else error rule missing

/-- The files of some function records, each asked for once. -/
def reportFilesFrom (present : String → Bool) (checked : List String) :
    List (UseCase × FunctionRecord) → Reporting Unit
  | [] => pure ()
  | (u, f) :: rest =>
    match f.file.bind nonEmpty? with
    | none => reportFilesFrom present checked rest
    | some file =>
      if checked.contains file then reportFilesFrom present checked rest
      else do
        reportPresence present file .completeness s!"File reference verified: {file}"
          s!"UC {shown u.id}: function \"{shown f.name}\" references non-existent file: {file}"
        reportFilesFrom present (checked ++ [file]) rest

def reportFiles (present : String → Bool) (d : Document) : Reporting Unit :=
  reportFilesFrom present [] d.activeFunctions

def ruleFiles : List String :=
  ["CORE_RULES.md", "NO_DUPLICATE.md", "USE_CASE_FIRST.md", "META_INJECTION.md",
    "STACK_RULES.md", "NO_FAKE.md"]

def reportRuleFiles (present : String → Bool) (rulesDir : String) : Reporting Unit :=
  ruleFiles.forM fun name =>
    let path := rulesDir ++ "/" ++ name
    reportPresence present path .ruleDocuments s!"Rule file present: {path}"
      s!"Required rule file missing: {path}"

def reportAll (present : String → Bool) (rulesDir : String) (d : Document) : Reporting Unit := do
  reportTopLevel d
  reportStack d
  reportIdentity d
  reportFunctionNames d
  reportEndpoints d
  reportImplemented d
  reportDeprecated d
  reportElements d
  reportNoFake d
  reportDecisions d
  reportFiles present d
  reportRuleFiles present rulesDir

/-- Every check, given which files are present, on top of what a report holds already. -/
@[irreducible] def evaluate (present : String → Bool) (rulesDir : String) (d : Document)
    (report : Report := {}) : Evaluation :=
  ((reportAll present rulesDir d).run { report }).2

end Traceability.Audit
