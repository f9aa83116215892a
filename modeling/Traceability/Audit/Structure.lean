import Traceability.Audit.Format
import Traceability.Audit.Reporting
import Traceability.Document.Basic

/-! # Checks of the document as a whole -/
namespace Traceability.Audit

open Text

def requiredFields (d : Document) : List (String × Option String) := [
  ("version", d.version),
  ("project", d.project),
  ("description", d.description),
  ("author", d.author),
  ("created", d.created),
  ("last_updated", d.lastUpdated)]

def reportRequired (name : String) (value : Option String) : Reporting Unit :=
  if filled value then
    passed .documentStructure s!"Top-level field present: {name} = \"{shown value}\""
  else error .documentStructure s!"Matrix top-level field missing: {name}"

def reportUseCaseList : Option (List UseCase) → Reporting Unit
  | none => error .documentStructure "Matrix use_cases field is missing or not a list"
  | some useCases =>
    passed .documentStructure s!"use_cases list present ({useCases.length} entries)"

/-- The required fields, the format of the last date and the list of use cases. -/
def reportTopLevel (d : Document) : Reporting Unit := do
  (requiredFields d).forM fun field => reportRequired field.1 field.2
  errorIf (filled d.lastUpdated && !Format.isDate (shown d.lastUpdated)) .documentStructure
    s!"last_updated is not YYYY-MM-DD format: \"{shown d.lastUpdated}\""
  reportUseCaseList d.useCases

def requiredParts : List String :=
  ["runtime", "framework", "language", "database", "auth", "api_style", "deployment", "ci_cd",
    "testing", "package_manager"]

def reportPart (s : Stack) (part : String) : Reporting Unit :=
  match s.choice part with
  | .null => warn .stackRules s!"Stack field \"{part}\" is null. Required for initialized projects."
  | v => passed .stackRules s!"Stack field declared: {part} = \"{v.shown}\""

/-- The stack is declared; a stack without any choice is reported once. -/
def reportStack (d : Document) : Reporting Unit :=
  match d.stack with
  | none => warn .documentStructure "Stack declaration is missing. Add a stack section."
  | some s =>
    if s.choices.all (·.isNull) then
      warn .documentStructure
        "Stack declaration is all-null. Initialize stack values during project setup."
    else requiredParts.forM (reportPart s)

end Traceability.Audit
