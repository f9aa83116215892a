import Traceability.Value.Coerce

/-! # The technology stack

The stack names one choice for each part of the technology. A part without a choice is null, and
parts that are not foreseen are kept under `extra`.
-/
namespace Traceability

open Number

structure Stack where
  runtime : Option String := none
  framework : Option String := none
  language : Option String := none
  orm : Option String := none
  database : Option String := none
  auth : Option String := none
  apiStyle : Option String := none
  styling : Option String := none
  uiComponents : Option String := none
  stateManagement : Option String := none
  email : Option String := none
  fileStorage : Option String := none
  deployment : Option String := none
  ciCd : Option String := none
  testing : Option String := none
  packageManager : Option String := none
  monorepo : Option Bool := none
  extra : Entries := []
  deriving Repr

namespace Stack

def partNames : List String :=
  ["runtime", "framework", "language", "orm", "database", "auth", "api_style", "styling",
    "ui_components", "state_management", "email", "file_storage", "deployment", "ci_cd",
    "testing", "package_manager", "monorepo"]

def ofEntries (data : Entries) : Except IntegerError Stack := do
  pure {
    runtime := ← (data.field "runtime").toText?
    framework := ← (data.field "framework").toText?
    language := ← (data.field "language").toText?
    orm := ← (data.field "orm").toText?
    database := ← (data.field "database").toText?
    auth := ← (data.field "auth").toText?
    apiStyle := ← (data.field "api_style").toText?
    styling := ← (data.field "styling").toText?
    uiComponents := ← (data.field "ui_components").toText?
    stateManagement := ← (data.field "state_management").toText?
    email := ← (data.field "email").toText?
    fileStorage := ← (data.field "file_storage").toText?
    deployment := ← (data.field "deployment").toText?
    ciCd := ← (data.field "ci_cd").toText?
    testing := ← (data.field "testing").toText?
    packageManager := ← (data.field "package_manager").toText?
    monorepo := (data.field "monorepo").toBool?
    extra := data.without partNames }

def parts (s : Stack) : List (String × Value) := [
  ("runtime", .ofText? s.runtime),
  ("framework", .ofText? s.framework),
  ("language", .ofText? s.language),
  ("orm", .ofText? s.orm),
  ("database", .ofText? s.database),
  ("auth", .ofText? s.auth),
  ("api_style", .ofText? s.apiStyle),
  ("styling", .ofText? s.styling),
  ("ui_components", .ofText? s.uiComponents),
  ("state_management", .ofText? s.stateManagement),
  ("email", .ofText? s.email),
  ("file_storage", .ofText? s.fileStorage),
  ("deployment", .ofText? s.deployment),
  ("ci_cd", .ofText? s.ciCd),
  ("testing", .ofText? s.testing),
  ("package_manager", .ofText? s.packageManager),
  ("monorepo", .ofBool? s.monorepo)]

/-- The choice for a part, foreseen or not; null when there is none. -/
def choice (s : Stack) (part : String) : Value :=
  match s.parts.lookup part with
  | some v => v
  | none => s.extra.field part

def choices (s : Stack) : List Value := s.parts.map (·.2) ++ s.extra.map (·.2)

def toEntries (s : Stack) : Entries := Entries.named s.parts ++ s.extra

end Stack

end Traceability
