import Traceability.Json.Basic

/-! # Tools

A tool is a named question or task with declared arguments. Every argument is a text or a truth
value, and some of them must be given.
-/
namespace Traceability

inductive Tool
  | checkCompliance
  | detectViolations
  | injectMeta
  | queryEndpoint
  deriving DecidableEq, Repr

inductive ArgumentKind
  | text
  | truth
  deriving DecidableEq, Repr

def ArgumentKind.name : ArgumentKind → String
  | text => "string"
  | truth => "boolean"

def ArgumentKind.accepts : ArgumentKind → Json → Bool
  | text, .text _ => true
  | truth, .bool _ => true
  | _, _ => false

structure Argument where
  name : String
  kind : ArgumentKind := .text
  description : Option String := none
  default : Option Json := none
  required : Bool := false
  deriving Repr

def Argument.toJson (a : Argument) : Json :=
  .object ([("type", .text a.kind.name)] ++
    (a.description.map fun text => ("description", Json.text text)).toList ++
    (a.default.map fun value => ("default", value)).toList)

namespace Tool

def all : List Tool := [.checkCompliance, .detectViolations, .injectMeta, .queryEndpoint]

def name : Tool → String
  | checkCompliance => "check_compliance"
  | detectViolations => "detect_violations"
  | injectMeta => "inject_meta"
  | queryEndpoint => "query_endpoint"

def ofName? (s : String) : Option Tool := all.find? fun t => t.name == s

def description : Tool → String
  | checkCompliance => "Run every matrix compliance rule. Returns errors, warnings and " ++
      "passing checks with a summary."
  | detectViolations => "Classify data-table and ghost endpoint/function risks. " ++
      "Pass entity_id to get one entity\x27s findings and worst severity."
  | injectMeta => "Attach a use-case metadata annotation to an element in a source file. " ++
      "The element is matched by exact, case-sensitive name."
  | queryEndpoint => "Find the function and use case serving an HTTP endpoint."

def arguments : Tool → List Argument
  | checkCompliance => []
  | detectViolations => [
      { name := "entity_id"
        description := some "Table, endpoint, or function id (e.g. tbl_orders)" }]
  | injectMeta => [
      { name := "file_path", required := true
        description := some "Source file, relative to the project root" },
      { name := "element_name", required := true },
      { name := "use_case_id", required := true, description := some "e.g. UC-001" },
      { name := "function_name", required := true },
      { name := "visual_element_id" },
      { name := "dry_run", kind := .truth, default := some (.bool false) }]
  | queryEndpoint => [
      { name := "method", required := true, description := some "HTTP method (e.g. GET)" },
      { name := "path", required := true, description := some "Route path (e.g. /users/:id)" }]

def requiredNames (t : Tool) : List String := (t.arguments.filter (·.required)).map (·.name)

def schema (t : Tool) : Json :=
  .object ([("type", .text "object"),
      ("properties", .object (t.arguments.map fun a => (a.name, a.toJson)))] ++
    (if t.requiredNames.isEmpty then [] else [("required", .ofTexts t.requiredNames)]))

end Tool

inductive ArgumentError
  | missing (name : String)
  | wrongKind (value : Json) (kind : ArgumentKind)
  deriving Repr

def ArgumentError.message : ArgumentError → String
  | missing name => Text.literal name ++ " is a required property"
  | wrongKind value kind => value.toValue.literal ++ " is not of type " ++ Text.literal kind.name

namespace Tool

def misfits (t : Tool) (given : List (String × Json)) : List (Argument × Json) :=
  t.arguments.filterMap fun a =>
    match given.lookup a.name with
    | some value => if a.kind.accepts value then none else some (a, value)
    | none => none

/-- What is wrong with given arguments: the first missing one, and otherwise the one of a wrong
kind whose name is last. -/
def argumentError? (t : Tool) (given : List (String × Json)) : Option ArgumentError :=
  match t.requiredNames.find? fun name => (given.lookup name).isNone with
  | some name => some (.missing name)
  | none =>
    ((t.misfits given).mergeSort fun x y => y.1.name < x.1.name).head?.map fun worst =>
      .wrongKind worst.2 worst.1.kind

end Tool

end Traceability
