import Traceability.Command.Form
import Traceability.Project.Workspace

/-! # Commands

A command line is read in a workspace, because some values must name files or folders that are
there. Given options are checked in the order in which they came, then the operands, and at last
the options that are missing.
-/
namespace Traceability

/-- How an audit is shown: laid out for readers, as JSON, or one finding on a line. -/
inductive ReportStyle
  | layout
  | json
  | lines
  deriving DecidableEq, Repr

def ReportStyle.names : List (String × ReportStyle) :=
  [("rich", .layout), ("json", .json), ("porcelain", .lines)]

def ReportStyle.ofName? (s : String) : Option ReportStyle := names.lookup s

inductive Task
  | check (style : Option ReportStyle) (strict showPasses : Bool)
  | violations (entity : Option String) (json : Bool)
  | inject (file element useCaseId function : String) (elementId : Option String) (dryRun : Bool)
  | endpoint (method path : String) (json : Bool)
  | addUseCase (title value : String) (actor : Option String) (status : String)
  | serve
  deriving DecidableEq, Repr

/-- A task and the project it is for; without one it is for the working folder. -/
structure Command where
  project : Option String
  task : Task
  deriving DecidableEq, Repr

namespace Command

def projectOption : OptionForm := { name := "--project", kind := some .folder }

def jsonFlag : OptionForm := { name := "--json" }

def statusOption : OptionForm :=
  { name := "--status", kind := some (.choice ["planned", "in_progress", "implemented"]) }

def forms : List Form := [
  { name := "check"
    options := [
      { name := "--format", kind := some (.choice (ReportStyle.names.map (·.1))) },
      { name := "--strict" }, { name := "--show-passes" }, projectOption] },
  { name := "violations"
    options := [{ name := "--entity", kind := some .text }, jsonFlag, projectOption] },
  { name := "inject"
    operands := [{ name := "FILE", kind := .file }, { name := "ELEMENT" }]
    options := [
      { name := "--use-case", kind := some .text, required := true },
      { name := "--function", kind := some .text, required := true },
      { name := "--element-id", kind := some .text }, { name := "--dry-run" }, projectOption] },
  { name := "endpoint"
    operands := [{ name := "METHOD" }, { name := "PATH" }]
    options := [jsonFlag, projectOption] },
  { name := "add-use-case"
    options := [
      { name := "--title", kind := some .text, required := true },
      { name := "--value", kind := some .text, required := true },
      { name := "--actor", kind := some .text }, statusOption, projectOption] },
  { name := "mcp-serve", options := [projectOption] }]

def taskOf (name : String) (p : Parts) : Task :=
  let operand (i : Nat) : String := p.operands.getD i ""
  let option (name : String) : String := (p.value? name).getD ""
  match name with
  | "check" => .check ((p.value? "--format").bind ReportStyle.ofName?) (p.has "--strict")
      (p.has "--show-passes")
  | "violations" => .violations (p.value? "--entity") (p.has "--json")
  | "inject" => .inject (operand 0) (operand 1) (option "--use-case") (option "--function")
      (p.value? "--element-id") (p.has "--dry-run")
  | "endpoint" => .endpoint (operand 0) (operand 1) (p.has "--json")
  | "add-use-case" => .addUseCase (option "--title") (option "--value") (p.value? "--actor")
      ((p.value? "--status").getD "planned")
  | _ => .serve

inductive Refusal
  | misuse (usage command : String) (m : Misuse)
  | fault (e : Fault)
  | helpWanted (usage : String)
  | nothingWanted (usage : String)
  | versionWanted
  deriving DecidableEq, Repr

def valueMisuse? (w : Workspace) (hint value : String) : ValueKind → Except Fault (Option Misuse)
  | .text => .ok none
  | .choice words => .ok (if words.contains value then none else some (.noChoice hint value words))
  | .folder =>
    match spellingFault? value, w.tree.find w.folder value with
    | some e, _ => .error e
    | none, .ok (_, .folder) => .ok none
    | none, .ok (_, .file _) => .ok (some (.isFile hint value))
    | none, .error _ => .ok (some (.noSuch hint "Directory" value))
  | .file =>
    match spellingFault? value, w.tree.find w.folder value with
    | some e, _ => .error e
    | none, .ok (_, .file _) => .ok none
    | none, .ok (_, .folder) => .ok (some (.isFolder hint value))
    | none, .error _ => .ok (some (.noSuch hint "File" value))

def optionMisuse? (w : Workspace) (f : Form) (p : Parts) (name : String) :
    Except Fault (Option Misuse) :=
  match (f.option? name).bind (·.kind) with
  | some kind => valueMisuse? w name ((p.value? name).getD "") kind
  | none => .ok none

def operandMisuse? (w : Workspace) (o : OperandForm) (value : Option String) :
    Except Fault (Option Misuse) :=
  match value with
  | some value => valueMisuse? w o.name value o.kind
  | none => .ok (some (.operandMissing o.name))

def absenceMisuse? (p : Parts) (o : OptionForm) : Option Misuse :=
  if o.required && !p.has o.name then some (.optionMissing o.name) else none

def surplusMisuse? (f : Form) (p : Parts) : Option Misuse :=
  let surplus := p.operands.drop f.operands.length
  if surplus.isEmpty then none else some (.surplus surplus)

def firstMisuse? : List (Except Fault (Option Misuse)) → Except Fault (Option Misuse)
  | [] => .ok none
  | .ok none :: rest => firstMisuse? rest
  | found :: _ => found

def misuse? (w : Workspace) (f : Form) (p : Parts) : Except Fault (Option Misuse) :=
  firstMisuse? (
    p.optionNames.map (optionMisuse? w f p) ++
    f.operands.zipIdx.map (fun (o, i) => operandMisuse? w o p.operands[i]?) ++
    f.options.map (fun o => .ok (absenceMisuse? p o)) ++
    [.ok (surplusMisuse? f p)])

def ofArguments (w : Workspace) (f : Form) (arguments : List String) : Except Refusal Command :=
  match f.split false arguments with
  | .error m => .error (.misuse f.usage ("main " ++ f.name) m)
  | .ok p =>
    if p.has Form.help.name then .error (.helpWanted f.usage)
    else
      match misuse? w f p with
      | .error e => .error (.fault e)
      | .ok (some m) => .error (.misuse f.usage ("main " ++ f.name) m)
      | .ok none => .ok ⟨p.value? projectOption.name, taskOf f.name p⟩

def outerForm : Form where
  name := ""
  options := [{ name := "--version" }, { name := "--verbose", letter := some 'v' },
    { name := "--quiet", letter := some 'q' }]

def outerUsage : String := "main [OPTIONS] COMMAND [ARGS]..."

def outerMisuse (m : Misuse) : Refusal := .misuse outerUsage "main" m

/-- The options that end the reading of a command line. -/
def outerEnd? (p : Parts) : Option Refusal :=
  p.optionNames.findSome? fun name =>
    if name = "--version" then some .versionWanted
    else if name = Form.help.name then some (.helpWanted outerUsage)
    else none

def outerOperands (arguments : List String) : Except Refusal (List String) :=
  match outerForm.split true arguments with
  | .error m => .error (outerMisuse m)
  | .ok p =>
    match outerEnd? p with
    | some refusal => .error refusal
    | none => .ok p.operands

/-- Reads a command line. What stands in the place of a command and looks like an option is read as
one before the command is missed. -/
def ofLine (w : Workspace) (line : List String) : Except Refusal Command :=
  if line.isEmpty then .error (.nothingWanted outerUsage)
  else
    match outerOperands line with
    | .error refusal => .error refusal
    | .ok [] => .error (outerMisuse .commandMissing)
    | .ok (name :: rest) =>
      match forms.find? fun f => f.name == name with
      | some f => ofArguments w f rest
      | none =>
        match outerOperands (name :: rest) with
        | .error refusal => .error refusal
        | .ok _ =>
          .error (outerMisuse (.unknownCommand name (Text.similarWords name (forms.map (·.name)))))

end Command

end Traceability
