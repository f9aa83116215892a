import Traceability.Document.Answer
import Traceability.Json.Printer
import Traceability.Marker.Build
import Traceability.Project.Source
import Traceability.Survey
import Traceability.Tool.Basic

/-! # Running tools

A tool answers with a JSON object. Marking is confined to the project: the way to the file is
followed by name alone, and it must stay below the root.
-/
namespace Traceability

inductive ToolError
  | fault (e : Fault)
  | unknown (name : String)
  | missing (argument : String)
  | outside (path : String)
  | unlisted (e : UnlistedFunction)
  | unserved (method path : String)
  | notPath (kind : String)
  | notName (kind : String)
  | notMethod (kind : String)
  deriving DecidableEq, Repr

def ToolError.message : ToolError → String
  | fault e => e.message
  | unknown name => "Unknown tool: " ++ name
  | missing argument => Text.literal argument
  | outside path => "Path escapes the project root: " ++ path
  | unlisted e => e.message
  | unserved method path => (Document.UnservedEndpoint.mk method path).message
  | notPath kind => s!"unsupported operand type(s) for /: \x27PosixPath\x27 and \x27{kind}\x27"
  | notName kind => s!"expected string or bytes-like object, got \x27{kind}\x27"
  | notMethod kind => s!"\x27{kind}\x27 object has no attribute \x27upper\x27"

abbrev Members := List (String × Json)

namespace Tool

/-- A given argument; null counts as given. -/
def need (given : Members) (name : String) : Except ToolError Json :=
  match given.lookup name with
  | some value => .ok value
  | none => .error (.missing name)

def shownArgument (value : Json) : String := value.toValue.shown

def surveyAnswer (d : Document) (entity : Json) : Json :=
  match entity with
  | .null => (Survey.ofDocument d none).toJson
  | .text id => (Survey.ofDocument d (some id)).toJson
  | other => .object [("entity_id", other), ("worst_severity", .null), ("violations", .list [])]

def endpointAnswer (d : Document) (method path : Json) : Except ToolError Json :=
  match d.findEndpoint (shownArgument method) (shownArgument path) with
  | some found => .ok (.object found.members)
  | none =>
    match method with
    | .text m => .error (.unserved m (shownArgument path))
    | other => .error (.notMethod other.toValue.kind)

/-- The location to which names lead from a folder, followed by name alone. Every place on the way
that a name adds is looked at, so it must be one that a tree can be asked for. -/
def placeFrom (here : Location) : List String → Except Fault Location
  | [] => .ok here
  | name :: names =>
    let there := here.follow name
    if isIdleName name || name == parentName then placeFrom there names
    else
      match spellingFault? (Path.ofLocation there).toText with
      | some e => .error e
      | none => placeFrom there names

def placeBelow (root : Location) (path : String) : Except ToolError Location :=
  let p := Path.ofText path
  match placeFrom (p.start.placeFrom root) p.names with
  | .error e => .error (.fault e)
  | .ok place => if root.isPrefixOf place then .ok place else .error (.outside path)

structure Marking where
  filePath : Json
  element : Json
  useCaseId : Json
  function : Json
  visualElementId : Json
  dryRun : Json

def Marking.ofMembers (given : Members) : Except ToolError Marking := do
  let filePath ← need given "file_path"
  let element ← need given "element_name"
  let useCaseId ← need given "use_case_id"
  let function ← need given "function_name"
  pure ⟨filePath, element, useCaseId, function,
    (given.lookup "visual_element_id").getD .null, (given.lookup "dry_run").getD (.bool false)⟩

def elementName? : Json → Option String
  | .text s => some s
  | _ => none

/-- The marker for the function that is asked for. What is neither a text nor null names nothing. -/
def requestedMarker (w : Workspace) (d : Document) (m : Marking) : Except UnlistedFunction Marker :=
  match m.useCaseId.asName?, m.function.asName? with
  | none, _ => .error (.useCase (shownArgument m.useCaseId))
  | some id, some function => d.marker id function m.visualElementId.toValue w.today
  | some id, none =>
    match d.findUseCase id with
    | none => .error (.useCase (Text.shown id))
    | some _ => .error (.function m.function.toValue.literal (Text.shown id))

def markingTarget (w : Workspace) (root : Path) (d : Document) (m : Marking) :
    Except ToolError (Path × Marker) := do
  let path ← match m.filePath with
    | .text path => .ok path
    | other => .error (.notPath other.toValue.kind)
  let place ← placeBelow (w.folder.resolve root) path
  let marker ← (requestedMarker w d m).mapError .unlisted
  pure (Path.ofLocation place, marker)

def markingAnswer (m : Marking) (target : Path) (marker : Marker) (outcome : Marker.Outcome) :
    Except ToolError Json :=
  match elementName? m.element, outcome with
  | none, .refused (.invalidName _) => .error (.notName m.element.toValue.kind)
  | _, _ =>
    let payload := match outcome with
      | .marked _ => (marker.toValue.toJson?.toOption.map fun j => ("payload", j)).toList
      | .refused _ => []
    .ok (.object (outcome.members target.toText ++
      [("file_path", m.filePath), ("dry_run", m.dryRun)] ++ payload))

def mark (w : Workspace) (root : Path) (s : Settings) (d : Document) (m : Marking) :
    Except ToolError Json × FileTree :=
  match markingTarget w root d m with
  | .error e => (.error e, w.tree)
  | .ok (target, marker) =>
    let (outcome, tree) := w.markFile target ((elementName? m.element).getD "") marker s.markerKey
      m.dryRun.toValue.isTruthy
    ((outcome.mapError .fault).bind (markingAnswer m target marker), tree)

end Tool

namespace Workspace

def auditAnswer (w : Workspace) (root : Path) (s : Settings) : Except Fault Json :=
  (w.audit root s).map fun run =>
    .object (run.jsonMembers ++ [("passed", .bool !(run.report.failed s.strict))])

def markingInput (w : Workspace) (root : Path) (s : Settings) (given : Members) :
    Except ToolError (Document × Tool.Marking) := do
  let d ← (w.document root s).mapError .fault
  pure (d, ← Tool.Marking.ofMembers given)

def riskAnswer (w : Workspace) (root : Path) (s : Settings) (given : Members) :
    Except ToolError Json := do
  let d ← (w.document root s).mapError .fault
  pure (Tool.surveyAnswer d ((given.lookup "entity_id").getD .null))

def servingAnswer (w : Workspace) (root : Path) (s : Settings) (given : Members) :
    Except ToolError Json := do
  let d ← (w.document root s).mapError .fault
  let method ← Tool.need given "method"
  let path ← Tool.need given "path"
  Tool.endpointAnswer d method path

def callTool (w : Workspace) (root : Path) (name : String) (given : Members) :
    Except ToolError Json × FileTree :=
  match w.settings root with
  | .error e => (.error (.fault e), w.tree)
  | .ok s =>
    match Tool.ofName? name with
    | none => (.error (.unknown name), w.tree)
    | some .checkCompliance => ((w.auditAnswer root s).mapError .fault, w.tree)
    | some .detectViolations => (w.riskAnswer root s given, w.tree)
    | some .injectMeta =>
      match w.markingInput root s given with
      | .error e => (.error e, w.tree)
      | .ok (d, m) => Tool.mark w root s d m
    | some .queryEndpoint => (w.servingAnswer root s given, w.tree)

end Workspace

end Traceability
