import Traceability.Audit.Rendering
import Traceability.Command.Basic
import Traceability.Command.Output
import Traceability.Document.Answer
import Traceability.Document.Save
import Traceability.Json.Printer
import Traceability.Marker.Build
import Traceability.Project.Source
import Traceability.Survey

/-! # Running commands

A command ends with a status, with what it printed, and with the tree it leaves behind. The status
is 0 for success, 1 for a negative answer and 2 for a project or a command line that cannot be used.
-/
namespace Traceability

open Number Text Command

structure CommandEnd where
  status : Nat := 0
  output : String := ""
  errors : String := ""
  fault : Option Fault := none
  deriving DecidableEq, Repr

namespace CommandEnd

def complaint (status : Nat) (message : String) : CommandEnd :=
  { status := status, errors := "Error: " ++ message ++ "\n" }

def broken (e : Fault) : CommandEnd := { status := 1, fault := some e }

/-- The end by a fault. A project without a document is an expected one. -/
def ofFault (e : Fault) : CommandEnd :=
  match e.noDocument? with
  | some e => complaint 2 e.message
  | none => broken e

/-- The end with some output; a piece that cannot be encoded is a fault. -/
def printing (terminal : Terminal) (prints : List Print) (status : Nat) : CommandEnd :=
  match deliver terminal prints with
  | (output, none) => { status := status, output := output }
  | (output, some e) => { broken (.encoding e) with output := output }

def saying (terminal : Terminal) (message : String) : CommandEnd :=
  printing terminal [.message message] 0

def answering (terminal : Terminal) (j : Json) : CommandEnd :=
  match j.written? with
  | .ok text => saying terminal (text ++ "\n")
  | .error e => broken (.integer e)

end CommandEnd

namespace Survey

def headings : List String := ["severity", "code", "entity", "message"]

def violationRow (v : Violation) : List (List Char) :=
  [v.severity.name.toList, v.code.name.toList, Display.shownDetail v.entityId,
    Display.shownDetail v.message]

def violationTable (vs : List Violation) : Display.Table where
  title := "Violations".toList
  headings := headings.map String.toList
  aligns := [.left, .left, .left, .left]
  rows := vs.map violationRow

def entityLine (width : Nat) : Survey → String
  | whole _ => ""
  | entity id vs =>
    Display.printed width (Display.shownBeforeStyleEnd id ++ ": worst severity ".toList ++
      (((Risk.worst? vs).map (·.name)).getD "none").toList)

def layout (s : Survey) (width : Nat) : List String :=
  [s.entityLine width,
    if s.violations.isEmpty then "No violations found.\n"
    else Display.printLines ((violationTable s.violations).boxed width)]

end Survey

def EndpointMatch.place (m : EndpointMatch) : Except IntegerError String :=
  let file := if filled m.file then m.file.getD "" else "?"
  match m.line with
  | none => .ok file
  | some line =>
    if line = 0 then .ok file
    else if isWritable line then .ok s!"{file}:{line}" else .error .tooLarge

def EndpointMatch.sentence (m : EndpointMatch) : Except IntegerError String :=
  m.place.map fun place =>
    s!"{m.endpoint} -> {shown m.functionName} ({shown m.useCaseId}) {place}\n"

namespace Audit.Run

def inStyle (r : Run) (view : View) : ReportStyle → List Print
  | .layout => (r.pieces view).map .layout
  | .json => [.message (r.jsonText ++ "\n")]
  | .lines => if r.porcelain = "" then [] else [.message (r.porcelain ++ "\n")]

end Audit.Run

namespace Workspace

def rootOf (w : Workspace) : Option String → Path
  | some text => .ofText text
  | none => .ofLocation w.folder

def loaded (w : Workspace) (root : Path) : Except Fault (Settings × Document) := do
  let s ← w.settings root
  let d ← w.document root s
  pure (s, d)

def save (w : Workspace) (path : Path) (d : Document) : Except Fault FileTree := do
  let text ← (d.stamped w.today).fileText.mapError .integer
  match w.tree.find w.folder path.toText with
  | .ok (place, _) => pure (w.tree.put place (.file (encodeUtf8 text)))
  | .error _ => pure w.tree

def runCheck (w : Workspace) (terminal : Terminal) (root : Path) (style : Option ReportStyle)
    (strict showPasses : Bool) : CommandEnd :=
  let result : Except Fault CommandEnd := do
    let s ← w.settings root
    let run ← w.audit root s
    let strict := strict || s.strict
    let style := style.getD (if terminal.interactive then .layout else .lines)
    pure (.printing terminal (run.inStyle ⟨terminal.width, showPasses, strict⟩ style)
      (if run.report.failed strict then 1 else 0))
  match result with
  | .ok r => r
  | .error e => .broken e

def runViolations (w : Workspace) (terminal : Terminal) (root : Path) (entity : Option String)
    (json : Bool) : CommandEnd :=
  match w.loaded root with
  | .error e => .ofFault e
  | .ok (_, d) =>
    let survey := Survey.ofDocument d entity
    if json then .answering terminal survey.toJson
    else .printing terminal ((survey.layout terminal.width).map .layout) 0

def runEndpoint (w : Workspace) (terminal : Terminal) (root : Path) (method path : String)
    (json : Bool) : CommandEnd :=
  match w.loaded root with
  | .error e => .ofFault e
  | .ok (_, d) =>
    match d.queryEndpoint method path with
    | .error e => .complaint 1 e.message
    | .ok found =>
      if json then .answering terminal (.object found.members)
      else match found.sentence with
        | .ok sentence => .saying terminal sentence
        | .error e => .broken (.integer e)

def markedText (path : Path) (element : String) (dryRun : Bool) (a : Marker.Marked) :
    List String :=
  let place := s!"{path.toText}:{a.line}: "
  if !a.changed then [place ++ "annotation already up to date\n"]
  else if dryRun then [
    place ++ s!"would annotate <{element}> (dry run)\n",
    String.ofList ((lines a.text).getD (a.line - 1) []) ++ "\n"]
  else [place ++ (if a.hadPrior then "annotation replaced\n" else "annotation created\n")]

def runInject (w : Workspace) (terminal : Terminal) (root : Path)
    (file element useCaseId function : String) (elementId : Option String) (dryRun : Bool) :
    CommandEnd × FileTree :=
  match w.loaded root with
  | .error e => (.ofFault e, w.tree)
  | .ok (s, d) =>
    match d.marker (some useCaseId) (some function) (.ofText? elementId) w.today with
    | .error e => (.complaint 1 e.message, w.tree)
    | .ok marker =>
      let path := Path.ofText file
      match w.markFile path element marker s.markerKey dryRun with
      | (.error e, tree) => (.broken e, tree)
      | (.ok (.refused r), tree) => (.complaint 1 (r.message path.toText), tree)
      | (.ok (.marked a), tree) =>
        (.printing terminal ((markedText path element dryRun a).map .message) 0, tree)

def runAddUseCase (w : Workspace) (terminal : Terminal) (root : Path) (title value : String)
    (actor : Option String) (status : String) : CommandEnd × FileTree :=
  match w.loaded root with
  | .error e => (.ofFault e, w.tree)
  | .ok (s, d) =>
    match d.register {
        title := some title, value := some value, actor := actor, status := some status } with
    | .error e => (.broken (.registry e), w.tree)
    | .ok (d, u) =>
      match w.save (matrixPath root s) d with
      | .error e => (.broken e, w.tree)
      | .ok tree => (.saying terminal s!"Registered {shown u.id}: {title}\n", tree)

/-- Make sure that the project can be served; the serving itself is up to the caller. -/
def runServe (w : Workspace) (root : Path) : CommandEnd :=
  match w.loaded root with
  | .error e => .ofFault e
  | .ok _ => {}

def runTask (w : Workspace) (terminal : Terminal) (root : Path) : Task → CommandEnd × FileTree
  | .check style strict showPasses => (w.runCheck terminal root style strict showPasses, w.tree)
  | .violations entity json => (w.runViolations terminal root entity json, w.tree)
  | .inject file element useCaseId function elementId dryRun =>
    w.runInject terminal root file element useCaseId function elementId dryRun
  | .endpoint method path json => (w.runEndpoint terminal root method path json, w.tree)
  | .addUseCase title value actor status => w.runAddUseCase terminal root title value actor status
  | .serve => (w.runServe root, w.tree)

def runCommand (w : Workspace) (terminal : Terminal) (c : Command) : CommandEnd × FileTree :=
  w.runTask terminal (w.rootOf c.project) c.task

end Workspace

def versionLine : String := "tracematrix, version 0.3.0\n"

def Command.Refusal.toEnd : Command.Refusal → CommandEnd
  | misuse usage command m => {
      status := 2
      errors :=
        (if m.showsUsage then s!"Usage: {usage}\nTry \x27{command} --help\x27 for help.\n\n" else "") ++
          s!"Error: {m.message}\n" }
  | fault e => .broken e
  | helpWanted usage => { output := s!"Usage: {usage}\n" }
  | nothingWanted usage => { status := 2, errors := s!"Usage: {usage}\n" }
  | versionWanted => { output := versionLine }

def Workspace.runLine (w : Workspace) (terminal : Terminal) (line : List String) :
    CommandEnd × FileTree :=
  let (result, tree) := match Command.ofLine w line with
    | .error refusal => (refusal.toEnd, w.tree)
    | .ok c => w.runCommand terminal c
  ({ result with errors := errorText terminal result.errors }, tree)

end Traceability
