import Traceability.Audit.Evaluate
import Traceability.Audit.Run
import Traceability.Document.Load
import Traceability.Document.Registry
import Traceability.Json.Basic
import Traceability.Project.FileTree
import Traceability.Project.Settings

/-! # Workspaces

A workspace is a file tree with a working folder and a clock. A project is named by the path to its
root; its settings, its matrix and the files that the matrix refers to are found from there.
-/
namespace Traceability

open Number Text

structure Workspace where
  tree : FileTree
  folder : Location
  now : Moment
  deriving Repr

inductive Fault
  | access (e : AccessError) (path : String)
  | settings (e : Yaml.LoadError)
  | document (e : DocumentError)
  | registry (e : RegistryError)
  | marker (e : UnserializableError)
  | integer (e : IntegerError)
  | encoding (e : EncodingError)
  deriving DecidableEq, Repr

def Fault.message : Fault → String
  | access e path => e.message path
  | settings e => e.message
  | document e => e.message
  | registry e => e.message
  | marker e => e.message
  | integer e => e.message
  | encoding e => e.message

/-- The fault says that there is no document to work with, and not that something in it is
wrong. -/
def Fault.noDocument? : Fault → Option DocumentError
  | document e => if e.isAboutFile then some e else none
  | _ => none

/-- Why no tree can be asked for a path: its spelling cannot be encoded, or a null byte cuts it
off. -/
def spellingFault? (path : String) : Option Fault :=
  match pathEncodingError? path with
  | some e => some (.encoding e)
  | none => if path.toList.contains '\x00' then some (.access .nullByte path) else none

namespace Workspace

def today (w : Workspace) : Date := w.now.date

/-- The content of a file, if there is one; only a name that is too long is an error. -/
def content? (w : Workspace) (path : Path) : Except Fault (Option (List UInt8)) :=
  let spelled := path.toText
  match w.tree.find w.folder spelled with
  | .ok (_, .file content) => .ok (some content)
  | .error .longName => .error (.access .longName spelled)
  | _ => .ok none

def present (w : Workspace) (root : Path) (path : String) : Bool :=
  match w.tree.find w.folder (root ++ Path.ofText path).toText with
  | .ok (_, .file _) => true
  | _ => false

def settingsPath : Path := ⟨.here, [".tracematrix", "config.yml"]⟩

def settings (w : Workspace) (root : Path) : Except Fault Settings := do
  let content ← w.content? (root ++ settingsPath)
  (Settings.ofContent content).mapError .settings

def matrixPath (root : Path) (s : Settings) : Path := root ++ Path.ofText s.matrixPath

def document (w : Workspace) (root : Path) (s : Settings) : Except Fault Document := do
  let path := matrixPath root s
  let content ← w.content? path
  (Document.load path.toText content).mapError .document

def startedRun (w : Workspace) (root : Path) : Audit.Run :=
  { projectRoot := root.toText, ranAt := w.now.toText 'T' }

/-- An audit of a project without a document: the reason is its only finding. -/
def failedRun (w : Workspace) (root : Path) (e : DocumentError) : Audit.Run :=
  { w.startedRun root with report := Report.error {} .documentStructure e.message }

def documentRun (w : Workspace) (root : Path) (s : Settings) (d : Document) : Audit.Run :=
  let evaluation := Audit.evaluate (w.present root) s.rulesDir d
    (Report.passed {} .documentStructure "Matrix file exists and is parseable")
  { w.startedRun root with
    report := evaluation.report
    matrixLoaded := true
    filesChecked := evaluation.asked.length }

def audit (w : Workspace) (root : Path) (s : Settings) : Except Fault Audit.Run :=
  match w.document root s with
  | .ok d => .ok (w.documentRun root s d)
  | .error fault =>
    match fault.noDocument? with
    | some e => .ok (w.failedRun root e)
    | none => .error fault

end Workspace

end Traceability
