import Traceability.Marker.Inject
import Traceability.Project.Workspace

/-! # Marking elements of source files

A file is read as it is, with all its line ends, and written only when marking changed its text. A
file is emptied before it is written, so a text that has no bytes leaves it empty.
-/
namespace Traceability.Workspace

open Text

/-- Write the outcome at a location: a changed text is written unless this is a rehearsal. -/
def writeOutcome (t : FileTree) (place : Location) (dryRun : Bool) (o : Marker.Outcome) :
    Except Fault Marker.Outcome × FileTree :=
  match o with
  | .refused _ => (.ok o, t)
  | .marked a =>
    if a.changed && !dryRun then
      match encode? a.text with
      | .ok bytes => (.ok o, t.put place (.file bytes))
      | .error e => (.error (.encoding e), t.put place (.file []))
    else (.ok o, t)

/-- Mark an element of a file: the outcome and the tree after it. A file that cannot be read is a
refusal. -/
def markFile (w : Workspace) (path : Path) (element : String) (a : Marker) (key : String)
    (dryRun : Bool) : Except Fault Marker.Outcome × FileTree :=
  let spelled := path.toText
  match spellingFault? spelled with
  | some e => (.error e, w.tree)
  | none =>
    match w.tree.read w.folder spelled with
    | .error e => (.ok (.refused (.unreadable (e.message spelled))), w.tree)
    | .ok (place, bytes) =>
      match decodeUtf8 bytes with
      | .error e => (.ok (.refused (.unreadable e.message)), w.tree)
      | .ok cs =>
        match Marker.inject (String.ofList cs) element a key with
        | .error e => (.error (.marker e), w.tree)
        | .ok outcome => writeOutcome w.tree place dryRun outcome

end Traceability.Workspace
