import Std.Time
import Traceability.Command.Run

/-! # The program

The folders that a command line can name are listed, and the few files that a command can read are
read. The command then runs on this picture of the disk, and what it changed is written back.
-/
namespace Traceability.Program

open Std.Time

def locationOf (path : String) : Location := (Path.ofText path).names

/-- The folder at a path and everything below it; the contents of files are not read yet. -/
partial def listing (path : String) : IO (List (Location × Entry)) := do
  let folder ← IO.FS.realPath path
  let mut found : List (Location × Entry) := [(locationOf folder.toString, .folder)]
  for below in ← folder.readDir do
    let below := below.path
    if (← below.symlinkMetadata).type == .dir then
      found := (← listing below.toString) ++ found
    else if !(← below.isDir) then
      found := (locationOf below.toString, .file []) :: found
  return found

/-- Read the file to which a spelled path leads, if there is one. -/
def fill (w : Workspace) (path : String) : IO Workspace := do
  match w.tree.find w.folder path with
  | .ok (place, .file _) =>
    let content ← IO.FS.readBinFile (Path.ofLocation place).toText
    return { w with tree := w.tree.put place (.file content.toList) }
  | _ => return w

def clock : IO Moment := do
  let t := (DateTime.ofTimestampWithZone (← Timestamp.now) TimeZone.UTC).toPlainDateTime
  let date : Date := ⟨t.date.year.toInt.toNat, t.date.month.val.toNat, t.date.day.val.toNat⟩
  return ⟨date, t.time.hour.val.toNat, t.time.minute.val.toNat, t.time.second.val.toNat, 0, some 0⟩

def namedFolders (line : List String) : IO (List String) :=
  line.filterM fun word => do
    try
      if word.isEmpty then return false
      (← IO.FS.realPath word).isDir
    catch _ => return false

def picture (line : List String) : IO Workspace := do
  let folder := (← IO.currentDir).toString
  let mut tree : FileTree := {}
  for path in folder :: (← namedFolders line) do
    let found ← listing path
    tree := ⟨found ++ (tree.putFolder (locationOf (← IO.FS.realPath path).toString)).entries⟩
  let mut w : Workspace := ⟨tree, locationOf folder, ← clock⟩
  for word in line do
    w ← fill w word
  for root in w.rootOf none :: line.map Path.ofText do
    w ← fill w (root ++ Workspace.settingsPath).toText
    if let .ok s := w.settings root then
      w ← fill w (Workspace.matrixPath root s).toText
  return w

/-- Write what a command changed, also where nothing is left of a file. A file that was not read
stands in both trees without a content. -/
def writeBack (before after : FileTree) : IO Unit := do
  for (place, _) in after.entries do
    if let some content := after.file? place then
      if before.file? place != some content then
        IO.FS.writeBinFile (Path.ofLocation place).toText ⟨content.toArray⟩

def terminal : IO Command.Terminal := do
  let width := ((← IO.getEnv "COLUMNS").bind String.toNat?).getD 80
  return ⟨width, ← (← IO.getStdout).isTty⟩

end Traceability.Program

open Traceability in
def main (line : List String) : IO UInt32 := do
  let w ← Program.picture line
  let (result, tree) := w.runLine (← Program.terminal) line
  Program.writeBack w.tree tree
  IO.print result.output
  IO.eprint result.errors
  if let some fault := result.fault then
    IO.eprintln fault.message
  return result.status.toUInt32
