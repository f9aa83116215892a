import Traceability.Project.Path
import Traceability.Text.Quoted
import Traceability.Text.Utf8

/-! # File trees

A tree has a file or a folder at some of its locations, and always a folder at the top. A path is
walked name by name, so every name but the last one must be a folder that is there.
-/
namespace Traceability

open Text

inductive Entry
  | folder
  | file (content : List UInt8)
  deriving DecidableEq, Repr

/-- The entries of a tree; the first one at a location counts. -/
structure FileTree where
  entries : List (Location × Entry) := []
  deriving DecidableEq, Repr

inductive AccessError
  | missing
  | notFolder
  | isFolder
  | longName
  | nullByte
  deriving DecidableEq, Repr

/-- The number of an error; a null byte is found before the tree is asked. -/
def AccessError.number? : AccessError → Option Nat
  | missing => some 2
  | notFolder => some 20
  | isFolder => some 21
  | longName => some 36
  | nullByte => none

def AccessError.summary : AccessError → String
  | missing => "No such file or directory"
  | notFolder => "Not a directory"
  | isFolder => "Is a directory"
  | longName => "File name too long"
  | nullByte => "embedded null byte"

def AccessError.message (e : AccessError) (path : String) : String :=
  match e.number? with
  | some n => s!"[Errno {n}] {e.summary}: {literal path}"
  | none => e.summary

def longestName : Nat := 255

def longestPath : Nat := 4095

/-- Half of a pair that stands for a byte of a name that is no text. -/
def isStrayByte (c : Char) : Bool := isHalf c && 0xDC80 ≤ codePoint c && codePoint c ≤ 0xDCFF

def pathEncodingError? (path : String) : Option EncodingError :=
  let cs := path.toList
  match cs.dropWhile fun c => !isHalf c || isStrayByte c with
  | [] => none
  | c :: rest =>
    some ⟨(cs.takeWhile fun c => !isHalf c || isStrayByte c).length,
      ((c :: rest).takeWhile isHalf).length, codePoint c, "surrogates not allowed"⟩

namespace FileTree

def at? (t : FileTree) (place : Location) : Option Entry :=
  if place = [] then some .folder else t.entries.lookup place

def file? (t : FileTree) (place : Location) : Option (List UInt8) :=
  match t.at? place with
  | some (.file content) => some content
  | _ => none

def put (t : FileTree) (place : Location) (e : Entry) : FileTree :=
  ⟨(place, e) :: t.entries.filter fun old => old.1 != place⟩

def erase (t : FileTree) (place : Location) : FileTree :=
  ⟨t.entries.filter fun old => old.1 != place⟩

def step (t : FileTree) (here : Location) (name : String) : Except AccessError Location :=
  match t.at? here with
  | none => .error .missing
  | some (.file _) => .error .notFolder
  | some .folder =>
    if longestName < name.utf8ByteSize then .error .longName else .ok (here.follow name)

def walk (t : FileTree) : Location → List String → Except AccessError Location
  | here, [] => .ok here
  | here, name :: names => do t.walk (← t.step here name) names

def find (t : FileTree) (folder : Location) (path : String) :
    Except AccessError (Location × Entry) :=
  if path.toList.contains '\x00' then .error .nullByte
  else if path = "" then .error .missing
  else if longestPath < path.utf8ByteSize then .error .longName
  else do
    let start := if path.toList.head? = some '/' then [] else folder
    let place ← t.walk start (slashNames path)
    match t.at? place with
    | some e => pure (place, e)
    | none => .error .missing

def read (t : FileTree) (folder : Location) (path : String) :
    Except AccessError (Location × List UInt8) := do
  match ← t.find folder path with
  | (place, .file content) => pure (place, content)
  | (_, .folder) => .error .isFolder

def locationsTo (place : Location) : List Location :=
  (List.range place.length).map fun n => place.take (n + 1)

/-- Put a folder at a location, with the folders that lead to it. What is there already stays. -/
def putFolder (t : FileTree) (place : Location) : FileTree :=
  (locationsTo place).foldl (fun t above =>
    if (t.at? above).isSome then t else t.put above .folder) t

def putFile (t : FileTree) (place : Location) (content : List UInt8) : FileTree :=
  (t.putFolder place.dropLast).put place (.file content)

theorem at?_put_same (t : FileTree) {place : Location} (h : place ≠ []) (e : Entry) :
    (t.put place e).at? place = some e := by
  simp [at?, put, h]

theorem lookup_filter_ne {place other : Location} (h : other ≠ place)
    (entries : List (Location × Entry)) :
    (entries.filter fun old => old.1 != place).lookup other = entries.lookup other := by
  induction entries with
  | nil => rfl
  | cons old rest ih =>
    obtain ⟨key, e⟩ := old
    by_cases hk : key = place
    · subst hk
      simp [List.lookup_cons, ih, beq_eq_false_iff_ne.mpr h]
    · simp [hk, List.lookup_cons, ih]

theorem at?_put_other (t : FileTree) {place other : Location} (h : other ≠ place)
    (e : Entry) : (t.put place e).at? other = t.at? other := by
  by_cases ho : other = []
  · simp [at?, ho]
  · simp [at?, put, ho, List.lookup_cons, beq_eq_false_iff_ne.mpr h, lookup_filter_ne h]

end FileTree

end Traceability
