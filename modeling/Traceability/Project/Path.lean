import Traceability.Text.Search

/-! # Paths

A path is a start and the names on the way. Empty names and single dots are left out when a path is
read, and two dots are kept, because they only have a meaning where the way is walked.
-/
namespace Traceability

open Text

abbrev Location := List String

/-- Where a path starts; two slashes at the front are a start of their own. -/
inductive Start
  | here
  | top
  | top2
  deriving DecidableEq, Repr

structure Path where
  start : Start := .here
  names : List String := []
  deriving DecidableEq, Repr

def parentName : String := ".."

def isIdleName (name : String) : Bool := name == "" || name == "."

def slashNames (s : String) : List String := (splitAt '/' s.toList).map String.ofList

def Start.ofChars : List Char → Start
  | '/' :: '/' :: '/' :: _ => .top
  | '/' :: '/' :: _ => .top2
  | '/' :: _ => .top
  | _ => .here

def Start.toText : Start → String
  | here => ""
  | top => "/"
  | top2 => "//"

namespace Path

def ofText (s : String) : Path :=
  ⟨Start.ofChars s.toList, (slashNames s).filter fun name => !isIdleName name⟩

/-- The spelling of a path; a path that goes nowhere is a dot. -/
def toText (p : Path) : String :=
  let body := p.start.toText ++ "/".intercalate p.names
  if body = "" then "." else body

/-- The second path taken from the end of the first one, unless it has a start of its own. -/
def append (p q : Path) : Path :=
  match q.start with
  | .here => ⟨p.start, p.names ++ q.names⟩
  | _ => q

instance : HAppend Path Path Path := ⟨append⟩

def ofLocation (place : Location) : Path := ⟨.top, place⟩

end Path

def Location.follow (here : Location) (name : String) : Location :=
  if isIdleName name then here
  else if name = parentName then here.dropLast
  else here ++ [name]

def Start.placeFrom (folder : Location) : Start → Location
  | here => folder
  | _ => []

/-- The location that a path names when it is taken from a folder; nothing needs to exist. -/
def Location.resolve (folder : Location) (p : Path) : Location :=
  p.names.foldl Location.follow (p.start.placeFrom folder)

end Traceability
