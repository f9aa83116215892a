import Traceability.Marker.Basic
import Traceability.Marker.Line

/-! # Marking an element in a source text

The text is cut into lines, one line gets the marker and the lines are joined again. A marker
that is already there is replaced.
-/
namespace Traceability.Marker

open Text

inductive Refusal
  | invalidName (element : String)
  | notFound (element : String)
  | unchanged (tag : String) (line : Nat) (hadPrior : Bool)
  | unreadable (reason : String)
  deriving DecidableEq, Repr

def Refusal.message (source : String) : Refusal → String
  | invalidName element =>
    s!"Invalid element name \"{element}\": expected an identifier such as " ++
      "\"Button\" or \"Form.Item\"."
  | notFound element =>
    s!"Could not locate \"<{element}\" or a function/const named \"{element}\" in {source}. " ++
      "Check that the element name matches exactly (case-sensitive)."
  | unchanged tag line _ =>
    s!"Tag \"<{tag}>\" was found at line {line} of {source} but " ++
      "injection produced no change. Check that the tag name is correct."
  | unreadable reason => "Cannot read file: " ++ reason

/-- A text with a marked element; lines are counted from one. -/
structure Marked where
  text : String
  line : Nat
  hadPrior : Bool
  changed : Bool
  deriving DecidableEq, Repr

inductive Outcome
  | refused (r : Refusal)
  | marked (a : Marked)
  deriving DecidableEq, Repr

def Outcome.members (source : String) : Outcome → List (String × Json)
  | marked a => [
      ("success", .bool true),
      ("line_number", .ofNat a.line),
      ("had_prior_annotation", .bool a.hadPrior),
      ("changed", .bool a.changed)]
  | refused r => [("success", .bool false), ("reason", .text (r.message source))]

def beginsElementName (c : Char) : Bool := isAsciiLetter c || c == '_' || c == '$'

def isElementNameChar (c : Char) : Bool := isWord c || c == '$' || c == '.'

def isElementName : List Char → Bool
  | [] => false
  | c :: cs => beginsElementName c && cs.all isElementNameChar

/-- The tag of a line that is marked: its first one, or the element itself. -/
def tagOf (element line : List Char) : List Char := (tagName? line).getD element

def markLine (lines : List (List Char)) (index : Nat) (element attr value : List Char) :
    Outcome :=
  let line := lines.getD index []
  let tag := tagOf element line
  let cleaned := strip attr line
  match insertInTag? tag (attributeText attr value) cleaned with
  | none => .refused (.unchanged (String.ofList tag) (index + 1) (mentions attr line))
  | some marked => .marked {
      text := unlines (lines.set index marked)
      line := index + 1
      hadPrior := mentions attr line
      changed := marked != line }

def inject (text element : String) (a : Marker) (key : String) :
    Except UnserializableError Outcome :=
  let name := element.toList
  if !isElementName name then .ok (.refused (.invalidName element))
  else
    match findTarget (lines text) name with
    | none => .ok (.refused (.notFound element))
    | some index => a.written.map fun value =>
        markLine (lines text) index name key.toList value

end Traceability.Marker
