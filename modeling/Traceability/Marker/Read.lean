import Traceability.Marker.Line
import Traceability.Json.Parser

/-! # Reading a marker back -/
namespace Traceability.Marker

open Text

def quotedPart? : List Char → Option (List Char)
  | [] => none
  | c :: cs =>
    if c = '\x27' ∨ c = '\x22' then (closedLength? c cs).map fun n => cs.take (n - 1) else none

def attributeValue? (attr : List Char) : List Char → Option (List Char)
  | [] => (after? (attributeLead attr) []).bind quotedPart?
  | c :: cs =>
    match (after? (attributeLead attr) (c :: cs)).bind quotedPart? with
    | some value => some value
    | none => attributeValue? attr cs

/-- The marker that a line carries; what is no JSON object counts as none. -/
def read (line key : String) : Except Number.IntegerError (Option Value) :=
  match attributeValue? key.toList line.toList with
  | none => .ok none
  | some value =>
    match Json.parse value with
    | .ok (.object members) => .ok (some (Json.object members).toValue)
    | .ok _ => .ok none
    | .error .malformed => .ok none
    | .error (.integer e) => .error e

end Traceability.Marker
