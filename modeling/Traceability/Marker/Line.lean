import Traceability.Marker.Target
import Traceability.Text.Digit

/-! # Attributes in a line

A line loses the attributes that are already there, with the blanks before them, and gets the new
one behind the name of its first tag. The value of an attribute is a quoted text or stands in
braces, and ends at the first closing character.
-/
namespace Traceability.Marker

open Text

def closedLength? (close : Char) : List Char → Option Nat
  | [] => none
  | c :: cs => if c = close then some 1 else (closedLength? close cs).map (· + 1)

def closing? (c : Char) : Option Char :=
  if c = '\x27' then some '\x27'
  else if c = '\x22' then some '\x22'
  else if c = '\x7b' then some '\x7d'
  else none

def valueLength? : List Char → Option Nat
  | [] => none
  | c :: cs =>
    match closing? c with
    | some close => (closedLength? close cs).map (· + 1)
    | none => none

def attributeLead (attr : List Char) : List Char := attr ++ ['=']

def attributeLength? (attr cs : List Char) : Option Nat :=
  match after? (attributeLead attr) cs with
  | some rest => (valueLength? rest).map (· + (attributeLead attr).length)
  | none => none

/-- The length of the attribute at the start of a text, with as many blanks before it as
possible. -/
def paddedLength? (attr : List Char) : List Char → Option Nat
  | [] => attributeLength? attr []
  | c :: cs =>
    if isBlank c then
      match paddedLength? attr cs with
      | some n => some (n + 1)
      | none => attributeLength? attr (c :: cs)
    else attributeLength? attr (c :: cs)

/-- The text without the attributes; `skip` characters of one are still to be dropped. -/
def stripFrom (attr : List Char) (skip : Nat) : List Char → List Char
  | [] => []
  | c :: cs =>
    match skip with
    | k + 1 => stripFrom attr k cs
    | 0 =>
      match paddedLength? attr (c :: cs) with
      | some n => stripFrom attr (n - 1) cs
      | none => c :: stripFrom attr 0 cs

def strip (attr line : List Char) : List Char := stripFrom attr 0 line

def mentions (attr line : List Char) : Bool := occursIn (attributeLead attr) line

def isTagNameChar (c : Char) : Bool := isAsciiLetter c || isAsciiDigit c || c == '.'

def tagName? : List Char → Option (List Char)
  | [] => none
  | '<' :: c :: cs =>
    if isAsciiLetter c then some (c :: cs.takeWhile isTagNameChar) else tagName? (c :: cs)
  | _ :: cs => tagName? cs

/-- What follows the tag at the start of a text, if the tag's name ends there. -/
def afterTag? (tag cs : List Char) : Option (List Char) :=
  match after? ('<' :: tag) cs with
  | some [] => some []
  | some (c :: rest) => if endsName c then some (c :: rest) else none
  | none => none

/-- The line with a text inserted behind the first tag of the given name. -/
def insertInTag? (tag inserted : List Char) : List Char → Option (List Char)
  | [] => none
  | c :: cs =>
    match afterTag? tag (c :: cs) with
    | some rest => some ('<' :: (tag ++ inserted ++ rest))
    | none => (insertInTag? tag inserted cs).map (c :: ·)

/-- An attribute with a value in single quotes, a blank before it. -/
def attributeText (attr value : List Char) : List Char :=
  ' ' :: (attributeLead attr ++ '\x27' :: (value ++ ['\x27']))

end Traceability.Marker
