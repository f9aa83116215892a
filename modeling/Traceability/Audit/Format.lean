import Traceability.Text.Digit
import Traceability.Text.Search

/-! # Formats of dates and ids

Digits are decimal digits of any script, and one line end may follow the whole.
-/
namespace Traceability.Format

open Text

def digits (count : Nat) (cs : List Char) : Bool := cs.length == count && cs.all isDecimal

/-- Four digits, two digits and two digits with hyphens between them. -/
def isDate (s : String) : Bool :=
  match splitAt '-' (dropFinalNewline s.toList) with
  | [year, month, day] => digits 4 year && digits 2 month && digits 2 day
  | _ => false

/-- A lead followed by three or more digits. -/
def isNumbered (lead : List Char) (s : String) : Bool :=
  match after? lead (dropFinalNewline s.toList) with
  | some number => 3 ≤ number.length && number.all isDecimal
  | none => false

/-- An id such as `UC-001`. -/
def isUseCaseId (s : String) : Bool := isNumbered ['U', 'C', '-'] s

def isDecisionId (s : String) : Bool := isNumbered ['A', 'D', 'R', '-'] s

def isCapital (c : Char) : Bool := 65 ≤ c.toNat && c.toNat ≤ 90

def isAlphanumeric (c : Char) : Bool :=
  isCapital c || (97 ≤ c.toNat && c.toNat ≤ 122) || isAsciiDigit c

/-- A capital and one or more letters or digits. -/
def isSegment : List Char → Bool
  | c :: d :: rest => isCapital c && isAlphanumeric d && rest.all isAlphanumeric
  | _ => false

/-- An id such as `VE-Order-Create`. -/
def isVisualElementId (s : String) : Bool :=
  match splitAt '-' (dropFinalNewline s.toList) with
  | [lead, entity, action] => lead == ['V', 'E'] && isSegment entity && isSegment action
  | _ => false

end Traceability.Format
