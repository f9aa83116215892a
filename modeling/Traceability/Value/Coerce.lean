import Traceability.Value.Literal

/-! # Reading fields tolerantly

A field of the wrong kind reads as absent. Only a text of digits that is no integer is an error,
and an integer with too many digits where a text is asked for.
-/
namespace Traceability

open Text Number

namespace Value

/-- The value as a text: null is none, days and moments give their day. -/
def toText? : Value → Except IntegerError (Option String)
  | .scalar .null => .ok none
  | .scalar (.moment m _) => .ok (some m.date.toText)
  | .scalar (.date d _) => .ok (some d.toText)
  | v => v.written?.map some

def toTextOrEmpty (v : Value) : Except IntegerError String := v.toText?.map fun s => s.getD ""

/-- The value as an integer: integers, and texts that hold digits only once trimmed. -/
def toInt? : Value → Except IntegerError (Option Int)
  | .scalar (.int n) => .ok (some n)
  | .scalar (.text s) =>
    let digits := stripped s
    if digits != "" && digits.toList.all isDigit then (readInteger 10 digits).map some
    else .ok none
  | _ => .ok none

def toBool? : Value → Option Bool
  | .scalar (.bool b) => some b
  | _ => none

def isTrue : Value → Bool
  | .scalar (.bool b) => b
  | _ => false

/-- The items of a list as texts, nulls left out. -/
def toTexts (v : Value) : Except IntegerError (List String) :=
  (v.items.filter fun item => !item.isNull).mapM written?

end Value

def filled : Option String → Bool
  | none => false
  | some s => s != ""

end Traceability
