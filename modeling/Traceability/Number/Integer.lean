import Traceability.Text.Blank
import Traceability.Text.Digit
import Traceability.Text.Quoted

/-! # Integers in text

An integer is written with an optional sign and the digits of its base; single underscores may
stand between digits and blanks around the whole. In base ten the digits may come from any decimal
script, and no more than 4300 of them are read or written.
-/
namespace Traceability.Number

open Text

inductive IntegerError
  | malformed (base : Nat) (text : String)
  | tooManyDigits (count : Nat)
  | tooLarge
  deriving DecidableEq, Repr

def maxDigits : Nat := 4300

/-- The least number with too many digits to be written. -/
def writableBound : Nat := Nat.pow 10 maxDigits

def isWritable (n : Int) : Bool := n.natAbs < writableBound

/-- The wording of an integer error; a malformed text is quoted up to 200 characters. -/
def IntegerError.message : IntegerError → String
  | .malformed base text =>
    s!"invalid literal for int() with base {base}: " ++ String.ofList ((literalOf text.toList).take 200)
  | .tooManyDigits count =>
    s!"Exceeds the limit (4300 digits) for integer string conversion: value has {count} digits; " ++
      "use sys.set_int_max_str_digits() to increase the limit"
  | .tooLarge =>
    "Exceeds the limit (4300 digits) for integer string conversion; " ++
      "use sys.set_int_max_str_digits() to increase the limit"

/-- Blanks that may surround a number: all but the ASCII separator controls. -/
def isNumberBlank (c : Char) : Bool := isBlank c && !(28 ≤ c.toNat && c.toNat ≤ 31)

/-- The value of a digit in bases up to sixteen, decimal digits of every script included. -/
def digitValue? (c : Char) : Option Nat :=
  match decimalValue? c with
  | some v => some v
  | none =>
    if 97 ≤ c.toNat && c.toNat ≤ 102 then some (c.toNat - 87)
    else if 65 ≤ c.toNat && c.toNat ≤ 70 then some (c.toNat - 55)
    else none

def digitIn? (base : Nat) (c : Char) : Option Nat :=
  (digitValue? c).filter (· < base)

/-- Reads digits with single underscores between them: the digits' values, and the rest. A digit
has to come at the start, when `needed` is set, and behind each underscore. -/
def digitRun? (base : Nat) : Bool → List Char → Option (List Nat × List Char)
  | needed, [] => if needed then none else some ([], [])
  | needed, c :: cs =>
    match digitIn? base c with
    | some v => (digitRun? base false cs).map fun p => (v :: p.1, p.2)
    | none =>
      if needed then none
      else if c = '_' then digitRun? base true cs
      else some ([], c :: cs)

def ofDigits (base : Nat) (digits : List Nat) : Nat :=
  digits.foldl (fun n d => n * base + d) 0

/-- The letter that may follow a leading zero to repeat the base. -/
def baseMark (base : Nat) : Option Char :=
  if base = 16 then some 'x' else if base = 8 then some 'o' else if base = 2 then some 'b' else none

/-- The digits behind an optional mark such as `0x`, which one underscore may follow. -/
def dropBaseMark (base : Nat) : List Char → List Char
  | '0' :: m :: cs =>
    if baseMark base = some m.toLower then
      match cs with
      | '_' :: rest => rest
      | _ => cs
    else '0' :: m :: cs
  | cs => cs

def splitSign : List Char → Bool × List Char
  | '-' :: cs => (true, cs)
  | '+' :: cs => (false, cs)
  | cs => (false, cs)

def readInteger (base : Nat) (text : String) : Except IntegerError Int :=
  let (negative, body) := splitSign (text.toList.dropWhile isNumberBlank)
  match digitRun? base true (dropBaseMark base body) with
  | none => .error (.malformed base text)
  | some (digits, rest) =>
    if base = 10 ∧ maxDigits < digits.length then .error (.tooManyDigits digits.length)
    else if rest.all isNumberBlank then
      .ok (if negative then -(ofDigits base digits : Int) else ofDigits base digits)
    else .error (.malformed base text)

end Traceability.Number
