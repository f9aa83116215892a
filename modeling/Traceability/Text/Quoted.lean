import Traceability.Text.CodePoint
import Traceability.Text.Printable

/-! # Quoted literals

A text is quoted with single quotes, or with double quotes when it holds a single quote and no
double one. The quote in use and the backslash are escaped; of the other characters only those
that cannot be shown are, by the shortest of three hexadecimal forms.
-/
namespace Traceability.Text

def hexPadded (width n : Nat) : List Char :=
  let digits := Nat.toDigits 16 n
  List.replicate (width - digits.length) '0' ++ digits

def padded (width n : Nat) : String :=
  let digits := Nat.toDigits 10 n
  String.ofList (List.replicate (width - digits.length) '0' ++ digits)

def literalQuote (cs : List Char) : Char :=
  if cs.contains '\x27' && !cs.contains '\x22' then '\x22' else '\x27'

def hexEscape (n : Nat) : List Char :=
  if n ≤ 0xFF then '\\' :: 'x' :: hexPadded 2 n
  else if n ≤ 0xFFFF then '\\' :: 'u' :: hexPadded 4 n
  else '\\' :: 'U' :: hexPadded 8 n

def literalChar (quote c : Char) : List Char :=
  if c = quote ∨ c = '\\' then ['\\', c]
  else if c = '\t' then ['\\', 't']
  else if c = '\n' then ['\\', 'n']
  else if c = '\r' then ['\\', 'r']
  else if isPrintable c then [c]
  else hexEscape (codePoint c)

def literalOf (cs : List Char) : List Char :=
  let quote := literalQuote cs
  quote :: (cs.flatMap (literalChar quote) ++ [quote])

def literal (s : String) : String := String.ofList (literalOf s.toList)

/-- The literal of an optional string; an absent one reads `None`. -/
def literalOrNone : Option String → String
  | none => "None"
  | some s => literal s

def shown : Option String → String
  | none => "None"
  | some s => s

end Traceability.Text
