import Traceability.Json.Basic
import Traceability.Text.CodePoint

/-! # Reading JSON

The whole text is one JSON value with blanks around it. Of two members with one name the place of
the first and the value of the last are kept. Two escapes that together encode one character are
joined; half of such a pair alone stays half of a pair.
-/
namespace Traceability.Json

open Number Text

inductive ParseError
  | malformed
  | integer (e : IntegerError)
  deriving DecidableEq, Repr

def isJsonBlank (c : Char) : Bool := c == ' ' || c == '\n' || c == '\t' || c == '\r'

def skipBlanks (cs : List Char) : List Char := cs.dropWhile isJsonBlank

def hexDigit? (c : Char) : Option Nat := if c.toNat < 128 then digitIn? 16 c else none

def hexFour? (a b c d : Char) : Option Nat :=
  match hexDigit? a, hexDigit? b, hexDigit? c, hexDigit? d with
  | some a, some b, some c, some d => some (((a * 16 + b) * 16 + c) * 16 + d)
  | _, _, _, _ => none

def isLeadingHalf (n : Nat) : Bool := 0xD800 ≤ n && n ≤ 0xDBFF

def isTrailingHalf (n : Nat) : Bool := 0xDC00 ≤ n && n ≤ 0xDFFF

def escape? (c : Char) : Option Char :=
  if c = '\x22' then some '\x22'
  else if c = '\\' then some '\\'
  else if c = '/' then some '/'
  else if c = 'b' then some '\x08'
  else if c = 'f' then some '\x0c'
  else if c = 'n' then some '\n'
  else if c = 'r' then some '\r'
  else if c = 't' then some '\t'
  else none

def consChar (c : Char) : Option (List Char × List Char) → Option (List Char × List Char)
  | none => none
  | some (cs, rest) => some (c :: cs, rest)

/-- The text of a string behind its opening quote, and what follows its closing quote. -/
def readText : List Char → Option (List Char × List Char)
  | [] => none
  | '\\' :: 'u' :: a :: b :: c :: d :: rest =>
    match hexFour? a b c d with
    | none => none
    | some n =>
      match rest with
      | '\\' :: 'u' :: e :: f :: g :: h :: after =>
        match hexFour? e f g h with
        | none => none
        | some m =>
          if isLeadingHalf n && isTrailingHalf m then
            consChar (Char.ofNat (0x10000 + (n - 0xD800) * 0x400 + (m - 0xDC00))) (readText after)
          else consChar (ofCodePoint n) (readText ('\\' :: 'u' :: e :: f :: g :: h :: after))
      | rest => consChar (ofCodePoint n) (readText rest)
  | '\\' :: c :: rest =>
    match escape? c with
    | none => none
    | some d => consChar d (readText rest)
  | c :: rest =>
    if c = '\x22' then some ([], rest)
    else if c.toNat < 32 ∨ c = '\\' then none
    else consChar c (readText rest)

/-- The digits of an integer part: a zero alone, or digits that begin with another one. -/
def integerPart (cs : List Char) : List Char :=
  match cs with
  | '0' :: _ => ['0']
  | _ => cs.takeWhile isAsciiDigit

/-- A fraction with its point, when there is a complete one. -/
def fractionPart (cs : List Char) : List Char :=
  match cs with
  | '.' :: rest =>
    let digits := rest.takeWhile isAsciiDigit
    if digits.isEmpty then [] else '.' :: digits
  | _ => []

def exponentPart (cs : List Char) : List Char :=
  match cs with
  | c :: rest =>
    if c = 'e' ∨ c = 'E' then
      let sign := match rest with
        | s :: _ => if s = '+' ∨ s = '-' then [s] else []
        | [] => []
      let digits := (rest.drop sign.length).takeWhile isAsciiDigit
      if digits.isEmpty then [] else c :: (sign ++ digits)
    else []
  | [] => []

def readNumber (cs : List Char) : Except ParseError (Json × List Char) :=
  let (negative, body) := match cs with
    | '-' :: rest => (true, rest)
    | _ => (false, cs)
  let whole := integerPart body
  if whole.isEmpty then .error .malformed
  else
    let rest := body.drop whole.length
    let fraction := fractionPart rest
    let rest := rest.drop fraction.length
    let exponent := exponentPart rest
    let rest := rest.drop exponent.length
    if fraction.isEmpty && exponent.isEmpty then
      if maxDigits < whole.length then .error (.integer (.tooManyDigits whole.length))
      else
        let n : Int := ofDigits 10 (whole.map (·.toNat - 48))
        .ok (.int (if negative then -n else n), rest)
    else
      match Binary64.readDecimal? (whole ++ fraction ++ exponent) with
      | some (n, e, _) => .ok (.float (Binary64.ofDecimal negative n e), rest)
      | none => .error .malformed

def words : List (List Char × Json) := [
  (['n', 'u', 'l', 'l'], .null),
  (['t', 'r', 'u', 'e'], .bool true),
  (['f', 'a', 'l', 's', 'e'], .bool false),
  (['N', 'a', 'N'], .float .nan),
  (['I', 'n', 'f', 'i', 'n', 'i', 't', 'y'], .float (.infinite false)),
  (['-', 'I', 'n', 'f', 'i', 'n', 'i', 't', 'y'], .float (.infinite true))]

def readWord? (cs : List Char) : Option (Json × List Char) :=
  words.findSome? fun (word, j) => (after? word cs).map fun rest => (j, rest)

/-- Put a member under its name: in place when the name is taken, at the end otherwise. -/
def putMember (name : String) (j : Json) : List (String × Json) → List (String × Json)
  | [] => [(name, j)]
  | (n, i) :: rest => if n = name then (n, j) :: rest else (n, i) :: putMember name j rest

mutual

/-- A value at the start of a text. Every step down takes one unit of `fuel`. -/
def readValue : Nat → List Char → Except ParseError (Json × List Char)
  | 0, _ => .error .malformed
  | fuel + 1, cs =>
    match cs with
    | [] => .error .malformed
    | c :: rest =>
      if c = '\x22' then
        match readText rest with
        | none => .error .malformed
        | some (s, rest) => .ok (.text (String.ofList s), rest)
      else if c = '[' then
        match skipBlanks rest with
        | ']' :: rest => .ok (.list [], rest)
        | rest => do
          let (items, rest) ← readItems fuel rest
          pure (.list items, rest)
      else if c = '\x7b' then
        match skipBlanks rest with
        | '\x7d' :: rest => .ok (.object [], rest)
        | rest => do
          let (members, rest) ← readMembers fuel [] rest
          pure (.object members, rest)
      else
        match readWord? (c :: rest) with
        | some result => .ok result
        | none => readNumber (c :: rest)

def readItems : Nat → List Char → Except ParseError (List Json × List Char)
  | 0, _ => .error .malformed
  | fuel + 1, cs => do
    let (j, rest) ← readValue fuel cs
    match skipBlanks rest with
    | ',' :: rest =>
      let (js, rest) ← readItems fuel (skipBlanks rest)
      pure (j :: js, rest)
    | ']' :: rest => pure ([j], rest)
    | _ => .error .malformed

def readMembers : Nat → List (String × Json) → List Char →
    Except ParseError (List (String × Json) × List Char)
  | 0, _, _ => .error .malformed
  | fuel + 1, before, cs =>
    match cs with
    | '\x22' :: rest =>
      match readText rest with
      | none => .error .malformed
      | some (name, rest) =>
        match skipBlanks rest with
        | ':' :: rest => do
          let (j, rest) ← readValue fuel (skipBlanks rest)
          let members := putMember (String.ofList name) j before
          match skipBlanks rest with
          | ',' :: rest => readMembers fuel members (skipBlanks rest)
          | '\x7d' :: rest => pure (members, rest)
          | _ => .error .malformed
        | _ => .error .malformed
    | _ => .error .malformed

end

def parse (cs : List Char) : Except ParseError Json := do
  let (j, rest) ← readValue (cs.length + 1) (skipBlanks cs)
  if (skipBlanks rest).isEmpty then pure j else .error .malformed

end Traceability.Json
