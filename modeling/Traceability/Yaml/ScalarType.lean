import Traceability.Text.Digit
import Traceability.Text.Search

/-! # Types of plain scalars

A plain scalar is typed by its text: numbers, truth values, nulls, dates and the two signs with a
meaning in mappings are recognised, and every other text is a text.
-/
namespace Traceability.Yaml

open Text

def coreTag (name : String) : String := "tag:yaml.org,2002:" ++ name

def textTag : String := coreTag "str"

def nullTag : String := coreTag "null"

def boolTag : String := coreTag "bool"

def intTag : String := coreTag "int"

def floatTag : String := coreTag "float"

def timestampTag : String := coreTag "timestamp"

/-- The tag of a key whose value is merged into the mapping. -/
def mergeTag : String := coreTag "merge"

/-- The tag of a key whose value stands for the whole mapping. -/
def valueTag : String := coreTag "value"

def signTag : String := coreTag "yaml"

def sequenceTag : String := coreTag "seq"

def mappingTag : String := coreTag "map"

/-! ## Recognisers -/

def truthWords : List (String × Bool) := [
  ("yes", true), ("no", false), ("true", true), ("false", false), ("on", true), ("off", false)]

/-- A word in lower case, in upper case or with a capital. -/
def spellings (word : String) : List String :=
  [word, word.capitalize, word.toUpper]

def isTruth (cs : List Char) : Bool :=
  truthWords.any fun w => (spellings w.1).contains (String.ofList cs)

def isNullText (cs : List Char) : Bool :=
  cs.isEmpty || cs == ['~'] || (spellings "null").contains (String.ofList cs)

def unsigned : List Char → List Char
  | '-' :: cs => cs
  | '+' :: cs => cs
  | cs => cs

def allOf (test : Char → Bool) (cs : List Char) : Bool := !cs.isEmpty && cs.all test

def isDigitMark (c : Char) : Bool := isAsciiDigit c || c == '_'

def isOctalMark (c : Char) : Bool := c == '_' || (48 ≤ c.toNat && c.toNat ≤ 55)

def isBinaryMark (c : Char) : Bool := c == '0' || c == '1' || c == '_'

def isHexMark (c : Char) : Bool :=
  isDigitMark c || (97 ≤ c.toNat && c.toNat ≤ 102) || (65 ≤ c.toNat && c.toNat ≤ 70)

/-- A minute or a second: one or two digits below sixty. -/
def isSixtieth : List Char → Bool
  | [d] => isAsciiDigit d
  | [t, d] => 48 ≤ t.toNat && t.toNat ≤ 53 && isAsciiDigit d
  | _ => false

/-- An integer in base ten that does not begin with a zero. -/
def isDecimalText : List Char → Bool
  | c :: cs => isAsciiDigit c && c != '0' && cs.all isDigitMark
  | [] => false

def isIntText (cs : List Char) : Bool :=
  let body := unsigned cs
  match body with
  | '0' :: 'b' :: rest => allOf isBinaryMark rest
  | '0' :: 'x' :: rest => allOf isHexMark rest
  | '0' :: rest => rest.isEmpty || rest.all isOctalMark
  | _ =>
    match splitAt ':' body with
    | [whole] => isDecimalText whole
    | whole :: parts => isDecimalText whole && parts.all isSixtieth
    | [] => false

def isExponentOrNothing : List Char → Bool
  | [] => true
  | e :: s :: digits => (e == 'e' || e == 'E') && (s == '-' || s == '+') && allOf isAsciiDigit digits
  | _ => false

def isFraction (cs : List Char) : Bool := isExponentOrNothing (cs.dropWhile isDigitMark)

/-- Digits, of which the first is no underscore. -/
def isWhole : List Char → Bool
  | c :: cs => isAsciiDigit c && cs.all isDigitMark
  | [] => false

/-- The text is a number with a point, or the name of one without digits. -/
def isFloatText (cs : List Char) : Bool :=
  let body := unsigned cs
  let named (words : List String) (cs : List Char) : Bool := words.contains (String.ofList cs)
  if named [".inf", ".Inf", ".INF"] body || named [".nan", ".NaN", ".NAN"] cs then true
  else
    match cs with
    | '.' :: c :: rest => isAsciiDigit c && isFraction rest
    | _ =>
      match cutAt '.' body with
      | (whole, fraction) =>
        body.contains '.' &&
          match splitAt ':' whole with
          | [whole] => isWhole whole && isFraction fraction
          | whole :: parts => isWhole whole && parts.all isSixtieth && fraction.all isDigitMark
          | [] => false

structure TimestampText where
  year : List Char
  month : List Char
  day : List Char
  hour : List Char := []
  minute : List Char := []
  second : List Char := []
  fraction : List Char := []
  zoneSign : Option Char := none
  zoneHour : List Char := []
  zoneMinute : List Char := []
  universal : Bool := false
  deriving DecidableEq, Repr

def takeDigitText (least most : Nat) (cs : List Char) : Option (List Char × List Char) :=
  let digits := (cs.take most).takeWhile isAsciiDigit
  if digits.length < least then none else some (digits, cs.drop digits.length)

def dropSpaces (cs : List Char) : List Char := cs.dropWhile fun c => c == ' ' || c == '\t'

def readZoneText (t : TimestampText) (cs : List Char) : Option TimestampText :=
  if cs.isEmpty then some t
  else
    match dropSpaces cs with
    | ['Z'] => some { t with universal := true }
    | c :: rest =>
      if c = '-' ∨ c = '+' then do
        let (hour, rest) ← takeDigitText 1 2 rest
        match rest with
        | [] => some { t with zoneSign := some c, zoneHour := hour }
        | ':' :: rest =>
          let (minute, rest) ← takeDigitText 2 2 rest
          if rest.isEmpty then
            some { t with zoneSign := some c, zoneHour := hour, zoneMinute := minute }
          else none
        | _ => none
      else none
    | [] => none

/-- The time behind a day: `T` or blanks in front, then hours, minutes and seconds. -/
def readTimeText (t : TimestampText) (cs : List Char) : Option TimestampText := do
  let body ← match cs with
    | c :: rest =>
      if c = 'T' ∨ c = 't' then some rest
      else if c = ' ' ∨ c = '\t' then some (dropSpaces rest) else none
    | [] => none
  let (hour, rest) ← takeDigitText 1 2 body
  let rest ← after? [':'] rest
  let (minute, rest) ← takeDigitText 2 2 rest
  let rest ← after? [':'] rest
  let (second, rest) ← takeDigitText 2 2 rest
  let (fraction, rest) := match rest with
    | '.' :: rest => (rest.takeWhile isAsciiDigit, rest.dropWhile isAsciiDigit)
    | _ => ([], rest)
  readZoneText { t with hour := hour, minute := minute, second := second, fraction := fraction } rest

/-- Reads a day, or a moment whose month and day may have one digit. -/
def readTimestampText (cs : List Char) : Option TimestampText := do
  let (year, rest) ← takeDigitText 4 4 cs
  let rest ← after? ['-'] rest
  let (month, rest) ← takeDigitText 1 2 rest
  let rest ← after? ['-'] rest
  let (day, rest) ← takeDigitText 1 2 rest
  let t : TimestampText := { year := year, month := month, day := day }
  if rest.isEmpty then some t else readTimeText t rest

/-- The text is a day with two-digit month and day, or a moment. -/
def isTimestamp (cs : List Char) : Bool :=
  match readTimestampText cs with
  | none => false
  | some t => !t.hour.isEmpty || (t.month.length == 2 && t.day.length == 2)

def plainTag (text : String) : String :=
  let cs := dropFinalNewline text.toList
  if text = "" then nullTag
  else if isTruth cs then boolTag
  else if isFloatText cs then floatTag
  else if isIntText cs then intTag
  else if cs == ['<', '<'] then mergeTag
  else if !cs.isEmpty && isNullText cs then nullTag
  else if isTimestamp cs then timestampTag
  else if cs == ['='] then valueTag
  else if cs == ['!'] || cs == ['&'] || cs == ['*'] then signTag
  else textTag

end Traceability.Yaml
