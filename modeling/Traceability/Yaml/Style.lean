import Traceability.Text.CodePoint
import Traceability.Yaml.ScalarType
import Traceability.Yaml.Source

/-! # Styles of scalars

A scalar is written plain when it would be read back as what it is. Otherwise it is quoted: with
single quotes when its blanks and characters allow that, and else with double quotes and escapes.
-/
namespace Traceability.Yaml

open Text

inductive Style
  | plain
  | singleQuoted
  | doubleQuoted
  | literal
  deriving DecidableEq, Repr

def isLineEnd (c : Char) : Bool := isBreak c && c != '\r'

/-- Blank, tab, line end or zero. -/
def isGap (c : Char) : Bool := isSpace c || isBreak c || c == '\x00'

def neighbours (first second : Char → Bool) : List Char → Bool
  | c :: d :: cs => (first c && second d) || neighbours first second (d :: cs)
  | _ => false

def isSpecial (c : Char) : Bool :=
  let n := codePoint c
  !(c == '\n' || (0x20 ≤ n && n ≤ 0x7E) ||
    ((n == 0x85 || (0xA0 ≤ n && n ≤ 0xD7FF) || (0xE000 ≤ n && n ≤ 0xFFFD) ||
      (0x10000 ≤ n && n < 0x10FFFF)) && n != 0xFEFF))

def isLeadingSign (c : Char) : Bool :=
  ['#', ',', '[', ']', '\x7b', '\x7d', '&', '*', '!', '|', '>', '\x27', '\x22', '%', '@',
    '\x60'].contains c

def beginsSign (cs : List Char) : Bool :=
  ['-', '-', '-'].isPrefixOf cs || ['.', '.', '.'].isPrefixOf cs ||
    match cs with
    | [] => false
    | c :: rest =>
      isLeadingSign c || ((c == '?' || c == ':' || c == '-') && rest.head?.all isGap)

/-- Behind its first character the text holds a colon before a gap or its end, or a number sign
behind a gap. -/
def holdsSign (cs : List Char) : Bool :=
  neighbours (· == ':') isGap (cs.drop 1) || (cs.drop 1).getLast? == some ':' ||
    neighbours isGap (· == '#') cs

def hasLooseEnd (cs : List Char) : Bool :=
  let loose (c : Char) : Bool := c == ' ' || isLineEnd c
  cs.head?.any loose || cs.getLast?.any loose

def isMultiline (cs : List Char) : Bool := cs.any isLineEnd

def hasIndentedLine (cs : List Char) : Bool := neighbours isLineEnd (· == ' ') cs

/-- Only double quotes keep the characters of the text apart. -/
def needsEscapes (cs : List Char) : Bool :=
  cs.any isSpecial || neighbours (· == ' ') isLineEnd cs

def allowsPlain (cs : List Char) : Bool :=
  !(beginsSign cs || holdsSign cs || hasLooseEnd cs || isMultiline cs || hasIndentedLine cs ||
    needsEscapes cs)

def allowsSingleQuotes (cs : List Char) : Bool := !(hasIndentedLine cs || needsEscapes cs)

def allowsBlock (cs : List Char) : Bool :=
  !(cs.isEmpty || cs.getLast? == some ' ' || needsEscapes cs)

/-- The style of a scalar with a tag; a key stands on one line, and bytes prefer a block. -/
def styleOf (tag text : String) (asKey preferBlock : Bool) : Style :=
  let cs := text.toList
  if preferBlock then
    if !asKey && allowsBlock cs then .literal else .doubleQuoted
  else if plainTag text == tag && allowsPlain cs && !(asKey && (cs.isEmpty || isMultiline cs)) then
    .plain
  else if allowsSingleQuotes cs && !(asKey && isMultiline cs) then .singleQuoted
  else .doubleQuoted

end Traceability.Yaml
