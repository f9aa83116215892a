import Traceability.Text.Printable

/-! # Text with a position

Reading a document depends on columns, so the text that is left is kept with its line, its column
and the number of characters already read. A byte-order mark takes no column.
-/
namespace Traceability.Yaml

def isBreak (c : Char) : Bool :=
  c == '\n' || c == '\r' || c == '\x85' || c == '\u2028' || c == '\u2029'

/-- What a line end reads as: the separators of lines and paragraphs stay what they are. -/
def breakChar (c : Char) : Char := if c == '\u2028' || c == '\u2029' then c else '\n'

def byteOrderMark : Char := '\uFEFF'

def isSpace (c : Char) : Bool := c == ' ' || c == '\t'

def endsLine (c : Option Char) : Bool := c.all isBreak

def endsWord (c : Option Char) : Bool := c.all fun d => d == ' ' || isBreak d

def endsToken (c : Option Char) : Bool := c.all fun d => isSpace d || isBreak d

structure Source where
  rest : List Char
  line : Nat := 0
  column : Nat := 0
  index : Nat := 0
  deriving DecidableEq, Repr

namespace Source

def peek (s : Source) : Option Char := s.rest.head?

def peekAt (s : Source) (n : Nat) : Option Char := s.rest[n]?

def next (s : Source) : Source :=
  match s.rest with
  | [] => s
  | c :: cs =>
    if isBreak c then ⟨cs, s.line + 1, 0, s.index + 1⟩
    else if c = byteOrderMark then ⟨cs, s.line, s.column, s.index + 1⟩
    else ⟨cs, s.line, s.column + 1, s.index + 1⟩

def drop (s : Source) : Nat → Source
  | 0 => s
  | n + 1 => s.next.drop n

def taken (s : Source) (test : Char → Bool) : List Char := s.rest.takeWhile test

def skip (s : Source) (test : Char → Bool) : Source := s.drop (s.taken test).length

def skipBlanks (s : Source) : Source := s.skip (· == ' ')

def skipLine (s : Source) : Source := s.skip fun c => !isBreak c

def skipBreak (s : Source) : Source := if s.peek.any isBreak then s.next else s

/-- The text begins with three copies of the character and a token could end behind them. -/
def atMarker (s : Source) (c : Char) : Bool :=
  s.rest.take 3 == [c, c, c] && endsToken (s.peekAt 3)

def atSeparator (s : Source) : Bool := s.atMarker '-' || s.atMarker '.'

end Source

def isAllowed (c : Char) : Bool :=
  let n := c.toNat
  n == 9 || n == 10 || n == 13 || (32 ≤ n && n ≤ 126) || n == 0x85 || (0xA0 ≤ n && n ≤ 0xD7FF) ||
    (0xE000 ≤ n && n ≤ 0xFFFD) || 0x10000 ≤ n

end Traceability.Yaml
