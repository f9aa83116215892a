import Traceability.Text.Blank
import Traceability.Text.Search
import Traceability.Text.Width

/-! # Wrapping

A line that is too long for a display is broken between its words. A word takes the blanks behind
it along; what goes beyond the width is dropped if it is blank. A word that is too long for a line
of its own is folded over several lines or cut at an ellipsis.
-/
namespace Traceability.Display

open Text

inductive Overflow
  | fold
  | ellipsis
  deriving DecidableEq, Repr

def beginsWord (cs : List Char) : Bool := cs.head?.any fun c => !isBlank c

def cutBehindBlanks : List Char → List (List Char)
  | [] => []
  | c :: cs =>
    match cutBehindBlanks cs with
    | [] => [[c]]
    | piece :: pieces =>
      if isBlank c && beginsWord piece then [c] :: piece :: pieces else (c :: piece) :: pieces

/-- The words of a line with the blanks behind them; the first one also has those before it. -/
def words (cs : List Char) : List (List Char) :=
  match cutBehindBlanks cs with
  | first :: second :: rest =>
    if first.all isBlank then (first ++ second) :: rest else first :: second :: rest
  | pieces => pieces

/-- A word folded over lines: `line` is the one that has been begun and `used` its cells. -/
def foldWord (width used : Nat) (line : List Char) : List Glyph → List (List Char)
  | [] => [line]
  | g :: gs =>
    if width < used + g.width then line :: foldWord width g.width g.chars gs
    else foldWord width (used + g.width) (line ++ g.chars) gs

/-- The lines that a word begins when it fits on no line that has been begun. -/
def newLines (overflow : Overflow) (width : Nat) (word : List Char) : List (List Char) :=
  if overflow = .fold && width < cellLength (trimEnd word) then foldWord width 0 [] (glyphs word)
  else [word]

def fillLines (overflow : Overflow) (width : Nat) (line : List Char) :
    List (List Char) → List (List Char)
  | [] => [line]
  | word :: rest =>
    if cellLength line + cellLength (trimEnd word) ≤ width then
      fillLines overflow width (line ++ word) rest
    else
      let begun := newLines overflow width word
      (if line.isEmpty then [] else [line]) ++ begun.dropLast ++
        fillLines overflow width (begun.getLast?.getD []) rest

def dropExcessBlanks (width : Nat) (cs : List Char) : List Char :=
  cs.take (cs.length - min (cs.length - width) (cs.length - (trimEnd cs).length))

/-- As many glyphs as fit in some cells; half a wide one becomes a blank. -/
def cropTo : Nat → List Glyph → List Char
  | _, [] => []
  | room, g :: gs =>
    if g.width ≤ room then g.chars ++ cropTo (room - g.width) gs else List.replicate room ' '

def limited (overflow : Overflow) (width : Nat) (cs : List Char) : List Char :=
  if cellLength cs ≤ width then cs
  else match overflow with
    | .fold => cropTo width (glyphs cs)
    | .ellipsis => cropTo (width - 1) (glyphs cs) ++ ['…']

def wrapLine (overflow : Overflow) (width : Nat) (cs : List Char) : List (List Char) :=
  (fillLines overflow width [] (words cs)).map fun line =>
    limited overflow width (dropExcessBlanks width line)

/-- The parts of a line between its tabs, each tab as one blank and as many more as it takes to the
next multiple of eight cells; `column` is the cell reached. -/
def fillTabs (column : Nat) : List (List Char) → List Char
  | [] => []
  | [part] => part
  | part :: parts =>
    let reached := column + cellLength (part ++ [' '])
    let next := (reached + 7) / 8 * 8
    part ++ ' ' :: (List.replicate (next - reached) ' ' ++ fillTabs next parts)

def expandTabs (cs : List Char) : List Char := fillTabs 0 (splitAt '\t' cs)

def wrap (overflow : Overflow) (width : Nat) (cs : List Char) : List (List Char) :=
  (splitAt '\n' cs).flatMap fun line => wrapLine overflow width (expandTabs line)

def printLines (ls : List (List Char)) : String :=
  String.ofList (ls.flatMap fun l => l ++ ['\n'])

end Traceability.Display
