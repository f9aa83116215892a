import Traceability.Display.Wrap
import Traceability.Number.Binary64

/-! # Tables and panels

A column is as wide as its widest cell, and every cell has one blank on each side. A boxed table
that is too wide for the display gives up room in its widest columns, whose cells are wrapped.
-/
namespace Traceability.Display

open Text

inductive Align
  | left
  | right
  deriving DecidableEq, Repr

def blanks (width : Nat) (cs : List Char) : List Char :=
  List.replicate (width - cellLength cs) ' '

def padTo (align : Align) (width : Nat) (cs : List Char) : List Char :=
  match align with
  | .left => cs ++ blanks width cs
  | .right => blanks width cs ++ cs

/-- A text in the middle of a field; an odd blank goes to the right. -/
def centred (width : Nat) (cs : List Char) : List Char :=
  let excess := width - cellLength cs
  List.replicate (excess / 2) ' ' ++ cs ++ List.replicate (excess - excess / 2) ' '

def endsMeasuredLine (c : Char) : Bool :=
  let n := c.toNat
  (10 ≤ n && n ≤ 13) || (28 ≤ n && n ≤ 30) || n == 0x85 || n == 0x2028 || n == 0x2029

def longestLine (cs : List Char) : Nat :=
  let ls := splitAt '\n' (cs.map fun c => if endsMeasuredLine c then '\n' else c)
  (ls.map cellLength).foldl max 0

/-- Take an excess off the marked widths in nearly equal shares of at most `most`; `count` of the
widths are marked. -/
def takeShares (most : Nat) : Nat → Nat → List (Nat × Bool) → List Nat
  | _, _, [] => []
  | excess, count, (w, marked) :: rest =>
    let share := if marked then min most (Number.Binary64.roundedQuotient excess count) else 0
    (w - share) :: takeShares most (excess - share) (if marked then count - 1 else count) rest

def total (widths : List Nat) : Nat := widths.foldl (· + ·) 0

/-- Make the widest columns as narrow as the next ones, until all of them have room. Every step
takes something off, so there are no more steps than there is excess. -/
def shrink : Nat → Nat → List Nat → List Nat
  | 0, _, widths => widths
  | fuel + 1, room, widths =>
    let excess := total widths - room
    let widest := widths.foldl max 0
    let next := (widths.filter (· != widest)).foldl max 0
    if excess = 0 then widths
    else shrink fuel room (takeShares (min excess (widest - next)) excess (widths.count widest)
      (widths.map fun w => (w, w == widest)))

structure Table where
  title : List Char
  headings : List (List Char)
  aligns : List Align
  rows : List (List (List Char))

namespace Table

def lines (t : Table) : List (List (List Char)) := t.headings :: t.rows

def widths (t : Table) : List Nat :=
  (List.range t.headings.length).map fun i =>
    (t.lines.map fun row => longestLine (row.getD i [])).foldl max 0

def rowLines (t : Table) (widths : List Nat) (row : List (List Char)) :
    List (List (List Char)) :=
  let wrapped := (List.zip row widths).map fun (cell, width) => wrap .ellipsis width cell
  let height := (wrapped.map List.length).foldl max 0
  (List.range height).map fun i =>
    (List.zip (List.zip t.aligns widths) wrapped).map fun ((align, width), ls) =>
      ' ' :: (padTo align width (ls.getD i []) ++ [' '])

def plain (t : Table) : List (List Char) :=
  let widths := t.widths
  centred (total (widths.map (· + 2))) t.title ::
    t.lines.flatMap fun row => (t.rowLines widths row).map List.flatten

def widthsWithin (t : Table) (width : Nat) : List Nat :=
  let room := width - (t.headings.length + 1)
  let natural := t.widths.map fun w => min room (w + 2)
  (shrink (total natural - room) room natural).map (· - 2)

def rule (widths : List Nat) (left fill middle right : Char) : List Char :=
  left :: (List.intercalate [middle] (widths.map fun w => List.replicate (w + 2) fill) ++ [right])

def borderedRow (t : Table) (widths : List Nat) (border : Char) (row : List (List Char)) :
    List (List Char) :=
  (t.rowLines widths row).map fun cells => border :: (List.intercalate [border] cells ++ [border])

/-- The table in a box whose head is drawn with heavy lines, on a display of the given width. -/
def boxed (t : Table) (width : Nat) : List (List Char) :=
  let widths := t.widthsWithin width
  let outer := total (widths.map (· + 2)) + widths.length + 1
  centred outer t.title :: rule widths '┏' '━' '┳' '┓' ::
    (t.borderedRow widths '┃' t.headings ++ rule widths '┡' '━' '╇' '┩' ::
      (t.rows.flatMap (t.borderedRow widths '│') ++ [rule widths '└' '─' '┴' '┘']))

end Table

def panel (width : Nat) (cs : List Char) : List (List Char) :=
  let edge := List.replicate (width - 2) '─'
  let inside := (wrap .fold (width - 4) cs).map fun line =>
    '│' :: ' ' :: (padTo .left (width - 4) line ++ [' ', '│'])
  [['╭'] ++ edge ++ ['╮']] ++ inside ++ [['╰'] ++ edge ++ ['╯']]

end Traceability.Display
