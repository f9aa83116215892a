import Traceability.Text.Quoted

/-! # A page being written

A page remembers its column, whether a blank would be needed before the next sign, and whether
nothing but indentation and signs stands on the line so far. Lines are folded at blanks behind
column 120.
-/
namespace Traceability.Yaml

/-- Text written so far, last character first. -/
structure Page where
  written : List Char := []
  column : Nat := 0
  behindBlank : Bool := true
  inMargin : Bool := true
  deriving DecidableEq, Repr

namespace Page

def foldColumn : Nat := 120

def put (p : Page) (cs : List Char) : Page :=
  { p with written := cs.reverse ++ p.written, column := p.column + cs.length }

def endLine (p : Page) (c : Char) : Page := ⟨c :: p.written, 0, true, true⟩

/-- Go to a column: on this line if only its margin is in use, and on the next one otherwise. -/
def indentTo (p : Page) (indent : Nat) : Page :=
  let p :=
    if !p.inMargin || indent < p.column || (p.column == indent && !p.behindBlank) then p.endLine '\n'
    else p
  if p.column < indent then
    { p.put (List.replicate (indent - p.column) ' ') with behindBlank := true }
  else p

/-- Write a sign, with a blank before it if it needs one. A sign that opens an item leaves the
line in its margin. -/
def sign (p : Page) (cs : List Char) (needsBlank opensItem : Bool) : Page :=
  let q := p.put (if p.behindBlank || !needsBlank then cs else ' ' :: cs)
  { q with behindBlank := false, inMargin := p.inMargin && opensItem }

def pastMargin (p : Page) : Page := { p with behindBlank := false, inMargin := false }

def text (p : Page) : String := String.ofList p.written.reverse

end Page

end Traceability.Yaml
