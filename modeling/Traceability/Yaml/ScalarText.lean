import Traceability.Number.Integer
import Traceability.Text.CodePoint
import Traceability.Yaml.Error
import Traceability.Yaml.Source

/-! # Scalars in a text

A scalar is plain, quoted or a block. Line ends inside plain and quoted scalars fold: one line end
reads as a blank, and of several the first is dropped.
-/
namespace Traceability.Yaml

open Number

def prepend (cs : List Char) (r : Except LoadError (List Char × Source)) :
    Except LoadError (List Char × Source) :=
  r.map fun (ds, s) => (cs ++ ds, s)

/-! ## Quoted scalars -/

def escapes : List (Char × Char) := [
  ('0', '\x00'), ('a', '\x07'), ('b', '\x08'), ('t', '\t'), ('\t', '\t'), ('n', '\n'),
  ('v', '\x0b'), ('f', '\x0c'), ('r', '\r'), ('e', '\x1b'), (' ', ' '), ('\x22', '\x22'),
  ('\\', '\\'), ('/', '/'), ('N', '\x85'), ('_', '\xa0'), ('L', '\u2028'), ('P', '\u2029')]

def hexEscapes : List (Char × Nat) := [('x', 2), ('u', 4), ('U', 8)]

def hexValue? (count : Nat) (cs : List Char) : Option Nat :=
  let digits := (cs.take count).filterMap fun c => if c.toNat < 128 then digitIn? 16 c else none
  if digits.length = count then some (ofDigits 16 digits) else none

def charOf (n : Nat) : Except LoadError Char :=
  if 0x7FFFFFFF < n then .error .hugeCodePoint
  else if 0x10FFFF < n then .error .codePoint
  else .ok (Text.ofCodePoint n)

/-- The line ends behind the first one in a quoted scalar, blanks around them dropped. -/
def quotedBreaks : Nat → Source → Except LoadError (List Char × Source)
  | 0, _ => .error .malformed
  | fuel + 1, s =>
    if s.atSeparator then .error .malformed
    else
      let s := s.skip isSpace
      match s.peek with
      | some c => if isBreak c then prepend [breakChar c] (quotedBreaks fuel s.next) else .ok ([], s)
      | none => .ok ([], s)

def quotedPart (double : Bool) : Nat → Source → Except LoadError (List Char × Source)
  | 0, _ => .error .malformed
  | fuel + 1, s =>
    match s.rest with
    | [] => .ok ([], s)
    | c :: cs =>
      if isSpace c || isBreak c then .ok ([], s)
      else if !double && c == '\x27' then
        if cs.head? == some '\x27' then prepend ['\x27'] (quotedPart double fuel (s.drop 2))
        else .ok ([], s)
      else if double && c == '\x22' then .ok ([], s)
      else if double && c == '\\' then
        match cs with
        | [] => .error .malformed
        | d :: ds =>
          match escapes.lookup d, hexEscapes.lookup d with
          | some e, _ => prepend [e] (quotedPart double fuel (s.drop 2))
          | none, some count =>
            match hexValue? count ds with
            | none => .error .malformed
            | some n => do
              let e ← charOf n
              prepend [e] (quotedPart double fuel (s.drop (2 + count)))
          | none, none =>
            if isBreak d then do
              let (breaks, s) ← quotedBreaks (s.rest.length + 1) (s.drop 2)
              prepend breaks (quotedPart double fuel s)
            else .error .malformed
      else prepend [c] (quotedPart double fuel s.next)

def quotedGap (s : Source) : Except LoadError (List Char × Source) :=
  let blanks := s.taken isSpace
  let s := s.drop blanks.length
  match s.peek with
  | none => .error .malformed
  | some c =>
    if isBreak c then do
      let (breaks, s) ← quotedBreaks (s.rest.length + 1) s.next
      let first := if breakChar c != '\n' then [breakChar c] else if breaks.isEmpty then [' '] else []
      pure (first ++ breaks, s)
    else .ok (blanks, s)

def quotedFrom (double : Bool) : Nat → Source → Except LoadError (List Char × Source)
  | 0, _ => .error .malformed
  | fuel + 1, s => do
    let (part, s) ← quotedPart double (s.rest.length + 1) s
    if s.peek = some (if double then '\x22' else '\x27') then pure (part, s.next)
    else
      let (gap, s) ← quotedGap s
      prepend (part ++ gap) (quotedFrom double fuel s)

def readQuoted (double : Bool) (s : Source) : Except LoadError (List Char × Source) :=
  quotedFrom double (s.rest.length + 1) s.next

/-! ## Plain scalars -/

def isFlowMark (c : Char) : Bool :=
  c == ',' || c == '?' || c == '[' || c == ']' || c == '\x7b' || c == '\x7d'

def endsKey (flow : Bool) (c : Option Char) : Bool :=
  endsToken c || (flow && c.any fun d => isFlowMark d && d != '?')

def plainLength (flow : Bool) : List Char → Nat
  | [] => 0
  | c :: cs =>
    if isSpace c || isBreak c || (c == ':' && endsKey flow cs.head?) || (flow && isFlowMark c)
    then 0 else plainLength flow cs + 1

/-- The line ends behind the first one in a plain scalar; `none` when a document ends there. -/
def plainBreaks : Nat → Source → Option (List Char) × Source
  | 0, s => (none, s)
  | fuel + 1, s =>
    match s.peek with
    | none => (some [], s)
    | some c =>
      if c = ' ' then plainBreaks fuel s.next
      else if isBreak c then
        if s.next.atSeparator then (none, s.next)
        else
          let (more, t) := plainBreaks fuel s.next
          (more.map (breakChar c :: ·), t)
      else (some [], s)

/-- The blanks and line ends behind a word, and whether there was a line end. An empty gap ends
the scalar. -/
def plainGap (s : Source) : List Char × Source × Bool :=
  let blanks := s.taken (· == ' ')
  let s := s.drop blanks.length
  match s.peek with
  | none => (blanks, s, false)
  | some c =>
    if isBreak c then
      let s := s.next
      if s.atSeparator then ([], s, true)
      else
        match plainBreaks (s.rest.length + 1) s with
        | (none, s) => ([], s, true)
        | (some breaks, s) =>
          let first :=
            if breakChar c != '\n' then [breakChar c] else if breaks.isEmpty then [' '] else []
          (first ++ breaks, s, true)
    else (blanks, s, false)

/-- The words of a plain scalar behind a gap. The flag says whether a line end was passed since
the last word. -/
def plainFrom (flow : Bool) (indent : Int) : Nat → Source → List Char → Bool →
    List Char × Source × Bool
  | 0, s, _, broken => ([], s, broken)
  | fuel + 1, s, gap, broken =>
    let n := plainLength flow s.rest
    if s.peek = some '#' ∨ n = 0 then ([], s, broken)
    else
      let word := gap ++ s.rest.take n
      let (gap, s, broken) := plainGap (s.drop n)
      if gap.isEmpty || s.peek == some '#' || (!flow && s.column < indent) then (word, s, broken)
      else
        let (more, s, broken) := plainFrom flow indent fuel s gap broken
        (word ++ more, s, broken)

/-- Reads a plain scalar; the lines behind the first one are indented by `indent` at least. -/
def readPlain (flow : Bool) (indent : Int) (s : Source) : List Char × Source × Bool :=
  plainFrom flow indent (s.rest.length + 1) s [] false

/-! ## Block scalars -/

/-- What happens to the line ends behind a block. -/
inductive Chomping
  | strip
  | clip
  | keep
  deriving DecidableEq, Repr

def readIncrement (s : Source) : Except LoadError (Option Nat × Source) :=
  match s.peek with
  | some c =>
    if c = '0' then .error .malformed
    else if Text.isAsciiDigit c then .ok (some (c.toNat - 48), s.next)
    else .ok (none, s)
  | none => .ok (none, s)

def readChomping (s : Source) : Option Chomping × Source :=
  match s.peek with
  | some '+' => (some .keep, s.next)
  | some '-' => (some .strip, s.next)
  | _ => (none, s)

def readIndicators (s : Source) : Except LoadError (Chomping × Option Nat × Source) := do
  let (first, s) := readChomping s
  let (increment, s) ← readIncrement s
  let (chomping, s) := match first with
    | some chomping => (some chomping, s)
    | none => if increment.isSome then readChomping s else (none, s)
  if endsWord s.peek then pure (chomping.getD .clip, increment, s) else .error .malformed

def skipComment (s : Source) : Except LoadError Source :=
  let s := s.skipBlanks
  let s := if s.peek = some '#' then s.skipLine else s
  if endsLine s.peek then .ok s.skipBreak else .error .malformed

/-- The empty lines in front of a block and the deepest indentation among them. -/
def blockStart : Nat → Source → Nat → List Char × Nat × Source
  | 0, s, deepest => ([], deepest, s)
  | fuel + 1, s, deepest =>
    match s.peek with
    | none => ([], deepest, s)
    | some c =>
      if c = ' ' then blockStart fuel s.next (max deepest s.next.column)
      else if isBreak c then
        let (breaks, deepest, s) := blockStart fuel s.next deepest
        (breakChar c :: breaks, deepest, s)
      else ([], deepest, s)

def skipIndent (indent : Nat) (s : Source) : Source :=
  s.drop (min (s.taken (· == ' ')).length (indent - s.column))

def blockBreaks (indent : Nat) : Nat → Source → List Char × Source
  | 0, s => ([], s)
  | fuel + 1, s =>
    let s := skipIndent indent s
    match s.peek with
    | some c =>
      if isBreak c then
        let (breaks, s) := blockBreaks indent fuel s.next
        (breakChar c :: breaks, s)
      else ([], s)
    | none => ([], s)

def blockLines (folded : Bool) (indent : Nat) : Nat → Source →
    List Char × Option Char × List Char × Source
  | 0, s => ([], none, [], s)
  | fuel + 1, s =>
    let startsWithSpace := s.peek.any isSpace
    let line := s.taken fun c => !isBreak c
    let s := s.drop line.length
    let lineEnd := s.peek.map breakChar
    let (breaks, s) := blockBreaks indent (s.rest.length + 1) s.skipBreak
    if s.column = indent ∧ s.peek.isSome then
      let fold := folded && lineEnd == some '\n' && !startsWithSpace && !s.peek.any isSpace
      let joint :=
        if fold then (if breaks.isEmpty then [' '] else []) else lineEnd.toList
      let (more, last, trailing, s) := blockLines folded indent fuel s
      (line ++ joint ++ breaks ++ more, last, trailing, s)
    else (line, lineEnd, breaks, s)

/-- Reads a block scalar at its sign; `indent` is the indentation of what holds the block. -/
def readBlock (folded : Bool) (indent : Int) (s : Source) :
    Except LoadError (List Char × Source) := do
  let (chomping, increment, s) ← readIndicators s.next
  let s ← skipComment s
  let least := (max (indent + 1) 1).toNat
  let fuel := s.rest.length + 1
  let (breaks, indent, s) := match increment with
    | some n =>
      let indent := least + n - 1
      let (breaks, s) := blockBreaks indent fuel s
      (breaks, indent, s)
    | none =>
      let (breaks, deepest, s) := blockStart fuel s 0
      (breaks, max least deepest, s)
  let (text, last, trailing, s) :=
    if s.column = indent ∧ s.peek.isSome then
      let (text, last, trailing, s) := blockLines folded indent fuel s
      (breaks ++ text, last, trailing, s)
    else ([], none, breaks, s)
  pure (text ++ (if chomping = .strip then [] else last.toList) ++
    (if chomping = .keep then trailing else []), s)

end Traceability.Yaml
