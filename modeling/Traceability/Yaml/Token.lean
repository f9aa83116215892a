import Traceability.Text.Utf8
import Traceability.Text.Word
import Traceability.Yaml.ScalarText

/-! # The tokens of a document

Indentation opens and closes collections, so tokens stand for it. A key is only known to be one
when its colon comes, and its token is then put in front of it; keys without a mark of their own
are on one line and no longer than 1024 characters.
-/
namespace Traceability.Yaml

inductive Directive
  | version (major : Nat)
  | tagHandle (handle lead : String)
  | other
  deriving DecidableEq, Repr

/-- A token. A failure stands at the end of the tokens of a text that cannot be read on. -/
inductive Token
  | directive (d : Directive)
  | documentStart
  | documentEnd
  | streamEnd
  | blockSequenceStart
  | blockMappingStart
  | blockEnd
  | flowSequenceStart
  | flowSequenceEnd
  | flowMappingStart
  | flowMappingEnd
  | blockEntry
  | flowEntry
  | key
  | value
  | alias (name : String)
  | anchor (name : String)
  | tag (handle : Option String) (suffix : String)
  | scalar (text : String) (plain : Bool)
  | failure (e : LoadError)
  deriving DecidableEq, Repr

/-- A place where a key without a mark may have begun. -/
structure KeyCandidate where
  level : Nat
  token : Nat
  required : Bool
  index : Nat
  line : Nat
  column : Nat
  deriving DecidableEq, Repr

/-- The state of reading: the tokens so far, last one first, their number, and the open
collections. -/
structure Lexer where
  source : Source
  tokens : List Token := []
  count : Nat := 0
  count_eq : count = tokens.length := by rfl
  level : Nat := 0
  indent : Int := -1
  indents : List Int := []
  keyAllowed : Bool := true
  candidates : List KeyCandidate := []

namespace Lexer

def emit (l : Lexer) (t : Token) : Lexer :=
  { l with
    tokens := t :: l.tokens
    count := l.count + 1
    count_eq := by simp [l.count_eq] }

def emitAt (l : Lexer) (number : Nat) (t : Token) : Lexer :=
  let behind := l.count - number
  { l with
    tokens := l.tokens.take behind ++ t :: l.tokens.drop behind
    count := l.count + 1
    count_eq := by simp only [List.length_append, List.length_take, List.length_cons,
                      List.length_drop, l.count_eq]; omega }

def candidate? (l : Lexer) : Option KeyCandidate :=
  l.candidates.find? fun k => k.level == l.level

def dropCandidate (l : Lexer) : Lexer :=
  { l with candidates := l.candidates.filter fun k => k.level != l.level }

/-- Give up the candidate of the innermost collection, unless it has to be a key. -/
def giveUpCandidate (l : Lexer) : Except LoadError Lexer :=
  if l.candidate?.any (·.required) then .error .malformed else .ok l.dropCandidate

def noteCandidate (l : Lexer) : Except LoadError Lexer :=
  if l.keyAllowed then do
    let l ← l.giveUpCandidate
    let s := l.source
    let k : KeyCandidate :=
      ⟨l.level, l.count, l.level == 0 && l.indent == s.column, s.index, s.line, s.column⟩
    pure { l with candidates := k :: l.candidates }
  else .ok l

def dropStale (l : Lexer) : Except LoadError Lexer :=
  let stale (k : KeyCandidate) : Bool :=
    k.line != l.source.line || k.index + 1024 < l.source.index
  if l.candidates.any fun k => stale k && k.required then .error .malformed
  else .ok { l with candidates := l.candidates.filter fun k => !stale k }

def closeDeeper (column : Int) : List Int → Lexer → Lexer
  | [], l => l
  | outer :: rest, l =>
    if l.indent ≤ column then l
    else closeDeeper column rest ({ l with indent := outer, indents := rest }.emit .blockEnd)

/-- Close the collections that a column leaves; brackets are not closed by indentation. -/
def unwind (l : Lexer) (column : Int) : Lexer :=
  if l.level = 0 then closeDeeper column l.indents l else l

/-- Open a collection at a column, if it is indented deeper than the last one. -/
def openAt (l : Lexer) (column number : Nat) (t : Token) : Lexer :=
  if l.indent < column then
    { l with indents := l.indent :: l.indents, indent := column }.emitAt number t
  else l

def skipToToken : Nat → Lexer → Lexer
  | 0, l => l
  | fuel + 1, l =>
    let s := l.source.skipBlanks
    let s := if s.peek = some '#' then s.skipLine else s
    if s.peek.any isBreak then
      skipToToken fuel
        { l with source := s.next, keyAllowed := l.keyAllowed || l.level == 0 }
    else { l with source := s }

def sign (l : Lexer) (length : Nat) (t : Token) : Lexer :=
  { l with source := l.source.drop length }.emit t

/-! ## Names, tags and directives -/

def isNameChar (c : Char) : Bool :=
  Text.isAsciiLetter c || Text.isAsciiDigit c || c == '-' || c == '_'

def readName (s : Source) (stops : Option Char → Bool) : Except LoadError (String × Source) :=
  let name := s.taken isNameChar
  let s := s.drop name.length
  if !name.isEmpty && stops s.peek then .ok (String.ofList name, s) else .error .malformed

def endsAnchor (c : Option Char) : Bool :=
  endsToken c || c.any fun d =>
    d == '?' || d == ':' || d == ',' || d == ']' || d == '\x7d' || d == '%' || d == '@' ||
      d == '\x60'

def escapedBytes : Nat → Source → Except LoadError (List UInt8 × Source)
  | 0, s => .ok ([], s)
  | fuel + 1, s =>
    if s.peek = some '%' then
      match hexValue? 2 (s.rest.drop 1) with
      | some n => (escapedBytes fuel (s.drop 3)).map fun (bs, s) => (UInt8.ofNat n :: bs, s)
      | none => .error .malformed
    else .ok ([], s)

def isTagChar (c : Char) : Bool :=
  Text.isAsciiLetter c || Text.isAsciiDigit c ||
    ['-', ';', '/', '?', ':', '@', '&', '=', '+', '$', ',', '_', '.', '!', '~', '*', '\x27', '(',
      ')', '[', ']'].contains c

def tagFrom : Nat → Source → Except LoadError (List Char × Source)
  | 0, s => .ok ([], s)
  | fuel + 1, s =>
    match s.peek with
    | none => .ok ([], s)
    | some c =>
      if c = '%' then do
        let (bytes, s) ← escapedBytes (s.rest.length + 1) s
        match Text.decodeUtf8 bytes with
        | .ok text => prepend text (tagFrom fuel s)
        | .error _ => .error .malformed
      else if isTagChar c then prepend [c] (tagFrom fuel s.next)
      else .ok ([], s)

def readTagText (s : Source) : Except LoadError (String × Source) := do
  let (text, t) ← tagFrom (s.rest.length + 1) s
  if t.index = s.index then .error .malformed else pure (String.ofList text, t)

/-- The handle of a tag: one exclamation mark, or a name between two. -/
def readHandle (s : Source) : Except LoadError (String × Source) :=
  if s.peek = some '!' then
    if s.peekAt 1 = some ' ' then .ok ("!", s.next)
    else
      let name := s.next.taken isNameChar
      if s.peekAt (name.length + 1) = some '!' then
        .ok (String.ofList ('!' :: (name ++ ['!'])), s.drop (name.length + 2))
      else .error .malformed
  else .error .malformed

def readTag (s : Source) : Except LoadError (Token × Source) := do
  let (t, s) ← (do
    if s.peekAt 1 = some '<' then
      let (suffix, s) ← readTagText (s.drop 2)
      if s.peek = some '>' then pure (Token.tag none suffix, s.next) else .error .malformed
    else if endsToken (s.peekAt 1) then pure (Token.tag none "!", s.next)
    else
      let word := s.next.taken fun c => !(c == ' ' || isBreak c)
      let (handle, s) ← if word.contains '!' then readHandle s else pure ("!", s.next)
      let (suffix, s) ← readTagText s
      pure (Token.tag (some handle) suffix, s))
  if endsWord s.peek then pure (t, s) else .error .malformed

def readDigits (s : Source) : Except LoadError (Nat × Source) :=
  let digits := s.taken Text.isAsciiDigit
  if digits.isEmpty then .error .malformed
  else .ok (Number.ofDigits 10 (digits.map (·.toNat - 48)), s.drop digits.length)

def readVersion (s : Source) : Except LoadError (Directive × Source) := do
  let (major, s) ← readDigits s.skipBlanks
  if s.peek = some '.' then
    let (_, s) ← readDigits s.next
    if endsWord s.peek then pure (.version major, s) else .error .malformed
  else .error .malformed

def readTagHandle (s : Source) : Except LoadError (Directive × Source) := do
  let (handle, s) ← readHandle s.skipBlanks
  if s.peek = some ' ' then
    let (lead, s) ← readTagText s.skipBlanks
    if endsWord s.peek then pure (.tagHandle handle lead, s) else .error .malformed
  else .error .malformed

def readDirective (s : Source) : Except LoadError (Token × Source) := do
  let (name, s) ← readName s.next endsWord
  let (d, s) ←
    if name = "YAML" then readVersion s
    else if name = "TAG" then readTagHandle s
    else pure (.other, s.skipLine)
  let s ← skipComment s
  pure (.directive d, s)

/-! ## Steps -/

/-- A directive or a line that separates documents ends every collection. -/
def leaveDocument (l : Lexer) : Except LoadError Lexer := do
  let l ← (l.unwind (-1)).giveUpCandidate
  pure { l with keyAllowed := false }

def openBracket (l : Lexer) (t : Token) : Except LoadError Lexer := do
  let l ← l.noteCandidate
  pure ({ l with level := l.level + 1, keyAllowed := true }.sign 1 t)

def closeBracket (l : Lexer) (t : Token) : Except LoadError Lexer := do
  let l ← l.giveUpCandidate
  pure ({ l with level := l.level - 1, keyAllowed := false }.sign 1 t)

/-- A dash or a question mark opens a collection outside brackets. -/
def openBlock (l : Lexer) (t : Token) : Except LoadError Lexer :=
  if l.level = 0 then
    if l.keyAllowed then .ok (l.openAt l.source.column l.count t) else .error .malformed
  else .ok l

def entryMark (l : Lexer) : Except LoadError Lexer := do
  let l ← l.openBlock .blockSequenceStart
  let l ← { l with keyAllowed := true }.giveUpCandidate
  pure (l.sign 1 .blockEntry)

def keyMark (l : Lexer) : Except LoadError Lexer := do
  let l ← l.openBlock .blockMappingStart
  let l ← { l with keyAllowed := l.level == 0 }.giveUpCandidate
  pure (l.sign 1 .key)

def valueMark (l : Lexer) : Except LoadError Lexer := do
  match l.candidate? with
  | some k =>
    let l := l.dropCandidate.emitAt k.token .key
    let l := if l.level = 0 then l.openAt k.column k.token .blockMappingStart else l
    pure ({ l with keyAllowed := false }.sign 1 .value)
  | none =>
    let l ← l.openBlock .blockMappingStart
    pure ({ l with keyAllowed := l.level == 0 }.sign 1 .value)

def content (l : Lexer) (read : Source → Except LoadError (Token × Source)) :
    Except LoadError Lexer := do
  let l ← l.noteCandidate
  let (t, s) ← read l.source
  pure ({ l with source := s, keyAllowed := false }.emit t)

def plainScalar (l : Lexer) : Except LoadError Lexer := do
  let l ← l.noteCandidate
  let (text, s, broken) := readPlain (l.level != 0) (l.indent + 1) l.source
  pure ({ l with source := s, keyAllowed := broken }.emit (.scalar (String.ofList text) true))

def blockScalar (l : Lexer) (folded : Bool) : Except LoadError Lexer := do
  let l ← { l with keyAllowed := true }.giveUpCandidate
  let (text, s) ← readBlock folded l.indent l.source
  pure ({ l with source := s }.emit (.scalar (String.ofList text) false))

def finish (l : Lexer) : Except LoadError Lexer := do
  let l ← (l.unwind (-1)).giveUpCandidate
  pure (l.emit .streamEnd)

def beginsPlain (flow : Bool) (c : Char) (next : Option Char) : Bool :=
  !(isSpace c || isBreak c ||
    ['-', '?', ':', ',', '[', ']', '\x7b', '\x7d', '#', '&', '*', '!', '|', '>', '\x27', '\x22',
      '%', '@', '\x60'].contains c) ||
  (!endsToken next && (c == '-' || (!flow && (c == '?' || c == ':'))))

def step (l : Lexer) (c : Char) : Except LoadError Lexer :=
  let s := l.source
  let next := s.peekAt 1
  let flow := l.level != 0
  let anchorName (make : String → Token) (s : Source) : Except LoadError (Token × Source) :=
    (readName s.next endsAnchor).map fun (name, s) => (make name, s)
  let quoted (double : Bool) (s : Source) : Except LoadError (Token × Source) :=
    (readQuoted double s).map fun (text, s) => (.scalar (String.ofList text) false, s)
  if c == '%' && s.column == 0 then do
    let l ← l.leaveDocument
    let (t, s) ← readDirective l.source
    pure ({ l with source := s }.emit t)
  else if s.column == 0 && s.atMarker '-' then (l.leaveDocument).map (·.sign 3 .documentStart)
  else if s.column == 0 && s.atMarker '.' then (l.leaveDocument).map (·.sign 3 .documentEnd)
  else if c == '[' then l.openBracket .flowSequenceStart
  else if c == '\x7b' then l.openBracket .flowMappingStart
  else if c == ']' then l.closeBracket .flowSequenceEnd
  else if c == '\x7d' then l.closeBracket .flowMappingEnd
  else if c == ',' then do
    let l ← { l with keyAllowed := true }.giveUpCandidate
    pure (l.sign 1 .flowEntry)
  else if c == '-' && endsToken next then l.entryMark
  else if c == '?' && (flow || endsToken next) then l.keyMark
  else if c == ':' && (flow || endsToken next) then l.valueMark
  else if c == '*' then l.content (anchorName .alias)
  else if c == '&' then l.content (anchorName .anchor)
  else if c == '!' then l.content readTag
  else if c == '|' && !flow then l.blockScalar false
  else if c == '>' && !flow then l.blockScalar true
  else if c == '\x27' then l.content (quoted false)
  else if c == '\x22' then l.content (quoted true)
  else if beginsPlain flow c next then l.plainScalar
  else .error .malformed

def run : Nat → Lexer → List Token
  | 0, l => .failure .malformed :: l.tokens
  | fuel + 1, l =>
    match (skipToToken (l.source.rest.length + 1) l).dropStale with
    | .error e => .failure e :: l.tokens
    | .ok l =>
      let l := l.unwind l.source.column
      match l.source.peek with
      | none =>
        match l.finish with
        | .ok l => l.tokens
        | .error e => .failure e :: l.tokens
      | some c =>
        match l.step c with
        | .ok l => run fuel l
        | .error e => .failure e :: l.tokens

end Lexer

def reversedTokens (cs : List Char) : List Token :=
  if cs.all isAllowed then
    let s : Source := ⟨cs, 0, 0, 0⟩
    let s := if s.peek = some byteOrderMark then s.next else s
    Lexer.run (cs.length + 2) { source := s }
  else [.failure .malformed]

def Token.ofText (cs : List Char) : List Token := (reversedTokens cs).reverse

/-- The tokens of the whole lines of a text that cannot be read on. -/
def Token.ofStart (e : LoadError) (cs : List Char) : List Token :=
  match reversedTokens (Text.dropTrailingWhere (fun c => !isBreak c) cs) with
  | .streamEnd :: ts => (.failure e :: ts).reverse
  | ts => ts.reverse

end Traceability.Yaml
