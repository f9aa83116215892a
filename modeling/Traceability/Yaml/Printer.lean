import Traceability.Base64
import Traceability.Value.Literal
import Traceability.Yaml.Page
import Traceability.Yaml.Style

/-! # Writing documents

Collections are written as blocks with an indent of two; a sequence under a key keeps the key's
indentation. Empty collections are written as brackets. A key that is long, empty or has several
lines gets a mark of its own. A labelled value that occurs again is written once, with an anchor,
and is referred to by an alias from then on.
-/
namespace Traceability.Yaml

open Text Number

/-- A part of a scalar: a word, a run of blanks or a run of line ends. -/
inductive Piece
  | word (cs : List Char)
  | blanks (count : Nat)
  | breaks (cs : List Char)
  deriving DecidableEq, Repr

def consPiece (c : Char) (pieces : List Piece) : List Piece :=
  if c = ' ' then
    match pieces with
    | .blanks n :: rest => .blanks (n + 1) :: rest
    | ps => .blanks 1 :: ps
  else if isLineEnd c then
    match pieces with
    | .breaks cs :: rest => .breaks (c :: cs) :: rest
    | ps => .breaks [c] :: ps
  else
    match pieces with
    | .word cs :: rest => .word (c :: cs) :: rest
    | ps => .word [c] :: ps

def piecesOf (cs : List Char) : List Piece := cs.foldr consPiece []

/-- Blanks between words; a single one gives way to a line end behind the fold column. -/
def putBlanks (p : Page) (count indent : Nat) (mayFold : Bool) : Page :=
  if mayFold && count == 1 && Page.foldColumn < p.column then p.indentTo indent
  else p.put (List.replicate count ' ')

def putPlain (split : Bool) (indent : Nat) (p : Page) : List Piece → Page
  | [] => p
  | .blanks n :: rest =>
    let q := putBlanks p n indent split
    putPlain split indent (if split && n == 1 && Page.foldColumn < p.column then q.pastMargin else q)
      rest
  | .word cs :: rest => putPlain split indent (p.put cs) rest
  | .breaks cs :: rest => putPlain split indent (p.put cs) rest

def writePlain (split : Bool) (indent : Nat) (p : Page) (cs : List Char) : Page :=
  let p := (if p.behindBlank then p else p.put [' ']).pastMargin
  putPlain split indent p (piecesOf cs)

/-- Line ends inside single quotes: a line feed at the start of a run is written twice. -/
def putBreaks (p : Page) (indent : Nat) (cs : List Char) : Page :=
  let p := if cs.head? = some '\n' then p.endLine '\n' else p
  (cs.foldl Page.endLine p).indentTo indent

/-- Write the pieces of a single-quoted scalar; blanks at its ends are never folded. -/
def putSingleQuoted (split : Bool) (indent : Nat) (p : Page) (first : Bool) : List Piece → Page
  | [] => p
  | .blanks n :: rest =>
    putSingleQuoted split indent (putBlanks p n indent (split && !first && !rest.isEmpty)) false rest
  | .breaks cs :: rest => putSingleQuoted split indent (putBreaks p indent cs) false rest
  | .word cs :: rest =>
    let doubled := cs.flatMap fun c => if c = '\x27' then [c, c] else [c]
    putSingleQuoted split indent (p.put doubled) false rest

def writeSingleQuoted (split : Bool) (indent : Nat) (p : Page) (cs : List Char) : Page :=
  (putSingleQuoted split indent (p.sign ['\x27'] true false) true (piecesOf cs)).sign
    ['\x27'] false false

def letterEscapes : List (Char × Char) := [
  ('\x00', '0'), ('\x07', 'a'), ('\x08', 'b'), ('\t', 't'), ('\n', 'n'), ('\x0b', 'v'),
  ('\x0c', 'f'), ('\r', 'r'), ('\x1b', 'e'), ('\x22', '\x22'), ('\\', '\\'), ('\x85', 'N'),
  ('\xa0', '_'), ('\u2028', 'L'), ('\u2029', 'P')]

def isEscaped (c : Char) : Bool :=
  let n := codePoint c
  c == '\x22' || c == '\\' || n == 0x85 || n == 0x2028 || n == 0x2029 || n == 0xFEFF ||
    !((0x20 ≤ n && n ≤ 0x7E) || (0xA0 ≤ n && n ≤ 0xD7FF) || (0xE000 ≤ n && n ≤ 0xFFFD))

def upperHex (width n : Nat) : List Char := (hexPadded width n).map Char.toUpper

def escapeOf (c : Char) : List Char :=
  match letterEscapes.lookup c with
  | some d => ['\\', d]
  | none =>
    let n := codePoint c
    if n ≤ 0xFF then '\\' :: 'x' :: upperHex 2 n
    else if n ≤ 0xFFFF then '\\' :: 'u' :: upperHex 4 n
    else '\\' :: 'U' :: upperHex 8 n

/-- Fold inside double quotes; a blank at the start of the next line is escaped. -/
def foldQuoted (p : Page) (indent : Nat) (next : Option Char) : Page :=
  let p := ((p.put ['\\']).indentTo indent).pastMargin
  if next = some ' ' then p.put ['\\'] else p

/-- Write the characters of a double-quoted scalar. Lines are folded at blanks and behind
escapes, but not at the first or the last character. -/
def putDoubleQuoted (split : Bool) (indent : Nat) (p : Page) (first behindEscape : Bool) :
    List Char → Page
  | [] => p
  | c :: cs =>
    let inside := split && !first && !cs.isEmpty
    if isEscaped c then
      let p := p.put (escapeOf c)
      let p := if inside && Page.foldColumn + 1 < p.column then foldQuoted p indent cs.head? else p
      putDoubleQuoted split indent p false true cs
    else
      let fold := inside && (c == ' ' || behindEscape) && Page.foldColumn < p.column
      let p := if fold then foldQuoted p indent (some c) else p
      putDoubleQuoted split indent (p.put [c]) false false cs

def writeDoubleQuoted (split : Bool) (indent : Nat) (p : Page) (cs : List Char) : Page :=
  (putDoubleQuoted split indent (p.sign ['\x22'] true false) true false cs).sign ['\x22'] false false

def writeLiteral (indent : Nat) (p : Page) (cs : List Char) : Page :=
  let ls := (splitAt '\n' cs).filter fun l => !l.isEmpty
  ls.foldl (fun p l => ((p.indentTo indent).put l).endLine '\n')
    ((p.sign ['|'] true false).endLine '\n')

/-! ## Scalars -/

structure ScalarForm where
  tag : String
  name : String
  text : String
  preferBlock : Bool := false
  deriving DecidableEq, Repr

/-- The text of a floating-point number: one in scientific notation has a point. -/
def floatText : Binary64 → String
  | .nan => ".nan"
  | .infinite negative => if negative then "-.inf" else ".inf"
  | x =>
    let cs := x.toText.toList
    if cs.contains '.' then String.ofList cs
    else String.ofList (cs.flatMap fun c => if c = 'e' then ['.', '0', 'e'] else [c])

/-- Lines of at most 76 characters, each with a line end. -/
def bytesLines : Nat → List Char → List Char
  | 0, _ => []
  | _, [] => []
  | fuel + 1, cs => cs.take 76 ++ '\n' :: bytesLines fuel (cs.drop 76)

def formOf : Scalar → ScalarForm
  | .null => ⟨nullTag, "!!null", "null", false⟩
  | .bool b => ⟨boolTag, "!!bool", if b then "true" else "false", false⟩
  | .int n => ⟨intTag, "!!int", toString n, false⟩
  | .float x _ => ⟨floatTag, "!!float", floatText x, false⟩
  | .text s => ⟨textTag, "!!str", s, false⟩
  | .bytes bs =>
    let cs := Base64.encode bs
    ⟨coreTag "binary", "!!binary", String.ofList (bytesLines cs.length cs), true⟩
  | .date d _ => ⟨timestampTag, "!!timestamp", d.toText, false⟩
  | .moment m _ => ⟨timestampTag, "!!timestamp", m.toText ' ', false⟩

/-- Write a scalar. The tag is written when the style does not imply it. -/
def writeScalar (p : Page) (indent : Nat) (asKey : Bool) (s : Scalar) : Page :=
  let form := formOf s
  let style := styleOf form.tag form.text asKey form.preferBlock
  let implied := style = .plain || form.tag == textTag
  let p := if implied then p else p.sign form.name.toList true false
  let cs := form.text.toList
  match style with
  | .plain => writePlain (!asKey) indent p cs
  | .singleQuoted => writeSingleQuoted (!asKey) indent p cs
  | .doubleQuoted => writeDoubleQuoted (!asKey) indent p cs
  | .literal => writeLiteral indent p cs

def isSimpleKey (s : Scalar) : Bool :=
  let form := formOf s
  let cs := form.text.toList
  form.name.length + cs.length < 128 && !cs.isEmpty && !isMultiline cs

/-! ## Anchors -/

def labelOf? : Scalar → Option Label
  | .date _ label => label
  | .moment _ label => label
  | _ => none

/-- The labels that were met, the numbers of those that were met again, and whether all integers
met can be written. -/
structure Roll where
  met : List Label := []
  numbers : List (Label × Nat) := []
  writable : Bool := true

namespace Roll

def number (r : Roll) (label : Label) : Roll :=
  if (r.numbers.lookup label).isSome then r
  else { r with numbers := r.numbers ++ [(label, r.numbers.length + 1)] }

def callScalar (r : Roll) (s : Scalar) : Roll :=
  match labelOf? s with
  | none => { r with writable := r.writable && s.isWritable }
  | some l => if r.met.contains l then r.number l else { r with met := l :: r.met }

mutual

def call (r : Roll) : Value → Roll
  | .scalar s => r.callScalar s
  | .list items => callItems r items
  | .pair a b => call (call r a) b
  | .map entries => callEntries r entries
  | .set members => members.foldl callScalar r
  | .shared l v => if r.met.contains l then r.number l else call { r with met := l :: r.met } v
  | .loop l v => if r.met.contains l then r.number l else call { r with met := l :: r.met } v
  | .again l => r.number l

def callItems (r : Roll) : List Value → Roll
  | [] => r
  | v :: vs => callItems (call r v) vs

def callEntries (r : Roll) : List (Scalar × Value) → Roll
  | [] => r
  | (k, v) :: rest => callEntries (call (r.callScalar k) v) rest

end

end Roll

/-- A page, the numbers of anchors, and the labels of the values that stand on the page. -/
structure Draft where
  page : Page := {}
  numbers : List (Label × Nat) := []
  placed : List Label := []

namespace Draft

def onPage (d : Draft) (change : Page → Page) : Draft := { d with page := change d.page }

def anchorName (number : Nat) : List Char := 'i' :: 'd' :: (padded 3 number).toList

/-- Write an anchor in front of a value that occurs again, or the alias of one that stands on the
page already. Says whether the value itself has to be written. -/
def mark (d : Draft) (label : Label) : Draft × Bool :=
  match d.numbers.lookup label with
  | none => (d, true)
  | some number =>
    if d.placed.contains label then
      (d.onPage fun p => p.sign ('*' :: anchorName number) true false, false)
    else
      ({ d with
          page := d.page.sign ('&' :: anchorName number) true false
          placed := label :: d.placed }, true)

def scalar (d : Draft) (indent : Nat) (asKey : Bool) (s : Scalar) : Draft :=
  match labelOf? s with
  | none => d.onPage fun p => writeScalar p indent asKey s
  | some l =>
    let (d, isNew) := d.mark l
    if isNew then d.onPage fun p => writeScalar p indent asKey s else d

/-! ## Collections -/

def beginItem (d : Draft) (indent : Nat) : Draft :=
  d.onPage fun p => (p.indentTo indent).sign ['-'] true true

def beginEntry (d : Draft) (indent : Nat) (k : Scalar) : Draft :=
  let d := d.onPage fun p => p.indentTo indent
  if isSimpleKey k then (d.scalar (indent + 2) true k).onPage fun p => p.sign [':'] false false
  else
    let d := (d.onPage fun p => p.sign ['?'] true true).scalar (indent + 2) false k
    d.onPage fun p => (p.indentTo indent).sign [':'] true true

def itemIndent (d : Draft) (indent : Nat) (underKey : Bool) : Nat :=
  if underKey && !d.page.inMargin then indent else indent + 2

def members (d : Draft) (indent : Nat) (ms : List Scalar) : Draft :=
  ms.foldl (fun d m => (d.beginEntry indent m).scalar (indent + 2) false .null) d

def emptyMapping (d : Draft) : Draft := d.onPage fun p => p.sign ['\x7b', '\x7d'] true false

mutual

def value (d : Draft) (indent : Nat) (underKey : Bool) : Value → Draft
  | .scalar s => d.scalar (indent + 2) false s
  | .list its =>
    if its.isEmpty then d.onPage fun p => p.sign ['[', ']'] true false
    else items d (d.itemIndent indent underKey) its
  | .pair a b =>
    let indent := d.itemIndent indent underKey
    let d := value (d.beginItem indent) indent false a
    value (d.beginItem indent) indent false b
  | .map es => if es.isEmpty then d.emptyMapping else entries d (indent + 2) es
  | .set ms =>
    let d := d.onPage fun p => p.sign ['!', '!', 's', 'e', 't'] true false
    if ms.isEmpty then d.emptyMapping else d.members (indent + 2) ms
  | .shared l v =>
    let (d, isNew) := d.mark l
    if isNew then value d indent underKey v else d
  | .loop l v =>
    let (d, isNew) := d.mark l
    if isNew then value d indent underKey v else d
  | .again l => (d.mark l).1

def items (d : Draft) (indent : Nat) : List Value → Draft
  | [] => d
  | v :: vs => items (value (d.beginItem indent) indent false v) indent vs

def entries (d : Draft) (indent : Nat) : List (Scalar × Value) → Draft
  | [] => d
  | (k, v) :: rest => entries (value (d.beginEntry indent k) indent true v) indent rest

end

end Draft

def dump (entries : Entries) : Except IntegerError String :=
  let roll := Roll.callEntries {} entries
  if !roll.writable then .error .tooLarge
  else
    match entries with
    | [] => .ok "\x7b\x7d\n"
    | entries =>
      let d := Draft.entries { numbers := roll.numbers } 0 entries
      .ok (d.page.indentTo 0).text

end Traceability.Yaml
