import Traceability.Base64
import Traceability.Text.Intake
import Traceability.Value.Basic
import Traceability.Yaml.Node

/-! # The value of a document

Scalars become values by their tags. Collections are filled generation by generation from the
root, so of several errors the one nearest to the root is reported, and the first one among those.
A mapping may take over the entries of other mappings; its own entries win. A node that aliases
name has one value, whose label is the node's number.
-/
namespace Traceability.Yaml

open Number Text

def withoutMarks (cs : List Char) : List Char := cs.filter (· != '_')

def signed (cs : List Char) : Except LoadError (Bool × List Char) :=
  match cs with
  | [] => .error .emptyNumber
  | '-' :: rest => .ok (true, rest)
  | '+' :: rest => .ok (false, rest)
  | _ => .ok (false, cs)

def ofSixtieths (parts : List Int) : Int := parts.foldl (fun n d => n * 60 + d) 0

def readIn (base : Nat) (cs : List Char) : Except LoadError Int :=
  (readInteger base (String.ofList cs)).mapError .integer

def integerOf (cs : List Char) : Except LoadError Int := do
  let (negative, body) ← signed (withoutMarks cs)
  let n ← match body with
    | ['0'] => pure 0
    | '0' :: 'b' :: rest => readIn 2 rest
    | '0' :: 'x' :: rest => readIn 16 rest
    | '0' :: _ => readIn 8 body
    | [] => .error .emptyNumber
    | _ =>
      if body.contains ':' then (splitAt ':' body).mapM (readIn 10) |>.map ofSixtieths
      else readIn 10 body
  pure (if negative then -n else n)

def readFloat (cs : List Char) : Except LoadError Binary64 :=
  match Binary64.ofText? (String.ofList cs) with
  | some x => .ok x
  | none => .error (.float (String.ofList cs))

/-- The number with the given parts in base sixty, the last one first. -/
def sumSixtieths (weight : Nat) (sum : Binary64) : List Binary64 → Except LoadError Binary64
  | [] => .ok sum
  | part :: rest =>
    match Binary64.ofNat? weight with
    | some w => sumSixtieths (weight * 60) (sum.add (part.mul w)) rest
    | none => .error .hugeWeight

def floatOf (cs : List Char) : Except LoadError Binary64 := do
  let (negative, body) ← signed (lower (withoutMarks cs))
  let x ←
    if body = ['.', 'i', 'n', 'f'] then pure (.infinite false)
    else if body = ['.', 'n', 'a', 'n'] then pure .nan
    else if body.contains ':' then do
      let parts ← (splitAt ':' body).mapM readFloat
      sumSixtieths 1 (.zero false) parts.reverse
    else readFloat body
  pure (if negative then x.negate else x)

/-- The label of the undefined number with a name of its own, which is the same wherever the name
stands. -/
def namedNanLabel : Label := 0

def nanLabel (number : Nat) (cs : List Char) : Label :=
  if (lower (withoutMarks cs)).dropWhile (fun c => c == '-' || c == '+') = ['.', 'n', 'a', 'n'] then
    namedNanLabel
  else number + 1

def truthOf (cs : List Char) : Except LoadError Bool :=
  let word := String.ofList (lower cs)
  match truthWords.lookup word with
  | some b => .ok b
  | none => .error (.truth word)

def digitsOf (cs : List Char) : Nat := ofDigits 10 (cs.map (·.toNat - 48))

def offsetOf (t : TimestampText) : Except CalendarError (Option Int) :=
  match t.zoneSign with
  | some sign => (zoneOffset (sign == '-') (digitsOf t.zoneHour) (digitsOf t.zoneMinute)).map some
  | none => .ok (if t.universal then some 0 else none)

def timestampOf (cs : List Char) : Except LoadError Scalar :=
  match readTimestampText (dropFinalNewline cs) with
  | none => .error .noMoment
  | some t =>
    let year := digitsOf t.year
    let month := digitsOf t.month
    let day := digitsOf t.day
    let built : Except CalendarError Scalar :=
      if t.hour.isEmpty then (Date.ofParts year month day).map fun d => .date d
      else do
        let fraction := digitsOf ((t.fraction ++ List.replicate 6 '0').take 6)
        let offset ← offsetOf t
        let m ← Moment.ofParts year month day (digitsOf t.hour) (digitsOf t.minute)
          (digitsOf t.second) fraction offset
        pure (.moment m)
    built.mapError .calendar

def bytesOf (cs : List Char) : Except LoadError (List UInt8) :=
  if cs.all fun c => c.toNat < 128 then
    match Base64.decode cs with
    | some bytes => .ok bytes
    | none => .error .malformed
  else .error .malformed

def scalarTags : List String :=
  [textTag, nullTag, boolTag, intTag, floatTag, timestampTag, coreTag "binary"]

def scalarOf (tag : String) (cs : List Char) : Except LoadError Scalar :=
  if tag = textTag then .ok (.text (String.ofList cs))
  else if tag = nullTag then .ok .null
  else if tag = boolTag then (truthOf cs).map .bool
  else if tag = intTag then (integerOf cs).map .int
  else if tag = floatTag then (floatOf cs).map fun x => .float x
  else if tag = timestampTag then timestampOf cs
  else if tag = coreTag "binary" then (bytesOf cs).map .bytes
  else .error .malformed

/-- A scalar in a node with a number: undefined numbers have labels, and days and moments have
them where values may occur in several places. -/
def labelledScalar (shares : Bool) (number : Nat) (cs : List Char) : Scalar → Scalar
  | .float .nan _ => .float .nan (some (nanLabel number cs))
  | .date d _ => .date d (if shares then some number else none)
  | .moment m _ => .moment m (if shares then some number else none)
  | s => s

/-- What is known of a value: a collection names its parts by number. -/
inductive Part
  | scalar (s : Scalar)
  | list (items : List Nat)
  | pair (first second : Nat)
  | map (entries : List (Scalar × Nat))
  | set (members : List Scalar)
  deriving Repr

/-- The state of loading: the nodes, what is known of the values, the collections that are still to
be filled (the last one first), and a bound for the merging of mappings. -/
structure Loading where
  nodes : Array Node
  parts : Array (Option Part)
  waiting : List Nat := []
  shares : Bool
  depth : Nat

abbrev Load (α : Type) := StateT Loading (Except LoadError) α

namespace Load

def node (number : Nat) : Load Node := do pure ((← get).nodes.getD number default)

def entriesOf (number : Nat) : Load (List (Nat × Nat)) := do
  match (← node number).content with
  | .mapping entries => pure entries
  | _ => pure []

def setEntries (number : Nat) (entries : List (Nat × Nat)) : Load Unit :=
  modify fun l =>
    { l with nodes := l.nodes.modify number fun n => { n with content := .mapping entries } }

def setPart (number : Nat) (part : Part) : Load Unit :=
  modify fun l => { l with parts := l.parts.setIfInBounds number (some part) }

def addPart (part : Part) : Load Nat := do
  let number := (← get).parts.size
  modify fun l => { l with parts := l.parts.push (some part) }
  pure number

/-! ## Merging -/

/-- Take the first merge key out of a mapping: the node under it. -/
def takeMerge (number : Nat) : Load (Option Nat) := do
  let entries ← entriesOf number
  let nodes := (← get).nodes
  let isMerge (e : Nat × Nat) : Bool := (nodes.getD e.1 default).tag == mergeTag
  match entries.find? isMerge with
  | none => pure none
  | some e =>
    setEntries number (entries.eraseP isMerge)
    pure (some e.2)

/-- The sign as a key is a text from now on. -/
def retagKeys (entries : List (Nat × Nat)) : Load Unit :=
  modify fun l =>
    { l with nodes := entries.foldl (fun nodes e => nodes.modify e.1 fun n =>
        if n.tag == valueTag then { n with tag := textTag } else n) l.nodes }

mutual

/-- Put the entries of merged mappings in front of a mapping's own. -/
def flatten : Nat → Nat → List (Nat × Nat) → Load Unit
  | 0, _, _ => throw .malformed
  | fuel + 1, number, merged => do
    match ← takeMerge number with
    | none =>
      let entries := merged ++ (← entriesOf number)
      setEntries number entries
      retagKeys entries
    | some source =>
      let added ← match (← node source).content with
        | .mapping _ => flattened fuel source
        | .sequence items => do
          let parts ← items.mapM (flattened fuel)
          pure parts.reverse.flatten
        | .scalar _ => throw .malformed
      flatten fuel number (merged ++ added)

def flattened : Nat → Nat → Load (List (Nat × Nat))
  | 0, _ => throw .malformed
  | fuel + 1, number => do
    match (← node number).content with
    | .mapping _ =>
      flatten fuel number []
      entriesOf number
    | _ => throw .malformed

end

/-! ## Filling -/

/-- The text of a node that stands for a scalar: a mapping stands for the value under its sign. -/
def scalarText : Nat → Nat → Load String
  | 0, _ => throw .endless
  | fuel + 1, number => do
    match (← node number).content with
    | .scalar text => pure text
    | .sequence _ => throw .malformed
    | .mapping entries =>
      let nodes := (← get).nodes
      match entries.find? fun e => (nodes.getD e.1 default).tag == valueTag with
      | some e => scalarText fuel e.2
      | none => throw .malformed

def scalarAt (number : Nat) : Load Scalar := do
  let n ← node number
  if scalarTags.contains n.tag then
    let cs := (← scalarText ((← get).nodes.size + 1) number).toList
    match n.content with
    | .scalar _ => pure ()
    | _ => if n.tag = timestampTag then throw .momentOfEntries
    pure (labelledScalar (← get).shares number cs (← scalarOf n.tag cs))
  else throw .malformed

def emptyPart? (tag : String) : Option Part :=
  if tag = sequenceTag ∨ tag = coreTag "omap" ∨ tag = coreTag "pairs" then some (.list [])
  else if tag = mappingTag then some (.map [])
  else if tag = coreTag "set" then some (.set [])
  else none

/-- Come to a node: a scalar is read, and a collection will be filled. -/
def visit (number : Nat) : Load Unit := do
  if ((← get).parts.getD number none).isNone then
    match emptyPart? (← node number).tag with
    | some part =>
      setPart number part
      modify fun l => { l with waiting := number :: l.waiting }
    | none => setPart number (.scalar (← scalarAt number))

def key (number : Nat) : Load Scalar := do
  visit number
  match (← get).parts.getD number none with
  | some (.scalar s) => pure s
  | _ => throw .malformed

/-- The entries of a mapping by their keys; the last value of a key wins. -/
def mappingEntries (number : Nat) : Load (List (Scalar × Nat)) := do
  let entries ← flattened ((← get).depth + 2) number
  entries.foldlM (fun done e => do
    let k ← key e.1
    visit e.2
    pure (putUnder k e.2 done)) []

def pairAt (number : Nat) : Load Nat := do
  match (← node number).content with
  | .mapping [(k, v)] =>
    visit k
    visit v
    addPart (.pair k v)
  | _ => throw .malformed

/-- The members of a set. A set has no order of its own, and any order may come out when one is
asked for. Here one is fixed: whole numbers stand in increasing order, and others as they came. So
what is said of a document with sets is said of this order of their members. -/
def setOrder (members : List Scalar) : List Scalar :=
  let numbers := members.filterMap fun
    | .int n => some n
    | _ => none
  if numbers.length = members.length then
    (numbers.mergeSort fun a b => decide (a ≤ b)).map .int
  else members

def fill (number : Nat) : Load Unit := do
  let n ← node number
  if n.tag = mappingTag then setPart number (.map (← mappingEntries number))
  else if n.tag = coreTag "set" then
    setPart number (.set (setOrder ((← mappingEntries number).map (·.1))))
  else
    match n.content with
    | .sequence items =>
      if n.tag = sequenceTag then
        items.forM visit
        setPart number (.list items)
      else setPart number (.list (← items.mapM pairAt))
    | _ => throw .malformed

/-- Fill the collections that wait, and those that come up meanwhile. -/
def fillAll : Nat → Load Unit
  | 0 => throw .malformed
  | fuel + 1 => do
    match (← get).waiting.reverse with
    | [] => pure ()
    | waiting =>
      modify fun l => { l with waiting := [] }
      waiting.forM fill
      fillAll fuel

end Load

/-! ## Values -/

/-- The values so far that hold no label of what lies around them. -/
abbrev Unrolled := Array (Option Value)

/-- A collection with its label: it is a loop if the label stands inside it. The labels in it that
stand for what lies around it come along. -/
def closeValue (labelled : Bool) (number : Nat) (v : Value) (free : List Label) :
    StateM Unrolled (Value × List Label) := do
  let outer := (free.filter (· != number)).eraseDups
  let v := if !labelled then v else if free.contains number then .loop number v else .shared number v
  if outer.isEmpty then modify fun done => done.setIfInBounds number (some v)
  pure (v, outer)

def valueAt (labelled : Bool) (parts : Array (Option Part)) :
    Nat → List Nat → Nat → StateM Unrolled (Value × List Label)
  | 0, _, number => pure (.again number, [number])
  | fuel + 1, around, number => do
    if around.contains number then pure (.again number, [number])
    else
      match (← get).getD number none with
      | some v => pure (v, [])
      | none =>
        let inner := valueAt labelled parts fuel (number :: around)
        match parts.getD number none with
        | some (.scalar s) => pure (.scalar s, [])
        | some (.set members) => closeValue labelled number (.set members) []
        | some (.pair a b) =>
          let a ← inner a
          let b ← inner b
          closeValue labelled number (.pair a.1 b.1) (a.2 ++ b.2)
        | some (.list items) =>
          let items ← items.mapM inner
          closeValue labelled number (.list (items.map (·.1))) (items.flatMap (·.2))
        | some (.map entries) =>
          let entries ← entries.mapM fun e => do pure (e.1, ← inner e.2)
          closeValue labelled number (.map (entries.map fun e => (e.1, e.2.1)))
            (entries.flatMap (·.2.2))
        | none => pure (.null, [])

def Graph.entryCount (g : Graph) : Nat :=
  g.nodes.foldl (fun count n =>
    match n.content with
    | .mapping entries => count + entries.length
    | _ => count) 0

def Graph.toValue (g : Graph) : Except LoadError Value := do
  let start : Loading :=
    { nodes := g.nodes
      parts := Array.replicate g.nodes.size none
      shares := g.shares
      depth := 3 * g.entryCount }
  let ((), l) ← (do
    Load.visit g.root
    Load.fillAll (g.nodes.size + 1) : Load Unit).run start
  let ((v, _), _) := (valueAt g.shares l.parts (l.parts.size + 1) [] g.root).run
    (Array.replicate l.parts.size none)
  pure v

/-- The value that tokens stand for; without a document it is null. -/
def valueOf (ts : List Token) : Except LoadError Value := do
  match ← Graph.ofTokens? ts with
  | none => pure .null
  | some g => g.toValue

def load (cs : List Char) : Except LoadError Value := valueOf (Token.ofText cs)

/-- The value of bytes that are read in blocks: what breaks the grammar in front of bytes that are
no text comes first. -/
def loadBytes (bytes : List UInt8) : Except LoadError Value :=
  match readBlocks bytes with
  | (cs, none) => load cs
  | (cs, some e) => valueOf (Token.ofStart (.unreadable e) cs)

end Traceability.Yaml
