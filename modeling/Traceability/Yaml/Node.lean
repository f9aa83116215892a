import Traceability.Yaml.ScalarType
import Traceability.Yaml.Token

/-! # The nodes of a document

Tokens make up scalars, sequences and mappings, each with a tag. The nodes are numbered, and
collections name their parts by number: a node with an anchor is a part wherever an alias names
it, and may even be a part of itself. A text with more than one document is refused.
-/
namespace Traceability.Yaml

inductive Content
  | scalar (text : String)
  | sequence (items : List Nat)
  | mapping (entries : List (Nat × Nat))
  deriving Repr

structure Node where
  tag : String
  content : Content
  deriving Repr

instance : Inhabited Node := ⟨⟨nullTag, .scalar ""⟩⟩

/-- The nodes of a document, the number of its root, and whether an alias names one of them. -/
structure Graph where
  nodes : Array Node
  root : Nat
  shares : Bool
  deriving Repr

namespace Graph

/-- The state of building a graph: the tokens that are left, the nodes so far, the numbers of those
with anchors, the declared handles of tags, and whether there was an alias. -/
structure Builder where
  tokens : List Token
  nodes : Array Node := #[]
  anchors : List (String × Nat) := []
  handles : List (String × String) := []
  shares : Bool := false

abbrev Build (α : Type) := StateT Builder (Except LoadError) α

def malformed {α : Type} : Build α := throw .malformed

/-- The next token. A failed text fails here. -/
def peek : Build Token := do
  match (← get).tokens with
  | .failure e :: _ => throw e
  | t :: _ => pure t
  | [] => malformed

def skip : Build Unit := modify fun b => { b with tokens := b.tokens.tail }

def accept (t : Token) : Build Bool := do
  if (← peek) = t then
    skip
    pure true
  else pure false

def expect (t : Token) : Build Unit := do
  if ← accept t then pure () else malformed

def isOneOf (ts : List Token) : Build Bool := do pure (ts.contains (← peek))

def add (n : Node) : Build Nat := do
  let number := (← get).nodes.size
  modify fun b => { b with nodes := b.nodes.push n }
  pure number

def addEmpty : Build Nat := add ⟨nullTag, .scalar ""⟩

structure Properties where
  anchor : Option String := none
  tag : Option String := none

def fullTag (handle : Option String) (suffix : String) : Build String := do
  match handle with
  | none => pure suffix
  | some handle =>
    match (← get).handles.lookup handle with
    | some lead => pure (lead ++ suffix)
    | none => malformed

def readAnchor : Build (Option String) := do
  match ← peek with
  | .anchor name => skip; pure (some name)
  | _ => pure none

def readTag : Build (Option (Option String × String)) := do
  match ← peek with
  | .tag handle suffix => skip; pure (some (handle, suffix))
  | _ => pure none

def readProperties : Build Properties := do
  let first ← readAnchor
  let tag ← readTag
  let anchor ← if first.isNone && tag.isSome then readAnchor else pure first
  match tag with
  | none => pure { anchor := anchor }
  | some (handle, suffix) => pure { anchor := anchor, tag := some (← fullTag handle suffix) }

def addAnchored (anchor : Option String) (n : Node) : Build Nat := do
  match anchor with
  | none => add n
  | some name =>
    if ((← get).anchors.lookup name).isSome then malformed
    else
      let number ← add n
      modify fun b => { b with anchors := (name, number) :: b.anchors }
      pure number

def fill (number : Nat) (content : Content) : Build Nat := do
  modify fun b => { b with nodes := b.nodes.modify number fun n => { n with content := content } }
  pure number

def aliased (name : String) : Build Nat := do
  match (← get).anchors.lookup name with
  | some number =>
    modify fun b => { b with shares := true }
    pure number
  | none => malformed

/-- The tag of a collection; without one, or with the neutral one, it is the usual one. -/
def collectionTag (tag : Option String) (usual : String) : String :=
  match tag with
  | none => usual
  | some "!" => usual
  | some t => t

/-- The tag of a scalar: plain scalars without a tag are typed by their text. -/
def scalarTag (tag : Option String) (text : String) (plain : Bool) : String :=
  match tag with
  | none => if plain then plainTag text else textTag
  | some "!" => plainTag text
  | some t => t

mutual

/-- A node; outside brackets it may be a block, and behind a key a sequence without indentation. -/
def readNode : Nat → (block indentless : Bool) → Build Nat
  | 0, _, _ => malformed
  | fuel + 1, block, indentless => do
    match ← peek with
    | .alias name => skip; aliased name
    | _ =>
      let p ← readProperties
      let sequence := addAnchored p.anchor ⟨collectionTag p.tag sequenceTag, .sequence []⟩
      let mapping := addAnchored p.anchor ⟨collectionTag p.tag mappingTag, .mapping []⟩
      let t ← peek
      if indentless && t = .blockEntry then
        let number ← sequence
        fill number (.sequence (← readIndentless fuel))
      else
        match t with
        | .scalar text plain =>
          skip
          addAnchored p.anchor ⟨scalarTag p.tag text plain, .scalar text⟩
        | .flowSequenceStart =>
          let number ← sequence
          skip
          fill number (.sequence (← readFlowItems fuel true))
        | .flowMappingStart =>
          let number ← mapping
          skip
          fill number (.mapping (← readFlowEntries fuel true))
        | .blockSequenceStart =>
          if block then
            let number ← sequence
            skip
            fill number (.sequence (← readBlockItems fuel))
          else readEmpty p
        | .blockMappingStart =>
          if block then
            let number ← mapping
            skip
            fill number (.mapping (← readBlockEntries fuel))
          else readEmpty p
        | _ => readEmpty p

def readEmpty (p : Properties) : Build Nat := do
  if p.anchor.isNone && p.tag.isNone then malformed
  else addAnchored p.anchor ⟨scalarTag p.tag "" true, .scalar ""⟩

def readUnless : Nat → List Token → (block indentless : Bool) → Build Nat
  | 0, _, _, _ => malformed
  | fuel + 1, ends, block, indentless => do
    if ← isOneOf ends then addEmpty else readNode fuel block indentless

def readBlockItems : Nat → Build (List Nat)
  | 0 => malformed
  | fuel + 1 => do
    if ← accept .blockEntry then
      let n ← readUnless fuel [.blockEntry, .blockEnd] true false
      let ns ← readBlockItems fuel
      pure (n :: ns)
    else
      expect .blockEnd
      pure []

/-- The items of a sequence at the indentation of its key. -/
def readIndentless : Nat → Build (List Nat)
  | 0 => malformed
  | fuel + 1 => do
    if ← accept .blockEntry then
      let n ← readUnless fuel [.blockEntry, .key, .value, .blockEnd] true false
      let ns ← readIndentless fuel
      pure (n :: ns)
    else pure []

def readValue : Nat → List Token → (block : Bool) → Build Nat
  | 0, _, _ => malformed
  | fuel + 1, ends, block => do
    if ← accept .value then readUnless fuel ends block block else addEmpty

def readBlockEntries : Nat → Build (List (Nat × Nat))
  | 0 => malformed
  | fuel + 1 => do
    if ← accept .key then
      let k ← readUnless fuel [.key, .value, .blockEnd] true true
      let v ← readValue fuel [.key, .value, .blockEnd] true
      let rest ← readBlockEntries fuel
      pure ((k, v) :: rest)
    else
      expect .blockEnd
      pure []

/-- The items of a sequence in brackets; an item with a key is a mapping of one entry. -/
def readFlowItems : Nat → (first : Bool) → Build (List Nat)
  | 0, _ => malformed
  | fuel + 1, first => do
    if ← accept .flowSequenceEnd then pure []
    else
      if !first then expect .flowEntry
      if ← accept .key then
        let ends : List Token := [.flowEntry, .flowSequenceEnd]
        let k ← readUnless fuel (.value :: ends) false false
        let v ← readValue fuel ends false
        let n ← add ⟨mappingTag, .mapping [(k, v)]⟩
        let rest ← readFlowItems fuel false
        pure (n :: rest)
      else if ← accept .flowSequenceEnd then pure []
      else
        let n ← readNode fuel false false
        let rest ← readFlowItems fuel false
        pure (n :: rest)

/-- The entries of a mapping in braces; an entry without a mark is a key with an empty value. -/
def readFlowEntries : Nat → (first : Bool) → Build (List (Nat × Nat))
  | 0, _ => malformed
  | fuel + 1, first => do
    if ← accept .flowMappingEnd then pure []
    else
      if !first then expect .flowEntry
      let ends : List Token := [.flowEntry, .flowMappingEnd]
      if ← accept .key then
        let k ← readUnless fuel (.value :: ends) false false
        let v ← readValue fuel ends false
        let rest ← readFlowEntries fuel false
        pure ((k, v) :: rest)
      else if ← accept .flowMappingEnd then pure []
      else
        let k ← readNode fuel false false
        let v ← addEmpty
        let rest ← readFlowEntries fuel false
        pure ((k, v) :: rest)

end

def usualHandles : List (String × String) := [("!", "!"), ("!!", coreTag "")]

def readDirectives : List Token → (version : Bool) → Build Unit
  | [], _ => malformed
  | .directive d :: rest, version => do
    skip
    match d with
    | .version major =>
      if version || major != 1 then malformed else readDirectives rest true
    | .tagHandle handle lead =>
      if (← get).handles.any fun h => h.1 == handle then malformed
      else
        modify fun b => { b with handles := (handle, lead) :: b.handles }
        readDirectives rest version
    | .other => readDirectives rest version
  | _, _ => modify fun b => { b with handles := b.handles ++ usualHandles }

def skipEnds : List Token → Build Unit
  | .documentEnd :: rest => do skip; skipEnds rest
  | _ => pure ()

def readDocument : Build (Option Nat) := do
  let fuel := 8 * (← get).tokens.length + 8
  match ← peek with
  | .streamEnd => pure none
  | .directive _ | .documentStart =>
    readDirectives (← get).tokens false
    expect .documentStart
    let n ← match ← peek with
      | .directive _ | .documentStart | .documentEnd | .streamEnd => addEmpty
      | _ => readNode fuel true false
    skipEnds (← get).tokens
    expect .streamEnd
    pure (some n)
  | _ =>
    modify fun b => { b with handles := usualHandles }
    let n ← readNode fuel true false
    skipEnds (← get).tokens
    expect .streamEnd
    pure (some n)

def ofTokens? (ts : List Token) : Except LoadError (Option Graph) := do
  let (root, b) ← readDocument.run { tokens := ts }
  pure (root.map fun root => ⟨b.nodes, root, b.shares⟩)

end Graph

end Traceability.Yaml
