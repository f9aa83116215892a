import Traceability.Text.Utf8

/-! # Text that is read in blocks

A reader asks for blocks of characters, and bytes are taken in portions that are large enough for
the characters still missing. A portion that cannot be decoded keeps its block from being read; the
place of the error is counted from the first byte that has not become a character before.
-/
namespace Traceability.Text

def blockSize : Nat := 4096

/-- How many bytes a portion has at least, unless there are no more. -/
def portionSize : Nat := 8192

/-- The bytes that are left, the bytes and the carriage return that wait for what follows them, the
characters that are ready, and how many bytes made how many characters in the last portion. -/
structure Intake where
  bytes : List UInt8
  pending : List UInt8 := []
  returnPending : Bool := false
  ready : List Char := []
  portion : Nat := 0
  made : Nat := 0

/-- Decode a portion; the bytes of a character that is cut off wait for the next one, unless this is
the last. -/
def decodePortion (last : Bool) (bytes : List UInt8) :
    Except Utf8Error (List Char × List UInt8) :=
  match decodeUtf8 bytes with
  | .ok cs => .ok (cs, [])
  | .error e =>
    if e.reason = .unexpectedEnd && !last then
      (decodeUtf8 (bytes.take e.position)).map fun cs => (cs, bytes.drop e.position)
    else .error e

namespace Intake

def isDone (i : Intake) : Bool := i.bytes.isEmpty && i.pending.isEmpty && !i.returnPending

/-- The size of the next portion when some characters are missing: they are expected to need as many
bytes as the last ones. -/
def nextPortion (i : Intake) (missing : Nat) : Nat :=
  max portionSize (if i.made < i.portion then missing * i.portion / max 1 i.made else missing)

def take (i : Intake) (missing : Nat) : Except Utf8Error Intake := do
  let portion := i.bytes.take (i.nextPortion missing)
  let last := portion.isEmpty
  let (cs, pending) ← decodePortion last (i.pending ++ portion)
  let waits := cs.isEmpty && !last
  let cs := if i.returnPending && !waits then '\r' :: cs else cs
  let returnEnds := cs.getLast? == some '\r' && !last
  let cs := universalLines (if returnEnds then cs.dropLast else cs)
  pure {
    bytes := i.bytes.drop portion.length
    pending := pending
    returnPending := returnEnds || (i.returnPending && waits)
    ready := i.ready ++ cs
    portion := portion.length
    made := cs.length }

/-- Make a block ready, or what is left. Every portion but the last one takes bytes away. -/
def fill : Nat → Intake → Except Utf8Error Intake
  | 0, i => .ok i
  | fuel + 1, i =>
    if blockSize ≤ i.ready.length || i.isDone then .ok i
    else do fill fuel (← i.take (blockSize - i.ready.length))

def blocks : Nat → Intake → List Char × Option Utf8Error
  | 0, _ => ([], none)
  | fuel + 1, i =>
    match i.fill (i.bytes.length + 2) with
    | .error e => ([], some e)
    | .ok i =>
      if i.ready.isEmpty then ([], none)
      else
        let (cs, e) := blocks fuel { i with ready := i.ready.drop blockSize }
        (i.ready.take blockSize ++ cs, e)

end Intake

/-- What can be read of some bytes, and the error that ends it. Two blocks are read before anything
is made of them. -/
def readBlocks (bytes : List UInt8) : List Char × Option Utf8Error :=
  let (cs, e) := Intake.blocks (bytes.length + 2) { bytes := bytes }
  (if e.isSome && cs.length < 2 * blockSize then [] else cs, e)

end Traceability.Text
