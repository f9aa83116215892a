import Traceability.Text.CodePoint
import Traceability.Text.Quoted
import Traceability.Text.Search

/-! # UTF-8

Decoding accepts the shortest form of each character and nothing else. A failure names the first
byte that cannot be read and how many bytes were read together with it. Halves of pairs have no
encoding: a failure names the first run of them.
-/
namespace Traceability.Text

inductive Utf8Reason
  | invalidStart
  | invalidContinuation
  | unexpectedEnd
  deriving DecidableEq, Repr

/-- A place where bytes stop being UTF-8: `length` bytes from `position` on, the first being
`byte`. -/
structure Utf8Error where
  position : Nat
  length : Nat
  byte : Nat
  reason : Utf8Reason
  deriving DecidableEq, Repr

def Utf8Reason.message : Utf8Reason → String
  | invalidStart => "invalid start byte"
  | invalidContinuation => "invalid continuation byte"
  | unexpectedEnd => "unexpected end of data"

/-- The wording of an error: the byte, or the range of bytes, and the reason. -/
def Utf8Error.message (e : Utf8Error) : String :=
  "'utf-8' codec can't decode " ++
    (if e.length = 1 then
      "byte 0x" ++ String.ofList (hexPadded 2 e.byte) ++ s!" in position {e.position}"
    else s!"bytes in position {e.position}-{e.position + e.length - 1}") ++
    ": " ++ e.reason.message

/-- The least and greatest second byte behind a first byte, and the number of bytes in all. -/
def sequenceForm? (first : Nat) : Option (Nat × Nat × Nat) :=
  if 0xC2 ≤ first ∧ first ≤ 0xDF then some (0x80, 0xBF, 2)
  else if first = 0xE0 then some (0xA0, 0xBF, 3)
  else if first = 0xED then some (0x80, 0x9F, 3)
  else if 0xE1 ≤ first ∧ first ≤ 0xEF then some (0x80, 0xBF, 3)
  else if first = 0xF0 then some (0x90, 0xBF, 4)
  else if 0xF1 ≤ first ∧ first ≤ 0xF3 then some (0x80, 0xBF, 4)
  else if first = 0xF4 then some (0x80, 0x8F, 4)
  else none

/-- Read the continuation bytes that are still missing: the code point and the rest, or the
number of bytes read and the reason for stopping. -/
def readContinuation (least greatest : Nat) : Nat → Nat → Nat → List UInt8 →
    Except (Nat × Utf8Reason) (Nat × List UInt8)
  | 0, code, _, bytes => .ok (code, bytes)
  | _ + 1, _, done, [] => .error (done, .unexpectedEnd)
  | missing + 1, code, done, b :: bytes =>
    if least ≤ b.toNat ∧ b.toNat ≤ greatest then
      readContinuation 0x80 0xBF missing (code * 64 + b.toNat % 64) (done + 1) bytes
    else .error (done, .invalidContinuation)

/-- The bits of a first byte that belong to the code point. -/
def leadBits (length first : Nat) : Nat :=
  if length = 2 then first % 32 else if length = 3 then first % 16 else first % 8

def decodeChar (first : UInt8) (bytes : List UInt8) :
    Except (Nat × Utf8Reason) (Char × Nat × List UInt8) :=
  let n := first.toNat
  if n < 0x80 then .ok (Char.ofNat n, 1, bytes)
  else
    match sequenceForm? n with
    | none => .error (1, .invalidStart)
    | some (least, greatest, length) =>
      (readContinuation least greatest (length - 1) (leadBits length n) 1 bytes).map
        fun (code, rest) => (Char.ofNat code, length, rest)

def decodeFrom : Nat → Nat → List UInt8 → Except Utf8Error (List Char)
  | 0, _, _ => .ok []
  | _, _, [] => .ok []
  | fuel + 1, position, b :: bytes =>
    match decodeChar b bytes with
    | .error (length, reason) => .error ⟨position, length, b.toNat, reason⟩
    | .ok (c, length, rest) => (decodeFrom fuel (position + length) rest).map (c :: ·)

/-- The text of some bytes. A private character that stands for half of a pair is read as that half
(see `isHalf`), so bytes that encode one are left out of consideration. -/
def decodeUtf8 (bytes : List UInt8) : Except Utf8Error (List Char) :=
  decodeFrom bytes.length 0 bytes

/-- The bytes of a text without halves of pairs. -/
def encodeUtf8 (s : String) : List UInt8 := s.toUTF8.toList

/-- A place where a text cannot be encoded: `length` halves of pairs from `position` on, the first
being `codePoint`. -/
structure EncodingError where
  position : Nat
  length : Nat
  codePoint : Nat
  reason : String := "surrogates not allowed"
  deriving DecidableEq, Repr

def EncodingError.message (e : EncodingError) : String :=
  "'utf-8' codec can't encode " ++
    (if e.length = 1 then
      "character '\\u" ++ String.ofList (hexPadded 4 e.codePoint) ++ s!"' in position {e.position}"
    else s!"characters in position {e.position}-{e.position + e.length - 1}") ++
    ": " ++ e.reason

def encodingError? (cs : List Char) : Option EncodingError :=
  match cs.dropWhile fun c => !isHalf c with
  | [] => none
  | c :: rest =>
    some ⟨(cs.takeWhile fun c => !isHalf c).length, ((c :: rest).takeWhile isHalf).length, codePoint c,
      "surrogates not allowed"⟩

def encode? (s : String) : Except EncodingError (List UInt8) :=
  match encodingError? s.toList with
  | some e => .error e
  | none => .ok (encodeUtf8 s)

/-- The text with each of the three kinds of line end written as a line feed. -/
def universalLines : List Char → List Char
  | [] => []
  | '\r' :: '\n' :: cs => '\n' :: universalLines cs
  | '\r' :: cs => '\n' :: universalLines cs
  | c :: cs => c :: universalLines cs

end Traceability.Text
