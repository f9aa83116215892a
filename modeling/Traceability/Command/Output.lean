import Traceability.Text.Utf8

/-! # Output of commands

A command prints piece by piece, and a piece that cannot be encoded ends the output. Messages lose
their terminal sequences where the output is no terminal. Error messages never fail: a character
that cannot be encoded is written as an escape.
-/
namespace Traceability.Command

open Text

structure Terminal where
  width : Nat
  interactive : Bool := false
  deriving DecidableEq, Repr

/-- Something that is printed at once: a message, or a part of a layout. -/
inductive Print
  | message (text : String)
  | layout (text : String)
  deriving DecidableEq, Repr

def isBetween (first last c : Char) : Bool := first ≤ c && c ≤ last

/-- The length of a terminal sequence behind its introducer: parameters, intermediate characters and
a final one. -/
def sequenceEnd? (cs : List Char) : Option Nat :=
  let parameters := cs.takeWhile (isBetween '0' '?')
  let rest := cs.drop parameters.length
  let between := rest.takeWhile (isBetween ' ' '/')
  if (rest.drop between.length).head?.any (isBetween '@' '~') then
    some (parameters.length + between.length + 1)
  else none

/-- The text without terminal sequences; `skip` characters of one are still to be dropped. -/
def withoutSequencesFrom (skip : Nat) : List Char → List Char
  | [] => []
  | c :: cs =>
    match skip with
    | k + 1 => withoutSequencesFrom k cs
    | 0 =>
      match c, cs with
      | '\x1b', '[' :: rest =>
        match sequenceEnd? rest with
        | some n => withoutSequencesFrom (n + 1) cs
        | none => c :: withoutSequencesFrom 0 cs
      | _, _ => c :: withoutSequencesFrom 0 cs

def messageText (terminal : Terminal) (text : String) : String :=
  if terminal.interactive then text else String.ofList (withoutSequencesFrom 0 text.toList)

def encodingAdvice : String :=
  "\n*** You may need to add PYTHONIOENCODING=utf-8 to your environment ***"

def Print.text? (terminal : Terminal) : Print → Except EncodingError String
  | message text =>
    let text := messageText terminal text
    match encodingError? text.toList with
    | some e => .error e
    | none => .ok text
  | layout text =>
    match encodingError? text.toList with
    | some e => .error { e with reason := e.reason ++ encodingAdvice }
    | none => .ok text

/-- The output of some pieces, up to the first one that cannot be encoded. -/
def deliver (terminal : Terminal) : List Print → String × Option EncodingError
  | [] => ("", none)
  | p :: ps =>
    match p.text? terminal with
    | .error e => ("", some e)
    | .ok text =>
      let (rest, e) := deliver terminal ps
      (text ++ rest, e)

/-- An error message as it is written: halves of pairs are escaped. -/
def errorText (terminal : Terminal) (text : String) : String :=
  String.ofList ((messageText terminal text).toList.flatMap fun c =>
    if isHalf c then hexEscape (codePoint c) else [c])

end Traceability.Command
