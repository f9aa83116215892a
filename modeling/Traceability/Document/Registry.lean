import Traceability.Document.Lookup

/-! # Registering use cases

A use case without an id gets the number behind the highest one in use, over active and deprecated
use cases. An id that is taken is refused.
-/
namespace Traceability

open Number Text

/-- The number of an id of the form `UC-` and digits, with one line end allowed behind it. -/
def useCaseNumber? (id : String) : Option (List Char) :=
  match after? ['U', 'C', '-'] id.toList with
  | none => none
  | some rest =>
    let digits := dropFinalNewline rest
    if !digits.isEmpty && digits.all isDecimal then some digits else none

/-- The id is taken by another use case. -/
inductive RegistryError
  | taken (id : String)
  | number (e : IntegerError)
  deriving DecidableEq, Repr

def RegistryError.message : RegistryError → String
  | .taken id => "Use case id '" ++ id ++ "' is already registered"
  | .number e => e.message

namespace Document

def useCaseNumbers (d : Document) : Except IntegerError (List Int) :=
  (d.allUseCases.filterMap fun u => u.id.bind useCaseNumber?).mapM fun digits =>
    readInteger 10 (String.ofList digits)

/-- The next free id: at least three digits. -/
def nextUseCaseId (d : Document) : Except IntegerError String := do
  let next := (← d.useCaseNumbers).foldl max 0 + 1
  if Number.isWritable next then pure ("UC-" ++ padded 3 next.toNat) else throw .tooLarge

/-- The use case with an id: its own one if it is free, and the next free one if it has none. -/
def assignId (d : Document) (u : UseCase) : Except RegistryError UseCase :=
  match u.id with
  | none =>
    match d.nextUseCaseId with
    | .ok id => .ok { u with id := some id }
    | .error e => .error (.number e)
  | some id =>
    if id != "" && d.allUseCases.any (fun other => other.id == some id) then
      .error (.taken id)
    else .ok u

def register (d : Document) (u : UseCase) : Except RegistryError (Document × UseCase) :=
  (d.assignId u).map fun v => ({ d with useCases := some (d.active ++ [v]) }, v)

end Document

end Traceability
