import Traceability.Document.Basic
import Traceability.Text.Search

/-! # Looking things up

All searches are exact and the first match wins. Endpoints are compared up to the case of the
method and the blanks around method and path.
-/
namespace Traceability

open Text

/-- The comparable form of a method and path: upper-case method, one blank, trimmed path. -/
def endpointKeyOf (cs : List Char) : List Char :=
  let (method, path) := cutAt ' ' (trim cs)
  upper method ++ ' ' :: trim path

def endpointKey (s : String) : String := String.ofList (endpointKeyOf s.toList)

structure EndpointMatch where
  functionName : Option String
  useCaseId : Option String
  file : Option String
  line : Option Int
  endpoint : String
  deriving DecidableEq, Repr

namespace FunctionRecord

/-- The comparable form of the record's endpoint; an empty endpoint has none. -/
def endpointKey? (f : FunctionRecord) : Option String :=
  (f.endpoint.bind nonEmpty?).map endpointKey

end FunctionRecord

namespace Document

/-- The first use case with an id, active ones first; those without an id can be asked for, too. -/
def findUseCase (d : Document) (id : Option String) : Option UseCase :=
  d.allUseCases.find? fun u => u.id == id

/-- The first active function record with a name, or without one, and its use case. -/
def findFunction (d : Document) (name : Option String) : Option (UseCase × FunctionRecord) :=
  d.activeFunctions.find? fun (_, f) => f.name == name

def findEndpoint (d : Document) (method path : String) : Option EndpointMatch :=
  let endpoint := endpointKey (method ++ " " ++ path)
  (d.activeFunctions.find? fun (_, f) => f.endpointKey? == some endpoint).map fun (u, f) =>
    ⟨f.name, u.id, f.file, f.line, endpoint⟩

structure UnservedEndpoint where
  method : String
  path : String
  deriving DecidableEq, Repr

def UnservedEndpoint.message (e : UnservedEndpoint) : String :=
  "No function serves " ++ upperCase e.method ++ " " ++ e.path

def queryEndpoint (d : Document) (method path : String) :
    Except UnservedEndpoint EndpointMatch :=
  match d.findEndpoint method path with
  | some found => .ok found
  | none => .error ⟨method, path⟩

end Document

end Traceability
