import Traceability.Marker.Basic
import Traceability.Document.Lookup

/-! # Markers from a document -/
namespace Traceability

open Text

/-- The document does not list what was asked for; it is named as it is shown. -/
inductive UnlistedFunction
  | useCase (id : String)
  | function (name useCaseId : String)
  deriving DecidableEq, Repr

def UnlistedFunction.message : UnlistedFunction → String
  | useCase id => "Use case not found: " ++ id
  | function name useCaseId => "Function " ++ name ++ " is not listed under " ++ useCaseId

/-- The marker for a function of a use case. Both may be asked for without a name. The visual
element is the use case's own one unless another one is given. -/
def Document.marker (d : Document) (useCaseId function : Option String) (visualElementId : Value)
    (today : Date) : Except UnlistedFunction Marker :=
  match d.findUseCase useCaseId with
  | none => .error (.useCase (shown useCaseId))
  | some u =>
    match u.functions.find? fun f => f.name == function with
    | none => .error (.function (literalOrNone function) (shown useCaseId))
    | some f => .ok {
        useCaseId := .ofText? useCaseId
        useCaseTitle := .text (u.title.getD "")
        function := .ofText? function
        file := .text (f.file.getD "")
        line := .int (f.line.getD 0)
        endpoint := .ofText? f.endpoint
        dbTables := f.dbTables.map .text
        authRequired := .bool (f.authRequired == some true)
        lastVerified := .text today.toText
        visualElementId :=
          if visualElementId.isNull then .text (u.visualElementId.getD "") else visualElementId }

end Traceability
