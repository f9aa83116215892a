import Traceability.Value.Literal

/-! # JSON

A JSON value is what a JSON text denotes; the members of an object keep their order. Free-form
values become JSON values when they hold no days, moments, bytes or sets, and every JSON value is
a free-form value.
-/
namespace Traceability

open Number

inductive Json
  | null
  | bool (b : Bool)
  | int (n : Int)
  | float (x : Binary64)
  | text (s : String)
  | list (items : List Json)
  | object (members : List (String × Json))
  deriving Repr

namespace Json

instance : Inhabited Json := ⟨.null⟩

def ofText? : Option String → Json
  | none => .null
  | some s => .text s

def ofInt? : Option Int → Json
  | none => .null
  | some n => .int n

def ofBool? : Option Bool → Json
  | none => .null
  | some b => .bool b

def ofTexts (texts : List String) : Json := .list (texts.map .text)

def ofNat (n : Nat) : Json := .int n

/-- The text that the value is, or none for null; other values are neither. -/
def asName? : Json → Option (Option String)
  | .null => some none
  | .text s => some (some s)
  | _ => none

def get? (j : Json) (name : String) : Option Json :=
  match j with
  | .object members => members.lookup name
  | _ => none

mutual

def toValue : Json → Value
  | .null => .null
  | .bool b => .bool b
  | .int n => .int n
  | .float x => .scalar (.float x)
  | .text s => .text s
  | .list items => .list (itemsToValue items)
  | .object members => .map (membersToValue members)

def itemsToValue : List Json → List Value
  | [] => []
  | j :: js => j.toValue :: itemsToValue js

def membersToValue : List (String × Json) → List (Scalar × Value)
  | [] => []
  | (name, j) :: rest => (.text name, j.toValue) :: membersToValue rest

end

end Json

inductive UnserializableError
  | value (kind : String)
  | key (kind : String)
  | integer (e : IntegerError)
  deriving DecidableEq, Repr

def UnserializableError.message : UnserializableError → String
  | .value kind => s!"Object of type {kind} is not JSON serializable"
  | .key kind => s!"keys must be str, int, float, bool or None, not {kind}"
  | .integer e => e.message

def integerText? (n : Int) : Except UnserializableError String :=
  if isWritable n then .ok (toString n) else .error (.integer .tooLarge)

def Number.Binary64.toJsonText : Binary64 → String
  | .nan => "NaN"
  | .infinite negative => if negative then "-Infinity" else "Infinity"
  | x => x.toText

def Scalar.memberName? : Scalar → Except UnserializableError String
  | .text s => .ok s
  | .null => .ok "null"
  | .bool b => .ok (if b then "true" else "false")
  | .int n => integerText? n
  | .float x _ => .ok x.toJsonText
  | s => .error (.key (Value.scalar s).kind)

def Scalar.toJson? : Scalar → Except UnserializableError Json
  | .null => .ok .null
  | .bool b => .ok (.bool b)
  | .int n => (integerText? n).map fun _ => .int n
  | .float x _ => .ok (.float x)
  | .text s => .ok (.text s)
  | s => .error (.value (Value.scalar s).kind)

mutual

def Value.toJson? : Value → Except UnserializableError Json
  | .scalar s => s.toJson?
  | .list items => (itemsToJson? items).map .list
  | .pair a b => do
    let i ← a.toJson?
    let j ← b.toJson?
    pure (.list [i, j])
  | .map entries => (entriesToJson? entries).map .object
  | .shared _ v => v.toJson?
  | .loop _ v => v.toJson?
  | v => .error (.value v.kind)

def itemsToJson? : List Value → Except UnserializableError (List Json)
  | [] => .ok []
  | v :: vs => do
    let j ← v.toJson?
    let js ← itemsToJson? vs
    pure (j :: js)

def entriesToJson? : List (Scalar × Value) → Except UnserializableError (List (String × Json))
  | [] => .ok []
  | (k, v) :: rest => do
    let name ← k.memberName?
    let j ← v.toJson?
    let members ← entriesToJson? rest
    pure ((name, j) :: members)

end

end Traceability
