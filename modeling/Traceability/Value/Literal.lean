import Traceability.Value.Basic

/-! # Values as text

A text is shown as itself and any other value by its literal. Inside collections texts are quoted,
and a collection that lies inside itself is shown there as three dots between its brackets.
-/
namespace Traceability

open Text Number

def byteLiteral (quote : Char) (b : UInt8) : List Char :=
  let c := Char.ofNat b.toNat
  if c = quote ∨ c = '\\' then ['\\', c]
  else if c = '\t' then ['\\', 't']
  else if c = '\n' then ['\\', 'n']
  else if c = '\r' then ['\\', 'r']
  else if 32 ≤ b.toNat ∧ b.toNat < 127 then [c]
  else '\\' :: 'x' :: hexPadded 2 b.toNat

def bytesLiteral (bs : List UInt8) : String :=
  let quote := literalQuote (bs.map fun b => Char.ofNat b.toNat)
  String.ofList ('b' :: quote :: (bs.flatMap (byteLiteral quote) ++ [quote]))

def Scalar.literal : Scalar → String
  | .null => "None"
  | .bool b => if b then "True" else "False"
  | .int n => toString n
  | .float x _ => x.toText
  | .text s => Text.literal s
  | .bytes bs => bytesLiteral bs
  | .date d _ => d.literal
  | .moment m _ => m.literal

def Value.bracketed (body : String) : Value → String
  | .list _ => "[" ++ body ++ "]"
  | .pair _ _ => "(" ++ body ++ ")"
  | .map _ => "\x7b" ++ body ++ "\x7d"
  | .set _ => "\x7b" ++ body ++ "\x7d"
  | _ => body

mutual

def Value.literalWithin (around : List (Label × String)) : Value → String
  | .scalar s => s.literal
  | .list items => "[" ++ ", ".intercalate (itemLiterals around items) ++ "]"
  | .pair a b => "(" ++ a.literalWithin around ++ ", " ++ b.literalWithin around ++ ")"
  | .map entries => "\x7b" ++ ", ".intercalate (entryLiterals around entries) ++ "\x7d"
  | .set [] => "set()"
  | .set members => "\x7b" ++ ", ".intercalate (members.map Scalar.literal) ++ "\x7d"
  | .shared l v => (around.lookup l).getD (v.literalWithin ((l, v.bracketed "...") :: around))
  | .loop l v => (around.lookup l).getD (v.literalWithin ((l, v.bracketed "...") :: around))
  | .again l => (around.lookup l).getD "..."

def itemLiterals (around : List (Label × String)) : List Value → List String
  | [] => []
  | v :: vs => v.literalWithin around :: itemLiterals around vs

def entryLiterals (around : List (Label × String)) : List (Scalar × Value) → List String
  | [] => []
  | (k, v) :: rest => (k.literal ++ ": " ++ v.literalWithin around) :: entryLiterals around rest

end

def Value.literal (v : Value) : String := v.literalWithin []

def Scalar.shown : Scalar → String
  | .text s => s
  | .date d _ => d.toText
  | .moment m _ => m.toText ' '
  | s => s.literal

def Value.shown : Value → String
  | .scalar s => s.shown
  | v => v.literal

def Scalar.isWritable : Scalar → Bool
  | .int n => Number.isWritable n
  | _ => true

mutual

def Value.isWritable : Value → Bool
  | .scalar s => s.isWritable
  | .list items => itemsWritable items
  | .pair a b => a.isWritable && b.isWritable
  | .map entries => entriesWritable entries
  | .set members => members.all Scalar.isWritable
  | .shared _ v => v.isWritable
  | .loop _ v => v.isWritable
  | .again _ => true

def itemsWritable : List Value → Bool
  | [] => true
  | v :: vs => v.isWritable && itemsWritable vs

def entriesWritable : List (Scalar × Value) → Bool
  | [] => true
  | (k, v) :: rest => k.isWritable && v.isWritable && entriesWritable rest

end

def Value.written? (v : Value) : Except IntegerError String :=
  if v.isWritable then .ok v.shown else .error .tooLarge

def Value.kindOfContent : Value → String
  | .scalar .null => "NoneType"
  | .scalar (.bool _) => "bool"
  | .scalar (.int _) => "int"
  | .scalar (.float _ _) => "float"
  | .scalar (.text _) => "str"
  | .scalar (.bytes _) => "bytes"
  | .scalar (.date _ _) => "date"
  | .scalar (.moment _ _) => "datetime"
  | .list _ => "list"
  | .pair _ _ => "tuple"
  | .set _ => "set"
  | _ => "dict"

def Value.kind (v : Value) : String := v.content.kindOfContent

/-- Neither null, zero, false nor empty. -/
def Value.isTruthy (v : Value) : Bool :=
  match v.content with
  | .scalar .null => false
  | .scalar (.bool b) => b
  | .scalar (.int n) => n != 0
  | .scalar (.float x _) => x.isNonzero
  | .scalar (.text s) => s != ""
  | .scalar (.bytes bs) => !bs.isEmpty
  | .list items => !items.isEmpty
  | .map entries => !entries.isEmpty
  | .set members => !members.isEmpty
  | _ => true

end Traceability
