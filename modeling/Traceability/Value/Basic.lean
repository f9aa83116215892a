import Traceability.Calendar
import Traceability.Number.Binary64

/-! # Free-form values

A value is a scalar or a collection: a list, a pair, a mapping or a set. A mapping keeps its entries
in the order in which their keys first came, and has one entry for each key. Keys are scalars, and
the numbers among them are compared as numbers: 1, 1.0 and the truth value are one key.

A value may occur in several places of a document, and even inside itself. Such a value carries a
label: two values with one label are one and the same.
-/
namespace Traceability

open Number

/-- What tells a value from an equal one in another place. -/
abbrev Label := Nat

/-- A value without parts. Days and moments may occur in several places, and a number that is
undefined equals another one only if both are the same. -/
inductive Scalar
  | null
  | bool (b : Bool)
  | int (n : Int)
  | float (x : Binary64) (label : Option Label := none)
  | text (s : String)
  | bytes (bs : List UInt8)
  | date (d : Date) (label : Option Label := none)
  | moment (m : Moment) (label : Option Label := none)
  deriving DecidableEq, Repr

/-- A scalar or a collection. `shared` is a collection that occurs in several places, and `loop`
one that occurs inside itself, where `again` stands for it. -/
inductive Value
  | scalar (s : Scalar)
  | list (items : List Value)
  | pair (first second : Value)
  | map (entries : List (Scalar × Value))
  | set (members : List Scalar)
  | shared (label : Label) (content : Value)
  | loop (label : Label) (content : Value)
  | again (label : Label)
  deriving Repr

abbrev Entries := List (Scalar × Value)

namespace Value

@[match_pattern] abbrev null : Value := .scalar .null

@[match_pattern] abbrev bool (b : Bool) : Value := .scalar (.bool b)

@[match_pattern] abbrev int (n : Int) : Value := .scalar (.int n)

@[match_pattern] abbrev text (s : String) : Value := .scalar (.text s)

instance : Inhabited Value := ⟨null⟩

def ofText? : Option String → Value
  | none => null
  | some s => text s

def ofInt? : Option Int → Value
  | none => null
  | some n => int n

def ofBool? : Option Bool → Value
  | none => null
  | some b => bool b

def ofTexts (texts : List String) : Value := .list (texts.map text)

def isNull : Value → Bool
  | .scalar .null => true
  | _ => false

end Value

/-! ## Labels -/

mutual

def fillIn (label : Label) (whole : Value) : Value → Value
  | .scalar s => .scalar s
  | .list items => .list (fillItems label whole items)
  | .pair a b => .pair (fillIn label whole a) (fillIn label whole b)
  | .map entries => .map (fillEntries label whole entries)
  | .set members => .set members
  | .shared l v => .shared l (fillIn label whole v)
  | .loop l v => .loop l (if l = label then v else fillIn label whole v)
  | .again l => if l = label then whole else .again l

def fillItems (label : Label) (whole : Value) : List Value → List Value
  | [] => []
  | v :: vs => fillIn label whole v :: fillItems label whole vs

def fillEntries (label : Label) (whole : Value) : List (Scalar × Value) → List (Scalar × Value)
  | [] => []
  | (k, v) :: rest => (k, fillIn label whole v) :: fillEntries label whole rest

end

namespace Value

/-- A value without its label; what occurs inside itself is put into its places once. -/
def content : Value → Value
  | .shared _ v => v.content
  | .loop l v => fillIn l (.loop l v) v
  | v => v

def items? (v : Value) : Option (List Value) :=
  match v.content with
  | .list items => some items
  | _ => none

def entries? (v : Value) : Option Entries :=
  match v.content with
  | .map entries => some entries
  | _ => none

def items (v : Value) : List Value := v.items?.getD []

def entries (v : Value) : Entries := v.entries?.getD []

def isMap (v : Value) : Bool := v.entries?.isSome

end Value

/-! ## Keys -/

namespace Scalar

/-- The integer that a number equals; truth values count as 0 and 1. -/
def wholeNumber? : Scalar → Option Int
  | .bool b => some (if b then 1 else 0)
  | .int n => some n
  | .float x _ => x.toInt?
  | _ => none

def same (a b : Scalar) : Bool :=
  match a.wholeNumber?, b.wholeNumber? with
  | some m, some n => m == n
  | none, none =>
    match a, b with
    | .float x l, .float y k => x.equals y || (x == .nan && y == .nan && l.isSome && l == k)
    | .date d _, .date e _ => d == e
    | .moment m _, .moment n _ => m.sameTime n
    | _, _ => a == b
  | _, _ => false

end Scalar

/-- Put something under a key: in place when the key is present, at the end otherwise. -/
def putUnder {α : Type} (key : Scalar) (x : α) : List (Scalar × α) → List (Scalar × α)
  | [] => [(key, x)]
  | (k, y) :: rest => if k.same key then (k, x) :: rest else (k, y) :: putUnder key x rest

namespace Entries

def at? (entries : Entries) (key : Scalar) : Option Value :=
  (List.find? (fun entry => entry.1.same key) entries).map (·.2)

def put (key : Scalar) (value : Value) (entries : Entries) : Entries := putUnder key value entries

/-- The entries of a mapping given pair by pair; the last value of a key wins. -/
def ofPairs (pairs : List (Scalar × Value)) : Entries :=
  pairs.foldl (fun entries pair => put pair.1 pair.2 entries) []

def named (fields : List (String × Value)) : Entries :=
  fields.map fun field => (.text field.1, field.2)

def get? (entries : Entries) (name : String) : Option Value := entries.at? (.text name)

/-- The value under a name, null when the name is absent. -/
def field (entries : Entries) (name : String) : Value := (entries.get? name).getD .null

def has (entries : Entries) (name : String) : Bool := (entries.get? name).isSome

def without (names : List String) (entries : Entries) : Entries :=
  entries.filter fun entry =>
    match entry.1 with
    | .text name => !names.contains name
    | _ => true

end Entries

/-! ## Equality of contents -/

mutual

def Value.plain : Value → Value
  | .scalar s => .scalar s
  | .list items => .list (plainItems items)
  | .pair a b => .pair a.plain b.plain
  | .map entries => .map (plainEntries entries)
  | .set members => .set members
  | .shared _ v => v.plain
  | .loop _ v => v.plain
  | .again l => .again l

def plainItems : List Value → List Value
  | [] => []
  | v :: vs => v.plain :: plainItems vs

def plainEntries : List (Scalar × Value) → List (Scalar × Value)
  | [] => []
  | (k, v) :: rest => (k, v.plain) :: plainEntries rest

end

mutual

/-- Equal contents of values without labels: mappings are compared without regard to order. -/
def Value.samePlain : Value → Value → Bool
  | .scalar a, .scalar b => a.same b
  | .list as, .list bs => sameItems as bs
  | .pair a b, .pair c d => a.samePlain c && b.samePlain d
  | .map as, .map bs => as.length == bs.length && sameEntries as bs
  | .set as, .set bs => as.length == bs.length && as.all fun a => bs.any a.same
  | _, _ => false

def sameItems : List Value → List Value → Bool
  | [], [] => true
  | a :: as, b :: bs => a.samePlain b && sameItems as bs
  | _, _ => false

def sameEntries : List (Scalar × Value) → List (Scalar × Value) → Bool
  | [], _ => true
  | (k, v) :: rest, bs =>
    (match Entries.at? bs k with
    | some w => v.samePlain w
    | none => false) && sameEntries rest bs

end

def Value.same (a b : Value) : Bool := a.plain.samePlain b.plain

end Traceability
