import Traceability.Value.Literal

/-! # Merging entities

Several entries with one id describe one entity: the first entry is kept in its place, and each
later one fills the keys that are absent or null so far. Entries without an id are kept as they
are, and what is no mapping is dropped.
-/
namespace Traceability

open Number

/-- The printed id of an entity, empty when it has none. -/
def mergeKey (e : Entries) : Except IntegerError String :=
  match e.field "id" with
  | .null => .ok ""
  | v => v.written?

abbrev Keyed := String × Entries

def isGiven (e : Entries) (key : Scalar) : Bool :=
  match e.at? key with
  | some v => !v.isNull
  | none => false

def fillGaps (first second : Entries) : Entries :=
  (second.filter fun entry => !isGiven first entry.1).foldl
    (fun entries entry => entries.put entry.1 entry.2) first

/-- Fill the first entity with a key from another one with that key, or add the other one at the
end. -/
def mergeInto (e : Keyed) : List Keyed → List Keyed
  | [] => [e]
  | first :: rest =>
    if first.1 = e.1 then (first.1, fillGaps first.2 e.2) :: rest else first :: mergeInto e rest

def mergeKeyed (merged : List Keyed) (e : Keyed) : List Keyed :=
  if e.1 = "" then merged ++ [e] else mergeInto e merged

def keyedItems (items : List Value) : Except IntegerError (List Keyed) :=
  (items.filterMap Value.entries?).mapM fun e => (mergeKey e).map fun key => (key, e)

def mergeById (items : List Value) : Except IntegerError (List Entries) :=
  (keyedItems items).map fun keyed => (keyed.foldl mergeKeyed []).map (·.2)

end Traceability
