import Traceability.Value.Coerce

/-! # Architecture decisions -/
namespace Traceability

open Number

structure Decision where
  id : Option String := none
  status : Option String := none
  title : Option String := none
  date : Option String := none
  context : Option String := none
  decision : Option String := none
  alternativesConsidered : List Value := []
  consequences : List String := []
  extra : Entries := []
  deriving Repr

namespace Decision

def fieldNames : List String :=
  ["id", "status", "title", "date", "context", "decision", "alternatives_considered",
    "consequences"]

def validStatuses : List String := ["proposed", "accepted", "superseded", "deprecated"]

def ofValue (v : Value) : Except IntegerError Decision := do
  let data := v.entries
  pure {
    id := ← (data.field "id").toText?
    status := ← (data.field "status").toText?
    title := ← (data.field "title").toText?
    date := ← (data.field "date").toText?
    context := ← (data.field "context").toText?
    decision := ← (data.field "decision").toText?
    alternativesConsidered := (data.field "alternatives_considered").items
    consequences := ← (data.field "consequences").toTexts
    extra := data.without fieldNames }

def toEntries (d : Decision) : Entries :=
  Entries.named [
    ("id", .ofText? d.id),
    ("date", .ofText? d.date),
    ("status", .ofText? d.status),
    ("title", .ofText? d.title),
    ("context", .ofText? d.context),
    ("decision", .ofText? d.decision),
    ("alternatives_considered", .list d.alternativesConsidered),
    ("consequences", .ofTexts d.consequences)] ++ d.extra

end Decision

end Traceability
