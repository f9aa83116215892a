import Traceability.Text.UpperCase
import Traceability.Value.Coerce

/-! # Discovered entities

Tables, endpoints and functions that were found in a project. What was found may be incomplete: a
missing name reads as the empty text, and a table without a name is called by its id.
-/
namespace Traceability

open Number Text

structure Column where
  name : String
  type : Option String := none
  isPii : Bool := false
  gdprCategory : Option String := none
  deriving DecidableEq, Repr

/-- Entries with the given names, those with a null value left out. -/
def presentEntries (fields : List (String × Value)) : Entries :=
  Entries.named (fields.filter fun field => !field.2.isNull)

namespace Column

def ofValue (v : Value) : Except IntegerError Column := do
  let data := v.entries
  pure {
    name := ← (data.field "name").toTextOrEmpty
    type := ← (data.field "type").toText?
    isPii := (data.field "is_pii").isTrue
    gdprCategory := ← (data.field "gdpr_category").toText? }

def toEntries (c : Column) : Entries :=
  presentEntries [
    ("name", .text c.name),
    ("type", .ofText? c.type),
    ("is_pii", .bool c.isPii),
    ("gdpr_category", .ofText? c.gdprCategory)]

end Column

/-- A table. `retentionDeclared` tells a period that was left open from one that was never
considered. -/
structure Table where
  id : String
  name : String
  ownerService : Option String := none
  columns : List Column := []
  auditLog : Bool := false
  retentionDays : Option Int := none
  retentionDeclared : Bool := false
  sourceFile : Option String := none
  extra : Entries := []
  deriving Repr

def nonEmpty? (s : String) : Option String := if s = "" then none else some s

namespace Table

def fieldNames : List String :=
  ["id", "name", "owner_service", "owner", "fields", "audit_log", "retention_days",
    "source_file"]

/-- Reads a table. The owner may be given under either of two names. -/
def ofEntries (data : Entries) : Except IntegerError Table := do
  let owner := match data.get? "owner_service" with
    | some v => v
    | none => data.field "owner"
  let id ← (data.field "id").toTextOrEmpty
  pure {
    id := id
    name := (nonEmpty? (← (data.field "name").toTextOrEmpty)).getD id
    ownerService := nonEmpty? (← owner.toTextOrEmpty)
    columns := ← (data.field "fields").items.mapM Column.ofValue
    auditLog := (data.field "audit_log").isTrue
    retentionDays := ← (data.field "retention_days").toInt?
    retentionDeclared := data.has "retention_days"
    sourceFile := ← (data.field "source_file").toText?
    extra := data.without fieldNames }

def hasPii (t : Table) : Bool := t.columns.any (·.isPii)

def toEntries (t : Table) : Entries :=
  Entries.named ([
    ("id", .text t.id),
    ("name", .text t.name),
    ("owner_service", .ofText? t.ownerService),
    ("fields", .list (t.columns.map fun c => .map c.toEntries)),
    ("audit_log", .bool t.auditLog)] ++
    (if t.retentionDeclared || t.retentionDays.isSome then
      [("retention_days", .ofInt? t.retentionDays)] else []) ++
    (if t.sourceFile.isSome then [("source_file", .ofText? t.sourceFile)] else [])) ++ t.extra

end Table

def presentTexts (name : String) (texts : List String) : Entries :=
  if texts.isEmpty then [] else [(.text name, .ofTexts texts)]

structure Endpoint where
  id : String
  method : String
  path : String
  sourceFile : Option String := none
  useCases : List String := []
  extra : Entries := []
  deriving Repr

namespace Endpoint

def fieldNames : List String := ["id", "method", "path", "source_file", "use_cases"]

/-- Reads an endpoint; the method is kept in upper case. -/
def ofEntries (data : Entries) : Except IntegerError Endpoint := do
  pure {
    id := ← (data.field "id").toTextOrEmpty
    method := upperCase (← (data.field "method").toTextOrEmpty)
    path := ← (data.field "path").toTextOrEmpty
    sourceFile := ← (data.field "source_file").toText?
    useCases := ← (data.field "use_cases").toTexts
    extra := data.without fieldNames }

/-- The method and the path, as function records refer to an endpoint. -/
def signature (e : Endpoint) : String := e.method ++ " " ++ e.path

def toEntries (e : Endpoint) : Entries :=
  presentEntries [
    ("id", .text e.id),
    ("method", .text e.method),
    ("path", .text e.path),
    ("source_file", .ofText? e.sourceFile)] ++
  presentTexts "use_cases" e.useCases ++ e.extra

end Endpoint

structure FunctionEntity where
  id : String
  name : String
  sourceFile : Option String := none
  useCases : List String := []
  extra : Entries := []
  deriving Repr

namespace FunctionEntity

def fieldNames : List String := ["id", "name", "source_file", "use_cases"]

def ofEntries (data : Entries) : Except IntegerError FunctionEntity := do
  pure {
    id := ← (data.field "id").toTextOrEmpty
    name := ← (data.field "name").toTextOrEmpty
    sourceFile := ← (data.field "source_file").toText?
    useCases := ← (data.field "use_cases").toTexts
    extra := data.without fieldNames }

def toEntries (f : FunctionEntity) : Entries :=
  presentEntries [
    ("id", .text f.id),
    ("name", .text f.name),
    ("source_file", .ofText? f.sourceFile)] ++
  presentTexts "use_cases" f.useCases ++ f.extra

end FunctionEntity

end Traceability
