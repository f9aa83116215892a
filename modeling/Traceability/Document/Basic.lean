import Traceability.Decision
import Traceability.Discovered
import Traceability.Document.Merge
import Traceability.Stack
import Traceability.UseCase

/-! # The traceability document

A document links use cases to the functions, endpoints and tables that serve them. Reading is
tolerant: a field of the wrong kind reads as absent, and only the list of active use cases tells
an absent list from an empty one.
-/
namespace Traceability

open Number

structure Document where
  version : Option String := none
  project : Option String := none
  description : Option String := none
  author : Option String := none
  created : Option String := none
  lastUpdated : Option String := none
  stack : Option Stack := none
  useCases : Option (List UseCase) := none
  decisions : List Decision := []
  deprecated : List UseCase := []
  tables : List Table := []
  endpoints : List Endpoint := []
  functions : List FunctionEntity := []
  extra : Entries := []
  deriving Repr

namespace Document

def fieldNames : List String :=
  ["version", "project", "description", "author", "created", "last_updated", "stack",
    "use_cases", "adrs", "deprecated", "db_tables", "endpoints", "functions"]

def readUseCases? (v : Value) : Except IntegerError (Option (List UseCase)) :=
  match v.items? with
  | some items => (items.mapM UseCase.ofValue).map some
  | none => .ok none

def readStack? (v : Value) : Except IntegerError (Option Stack) :=
  match v.entries? with
  | some entries => (Stack.ofEntries entries).map some
  | none => .ok none

def ofValue (v : Value) : Except IntegerError Document := do
  let data := v.entries
  pure {
    version := ← (data.field "version").toText?
    project := ← (data.field "project").toText?
    description := ← (data.field "description").toText?
    author := ← (data.field "author").toText?
    created := ← (data.field "created").toText?
    lastUpdated := ← (data.field "last_updated").toText?
    stack := ← readStack? (data.field "stack")
    useCases := ← readUseCases? (data.field "use_cases")
    decisions := ← (data.field "adrs").items.mapM Decision.ofValue
    deprecated := ← (data.field "deprecated").items.mapM UseCase.ofValue
    tables := ← (← mergeById (data.field "db_tables").items).mapM Table.ofEntries
    endpoints := ← (← mergeById (data.field "endpoints").items).mapM Endpoint.ofEntries
    functions := ← (← mergeById (data.field "functions").items).mapM FunctionEntity.ofEntries
    extra := data.without fieldNames }

def recordsEntry (name : String) (records : List Entries) : Entries :=
  [(.text name, .list (records.map .map))]

/-- The mapping of a document; absent collections are left out. -/
def toEntries (d : Document) : Entries :=
  Entries.named [
    ("version", .ofText? d.version),
    ("project", .ofText? d.project),
    ("description", .ofText? d.description),
    ("author", .ofText? d.author),
    ("created", .ofText? d.created),
    ("last_updated", .ofText? d.lastUpdated)] ++
  (match d.stack with
  | some stack => [(.text "stack", .map stack.toEntries)]
  | none => []) ++
  recordsEntry "adrs" (d.decisions.map Decision.toEntries) ++
  (match d.useCases with
  | some useCases => recordsEntry "use_cases" (useCases.map UseCase.toEntries)
  | none => []) ++
  recordsEntry "deprecated" (d.deprecated.map UseCase.toEntries) ++
  (if d.tables.isEmpty then [] else recordsEntry "db_tables" (d.tables.map Table.toEntries)) ++
  (if d.endpoints.isEmpty then []
   else recordsEntry "endpoints" (d.endpoints.map Endpoint.toEntries)) ++
  (if d.functions.isEmpty then []
   else recordsEntry "functions" (d.functions.map FunctionEntity.toEntries)) ++
  d.extra

def toValue (d : Document) : Value := .map d.toEntries

def active (d : Document) : List UseCase := d.useCases.getD []

def allUseCases (d : Document) : List UseCase := d.active ++ d.deprecated

def activeFunctions (d : Document) : List (UseCase × FunctionRecord) :=
  d.active.flatMap fun u => u.functions.map fun f => (u, f)

end Document

end Traceability
