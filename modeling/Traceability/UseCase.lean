import Traceability.Value.Coerce

/-! # Use cases

A use case is a unit of value for a user. It names the functions that implement it, each with the
place where it is defined. Fields that the records do not model are kept under `extra` and written
back behind the others.
-/
namespace Traceability

open Number

structure FunctionRecord where
  name : Option String := none
  file : Option String := none
  line : Option Int := none
  endpoint : Option String := none
  dbTables : List String := []
  authRequired : Option Bool := none
  rolesRequired : List String := []
  lastModified : Option String := none
  extra : Entries := []
  deriving Repr

namespace FunctionRecord

def fieldNames : List String :=
  ["name", "file", "line", "endpoint", "db_tables", "auth_required", "roles_required",
    "last_modified"]

def ofValue (v : Value) : Except IntegerError FunctionRecord := do
  let data := v.entries
  pure {
    name := ← (data.field "name").toText?
    file := ← (data.field "file").toText?
    line := ← (data.field "line").toInt?
    endpoint := ← (data.field "endpoint").toText?
    dbTables := ← (data.field "db_tables").toTexts
    authRequired := (data.field "auth_required").toBool?
    rolesRequired := ← (data.field "roles_required").toTexts
    lastModified := ← (data.field "last_modified").toText?
    extra := data.without fieldNames }

def toEntries (f : FunctionRecord) : Entries :=
  Entries.named [
    ("name", .ofText? f.name),
    ("file", .ofText? f.file),
    ("line", .ofInt? f.line),
    ("endpoint", .ofText? f.endpoint),
    ("db_tables", .ofTexts f.dbTables),
    ("auth_required", .ofBool? f.authRequired),
    ("roles_required", .ofTexts f.rolesRequired),
    ("last_modified", .ofText? f.lastModified)] ++ f.extra

end FunctionRecord

structure UseCase where
  id : Option String := none
  title : Option String := none
  value : Option String := none
  status : Option String := none
  actor : Option String := none
  visualElementId : Option String := none
  preconditions : List String := []
  postconditions : List String := []
  functions : List FunctionRecord := []
  rulesApplied : List String := []
  deprecatedDate : Option String := none
  deprecatedReason : Option String := none
  replacedBy : Option String := none
  extra : Entries := []
  deriving Repr

namespace UseCase

def fieldNames : List String :=
  ["id", "title", "value", "status", "actor", "visual_element_id", "preconditions",
    "postconditions", "functions", "rules_applied", "deprecated_date", "deprecated_reason",
    "replaced_by"]

def validStatuses : List String := ["planned", "in_progress", "implemented", "deprecated"]

def ofValue (v : Value) : Except IntegerError UseCase := do
  let data := v.entries
  pure {
    id := ← (data.field "id").toText?
    title := ← (data.field "title").toText?
    value := ← (data.field "value").toText?
    status := ← (data.field "status").toText?
    actor := ← (data.field "actor").toText?
    visualElementId := ← (data.field "visual_element_id").toText?
    preconditions := ← (data.field "preconditions").toTexts
    postconditions := ← (data.field "postconditions").toTexts
    functions := ← (data.field "functions").items.mapM FunctionRecord.ofValue
    rulesApplied := ← (data.field "rules_applied").toTexts
    deprecatedDate := ← (data.field "deprecated_date").toText?
    deprecatedReason := ← (data.field "deprecated_reason").toText?
    replacedBy := ← (data.field "replaced_by").toText?
    extra := data.without fieldNames }

def toEntries (u : UseCase) : Entries :=
  Entries.named [
    ("id", .ofText? u.id),
    ("title", .ofText? u.title),
    ("value", .ofText? u.value),
    ("status", .ofText? u.status),
    ("actor", .ofText? u.actor),
    ("visual_element_id", .ofText? u.visualElementId),
    ("preconditions", .ofTexts u.preconditions),
    ("postconditions", .ofTexts u.postconditions),
    ("functions", .list (u.functions.map fun f => .map f.toEntries)),
    ("rules_applied", .ofTexts u.rulesApplied),
    ("deprecated_date", .ofText? u.deprecatedDate),
    ("deprecated_reason", .ofText? u.deprecatedReason),
    ("replaced_by", .ofText? u.replacedBy)] ++ u.extra

def isImplemented (u : UseCase) : Bool := u.status == some "implemented"

def isDeprecated (u : UseCase) : Bool := u.status == some "deprecated"

end UseCase

end Traceability
