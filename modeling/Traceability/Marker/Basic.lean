import Traceability.Json.Printer
import Traceability.Value.Coerce

/-! # Markers

A marker says which use case and which function an element of a user interface serves. Its
written form is JSON on one line in which the single quote is escaped, so that it can stand
between single quotes.
-/
namespace Traceability

open Number Text

def schemaVersion : String := "1.0"

/-- What is known about a marked element. Every field is written as it is given; the names and
titles are texts, and the line is an integer, in a marker that was built from a document or read
back. -/
structure Marker where
  useCaseId : Value
  useCaseTitle : Value
  function : Value
  file : Value
  line : Value
  endpoint : Value := .null
  dbTables : List Value := []
  authRequired : Value := .bool false
  lastVerified : Value := .text ""
  version : Value := .text schemaVersion
  visualElementId : Value := .text ""
  deriving Repr

inductive MarkerError
  | missing (names : List String)
  | unexpected (name : String)
  | integer (e : IntegerError)
  | undefinedNumber
  | infiniteNumber
  | notNumber (kind : String)
  | notSequence (kind : String)
  deriving DecidableEq, Repr

def enumerated (names : List String) : String :=
  match names.reverse with
  | [] => ""
  | [a] => a
  | [b, a] => a ++ " and " ++ b
  | last :: before => ", ".intercalate before.reverse ++ ", and " ++ last

def MarkerError.message : MarkerError → String
  | missing names =>
    s!"AnnotationPayload.__init__() missing {names.length} required positional " ++
      (if names.length = 1 then "argument: " else "arguments: ") ++
      enumerated (names.map literal)
  | unexpected name =>
    "AnnotationPayload.__init__() got an unexpected keyword argument " ++ literal name
  | integer e => e.message
  | undefinedNumber => "cannot convert float NaN to integer"
  | infiniteNumber => "cannot convert float infinity to integer"
  | notNumber kind =>
    s!"int() argument must be a string, a bytes-like object or a real number, not '{kind}'"
  | notSequence kind => s!"'{kind}' object is not iterable"

def Value.fullKind : Value → String
  | .scalar (.date d _) => "datetime." ++ (Value.scalar (.date d)).kind
  | .scalar (.moment m _) => "datetime." ++ (Value.scalar (.moment m)).kind
  | v => v.kind

/-- The integer that a value stands for: fractions are cut off and texts are read. -/
def Value.toWhole : Value → Except MarkerError Int
  | .scalar (.bool b) => .ok (if b then 1 else 0)
  | .scalar (.int n) => .ok n
  | .scalar (.float .nan _) => .error .undefinedNumber
  | .scalar (.float (.infinite _) _) => .error .infiniteNumber
  | .scalar (.float (.finite negative mantissa exponent) _) =>
    .ok (Binary64.truncated negative mantissa exponent)
  | .scalar (.text s) => (readInteger 10 s).mapError .integer
  | v => .error (.notNumber v.fullKind)

/-- The items of a value: a text has its characters and a mapping its keys. -/
def Value.toSequence (v : Value) : Except MarkerError (List Value) :=
  match v.content with
  | .list items => .ok items
  | .pair a b => .ok [a, b]
  | .map entries => .ok (entries.map fun entry => .scalar entry.1)
  | .set members => .ok (members.map .scalar)
  | .scalar (.text s) => .ok (s.toList.map fun c => .text (String.singleton c))
  | .scalar (.bytes bs) => .ok (bs.map fun b => .int b.toNat)
  | v => .error (.notSequence v.fullKind)

namespace Marker

def requiredNames : List String := ["use_case_id", "use_case_title", "function", "file", "line"]

def fieldNames : List String := requiredNames ++
  ["endpoint", "db_tables", "auth_required", "last_verified", "schema_version", "visual_element_id"]

def textField (data : Entries) (name default : String) : Except MarkerError Value :=
  match data.get? name with
  | some v => (v.written?.mapError .integer).map .text
  | none => .ok (.text default)

def ofEntries (data : Entries) : Except MarkerError Marker := do
  let line := data.field "line"
  let tables := data.field "db_tables"
  pure {
    useCaseId := ← textField data "use_case_id" ""
    useCaseTitle := ← textField data "use_case_title" ""
    function := ← textField data "function" ""
    file := ← textField data "file" ""
    line := .int (← if line.isTruthy then line.toWhole else pure 0)
    endpoint := data.field "endpoint"
    dbTables := ← if tables.isTruthy then tables.toSequence else pure []
    authRequired := .bool (data.field "auth_required").isTruthy
    lastVerified := ← textField data "last_verified" ""
    version := ← textField data "schema_version" schemaVersion
    visualElementId := ← textField data "visual_element_id" "" }

def givenField (data : Entries) (name : String) (default : Value) : Value :=
  (data.get? name).getD default

def unexpectedName? (data : Entries) : Option String :=
  data.findSome? fun entry =>
    match entry.1 with
    | .text name => if fieldNames.contains name then none else some name
    | _ => none

/-- A marker with the given fields. Those without a default must be present. -/
def ofFields (data : Entries) : Except MarkerError Marker := do
  let tables ← match data.get? "db_tables" with
    | some v => v.toSequence
    | none => pure []
  match unexpectedName? data with
  | some name => throw (.unexpected name)
  | none =>
    match requiredNames.filter fun name => !data.has name with
    | [] => pure {
        useCaseId := data.field "use_case_id"
        useCaseTitle := data.field "use_case_title"
        function := data.field "function"
        file := data.field "file"
        line := data.field "line"
        endpoint := data.field "endpoint"
        dbTables := tables
        authRequired := givenField data "auth_required" (.bool false)
        lastVerified := givenField data "last_verified" (.text "")
        version := givenField data "schema_version" (.text schemaVersion)
        visualElementId := givenField data "visual_element_id" (.text "") }
    | names => throw (.missing names)

def toEntries (a : Marker) : Entries :=
  Entries.named [
    ("use_case_id", a.useCaseId),
    ("use_case_title", a.useCaseTitle),
    ("function", a.function),
    ("file", a.file),
    ("line", a.line),
    ("endpoint", a.endpoint),
    ("db_tables", .list a.dbTables),
    ("auth_required", a.authRequired),
    ("last_verified", a.lastVerified),
    ("schema_version", a.version),
    ("visual_element_id", a.visualElementId)]

def toValue (a : Marker) : Value := .map a.toEntries

def escapeQuotes (cs : List Char) : List Char :=
  cs.flatMap fun c => if c = '\x27' then ['\\', 'u', '0', '0', '2', '7'] else [c]

def written (a : Marker) : Except UnserializableError (List Char) :=
  a.toValue.toJson?.map fun j => escapeQuotes j.compactChars

end Marker

end Traceability
