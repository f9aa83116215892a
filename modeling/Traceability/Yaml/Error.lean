import Traceability.Calendar
import Traceability.Text.Utf8

/-! # Errors of documents

A document that breaks the grammar is malformed. The other errors come from single scalars whose
text does not fit their type, or from bytes that are no text.
-/
namespace Traceability.Yaml

open Number Text

inductive LoadError
  | malformed
  | integer (e : IntegerError)
  | emptyNumber
  | float (text : String)
  | truth (key : String)
  | calendar (e : CalendarError)
  | noMoment
  | momentOfEntries
  | hugeWeight
  | endless
  | codePoint
  | hugeCodePoint
  | unreadable (e : Utf8Error)
  deriving DecidableEq, Repr

def LoadError.message : LoadError → String
  | malformed => "<yaml error>"
  | integer e => e.message
  | emptyNumber => "string index out of range"
  | float text => "could not convert string to float: " ++ literal text
  | truth key => literal key
  | calendar e => e.message
  | noMoment => "'NoneType' object has no attribute 'groupdict'"
  | momentOfEntries => "expected string or bytes-like object, got 'list'"
  | hugeWeight => "int too large to convert to float"
  | endless => "maximum recursion depth exceeded"
  | codePoint => "chr() arg not in range(0x110000)"
  | hugeCodePoint => "Python int too large to convert to C int"
  | unreadable e => e.message

end Traceability.Yaml
