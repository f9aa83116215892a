import Traceability.Document.Basic
import Traceability.Text.Utf8
import Traceability.Yaml.Load

/-! # Documents in files -/
namespace Traceability

open Number Text

/-- Why a file holds no document. The first four name the file. -/
inductive DocumentError
  | notFound (path : String)
  | undecodable (path : String) (e : Utf8Error)
  | unparsable (path : String)
  | notMapping (path : String)
  | scalar (e : Yaml.LoadError)
  | field (e : IntegerError)
  deriving DecidableEq, Repr

def DocumentError.message : DocumentError → String
  | notFound path => "Matrix file not found at: " ++ path
  | undecodable path e => "Cannot read matrix file " ++ path ++ ": " ++ e.message
  | unparsable path => "Matrix parse error in " ++ path ++ ": " ++ Yaml.LoadError.malformed.message
  | notMapping path => "Matrix file " ++ path ++ " must contain a mapping at the top level"
  | scalar e => e.message
  | field e => e.message

/-- The error says that the file holds no document, and not that a scalar in it is wrong. -/
def DocumentError.isAboutFile : DocumentError → Bool
  | scalar _ => false
  | field _ => false
  | _ => true

def loadValue (path : String) (cs : List Char) : Except DocumentError Value :=
  match Yaml.load (universalLines cs) with
  | .ok v => .ok v
  | .error .malformed => .error (.unparsable path)
  | .error e => .error (.scalar e)

def Document.load (path : String) (content : Option (List UInt8)) :
    Except DocumentError Document := do
  match content with
  | none => .error (.notFound path)
  | some bytes =>
    let cs ← (decodeUtf8 bytes).mapError (.undecodable path)
    let v ← loadValue path cs
    if v.isMap then (Document.ofValue v).mapError .field else .error (.notMapping path)

end Traceability
