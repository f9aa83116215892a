import Traceability.Tool.Run

/-! # Replies of the tool server

A request with malformed arguments and a broken run are failures. A question that the project
cannot answer is answered in words.
-/
namespace Traceability

structure Reply where
  failed : Bool
  text : String
  deriving DecidableEq, Repr

def Yaml.LoadError.isExpected : Yaml.LoadError → Bool
  | noMoment => false
  | momentOfEntries => false
  | hugeWeight => false
  | endless => false
  | hugeCodePoint => false
  | _ => true

def Fault.isExpected : Fault → Bool
  | access .nullByte _ => true
  | access _ _ => false
  | settings e => e.isExpected
  | document (.scalar e) => e.isExpected
  | marker (.integer _) => true
  | marker _ => false
  | _ => true

/-- The error is an answer in words, and not a failure. -/
def ToolError.isExpected : ToolError → Bool
  | fault e => e.isExpected
  | notPath _ => false
  | notName _ => false
  | notMethod _ => false
  | _ => true

namespace Reply

def ofArgumentError (e : ArgumentError) : Reply := ⟨true, "Input validation error: " ++ e.message⟩

def ofError (e : ToolError) : Reply :=
  if e.isExpected then ⟨false, "Error: " ++ e.message⟩ else ⟨true, e.message⟩

end Reply

def Workspace.reply (w : Workspace) (root : Path) (name : String) (given : Members) :
    Reply × FileTree :=
  match (Tool.ofName? name).bind fun t => t.argumentError? given with
  | some e => (.ofArgumentError e, w.tree)
  | none =>
    let (answer, tree) := w.callTool root name given
    match answer with
    | .ok j =>
      match j.written? with
      | .ok text => (⟨false, text⟩, tree)
      | .error e => (⟨true, e.message⟩, tree)
    | .error e => (.ofError e, tree)

end Traceability
