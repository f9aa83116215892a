import Traceability.Text.Quoted
import Traceability.Text.Search
import Traceability.Text.Similarity

/-! # Forms of command lines

A command is called with options and operands in any order. An option starts with a dash, and what
follows two dashes alone is an operand. The value of a long option may follow an equals sign.
-/
namespace Traceability.Command

open Text

inductive ValueKind
  | text
  | choice (words : List String)
  | folder
  | file
  deriving DecidableEq, Repr

/-- An option; one without a kind is a flag and takes no value. -/
structure OptionForm where
  name : String
  letter : Option Char := none
  kind : Option ValueKind := none
  required : Bool := false
  deriving DecidableEq, Repr

structure OperandForm where
  name : String
  kind : ValueKind := .text
  deriving DecidableEq, Repr

structure Form where
  name : String
  operands : List OperandForm := []
  options : List OptionForm := []
  deriving DecidableEq, Repr

inductive Misuse
  | unknownOption (name : String) (similar : List String)
  | valueMissing (name : String)
  | valueUnwanted (name : String)
  | optionMissing (name : String)
  | operandMissing (name : String)
  | noChoice (hint value : String) (words : List String)
  | noSuch (hint kind path : String)
  | isFile (hint path : String)
  | isFolder (hint path : String)
  | surplus (operands : List String)
  | unknownCommand (name : String) (similar : List String)
  | commandMissing
  deriving DecidableEq, Repr

def hintAt : List String → String
  | [] => ""
  | [word] => s!" Did you mean {literal word}?"
  | words => " (Did you mean one of: " ++ ", ".intercalate (words.map literal) ++ "?)"

def Misuse.message : Misuse → String
  | unknownOption name similar => s!"No such option {literal name}." ++ hintAt similar
  | valueMissing name => s!"Option {literal name} requires an argument."
  | valueUnwanted name => s!"Option {literal name} does not take a value."
  | optionMissing name => s!"Missing option \x27{name}\x27."
  | operandMissing name => s!"Missing argument \x27{name}\x27."
  | noChoice hint value words =>
    s!"Invalid value for \x27{hint}\x27: {literal value} is not one of " ++
      ", ".intercalate (words.map literal) ++ "."
  | noSuch hint kind path =>
    s!"Invalid value for \x27{hint}\x27: {kind} {literal path} does not exist."
  | isFile hint path => s!"Invalid value for \x27{hint}\x27: Directory {literal path} is a file."
  | isFolder hint path => s!"Invalid value for \x27{hint}\x27: File {literal path} is a directory."
  | surplus operands =>
    (if operands.length = 1 then "Got unexpected extra argument (" 
     else "Got unexpected extra arguments (") ++ " ".intercalate operands ++ ")"
  | unknownCommand name similar => s!"No such command {literal name}." ++ hintAt similar
  | commandMissing => "Missing command."

/-- The misuse says how the command is called; one that shows while options are cut out of the line
does not. -/
def Misuse.showsUsage : Misuse → Bool
  | valueMissing _ => false
  | valueUnwanted _ => false
  | _ => true

/-- The parts of a command line: the options in the order in which they were given, flags with an
empty value, and the operands. -/
structure Parts where
  options : List (String × String) := []
  operands : List String := []
  deriving DecidableEq, Repr

namespace Parts

def withOption (name value : String) (p : Parts) : Parts :=
  { p with options := (name, value) :: p.options }

def withOperand (value : String) (p : Parts) : Parts :=
  { p with operands := value :: p.operands }

/-- The value of an option; the last one given counts. -/
def value? (p : Parts) (name : String) : Option String := p.options.reverse.lookup name

def has (p : Parts) (name : String) : Bool := (p.value? name).isSome

def optionNames (p : Parts) : List String := (p.options.map (·.1)).eraseDups

end Parts

namespace Form

def help : OptionForm := { name := "--help" }

def allOptions (f : Form) : List OptionForm := f.options ++ [help]

def option? (f : Form) (name : String) : Option OptionForm :=
  f.allOptions.find? fun o => o.name == name

def letter? (f : Form) (c : Char) : Option OptionForm :=
  f.allOptions.find? fun o => o.letter == some c

def looksLikeOption : List Char → Bool
  | '-' :: _ :: _ => true
  | _ => false

def longName (cs : List Char) : String × Option String :=
  let name := cs.takeWhile (· != '=')
  (String.ofList name,
    if cs.contains '=' then some (String.ofList (cs.drop (name.length + 1))) else none)

/-- What an argument that looks like an option stands for: some flags, and then perhaps an option
whose value is given with it or still to come. -/
structure Reading where
  flags : List String := []
  ending : Option (String × Option String) := none
  deriving DecidableEq, Repr

def readLetters (f : Form) : List Char → Except Misuse Reading
  | [] => .ok {}
  | c :: cs =>
    match f.letter? c with
    | none => .error (.unknownOption (String.ofList ['-', c]) [])
    | some o =>
      match o.kind with
      | some _ => .ok { ending := some (o.name, if cs.isEmpty then none else some (String.ofList cs)) }
      | none => (readLetters f cs).map fun r => { r with flags := o.name :: r.flags }

def readOption (f : Form) (cs : List Char) : Except Misuse Reading :=
  let (name, value) := longName cs
  match f.option? name with
  | some o =>
    match o.kind, value with
    | some _, value => .ok { ending := some (name, value) }
    | none, none => .ok { flags := [name] }
    | none, some _ => .error (.valueUnwanted name)
  | none =>
    match cs with
    | '-' :: '-' :: _ =>
      .error (.unknownOption name (similarWords name (f.allOptions.map (·.name))))
    | _ => f.readLetters cs.tail

def withFlags (flags : List String) (p : Parts) : Parts :=
  flags.foldr (fun name p => p.withOption name "") p

/-- Splits arguments into options and operands. When operands `endOptions`, everything behind the
first one is an operand. -/
def split (f : Form) (endOptions : Bool) : List String → Except Misuse Parts
  | [] => .ok {}
  | arg :: rest =>
    if arg = "--" then .ok { operands := rest }
    else if looksLikeOption arg.toList then
      match f.readOption arg.toList with
      | .error e => .error e
      | .ok ⟨flags, none⟩ => (split f endOptions rest).map (withFlags flags)
      | .ok ⟨flags, some (name, some value)⟩ =>
        (split f endOptions rest).map fun p => withFlags flags (p.withOption name value)
      | .ok ⟨flags, some (name, none)⟩ =>
        match rest with
        | [] => .error (.valueMissing name)
        | value :: rest =>
          (split f endOptions rest).map fun p => withFlags flags (p.withOption name value)
    else if endOptions then .ok { operands := arg :: rest }
    else (split f endOptions rest).map (Parts.withOperand arg)

def usage (f : Form) : String :=
  " ".intercalate (["main", f.name, "[OPTIONS]"] ++ f.operands.map (·.name))

end Form

end Traceability.Command
