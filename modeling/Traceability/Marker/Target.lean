import Traceability.Text.Blank
import Traceability.Text.Search
import Traceability.Text.Word

/-! # Finding the line of an element

An element is marked where it is used. When no line uses it, the line is looked for behind a
declaration of its name: the first one that opens a tag, within a window of lines.
-/
namespace Traceability.Marker

open Text

/-- The lines from a declaration on in which its tag is looked for. -/
def declarationWindow : Nat := 80

def anySuffix (test : List Char → Bool) : List Char → Bool
  | [] => test []
  | c :: cs => test (c :: cs) || anySuffix test cs

def endsName (c : Char) : Bool := isBlank c || c == '/' || c == '>'

def beginsUse (name cs : List Char) : Bool :=
  match after? ('<' :: name) cs with
  | some (c :: _) => endsName c
  | _ => false

def usesElement (name line : List Char) : Bool := anySuffix (beginsUse name) line

def beginsTag : List Char → Bool
  | '<' :: c :: _ => isAsciiLetter c
  | _ => false

def opensTag (line : List Char) : Bool := anySuffix beginsTag line

/-- After one or more blanks, of which some may belong to what follows, the test is passed. The
test also gets the last blank. -/
def afterBlanks (test : Char → List Char → Bool) : List Char → Bool
  | [] => false
  | c :: cs => isBlank c && (test c cs || afterBlanks test cs)

/-- The text begins with the name, and no word goes on behind it. -/
def beginsWhole (name : List Char) (before : Char) (cs : List Char) : Bool :=
  match after? name cs with
  | some rest => isBoundary (some ((name.getLast?).getD before)) rest.head?
  | none => false

def beginsBinding (name : List Char) (cs : List Char) : Bool :=
  match after? name cs with
  | some rest => (trimStart rest).head? == some '='
  | none => false

def bindingWords : List (List Char) :=
  [['c', 'o', 'n', 's', 't'], ['l', 'e', 't'], ['v', 'a', 'r']]

def beginsFunction (name cs : List Char) : Bool :=
  match after? ['f', 'u', 'n', 'c', 't', 'i', 'o', 'n'] cs with
  | some rest => afterBlanks (beginsWhole name) rest
  | none => false

def beginsConstant (name cs : List Char) : Bool :=
  bindingWords.any fun word =>
    match after? word cs with
    | some rest => afterBlanks (fun _ => beginsBinding name) rest
    | none => false

def declaresName (name line : List Char) : Bool :=
  anySuffix (fun cs => beginsFunction name cs || beginsConstant name cs) line

/-- The first line that opens a tag behind a declaration, within the window. -/
def targetBehindDeclaration (name : List Char) (start : Nat) : List (List Char) → Option Nat
  | [] => none
  | line :: rest =>
    if declaresName name line then
      match (rest.take (declarationWindow - 1)).findIdx? opensTag with
      | some i => some (start + 1 + i)
      | none => targetBehindDeclaration name (start + 1) rest
    else targetBehindDeclaration name (start + 1) rest

def findTarget (lines : List (List Char)) (name : List Char) : Option Nat :=
  match lines.findIdx? (usesElement name) with
  | some i => some i
  | none => targetBehindDeclaration name 0 lines

end Traceability.Marker
