import Traceability.Json.Basic

/-! # Writing JSON

There are two layouts: everything on one line without blanks, or one item a line with an indent
of two for each level. Characters outside ASCII stand for themselves.
-/
namespace Traceability.Json

open Text

def escapedChar (c : Char) : List Char :=
  if c = '\x22' then ['\\', '\x22']
  else if c = '\\' then ['\\', '\\']
  else if c = '\n' then ['\\', 'n']
  else if c = '\r' then ['\\', 'r']
  else if c = '\t' then ['\\', 't']
  else if c = '\x0c' then ['\\', 'f']
  else if c = '\x08' then ['\\', 'b']
  else if c.toNat < 32 then '\\' :: 'u' :: hexPadded 4 c.toNat
  else [c]

def quotedText (s : String) : List Char :=
  '\x22' :: (s.toList.flatMap escapedChar ++ ['\x22'])

mutual

def compactChars : Json → List Char
  | .null => ['n', 'u', 'l', 'l']
  | .bool b => if b then ['t', 'r', 'u', 'e'] else ['f', 'a', 'l', 's', 'e']
  | .int n => (toString n).toList
  | .float x => x.toJsonText.toList
  | .text s => quotedText s
  | .list items => '[' :: (compactItems items ++ [']'])
  | .object members => '\x7b' :: (compactMembers members ++ ['\x7d'])

def compactItems : List Json → List Char
  | [] => []
  | [j] => j.compactChars
  | j :: js => j.compactChars ++ ',' :: compactItems js

def compactMembers : List (String × Json) → List Char
  | [] => []
  | [(name, j)] => quotedText name ++ ':' :: j.compactChars
  | (name, j) :: rest => quotedText name ++ ':' :: (j.compactChars ++ ',' :: compactMembers rest)

end

/-- A line end and an indent of two blanks a level. -/
def newLine (level : Nat) : List Char := '\n' :: List.replicate (2 * level) ' '

mutual

def indentedChars (level : Nat) : Json → List Char
  | .list [] => ['[', ']']
  | .list (j :: js) =>
    '[' :: (newLine (level + 1) ++ j.indentedChars (level + 1) ++ indentedItems (level + 1) js ++
      newLine level ++ [']'])
  | .object [] => ['\x7b', '\x7d']
  | .object ((name, j) :: rest) =>
    '\x7b' :: (newLine (level + 1) ++ quotedText name ++ ':' :: ' ' ::
      (j.indentedChars (level + 1) ++ indentedMembers (level + 1) rest ++
      newLine level ++ ['\x7d']))
  | .null => ['n', 'u', 'l', 'l']
  | .bool b => if b then ['t', 'r', 'u', 'e'] else ['f', 'a', 'l', 's', 'e']
  | .int n => (toString n).toList
  | .float x => x.toJsonText.toList
  | .text s => quotedText s

def indentedItems (level : Nat) : List Json → List Char
  | [] => []
  | j :: js => ',' :: (newLine level ++ j.indentedChars level ++ indentedItems level js)

def indentedMembers (level : Nat) : List (String × Json) → List Char
  | [] => []
  | (name, j) :: rest =>
    ',' :: (newLine level ++ quotedText name ++ ':' :: ' ' ::
      (j.indentedChars level ++ indentedMembers level rest))

end

def indented (j : Json) : String := String.ofList (j.indentedChars 0)

mutual

def isWritable : Json → Bool
  | .int n => Number.isWritable n
  | .list items => itemsWritable items
  | .object members => membersWritable members
  | _ => true

def itemsWritable : List Json → Bool
  | [] => true
  | j :: js => j.isWritable && itemsWritable js

def membersWritable : List (String × Json) → Bool
  | [] => true
  | (_, j) :: rest => j.isWritable && membersWritable rest

end

def written? (j : Json) : Except Number.IntegerError String :=
  if j.isWritable then .ok j.indented else .error .tooLarge

end Traceability.Json
