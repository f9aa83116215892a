import Traceability.Number.Integer
import Traceability.Text.EmojiNames
import Traceability.Text.LowerCase
import Traceability.Text.Search

/-! # Emoji codes

A name between two colons stands for an emoji. The name may be followed by a dash and the wish for
a picture or for a sign of text. A name ends at the first colon, and holds no blanks; a code with an
unknown name stands for itself.
-/
namespace Traceability.Text

def emojiWords : List (List Char) := emojiLines.flatMap fun line => splitAt ' ' line.toList

def charsOfCodes (codes : List Char) : List Char :=
  (splitAt '+' codes).map fun digits =>
    Char.ofNat (Number.ofDigits 16 (digits.filterMap (Number.digitIn? 16)))

def emojiNamed? (name : List Char) : Option (List Char) :=
  emojiWords.findSome? fun word => (after? (name ++ ['=']) word).map charsOfCodes

/-- How an emoji is asked for at the end of its code, and the selector that asks for it. -/
def emojiWishes : List (List Char × Char) := [
  (['-', 'e', 'm', 'o', 'j', 'i', ':'], '\uFE0F'), (['-', 't', 'e', 'x', 't', ':'], '\uFE0E')]

def codeEnd? (cs : List Char) : Option (Nat × List Char) :=
  if cs.head? = some ':' then some (1, [])
  else emojiWishes.findSome? fun (ending, selector) =>
    if ending.isPrefixOf cs then some (ending.length, [selector]) else none

/-- A code behind its first colon: its name, the length of its end, and a selector. -/
def readCode? : List Char → Option (List Char × Nat × List Char)
  | [] => none
  | c :: cs =>
    match codeEnd? (c :: cs) with
    | some (length, selector) => some ([], length, selector)
    | none => if isBlank c then none else (readCode? cs).map fun (name, rest) => (c :: name, rest)

/-- What a code stands for behind its first colon, and how many characters it has there. -/
def codeMeaning? (cs : List Char) : Option (List Char × Nat) :=
  (readCode? cs).map fun (name, length, selector) =>
    let whole := name.length + length
    match emojiNamed? (lower name) with
    | some emoji => (emoji ++ selector, whole)
    | none => (':' :: cs.take whole, whole)

/-- The text with emoji in place of codes; `skip` characters of a code are still to be dropped. -/
def withEmojiFrom (skip : Nat) : List Char → List Char
  | [] => []
  | c :: cs =>
    match skip with
    | k + 1 => withEmojiFrom k cs
    | 0 =>
      match if c = ':' then codeMeaning? cs else none with
      | some (shown, length) => shown ++ withEmojiFrom length cs
      | none => c :: withEmojiFrom 0 cs

def withEmoji (cs : List Char) : List Char := withEmojiFrom 0 cs

end Traceability.Text
