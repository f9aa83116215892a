import Traceability.Display.Wrap
import Traceability.Text.Emoji

/-! # Lines on a display

A detail is shown inside a line in which bracketed words stand for styles. Brackets of the detail
itself are protected, so that they are shown; a backslash before a bracket that opens no word is
taken for a protection and disappears, and a single backslash at the end is doubled. Emoji codes are
replaced, but none of them reaches across the border of a bracketed word.
-/
namespace Traceability.Display

open Text

def closesBracket : List Char → Bool
  | [] => false
  | c :: cs => if c = ']' then true else if c = '[' then false else closesBracket cs

def opensWord : List Char → Bool
  | [] => false
  | c :: cs =>
    ((97 ≤ c.toNat && c.toNat ≤ 122) || c == '#' || c == '/' || c == '@') && closesBracket cs

def consFirst (c : Char) : List (List Char) → List (List Char)
  | [] => [[c]]
  | piece :: pieces => (c :: piece) :: pieces

/-- The bracketed words of a text and what stands between them; `inside` says that the text begins
inside a word. -/
def cutAtWords (inside : Bool) : List Char → List (List Char)
  | [] => []
  | c :: cs =>
    if inside then
      if c = ']' then [c] :: cutAtWords false cs else consFirst c (cutAtWords true cs)
    else if c = '[' && opensWord cs then [] :: consFirst c (cutAtWords true cs)
    else consFirst c (cutAtWords false cs)

def withoutProtection : List Char → List Char
  | '\\' :: '[' :: cs => '[' :: withoutProtection cs
  | c :: cs => c :: withoutProtection cs
  | [] => []

/-- A text with its bracketed words, without seeming protections and with emoji. -/
def shownPieces (cs : List Char) : List Char :=
  (cutAtWords false cs).flatMap fun piece => withEmoji (withoutProtection piece)

def trailingBackslashes (cs : List Char) : Nat := (cs.reverse.takeWhile (· == '\\')).length

/-- Characters that would move the print position; they are not shown. -/
def isControl (c : Char) : Bool := c.toNat == 7 || c.toNat == 8 || (11 ≤ c.toNat && c.toNat ≤ 13)

def shownDetail (detail : String) : List Char :=
  let cs := detail.toList
  let body := shownPieces cs ++ (if trailingBackslashes cs = 1 then ['\\'] else [])
  body.filter fun c => !isControl c

/-- A detail as it is shown in front of the end of a style: pairs of backslashes at its end count
as one, and an odd backslash protects the end of the style. -/
def shownBeforeStyleEnd (detail : String) : List Char :=
  let cs := detail.toList
  let count := trailingBackslashes cs
  let doubled := if count = 1 then 2 else count
  let body := shownPieces (cs.take (cs.length - count)) ++
    List.replicate (doubled / 2) '\\' ++ (if doubled % 2 = 1 then ['[', '/', ']'] else [])
  body.filter fun c => !isControl c

def printed (width : Nat) (cs : List Char) : String := printLines (wrap .fold width cs)

end Traceability.Display
