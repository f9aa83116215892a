/-! # Code points

A text is a list of code points. Some of them are halves of pairs that stand alone: a text that was
written with escapes may hold them, although they are no characters. The private characters from
U+10F000 to U+10F7FF stand for them here. So these 2048 characters cannot be told from halves of
pairs, and what is said of texts is meant for texts in which each of them is a half: nothing is
claimed about a file or an argument that holds such a private character itself.
-/
namespace Traceability.Text

def firstHalfChar : Nat := 0x10F000

def firstHalf : Nat := 0xD800

def halfCount : Nat := 2048

def isHalf (c : Char) : Bool := firstHalfChar ≤ c.toNat && c.toNat < firstHalfChar + halfCount

def codePoint (c : Char) : Nat :=
  if isHalf c then c.toNat - firstHalfChar + firstHalf else c.toNat

def ofCodePoint (n : Nat) : Char :=
  if firstHalf ≤ n ∧ n < firstHalf + halfCount then Char.ofNat (n - firstHalf + firstHalfChar)
  else Char.ofNat n

def holdsHalf (cs : List Char) : Bool := cs.any isHalf

end Traceability.Text
