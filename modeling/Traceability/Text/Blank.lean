import Traceability.Text.Ranges

/-! # Blank characters

Blanks are the separators of Unicode together with the ASCII controls that move the print
position or separate records. Trimming removes them from the ends of a text and nothing else.
-/
namespace Traceability.Text

def blankRanges : Ranges := [
  (0x9, 0xD), (0x1C, 0x20), (0x85, 0x85), (0xA0, 0xA0), (0x1680, 0x1680), (0x2000, 0x200A),
  (0x2028, 0x2029), (0x202F, 0x202F), (0x205F, 0x205F), (0x3000, 0x3000)]

/-- White space of any kind, line ends included. -/
def isBlank (c : Char) : Bool := blankRanges.contains c

def dropTrailingWhere (test : Char → Bool) (cs : List Char) : List Char :=
  (cs.reverse.dropWhile test).reverse

def trimStart (cs : List Char) : List Char := cs.dropWhile isBlank

def trimEnd (cs : List Char) : List Char := dropTrailingWhere isBlank cs

def trim (cs : List Char) : List Char := trimEnd (trimStart cs)

def stripped (s : String) : String := String.ofList (trim s.toList)

def isBlankText (s : String) : Bool := s.toList.all isBlank

end Traceability.Text
