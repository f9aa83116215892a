/-! # Similar words

Two words are similar when the blocks they have in common make up most of them. The blocks are
found by taking the longest common piece first, and then going on to its left and to its right.
-/
namespace Traceability.Text

def commonStart : List Char → List Char → Nat
  | a :: as, b :: bs => if a = b then commonStart as bs + 1 else 0
  | _, _ => 0

/-- The longest common piece of two texts: its place in each of them and its length. Of several
ones, the one that starts first in the first text counts, and then the one that starts first in the
second. -/
def longestCommon (as bs : List Char) : Nat × Nat × Nat :=
  ((List.range as.length).flatMap fun i =>
    (List.range bs.length).map fun j => (i, j, commonStart (as.drop i) (bs.drop j))).foldl
      (fun best next => if best.2.2 < next.2.2 then next else best) (0, 0, 0)

/-- How many characters the common blocks of two texts have; `fuel` bounds the number of pieces
looked at one after the other. -/
def commonCount : Nat → List Char → List Char → Nat
  | 0, _, _ => 0
  | fuel + 1, as, bs =>
    let (i, j, size) := longestCommon as bs
    if size = 0 then 0
    else commonCount fuel (as.take i) (bs.take j) + size +
      commonCount fuel (as.drop (i + size)) (bs.drop (j + size))

def sharedCount (a b : String) : Nat := commonCount (a.length + 1) a.toList b.toList

/-- At least six tenths of the characters of both words are shared. -/
def areSimilar (a b : String) : Bool := 3 * (a.length + b.length) ≤ 10 * sharedCount a b

/-- The first word is more similar to `word` than the second. -/
def isCloser (word a b : String) : Bool :=
  let left := sharedCount a word * (b.length + word.length)
  let right := sharedCount b word * (a.length + word.length)
  right < left || (right == left && b ≤ a)

/-- Up to three words that are similar to a word, in alphabetical order. -/
def similarWords (word : String) (words : List String) : List String :=
  (((words.filter fun other => areSimilar other word).mergeSort (isCloser word)).take 3).mergeSort
    fun a b => a ≤ b

end Traceability.Text
