/-! # Searching and splitting

Cutting a text at a separator is undone by joining with it, so a text and its list of lines carry
the same information.
-/
namespace Traceability.Text

def occursIn (needle : List Char) : List Char → Bool
  | [] => needle.isEmpty
  | c :: cs => needle.isPrefixOf (c :: cs) || occursIn needle cs

/-- What follows `lead` when the text starts with it. -/
def after? : List Char → List Char → Option (List Char)
  | [], cs => some cs
  | _ :: _, [] => none
  | l :: ls, c :: cs => if l = c then after? ls cs else none

def splitAt (separator : Char) : List Char → List (List Char)
  | [] => [[]]
  | c :: cs =>
    if c = separator then [] :: splitAt separator cs
    else match splitAt separator cs with
      | [] => [[c]]
      | piece :: pieces => (c :: piece) :: pieces

def joinWith (separator : Char) : List (List Char) → List Char
  | [] => []
  | [piece] => piece
  | piece :: pieces => piece ++ separator :: joinWith separator pieces

def lines (s : String) : List (List Char) := splitAt '\n' s.toList

def unlines (ls : List (List Char)) : String := String.ofList (joinWith '\n' ls)

def dropFinalNewline (cs : List Char) : List Char :=
  if cs.getLast? = some '\n' then cs.dropLast else cs

/-- The part before the first separator and, when there is one, the part behind it. -/
def cutAt (separator : Char) : List Char → List Char × List Char
  | [] => ([], [])
  | c :: cs =>
    if c = separator then ([], cs)
    else (c :: (cutAt separator cs).1, (cutAt separator cs).2)

theorem splitAt_ne_nil (separator : Char) (cs : List Char) : splitAt separator cs ≠ [] := by
  cases cs with
  | nil => simp [splitAt]
  | cons c cs =>
    by_cases h : c = separator
    · simp [splitAt, h]
    · simp only [splitAt, h, if_false]
      split <;> simp

theorem joinWith_splitAt (separator : Char) (cs : List Char) :
    joinWith separator (splitAt separator cs) = cs := by
  induction cs with
  | nil => rfl
  | cons c cs ih =>
    have hne := splitAt_ne_nil separator cs
    by_cases h : c = separator
    · subst h
      rw [splitAt, if_pos rfl]
      cases hs : splitAt c cs with
      | nil => exact absurd hs hne
      | cons piece pieces => rw [joinWith, ← hs, ih]; simp; simp
    · rw [splitAt, if_neg h]
      cases hs : splitAt separator cs with
      | nil => exact absurd hs hne
      | cons piece pieces =>
        rw [hs] at ih
        cases pieces with
        | nil => simpa [joinWith] using ih
        | cons q qs => simpa [joinWith] using ih

end Traceability.Text
