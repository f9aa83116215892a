/-! # Runs of case pairs

Characters with a form in the other case come in runs that keep their distance from it. In some
runs only every second character has such a form.
-/
namespace Traceability.Text

/-- Every `stride`-th character of a closed range, with the image of the first one. -/
structure CaseRun where
  first : Nat
  last : Nat
  stride : Nat
  image : Nat

def CaseRun.image? (run : CaseRun) (n : Nat) : Option Nat :=
  if run.first ≤ n && n ≤ run.last && (n - run.first) % run.stride == 0 then
    some (run.image + (n - run.first))
  else none

end Traceability.Text
