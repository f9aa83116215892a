import Traceability.Audit.Identity

/-! # Checks of duplicates

The first use of a value owns it, and every later use is reported against the owner.
-/
namespace Traceability.Audit

open Text

/-- Uses of a value: the value and the label of the use case. -/
abbrev Uses := List (String × String)

/-- The uses of a non-empty attribute over the active function records. -/
def usesOf (value : FunctionRecord → Option String) (d : Document) : Uses :=
  d.activeFunctions.filterMap fun (u, f) =>
    ((value f).bind nonEmpty?).map fun key => (key, label u)

def reportRepeat (kind key owner user : String) : Reporting Unit :=
  error .noDuplicate <|
    if owner = user then s!"{kind} \"{key}\" registered twice in {user}"
    else s!"{kind} \"{key}\" in both {owner} and {user}"

/-- Report the uses that have an owner already: whether there are any, and the owners in the end. -/
def reportRepeatsFrom (kind : String) (found : Bool) (owners : Uses) : Uses → Reporting (Bool × Uses)
  | [] => pure (found, owners)
  | (key, user) :: rest =>
    match owners.lookup key with
    | none => reportRepeatsFrom kind found (owners ++ [(key, user)]) rest
    | some owner => do
      reportRepeat kind key owner user
      reportRepeatsFrom kind true owners rest

def reportRepeats (kind lowerKind : String) (uses : Uses) : Reporting Unit := do
  let (found, owners) ← reportRepeatsFrom kind false [] uses
  passedIf (!found) .noDuplicate s!"No duplicate {lowerKind}s ({owners.length} checked)"

def reportFunctionNames (d : Document) : Reporting Unit :=
  reportRepeats "Function" "function" (usesOf (·.name) d)

def reportEndpoints (d : Document) : Reporting Unit :=
  reportRepeats "Endpoint" "endpoint" (usesOf (·.endpoint) d)

/-- The id of a visual element that is not designed yet. -/
def pendingElement : String := "pending"

def reportElementFormat (u : UseCase) (element : String) : Reporting Unit :=
  if Format.isVisualElementId element then
    passed .metaInjection s!"UC {shown u.id}: visual_element_id \"{element}\" valid"
  else
    warn .metaInjection
      s!"UC {shown u.id}: visual_element_id \"{element}\" does not match VE-[Entity]-[Action]"

/-- One visual element id, given the ids seen before; the ids seen after it. -/
def reportElement (u : UseCase) (seen : List String) : Reporting (List String) :=
  match u.visualElementId with
  | none => do
    passed .metaInjection
      s!"UC {shown u.id}: visual_element_id null (system UC or intentionally unlinked)"
    pure seen
  | some element =>
    if element = pendingElement then do
      passed .metaInjection s!"UC {shown u.id}: visual_element_id pending (UI not yet designed)"
      pure seen
    else do
      reportElementFormat u element
      if element = "" then pure seen
      else do
        errorIf (seen.contains element) .metaInjection
          s!"Duplicate visual_element_id \"{element}\" across use cases"
        pure (seen ++ [element])

def reportElementsFrom (seen : List String) : List UseCase → Reporting Unit
  | [] => pure ()
  | u :: rest => do
    let seen ← reportElement u seen
    reportElementsFrom seen rest

def reportElements (d : Document) : Reporting Unit := reportElementsFrom [] d.active

end Traceability.Audit
