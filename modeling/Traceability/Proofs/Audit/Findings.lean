import Traceability.Audit.Evaluate

/-! # What the checks find

The findings of each check as a list, in the order of their discovery, with no report at hand. The two
checks that ask for files also have a list of the paths they ask for.
-/
namespace Traceability.Audit
open Text

/-- The finding, if the condition holds. -/
def onlyIf (condition : Bool) (f : Finding) : List Finding := if condition then [f] else []

/-! ## The document as a whole -/

def checkRequired (name : String) (value : Option String) : Finding :=
  if filled value then
    passing .documentStructure s!"Top-level field present: {name} = \"{shown value}\""
  else failure .documentStructure s!"Matrix top-level field missing: {name}"

def checkTopLevel (d : Document) : List Finding :=
  (requiredFields d).map (fun field => checkRequired field.1 field.2) ++
  onlyIf (filled d.lastUpdated && !Format.isDate (shown d.lastUpdated))
    (failure .documentStructure s!"last_updated is not YYYY-MM-DD format: \"{shown d.lastUpdated}\"") ++
  (match d.useCases with
  | none => [failure .documentStructure "Matrix use_cases field is missing or not a list"]
  | some useCases =>
    [passing .documentStructure s!"use_cases list present ({useCases.length} entries)"])

def checkPart (s : Stack) (part : String) : Finding :=
  match s.choice part with
  | .null =>
    warning .stackRules s!"Stack field \"{part}\" is null. Required for initialized projects."
  | v => passing .stackRules s!"Stack field declared: {part} = \"{v.shown}\""

def checkStack (d : Document) : List Finding :=
  match d.stack with
  | none => [warning .documentStructure "Stack declaration is missing. Add a stack section."]
  | some s =>
    if s.choices.all (·.isNull) then
      [warning .documentStructure
        "Stack declaration is all-null. Initialize stack values during project setup."]
    else requiredParts.map (checkPart s)

/-! ## Identity -/

/-- The position of one use case is noted under its id, if it has one. -/
def noteUse (table : List (String × List String)) (p : String × UseCase) :
    List (String × List String) :=
  match p.2.id.bind nonEmpty? with
  | some id => notePosition id p.1 table
  | none => table

/-- The positions of each id, in the order of first use. -/
def positionTable (us : List (String × UseCase)) : List (String × List String) :=
  us.foldl noteUse []

def duplicateIds (us : List (String × UseCase)) : List (String × List String) :=
  (positionTable us).filter fun row => 1 < row.2.length

def checkUseCase (u : UseCase) : List Finding :=
  onlyIf (filled u.id && !Format.isUseCaseId (shown u.id))
    (warning .identity s!"Use case ID \"{shown u.id}\" does not follow UC-XXX format") ++
  onlyIf (!(u.status.any UseCase.validStatuses.contains))
    (failure .identity s!"UC {label u} has invalid status: \"{shown u.status}\"") ++
  onlyIf (!filled u.title) (failure .identity s!"UC {label u} is missing title") ++
  onlyIf (!filled u.value) (failure .useCaseFirst s!"UC {label u} is missing value statement")

def duplicateId (id : String) (positions : List String) : Finding :=
  failure .identity (s!"Duplicate use case ID \"{id}\" ({positions.length} occurrences: " ++
    ", ".intercalate positions ++ ")")

def checkIdentity (d : Document) : List Finding :=
  let us := locatedUseCases d
  let duplicates := duplicateIds us
  us.flatMap (fun (position, u) =>
    onlyIf (!filled u.id) (failure .identity s!"Use case at {position} has no id field")) ++
  duplicates.map (fun row => duplicateId row.1 row.2) ++
  onlyIf duplicates.isEmpty (passing .identity s!"All use case IDs unique ({us.length} total)") ++
  us.flatMap fun (_, u) => checkUseCase u

/-! ## Duplicates -/

/-- A use of a value that has an owner already. -/
structure Repeat where
  key : String
  owner : String
  user : String
  deriving DecidableEq, Repr

/-- The repeats among some uses, given the owners so far, and the owners in the end. -/
def repeatsFrom (owners : Uses) : Uses → List Repeat × Uses
  | [] => ([], owners)
  | (key, user) :: rest =>
    match owners.lookup key with
    | none => repeatsFrom (owners ++ [(key, user)]) rest
    | some owner =>
      let (repeats, owners) := repeatsFrom owners rest
      (⟨key, owner, user⟩ :: repeats, owners)

def repeatFinding (kind : String) (r : Repeat) : Finding :=
  failure .noDuplicate <|
    if r.owner = r.user then s!"{kind} \"{r.key}\" registered twice in {r.user}"
    else s!"{kind} \"{r.key}\" in both {r.owner} and {r.user}"

def checkRepeats (kind lowerKind : String) (uses : Uses) : List Finding :=
  let (repeats, owners) := repeatsFrom [] uses
  repeats.map (repeatFinding kind) ++
  onlyIf repeats.isEmpty
    (passing .noDuplicate s!"No duplicate {lowerKind}s ({owners.length} checked)")

def checkFunctionNames (d : Document) : List Finding :=
  checkRepeats "Function" "function" (usesOf (·.name) d)

def checkEndpoints (d : Document) : List Finding :=
  checkRepeats "Endpoint" "endpoint" (usesOf (·.endpoint) d)

def checkElement (u : UseCase) (seen : List String) : List Finding × List String :=
  match u.visualElementId with
  | none =>
    ([passing .metaInjection
      s!"UC {shown u.id}: visual_element_id null (system UC or intentionally unlinked)"], seen)
  | some element =>
    if element = pendingElement then
      ([passing .metaInjection
        s!"UC {shown u.id}: visual_element_id pending (UI not yet designed)"], seen)
    else
      let format :=
        if Format.isVisualElementId element then
          passing .metaInjection s!"UC {shown u.id}: visual_element_id \"{element}\" valid"
        else
          warning .metaInjection
            s!"UC {shown u.id}: visual_element_id \"{element}\" does not match VE-[Entity]-[Action]"
      if element = "" then ([format], seen)
      else
        (format :: onlyIf (seen.contains element) (failure .metaInjection
          s!"Duplicate visual_element_id \"{element}\" across use cases"), seen ++ [element])

def checkElementsFrom (seen : List String) : List UseCase → List Finding
  | [] => []
  | u :: rest =>
    let (findings, seen) := checkElement u seen
    findings ++ checkElementsFrom seen rest

def checkElements (d : Document) : List Finding := checkElementsFrom [] d.active

/-! ## Completeness -/

def checkRecord (u : UseCase) (f : FunctionRecord) : List Finding :=
  let name := shown f.name
  onlyIf (!filled f.name)
    (failure .completeness s!"UC {shown u.id}: function record missing \"name\"") ++
  onlyIf (!filled f.file)
    (failure .completeness s!"UC {shown u.id}: function \"{name}\" missing \"file\"") ++
  onlyIf f.line.isNone
    (failure .completeness s!"UC {shown u.id}: function \"{name}\" missing \"line\"") ++
  onlyIf f.authRequired.isNone
    (warning .completeness s!"UC {shown u.id}: function \"{name}\" missing \"auth_required\"") ++
  onlyIf (!filled f.lastModified)
    (warning .completeness s!"UC {shown u.id}: function \"{name}\" missing \"last_modified\"")

def checkImplementedUseCase (u : UseCase) : List Finding :=
  if u.functions.isEmpty then
    [failure .completeness
      s!"UC {shown u.id} is \"implemented\" but has no functions registered"]
  else
    passing .completeness s!"UC {shown u.id} has {u.functions.length} function(s) registered" ::
      u.functions.flatMap (checkRecord u)

def checkImplemented (d : Document) : List Finding :=
  (d.active.filter (·.isImplemented)).flatMap checkImplementedUseCase

def checkDeprecatedEntry (u : UseCase) : List Finding :=
  let id := shown u.id
  onlyIf (!u.isDeprecated) (warning .deprecation
    s!"Entry in deprecated list has status \"{shown u.status}\" (expected \"deprecated\"): {id}") ++
  onlyIf (!filled u.deprecatedDate)
    (failure .deprecation s!"Deprecated entry {id} missing \"deprecated_date\"") ++
  onlyIf (!filled u.deprecatedReason)
    (failure .deprecation s!"Deprecated entry {id} missing \"deprecated_reason\"") ++
  onlyIf (filled u.deprecatedDate && filled u.deprecatedReason)
    (passing .deprecation s!"Deprecated entry {id} has proper deprecation metadata")

def checkDeprecated (d : Document) : List Finding :=
  d.deprecated.flatMap checkDeprecatedEntry ++
  d.active.flatMap fun u => onlyIf u.isDeprecated (warning .deprecation
    (s!"UC {shown u.id} has status \"deprecated\" but is still in use_cases. " ++
      "Move it to the deprecated list."))

def checkName (u : UseCase) (f : FunctionRecord) : List Finding :=
  let name := shown f.name
  if !filled f.name || isBlankText name then
    [failure .noFake s!"UC {shown u.id}: function record with empty name - stub detected"]
  else
    match stubToken? name with
    | some token => [failure .noFake
        s!"UC {shown u.id}: function name \"{name}\" suggests a stub (\"{token}\")"]
    | none => []

def checkGenuine (u : UseCase) (f : FunctionRecord) : List Finding :=
  let name := shown f.name
  onlyIf (f.line.getD 0 == 0)
    (warning .noFake s!"UC {shown u.id}: function \"{name}\" has line 0 or null") ++
  onlyIf (filled f.endpoint && f.dbTables.isEmpty) (warning .noFake
    (s!"UC {shown u.id}: function \"{name}\" has an endpoint but no db_tables. " ++
      "Register the tables it touches or confirm it touches none.")) ++
  onlyIf f.authRequired.isNone
    (failure .noFake s!"UC {shown u.id}: function \"{name}\" has no auth_required value") ++
  checkName u f

def checkGenuineUseCase (u : UseCase) : List Finding :=
  onlyIf (!u.rulesApplied.contains noFakeTag) (warning .noFake
    s!"UC {shown u.id} is \"implemented\" but {noFakeTag} is not in rules_applied") ++
  u.functions.flatMap (checkGenuine u) ++
  onlyIf (!u.functions.isEmpty) (passing .noFake
    s!"UC {shown u.id}: implemented with {u.functions.length} function(s)")

def checkNoFake (d : Document) : List Finding :=
  (d.active.filter (·.isImplemented)).flatMap checkGenuineUseCase

def checkDecision (a : Decision) : List Finding :=
  let label := if filled a.id then shown a.id else "unknown"
  onlyIf (!filled a.id || !Format.isDecisionId (shown a.id)) (warning .decisionFormat
    s!"ADR missing or invalid id (expected ADR-XXX): {literalOrNone a.id}") ++
  onlyIf (!filled a.decision) (failure .decisionFormat s!"ADR {label} missing \"decision\"") ++
  onlyIf (!filled a.context) (failure .decisionFormat s!"ADR {label} missing \"context\"") ++
  onlyIf (!(a.status.any Decision.validStatuses.contains))
    (warning .decisionFormat s!"ADR {label} has invalid status \"{shown a.status}\"") ++
  onlyIf a.alternativesConsidered.isEmpty
    (warning .decisionFormat s!"ADR {label} has no alternatives_considered") ++
  onlyIf (filled a.id && filled a.decision && filled a.context)
    (passing .decisionFormat s!"ADR {shown a.id} is well-formed")

def checkDecisions (d : Document) : List Finding := d.decisions.flatMap checkDecision

/-! ## Files -/

structure Log where
  findings : List Finding := []
  asked : List String := []

def Log.append (a b : Log) : Log := ⟨a.findings ++ b.findings, a.asked ++ b.asked⟩

instance : Append Log := ⟨Log.append⟩

@[simp] theorem findings_append (a b : Log) :
    (a ++ b).findings = a.findings ++ b.findings := rfl

@[simp] theorem asked_append (a b : Log) : (a ++ b).asked = a.asked ++ b.asked := rfl

theorem log_append_assoc (a b c : Log) : a ++ b ++ c = a ++ (b ++ c) := by
  show Log.mk _ _ = Log.mk _ _
  simp

theorem log_append_empty (a : Log) : a ++ {} = a := by
  show Log.mk _ _ = a
  simp

def askFor (present : String → Bool) (path : String) (rule : Rule) (there missing : String) : Log :=
  ⟨[if present path then passing rule there else failure rule missing], [path]⟩

def checkFilesFrom (present : String → Bool) (checked : List String) :
    List (UseCase × FunctionRecord) → Log
  | [] => {}
  | (u, f) :: rest =>
    match f.file.bind nonEmpty? with
    | none => checkFilesFrom present checked rest
    | some file =>
      if checked.contains file then checkFilesFrom present checked rest
      else
        askFor present file .completeness s!"File reference verified: {file}"
          s!"UC {shown u.id}: function \"{shown f.name}\" references non-existent file: {file}" ++
        checkFilesFrom present (checked ++ [file]) rest

def checkFiles (present : String → Bool) (d : Document) : Log :=
  checkFilesFrom present [] d.activeFunctions

def checkRuleFiles (present : String → Bool) (rulesDir : String) : List String → Log
  | [] => {}
  | name :: rest =>
    let path := rulesDir ++ "/" ++ name
    askFor present path .ruleDocuments s!"Rule file present: {path}"
      s!"Required rule file missing: {path}" ++
    checkRuleFiles present rulesDir rest

/-! ## All checks -/

def checkDocument (d : Document) : List Finding :=
  checkTopLevel d ++ checkStack d ++ checkIdentity d ++ checkFunctionNames d ++
  checkEndpoints d ++ checkImplemented d ++ checkDeprecated d ++ checkElements d ++
  checkNoFake d ++ checkDecisions d

def logged (present : String → Bool) (rulesDir : String) (d : Document) : Log :=
  ⟨checkDocument d, []⟩ ++ checkFiles present d ++ checkRuleFiles present rulesDir ruleFiles

end Traceability.Audit
