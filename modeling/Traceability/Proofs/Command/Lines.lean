import Mathlib.Tactic.Common
import Traceability.Command.Run

/-! # Plain command lines

Every task has a command line that is read as it. The options stand behind the operands, and an
operand that does not begin with a dash is taken for nothing else.
-/
namespace Traceability
open Text Command

def ReportStyle.word : ReportStyle → String
  | layout => "rich"
  | json => "json"
  | lines => "porcelain"

namespace Command

def optionWords (name : String) : Option String → List String
  | some value => [name,value]
  | none => []

def flagWords (name : String) (raised : Bool) : List String := if raised then [name] else []

def IsPlain (arg : String) : Prop := arg.toList.head? ≠ some '-'

instance : DecidablePred IsPlain := fun _ => inferInstanceAs (Decidable (_ ≠ _))

end Command

namespace Task

/-- The plain command line of a task. -/
def line : Task → List String
  | check style strict showPasses =>
    "check" :: (optionWords "--format" (style.map ReportStyle.word) ++
      flagWords "--strict" strict ++ flagWords "--show-passes" showPasses)
  | violations entity json =>
    "violations" :: (optionWords "--entity" entity ++ flagWords "--json" json)
  | inject file element useCaseId function elementId dryRun =>
    "inject" :: file :: element :: "--use-case" :: useCaseId :: "--function" :: function ::
      (optionWords "--element-id" elementId ++ flagWords "--dry-run" dryRun)
  | endpoint method path json => "endpoint" :: method :: path :: flagWords "--json" json
  | addUseCase title value actor status =>
    "add-use-case" :: "--title" :: title :: "--value" :: value :: "--status" :: status ::
      optionWords "--actor" actor
  | serve => ["mcp-serve"]

/-- The operands of a task are no options, its status is one that may be chosen, and its file is
there. -/
def Fits (w : Workspace) : Task → Prop
  | inject file element .. => IsPlain file ∧ IsPlain element ∧ spellingFault? file = none ∧
      ∃ place content, w.tree.find w.folder file = .ok (place, .file content)
  | endpoint method path _ => IsPlain method ∧ IsPlain path
  | addUseCase _ _ _ status => status ∈ ["planned", "in_progress", "implemented"]
  | _ => True

end Task

namespace Command
variable {w : Workspace}

theorem looksLikeOption_of_isPlain {arg : String} (h : IsPlain arg) :
    Form.looksLikeOption arg.toList = false := by
  unfold Form.looksLikeOption
  split
  · next hdash => exact absurd (congrArg List.head? hdash) h
  · rfl

theorem split_plain (f : Form) {arg : String} (h : IsPlain arg) (rest : List String) :
    f.split false (arg :: rest) = (f.split false rest).map (Parts.withOperand arg) := by
  have hdashes : arg ≠ "--" := by
    rintro rfl
    exact h rfl
  rw [Form.split, if_neg hdashes, looksLikeOption_of_isPlain h]
  rfl

theorem ofArguments_of_split {f : Form} {arguments : List String} {p : Parts}
    (hsplit : f.split false arguments = .ok p) (hhelp : p.has Form.help.name = false)
    (hmisuse : misuse? w f p = .ok none) :
    ofArguments w f arguments = .ok ⟨p.value? projectOption.name, taskOf f.name p⟩ := by
  rw [ofArguments, hsplit]
  simp only [hhelp, hmisuse, Bool.false_eq_true, if_false]

def injectForm : Form := forms[2]

def injectParts (file element useCaseId function : String) (elementId : Option String)
    (dryRun : Bool) : Parts where
  options := ("--use-case", useCaseId) :: ("--function", function) ::
    ((elementId.map fun id => ("--element-id", id)).toList ++
      if dryRun then [("--dry-run", "")] else [])
  operands := [file,element]

section Marking
variable {file element useCaseId function : String} {elementId : Option String} {dryRun : Bool}

theorem split_inject (hfile : IsPlain file) (helement : IsPlain element) :
    injectForm.split false (file :: element :: "--use-case" :: useCaseId :: "--function" ::
      function :: (optionWords "--element-id" elementId ++ flagWords "--dry-run" dryRun)) =
        .ok (injectParts file element useCaseId function elementId dryRun) := by
  rw [split_plain _ hfile, split_plain _ helement]
  cases elementId <;> cases dryRun <;> rfl

/-- Only the file is looked for in the workspace. -/
theorem misuse?_inject {place : Location} {content : List UInt8}
    (hspelled : spellingFault? file = none)
    (hfind : w.tree.find w.folder file = .ok (place, .file content)) : misuse? w injectForm
      (injectParts file element useCaseId function elementId dryRun) = .ok none := by
  have hvalue : valueMisuse? w "FILE" file .file = .ok none := by
    simp only [valueMisuse?, hspelled, hfind]
  have hfirst : misuse? w injectForm
      (injectParts file element useCaseId function elementId dryRun) =
        firstMisuse? (valueMisuse? w "FILE" file .file :: List.replicate 7 (.ok none)) := by
    cases elementId <;> cases dryRun <;> rfl
  rw [hfirst, hvalue]
  rfl

theorem ofLine_inject (hfile : IsPlain file) (helement : IsPlain element)
    (hspelled : spellingFault? file = none) {place : Location} {content : List UInt8}
    (hfind : w.tree.find w.folder file = .ok (place, .file content)) :
    Command.ofLine w (Task.inject file element useCaseId function elementId dryRun).line =
      .ok ⟨none, .inject file element useCaseId function elementId dryRun⟩ := by
  have hhelp : (injectParts file element useCaseId function elementId dryRun).has Form.help.name =
      false := by
    cases elementId <;> cases dryRun <;> rfl
  show ofArguments w injectForm _ = _
  rw [ofArguments_of_split (split_inject hfile helement) hhelp (misuse?_inject hspelled hfind)]
  cases elementId <;> cases dryRun <;> rfl

end Marking

theorem ofLine_endpoint {method path : String} (hmethod : IsPlain method) (hpath : IsPlain path)
    (json : Bool) : Command.ofLine w (Task.endpoint method path json).line =
      .ok ⟨none, .endpoint method path json⟩ := by
  show ofArguments w forms[3] _ = _
  rw [ofArguments, split_plain _ hmethod, split_plain _ hpath]
  cases json <;> rfl

theorem ofLine_addUseCase {title value status : String} {actor : Option String}
    (h : status ∈ ["planned", "in_progress", "implemented"]) :
    Command.ofLine w (Task.addUseCase title value actor status).line =
      .ok ⟨none, .addUseCase title value actor status⟩ := by
  simp only [List.mem_cons, List.not_mem_nil, or_false] at h
  rcases h with rfl | rfl | rfl <;> cases actor <;> rfl

/-- The plain command line of a task that fits is read as the task, for the working folder. -/
theorem ofLine_line {t : Task} (h : t.Fits w) : Command.ofLine w t.line = .ok ⟨none, t⟩ := by
  cases t with
  | check style strict showPasses =>
    rcases style with _ | _ | _ | _ <;> cases strict <;> cases showPasses <;> rfl
  | violations entity json => cases entity <;> cases json <;> rfl
  | inject file element useCaseId function elementId dryRun =>
    obtain ⟨hfile,helement,hspelled,place,content,hfind⟩ := h
    exact ofLine_inject hfile helement hspelled hfind
  | endpoint method path json => exact ofLine_endpoint h.1 h.2 json
  | addUseCase title value actor status => exact ofLine_addUseCase h
  | serve => rfl

end Command

end Traceability
