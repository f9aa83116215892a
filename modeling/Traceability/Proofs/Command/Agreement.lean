import Traceability.Proofs.Command.AddUseCase
import Traceability.Proofs.Command.Frame
import Traceability.Proofs.Command.Lines
import Traceability.Proofs.Command.Output
import Traceability.Proofs.Json.OneLine
import Traceability.Proofs.Project.Auditing
import Traceability.Proofs.Project.Relative

/-! # Commands and tools agree

The commands that check, find, survey and mark have tools beside them that are asked in another way.
On one project both give the same verdicts, the same answers and the same files. What sets them
apart is the printing: a command fails when a text that it prints cannot be encoded, or when an
integer is too long to be written, and the tool does not print. The files and the arguments are
without the private characters that stand for halves of pairs (`Text.isHalf`).
-/
namespace Traceability
open Text Command

/-! ## Answers that are printed -/

def Json.Said (j : Json) : Prop := j.isWritable = true ∧ holdsHalf j.indented.toList = false

def EndpointMatch.Said (m : EndpointMatch) : Bool → Prop
  | true => (Json.object m.members).Said
  | false => ∃ sentence, m.sentence = .ok sentence ∧ holdsHalf sentence.toList = false

namespace CommandEnd
variable {terminal : Terminal} {j : Json}

theorem holdsHalf_line (text : String) :
    holdsHalf (text ++ "\n").toList = holdsHalf text.toList := by
  rw [String.toList_append, holdsHalf, List.any_append]
  exact Bool.or_false _

/-- JSON has no terminal sequences that could be lost. -/
theorem messageText_indented (terminal : Terminal) (j : Json) :
    messageText terminal (j.indented ++ "\n") = j.indented ++ "\n" := by
  refine messageText_eq_self ?_
  rw [String.toList_append, Json.indented, String.toList_ofList, List.mem_append]
  exact not_or.mpr ⟨Json.escape_notMem_indentedChars 0 j,by decide⟩

theorem answering_of_said (h : j.Said) :
    answering terminal j = { output := j.indented ++ "\n" } := by
  obtain ⟨hwritable,hhalf⟩ := h
  rw [answering, Json.written?, if_pos hwritable]
  show saying terminal (j.indented ++ "\n") = _
  rw [saying_of_holdsHalf_eq_false terminal ((holdsHalf_line _).trans hhalf), messageText_indented]

theorem status_saying_eq_one_iff {message : String} :
    (saying terminal message).status = 1 ↔ holdsHalf message.toList = true := by
  cases h : holdsHalf message.toList with
  | false => simp [saying_of_holdsHalf_eq_false terminal h]
  | true => exact iff_of_true (status_saying_of_holdsHalf terminal h) rfl

theorem status_answering_eq_one_iff : (answering terminal j).status = 1 ↔ ¬ j.Said := by
  rw [answering, Json.written?, Json.Said]
  cases j.isWritable with
  | false => simp [broken]
  | true =>
    show (saying terminal (j.indented ++ "\n")).status = 1 ↔ _
    rw [status_saying_eq_one_iff, holdsHalf_line]
    simp

def shownOn (terminal : Terminal) (r : CommandEnd) : CommandEnd :=
  { r with errors := errorText terminal r.errors }

theorem shownOn_of_errors_eq_empty {r : CommandEnd} (h : r.errors = "") :
    r.shownOn terminal = r := by
  have hempty : errorText terminal "" = "" := by
    rw [errorText, messageText]
    split <;> rfl
  rw [shownOn, h, hempty, ← h]

theorem shownOn_printing (prints : List Print) (status : ℕ) :
    (printing terminal prints status).shownOn terminal = printing terminal prints status := by
  refine shownOn_of_errors_eq_empty ?_
  rw [printing]
  split <;> rfl

theorem shownOn_answering (j : Json) :
    (answering terminal j).shownOn terminal = answering terminal j := by
  rw [answering]
  split
  · exact shownOn_printing _ _
  · exact shownOn_of_errors_eq_empty rfl

end CommandEnd

/-! ## Two ways of asking -/

namespace Tool

def SaysPassed (answer : Except ToolError Json) : Prop :=
  ∃ j, answer = .ok j ∧ j.get? "passed" = some (.bool true)

/-- There is an answer, and it reports no failure. -/
def Succeeds (answer : Except ToolError Json) : Prop :=
  ∃ j, answer = .ok j ∧ reportsFailure j = false

def surveyArguments (entity : Option String) : Members :=
  (entity.map fun id => ("entity_id", .text id)).toList

def endpointArguments (method path : String) : Members :=
  [("method", .text method), ("path", .text path)]

end Tool

structure MarkRequest where
  /-- The names on the way from the working folder to the file. -/
  names : List String
  element : String
  useCaseId : String
  function : String
  elementId : Option String
  dryRun : Bool

namespace MarkRequest

def path (r : MarkRequest) : Path := .below r.names

def task (r : MarkRequest) : Task :=
  .inject r.path.toText r.element r.useCaseId r.function r.elementId r.dryRun

def arguments (r : MarkRequest) : Members :=
  [("file_path", .text r.path.toText), ("element_name", .text r.element),
    ("use_case_id", .text r.useCaseId), ("function_name", .text r.function)] ++
  (r.elementId.map fun id => ("visual_element_id", .text id)).toList ++
  [("dry_run", .bool r.dryRun)]

def marking (r : MarkRequest) : Tool.Marking :=
  ⟨.text r.path.toText,.text r.element,.text r.useCaseId,.text r.function,
    (r.elementId.map Json.text).getD .null,.bool r.dryRun⟩

/-- The file is there, and neither its path nor the element begins with a dash. -/
structure Fits (w : Workspace) (r : MarkRequest) : Prop where
  below : w.FileBelow r.names
  path : IsPlain r.path.toText
  element : IsPlain r.element

def prints (r : MarkRequest) (a : Marker.Marked) : List Print :=
  (Workspace.markedText r.path r.element r.dryRun a).map .message

end MarkRequest

/-- The style of an audit for which none is asked. -/
def Command.Terminal.style (terminal : Terminal) : ReportStyle :=
  if terminal.interactive then .layout else .lines

namespace Workspace
variable (w : Workspace) (terminal : Terminal)

/-- How a task ends that is asked for on its plain command line. -/
def ended (t : Task) : CommandEnd := (w.runLine terminal t.line).1

def answered (name : String) (given : Members) : Except ToolError Json :=
  (w.callTool (w.rootOf none) name given).1

structure ChecksAlike (s : Settings) (run : Audit.Run) : Prop where
  /-- The tool answers with the lists of the audit and with the verdict. -/
  answer : w.answered "check_compliance" [] =
    .ok (.object (run.jsonMembers ++ [("passed", .bool !(run.report.failed s.strict))]))
  /-- The command succeeds exactly if the tool says that the project passed. -/
  lenient : ∀ style showPasses, (w.ended terminal (.check style false showPasses)).status = 0 ↔
    Tool.SaysPassed (w.answered "check_compliance" []) ∧
      Printable (run.inStyle ⟨terminal.width,showPasses,s.strict⟩ (style.getD terminal.style))
  /-- Judged strictly, it succeeds exactly if there is neither an error nor a warning. -/
  strict : ∀ style showPasses, (w.ended terminal (.check style true showPasses)).status = 0 ↔
    (run.report.errors = [] ∧ run.report.warnings = []) ∧
      Printable (run.inStyle ⟨terminal.width,showPasses,true⟩ (style.getD terminal.style))
  /-- As JSON it prints the members of the tool's answer. -/
  json : ∀ strict showPasses, Printable [.message (run.jsonText ++ "\n")] →
    (w.ended terminal (.check (some .json) strict showPasses)).output =
      (Json.object run.jsonMembers).indented ++ "\n"
  /-- Laid out for readers it ends with a panel that gives the verdict. -/
  panel : ∀ strict showPasses, Printable
      (run.inStyle ⟨terminal.width,showPasses,strict || s.strict⟩ .layout) →
    (∃ front, (w.ended terminal (.check (some .layout) strict showPasses)).output =
      front ++ Display.printLines (Display.panel terminal.width
        (Audit.Run.verdict run.report (strict || s.strict)).toList)) ∧
    ((w.ended terminal (.check (some .layout) strict showPasses)).status = 0 ↔
      "Validation PASSED".toList <+: (Audit.Run.verdict run.report (strict || s.strict)).toList)

structure AsksAlike (d : Document) : Prop where
  /-- The command that finds an endpoint gives a negative answer exactly if its tool says that it is
  not served, or if it cannot be printed what serves it. -/
  endpoint : ∀ method path json, IsPlain method → IsPlain path →
    ((w.ended terminal (.endpoint method path json)).status = 1 ↔
      w.answered "query_endpoint" (Tool.endpointArguments method path) =
          .error (.unserved method path) ∨
        ∃ found, d.findEndpoint method path = some found ∧ ¬ found.Said json)
  /-- What serves it is the answer of the tool, and it is printed as it is. -/
  found : ∀ method path found, IsPlain method → IsPlain path →
    d.findEndpoint method path = some found →
    w.answered "query_endpoint" (Tool.endpointArguments method path) =
        .ok (.object found.members) ∧
      (found.Said true → w.ended terminal (.endpoint method path true) =
        { output := (Json.object found.members).indented ++ "\n" })
  /-- The command that surveys risks prints what its tool answers. -/
  violations : ∀ entity, ∃ j,
    w.answered "detect_violations" (Tool.surveyArguments entity) = .ok j ∧
      (j.Said → w.ended terminal (.violations entity true) = { output := j.indented ++ "\n" }) ∧
      (¬ j.Said → (w.ended terminal (.violations entity true)).status = 1)

/-- Without a document these commands end with its absence, and their tools have it as their
error. -/
structure MissesAlike (e : DocumentError) : Prop where
  endpoint : ∀ method path json, IsPlain method → IsPlain path →
    w.answered "query_endpoint" (Tool.endpointArguments method path) =
      .error (.fault (.document e)) ∧
    (w.ended terminal (.endpoint method path json)).status = 2
  violations : ∀ entity json,
    w.answered "detect_violations" (Tool.surveyArguments entity) = .error (.fault (.document e)) ∧
    (w.ended terminal (.violations entity json)).status = 2

structure MarksAlike (s : Settings) (r : MarkRequest) : Prop where
  /-- They leave the same tree behind. -/
  tree : (w.runLine terminal r.task.line).2 =
    (w.callTool (w.rootOf none) "inject_meta" r.arguments).2
  /-- The command fails where the tool does. -/
  failed : ¬ Tool.Succeeds (w.answered "inject_meta" r.arguments) →
    (w.ended terminal r.task).status ≠ 0
  /-- Where the tool succeeds the element was marked, and the command succeeds if it can say so. -/
  succeeded : Tool.Succeeds (w.answered "inject_meta" r.arguments) → ∃ d marker a,
    w.document (w.rootOf none) s = .ok d ∧
    d.marker (some r.useCaseId) (some r.function) (.ofText? r.elementId) w.today = .ok marker ∧
    (w.markFile r.path r.element marker s.markerKey r.dryRun).1 = .ok (.marked a) ∧
    ((w.ended terminal r.task).status = 0 ↔ Printable (r.prints a))

/-- The commands of a project and its tools agree. -/
structure FrontsAgree (s : Settings) : Prop where
  checks : ∃ run, w.audit (w.rootOf none) s = .ok run ∧ w.ChecksAlike terminal s run
  asks : ∀ d, w.document (w.rootOf none) s = .ok d → w.AsksAlike terminal d
  misses : ∀ e, w.document (w.rootOf none) s = .error (.document e) → w.MissesAlike terminal e
  marks : ∀ r : MarkRequest, r.Fits w → w.MarksAlike terminal s r

variable {w terminal} {root : Path} {s : Settings} {d : Document} {run : Audit.Run}

section Lines
variable (terminal) {t : Task} (h : t.Fits w)
include h

/-- A plain command line runs its task in the working folder. -/
theorem runLine_line : w.runLine terminal t.line =
    ((w.runTask terminal (w.rootOf none) t).1.shownOn terminal,
      (w.runTask terminal (w.rootOf none) t).2) := by
  rw [runLine, ofLine_line h]
  rfl

theorem ended_eq :
    w.ended terminal t = (w.runTask terminal (w.rootOf none) t).1.shownOn terminal := by
  rw [ended, runLine_line terminal h]

theorem status_ended :
    (w.ended terminal t).status = (w.runTask terminal (w.rootOf none) t).1.status := by
  rw [ended_eq terminal h, CommandEnd.shownOn]

end Lines

/-! ## Checking -/

theorem runCheck_eq (hsettings : w.settings root = .ok s) (haudit : w.audit root s = .ok run)
    (terminal : Terminal) (style : Option ReportStyle) (strict showPasses : Bool) :
    w.runCheck terminal root style strict showPasses =
      .printing terminal
        (run.inStyle ⟨terminal.width,showPasses,strict || s.strict⟩ (style.getD terminal.style))
        (if run.report.failed (strict || s.strict) then 1 else 0) := by
  simp only [runCheck, hsettings, haudit, bind, Except.bind]
  rfl

theorem answered_check (hsettings : w.settings (w.rootOf none) = .ok s)
    (haudit : w.audit (w.rootOf none) s = .ok run) : w.answered "check_compliance" [] =
      .ok (.object (run.jsonMembers ++ [("passed", .bool !(run.report.failed s.strict))])) := by
  have hname : Tool.ofName? "check_compliance" = some .checkCompliance := by rfl
  simp only [answered, callTool, hsettings, hname, auditAnswer, haudit, Except.map, Except.mapError]

theorem saysPassed_iff {passed : Bool} : Tool.SaysPassed
    (.ok (.object (run.jsonMembers ++ [("passed", .bool passed)]))) ↔ passed = true := by
  constructor
  · rintro ⟨j,hj,hpassed⟩
    rw [← Except.ok.inj hj] at hpassed
    exact Json.bool.inj (Option.some.inj hpassed)
  · rintro rfl
    exact ⟨_,rfl,rfl⟩

theorem failed_strict_eq_false_iff (r : Report) :
    r.failed true = false ↔ r.errors = [] ∧ r.warnings = [] := by
  simp [Report.failed]

/-- The verdict says that the project passed exactly if it did. -/
theorem passed_prefix_verdict_iff (r : Report) (strict : Bool) :
    "Validation PASSED".toList <+: (Audit.Run.verdict r strict).toList ↔
      r.failed strict = false := by
  rw [Audit.Run.verdict]
  cases r.failed strict with
  | false =>
    simp only [Bool.false_eq_true, if_false, String.toList_append, List.append_assoc]
    refine iff_of_true ?_ trivial
    exact List.IsPrefix.trans (by decide) (List.prefix_append _ _)
  | true =>
    simp only [if_true, String.toList_append, List.append_assoc]
    refine iff_of_false (fun h => ?_) (by decide)
    have hfailed := List.prefix_of_prefix_length_le h (List.prefix_append _ _) (by decide)
    exact absurd hfailed (by decide)

/-- The verdict is the last piece. -/
theorem exists_pieces_eq (run : Audit.Run) (view : Audit.Run.View) : ∃ front,
    run.pieces view = front ++ [Display.printLines (Display.panel view.width
      (Audit.Run.verdict run.report view.strict).toList)] := by
  rw [Audit.Run.pieces]
  generalize Audit.Run.findingsSection view.width "Errors" run.report.errors = errors
  refine ⟨_,(List.append_assoc _ [_, _] [_]).symm⟩

theorem ended_check (hsettings : w.settings (w.rootOf none) = .ok s)
    (haudit : w.audit (w.rootOf none) s = .ok run) (terminal : Terminal)
    (style : Option ReportStyle) (strict showPasses : Bool) :
    w.ended terminal (.check style strict showPasses) =
      .printing terminal
        (run.inStyle ⟨terminal.width,showPasses,strict || s.strict⟩ (style.getD terminal.style))
        (if run.report.failed (strict || s.strict) then 1 else 0) := by
  rw [ended_eq _ (t := .check style strict showPasses) trivial, runTask,
    runCheck_eq hsettings haudit, CommandEnd.shownOn_printing]

theorem checksAlike (hsettings : w.settings (w.rootOf none) = .ok s)
    (haudit : w.audit (w.rootOf none) s = .ok run) : w.ChecksAlike terminal s run := by
  have hended := ended_check hsettings haudit terminal
  have hanswer := answered_check hsettings haudit
  have hstatus : ∀ style strict showPasses,
      (w.ended terminal (.check style strict showPasses)).status = 0 ↔
        run.report.failed (strict || s.strict) = false ∧ Printable (run.inStyle
          ⟨terminal.width,showPasses,strict || s.strict⟩ (style.getD terminal.style)) := by
    intro style strict showPasses
    rw [hended, CommandEnd.status_printing_eq_zero_iff, ite_eq_right_iff]
    simp
  refine ⟨hanswer,fun style showPasses => ?_,fun style showPasses => ?_,
    fun strict showPasses hprintable => ?_,fun strict showPasses hprintable => ⟨?_,?_⟩⟩
  · rw [hstatus, hanswer, saysPassed_iff, Bool.not_eq_true', Bool.false_or]
  · rw [hstatus, ← failed_strict_eq_false_iff, Bool.true_or]
  · rw [hended, Option.getD_some, Audit.Run.inStyle, CommandEnd.printing_of_printable hprintable]
    show "" ++ messageText terminal (run.jsonText ++ "\n") = _
    rw [Audit.Run.jsonText, CommandEnd.messageText_indented, String.empty_append]
    rfl
  · obtain ⟨front,hfront⟩ :=
      exists_pieces_eq run ⟨terminal.width,showPasses,strict || s.strict⟩
    refine ⟨String.join front,?_⟩
    rw [hended, Option.getD_some, CommandEnd.printing_of_printable hprintable, Audit.Run.inStyle,
      hfront, List.map_map]
    show String.join ((front ++ [_]).map id) = _
    rw [List.map_id, String.join_append, String.join_cons, String.join_nil, String.append_empty]
  · rw [hstatus, passed_prefix_verdict_iff, Option.getD_some, and_iff_left hprintable]

/-! ## Asking -/

theorem loaded_of_document (hsettings : w.settings root = .ok s)
    (hdocument : w.document root s = .ok d) : w.loaded root = .ok (s,d) := by
  simp only [loaded, hsettings, hdocument, bind, Except.bind, pure, Except.pure]

theorem loaded_of_missing (hsettings : w.settings root = .ok s) {fault : Fault}
    (hdocument : w.document root s = .error fault) : w.loaded root = .error fault := by
  simp only [loaded, hsettings, hdocument, bind, Except.bind]

theorem callTool_question_eq (hsettings : w.settings root = .ok s) (given : Members) :
    (w.callTool root "query_endpoint" given).1 = w.servingAnswer root s given ∧
      (w.callTool root "detect_violations" given).1 = w.riskAnswer root s given := by
  have hserving : Tool.ofName? "query_endpoint" = some .queryEndpoint := by rfl
  have hrisk : Tool.ofName? "detect_violations" = some .detectViolations := by rfl
  constructor <;> simp only [callTool, hsettings, hserving, hrisk]

section Asking
variable {method path : String} {json : Bool} {found : EndpointMatch} {entity : Option String}

theorem servingAnswer_document (hdocument : w.document root s = .ok d) :
    w.servingAnswer root s (Tool.endpointArguments method path) =
      match d.findEndpoint method path with
      | some found => .ok (.object found.members)
      | none => .error (.unserved method path) := by
  simp only [servingAnswer, hdocument]
  rfl

theorem riskAnswer_document (hdocument : w.document root s = .ok d) :
    w.riskAnswer root s (Tool.surveyArguments entity) =
      .ok (Survey.ofDocument d entity).toJson := by
  simp only [riskAnswer, hdocument]
  cases entity <;> rfl

/-- The command gives a negative answer if it cannot print what serves the endpoint. -/
theorem status_runEndpoint_found (hloaded : w.loaded root = .ok (s,d))
    (hfound : d.findEndpoint method path = some found) :
    (w.runEndpoint terminal root method path json).status = 1 ↔ ¬ found.Said json := by
  simp only [runEndpoint, hloaded, Document.queryEndpoint, hfound]
  cases json with
  | true => exact CommandEnd.status_answering_eq_one_iff
  | false =>
    rw [EndpointMatch.Said]
    cases found.sentence with
    | error e => simp [CommandEnd.broken]
    | ok sentence =>
      show (CommandEnd.saying terminal sentence).status = 1 ↔ _
      rw [CommandEnd.status_saying_eq_one_iff]
      simp

theorem asksAlike (hsettings : w.settings (w.rootOf none) = .ok s)
    (hdocument : w.document (w.rootOf none) s = .ok d) : w.AsksAlike terminal d := by
  have hloaded := loaded_of_document hsettings hdocument
  have hserving : ∀ method path, w.answered "query_endpoint" (Tool.endpointArguments method path) =
      match d.findEndpoint method path with
      | some found => .ok (.object found.members)
      | none => .error (.unserved method path) := by
    intro method path
    rw [answered, (callTool_question_eq hsettings _).1, servingAnswer_document hdocument]
  refine ⟨fun method path json hmethod hpath => ?_,fun method path found hmethod hpath hfound => ?_,
    fun entity => ?_⟩
  · rw [status_ended _ (t := .endpoint method path json) ⟨hmethod,hpath⟩, runTask, hserving]
    cases hfound : d.findEndpoint method path with
    | some found =>
      rw [status_runEndpoint_found hloaded hfound]
      simp
    | none =>
      refine iff_of_true ?_ (.inl rfl)
      simp only [runEndpoint, hloaded, Document.queryEndpoint, hfound, CommandEnd.complaint]
  · refine ⟨by rw [hserving, hfound],fun hsaid => ?_⟩
    have hrun : w.runEndpoint terminal (w.rootOf none) method path true =
        .answering terminal (.object found.members) := by
      simp only [runEndpoint, hloaded, Document.queryEndpoint, hfound, if_true]
    rw [ended_eq _ (t := .endpoint method path true) ⟨hmethod,hpath⟩, runTask, hrun,
      CommandEnd.shownOn_answering, CommandEnd.answering_of_said hsaid]
  · have hrun : w.ended terminal (.violations entity true) =
        .answering terminal (Survey.ofDocument d entity).toJson := by
      rw [ended_eq _ (t := .violations entity true) trivial, runTask]
      simp only [runViolations, hloaded, if_true, CommandEnd.shownOn_answering]
    refine ⟨(Survey.ofDocument d entity).toJson,?_,fun hsaid => ?_,fun hsaid => ?_⟩
    · rw [answered, (callTool_question_eq hsettings _).2, riskAnswer_document hdocument]
    · rw [hrun, CommandEnd.answering_of_said hsaid]
    · rw [hrun, CommandEnd.status_answering_eq_one_iff]
      exact hsaid

theorem missesAlike (hsettings : w.settings (w.rootOf none) = .ok s) {e : DocumentError}
    (hdocument : w.document (w.rootOf none) s = .error (.document e))
    (habout : e.isAboutFile = true) : w.MissesAlike terminal e := by
  have hloaded := loaded_of_missing hsettings hdocument
  have hend : (CommandEnd.ofFault (.document e)).status = 2 := by
    rw [CommandEnd.ofFault, Fault.noDocument?, if_pos habout]
    rfl
  refine ⟨fun method path json hmethod hpath => ⟨?_,?_⟩,fun entity json => ⟨?_,?_⟩⟩
  · rw [answered, (callTool_question_eq hsettings _).1, servingAnswer, hdocument]
    rfl
  · rw [status_ended _ (t := .endpoint method path json) ⟨hmethod,hpath⟩, runTask]
    simp only [runEndpoint, hloaded, hend]
  · rw [answered, (callTool_question_eq hsettings _).2, riskAnswer, hdocument]
    rfl
  · rw [status_ended _ (t := .violations entity json) trivial, runTask]
    simp only [runViolations, hloaded, hend]

end Asking

/-! ## Marking -/

section Marking
variable {r : MarkRequest}

theorem rootOf_none_resolve (hstands : w.Stands) : w.folder.resolve (w.rootOf none) = w.folder :=
  Location.resolve_ofLocation hstands.named

theorem markedPlace_request (hstands : w.Stands) (hr : r.Fits w) :
    Tool.markedPlace w (w.rootOf none) r.path.toText = w.folder ++ r.names := by
  rw [Tool.markedPlace, rootOf_none_resolve hstands, MarkRequest.path,
    Path.ofText_toText_below hr.below.named hr.below.further, Location.resolve_below hr.below.named]

theorem spelled_path (hr : r.Fits w) : ∀ c ∈ r.path.toText.toList, isPathChar c = true :=
  Path.spelled_below hr.below.named hr.below.further

theorem fits_task (hr : r.Fits w) : r.task.Fits w :=
  ⟨hr.path,hr.element,spellingFault?_eq_none_iff.mpr (spelled_path hr),hr.below.found⟩

theorem ofMembers_arguments (r : MarkRequest) :
    Tool.Marking.ofMembers r.arguments = .ok r.marking := by
  rw [MarkRequest.arguments, MarkRequest.marking]
  cases r.elementId <;> rfl

theorem requestedMarker_marking (d : Document) (r : MarkRequest) :
    Tool.requestedMarker w d r.marking =
      d.marker (some r.useCaseId) (some r.function) (.ofText? r.elementId) w.today := by
  rw [Tool.requestedMarker, MarkRequest.marking]
  cases r.elementId <;> rfl

theorem callTool_arguments (hsettings : w.settings root = .ok s)
    (hdocument : w.document root s = .ok d) (r : MarkRequest) :
    w.callTool root "inject_meta" r.arguments = Tool.mark w root s d r.marking := by
  have hname : Tool.ofName? "inject_meta" = some .injectMeta := by rfl
  have hinput : w.markingInput root s r.arguments = .ok (d,r.marking) := by
    simp only [markingInput, hdocument, ofMembers_arguments, Except.mapError, bind, Except.bind,
      pure, Except.pure]
  simp only [callTool, hsettings, hname, hinput]

theorem named_place (hstands : w.Stands) (hr : r.Fits w) : Location.Named (w.folder ++ r.names) :=
  List.forall_mem_append.mpr ⟨hstands.named,hr.below.named⟩

/-- Both spellings of the path name the same file. -/
theorem markFile_request (hstands : w.Stands) (hr : r.Fits w) (marker : Marker) (key : String) :
    w.markFile (Path.ofLocation (w.folder ++ r.names)) r.element marker key r.dryRun =
      w.markFile r.path r.element marker key r.dryRun := by
  obtain ⟨content,hread,hread'⟩ := hr.below.exists_read hstands
  have hspelled : spellingFault? r.path.toText = none := (fits_task hr).2.2.1
  rw [markFile_eq (Path.spellingFault?_ofLocation (named_place hstands hr)), markFile_eq hspelled,
    hread', MarkRequest.path, hread]
  rfl

theorem named_root (hstands : w.Stands) : (w.folder.resolve (w.rootOf none)).Named := by
  rw [rootOf_none_resolve hstands]
  exact hstands.named

theorem prefix_markedPlace (hstands : w.Stands) (hr : r.Fits w) :
    w.folder.resolve (w.rootOf none) <+: Tool.markedPlace w (w.rootOf none) r.path.toText := by
  rw [rootOf_none_resolve hstands, markedPlace_request hstands hr]
  exact List.prefix_append _ _

/-- The tool answers about the file that the command marks. -/
theorem mark_request (hstands : w.Stands) (hr : r.Fits w) {marker : Marker}
    (hmarker : d.marker (some r.useCaseId) (some r.function) (.ofText? r.elementId) w.today =
      .ok marker) : Tool.mark w (w.rootOf none) s d r.marking =
        (((w.markFile r.path r.element marker s.markerKey r.dryRun).1.mapError .fault).bind
          (Tool.markingAnswer r.marking (Path.ofLocation (w.folder ++ r.names)) marker),
        (w.markFile r.path r.element marker s.markerKey r.dryRun).2) := by
  obtain ⟨hanswer,htree⟩ := Tool.mark_inside (s := s) (named_root hstands) (spelled_path hr) rfl
    (prefix_markedPlace hstands hr) ((requestedMarker_marking d r).trans hmarker)
  rw [markedPlace_request hstands hr] at hanswer htree
  rw [← markFile_request hstands hr,
    markFile_eq (Path.spellingFault?_ofLocation (named_place hstands hr))]
  exact Prod.ext hanswer htree

theorem mark_request_unlisted (hstands : w.Stands) (hr : r.Fits w) {e : UnlistedFunction}
    (hmarker : d.marker (some r.useCaseId) (some r.function) (.ofText? r.elementId) w.today =
      .error e) : Tool.mark w (w.rootOf none) s d r.marking = (.error (.unlisted e),w.tree) :=
  Tool.mark_unlisted (named_root hstands) (spelled_path hr) rfl (prefix_markedPlace hstands hr)
    ((requestedMarker_marking d r).trans hmarker)

theorem not_succeeds_error (e : ToolError) : ¬ Tool.Succeeds (.error e) := by
  rintro ⟨j,hj,-⟩
  cases hj

/-- Command and tool both fail and leave the same tree. -/
theorem marksAlike_of_failing (hr : r.Fits w) {result : CommandEnd} {tree : FileTree}
    {answer : Except ToolError Json}
    (hrun : w.runTask terminal (w.rootOf none) r.task = (result,tree))
    (hcall : w.callTool (w.rootOf none) "inject_meta" r.arguments = (answer,tree))
    (hresult : result.status ≠ 0) (hanswer : ¬ Tool.Succeeds answer) :
    w.MarksAlike terminal s r := by
  have hanswered : w.answered "inject_meta" r.arguments = answer := congrArg Prod.fst hcall
  refine ⟨?_,fun _ => ?_,fun h => absurd (hanswered ▸ h) hanswer⟩
  · rw [runLine_line _ (fits_task hr), hrun, hcall]
  · rwa [status_ended _ (fits_task hr), hrun]

theorem marksAlike_of_missing (hsettings : w.settings (w.rootOf none) = .ok s) {fault : Fault}
    (hdocument : w.document (w.rootOf none) s = .error fault) (hr : r.Fits w) :
    w.MarksAlike terminal s r := by
  have hname : Tool.ofName? "inject_meta" = some .injectMeta := by rfl
  have hrun : w.runTask terminal (w.rootOf none) r.task = (.ofFault fault,w.tree) := by
    rw [MarkRequest.task, runTask, runInject]
    simp only [loaded_of_missing hsettings hdocument]
  have hcall : w.callTool (w.rootOf none) "inject_meta" r.arguments =
      (.error (.fault fault),w.tree) := by
    simp only [callTool, hsettings, hname, markingInput, hdocument, Except.mapError, bind,
      Except.bind]
  exact marksAlike_of_failing hr hrun hcall (CommandEnd.status_ofFault fault) (not_succeeds_error _)

/-- The tool succeeds if the element is marked. -/
theorem succeeds_of_marked (hstands : w.Stands) (hsettings : w.settings (w.rootOf none) = .ok s)
    (hdocument : w.document (w.rootOf none) s = .ok d) (hr : r.Fits w) {marker : Marker}
    {a : Marker.Marked}
    (hmarker : d.marker (some r.useCaseId) (some r.function) (.ofText? r.elementId) w.today =
      .ok marker)
    (hmarked : (w.markFile r.path r.element marker s.markerKey r.dryRun).1 = .ok (.marked a)) :
    Tool.Succeeds (w.answered "inject_meta" r.arguments) := by
  have hcall := callTool_arguments hsettings hdocument r
  rw [mark_request hstands hr hmarker, hmarked] at hcall
  obtain ⟨j,hj,hsucceeds⟩ := Tool.exists_markingAnswer_marked r.marking
    (Path.ofLocation (w.folder ++ r.names)) marker a
  exact ⟨j,(congrArg Prod.fst hcall).trans hj,hsucceeds⟩

theorem marksAlike_of_document (hstands : w.Stands) (hsettings : w.settings (w.rootOf none) = .ok s)
    (hdocument : w.document (w.rootOf none) s = .ok d) (hr : r.Fits w) :
    w.MarksAlike terminal s r := by
  have hcall := callTool_arguments hsettings hdocument r
  have hrun : w.runTask terminal (w.rootOf none) r.task = w.runInject terminal (w.rootOf none)
      r.path.toText r.element r.useCaseId r.function r.elementId r.dryRun := rfl
  have hpath : Path.ofText r.path.toText = r.path :=
    Path.ofText_toText_below hr.below.named hr.below.further
  simp only [runInject, loaded_of_document hsettings hdocument, hpath] at hrun
  cases hmarker : d.marker (some r.useCaseId) (some r.function) (.ofText? r.elementId) w.today with
  | error e =>
    rw [mark_request_unlisted hstands hr hmarker] at hcall
    simp only [hmarker] at hrun
    exact marksAlike_of_failing hr hrun hcall Nat.one_ne_zero (not_succeeds_error _)
  | ok marker =>
    rw [mark_request hstands hr hmarker] at hcall
    simp only [hmarker] at hrun
    rcases hfile : w.markFile r.path r.element marker s.markerKey r.dryRun with
      ⟨e | (why | a),tree⟩ <;> simp only [hfile] at hcall hrun
    · exact marksAlike_of_failing hr hrun hcall Nat.one_ne_zero (not_succeeds_error _)
    · refine marksAlike_of_failing hr hrun hcall Nat.one_ne_zero ?_
      rintro ⟨j,hj,hsucceeds⟩
      have hfails : Tool.reportsFailure j = true := Tool.reportsFailure_of_refused r.marking
        (Path.ofLocation (w.folder ++ r.names)) marker why hj
      rw [hfails] at hsucceeds
      cases hsucceeds
    · -- the element is marked, and only the command has to say so
      have hsucceeds : Tool.Succeeds (w.answered "inject_meta" r.arguments) :=
        succeeds_of_marked hstands hsettings hdocument hr hmarker (congrArg Prod.fst hfile)
      refine ⟨?_,fun h => absurd hsucceeds h,fun _ => ⟨d,marker,a,hdocument,hmarker,?_,?_⟩⟩
      · rw [runLine_line _ (fits_task hr), hrun, hcall]
      · rw [hfile]
      · rw [status_ended _ (fits_task hr), hrun, CommandEnd.status_printing_eq_zero_iff]
        exact and_iff_right rfl

end Marking

/-- The commands and the tools of a project agree if its settings can be read and its document can
be read or is missing. -/
theorem frontsAgree (terminal : Terminal) (hstands : w.Stands)
    (hsettings : w.settings (w.rootOf none) = .ok s)
    (hdocument : ∀ fault, w.document (w.rootOf none) s = .error fault →
      fault.noDocument?.isSome = true) : w.FrontsAgree terminal s := by
  cases hd : w.document (w.rootOf none) s with
  | ok d =>
    have haudit := audit_of_document hd
    refine ⟨⟨_,haudit,checksAlike hsettings haudit⟩,fun d' hd' => ?_,fun e he => ?_,
      fun r hr => marksAlike_of_document hstands hsettings hd hr⟩
    · obtain rfl := Except.ok.inj (hd.symm.trans hd')
      exact asksAlike hsettings hd
    · cases hd.symm.trans he
  | error fault =>
    obtain ⟨e,he⟩ := Option.isSome_iff_exists.mp (hdocument fault hd)
    obtain ⟨rfl,habout⟩ := Fault.noDocument?_eq_some_iff.mp he
    have haudit := audit_of_aboutFile hd habout
    refine ⟨⟨_,haudit,checksAlike hsettings haudit⟩,fun d hd' => ?_,fun e' he' => ?_,
      fun r hr => marksAlike_of_missing hsettings hd hr⟩
    · cases hd.symm.trans hd'
    · obtain rfl := Fault.document.inj (Except.error.inj (hd.symm.trans he'))
      exact missesAlike hsettings hd habout

theorem stands_of_folder_eq_nil (h : w.folder = []) : w.Stands := by
  refine ⟨?_,?_⟩
  · rw [h]
    exact List.forall_mem_nil _
  · rw [h]
    rfl

def savingText : String :=
  "use_cases:\n- id: UC-001\n  functions:\n  - name: save\n    endpoint: POST /orders\n"

def savingProject : Workspace where
  tree := ⟨[(["schema"],.folder), (["schema", "DCM.yaml"],.file (encodeUtf8 savingText)),
    (["a.tsx"],.file (encodeUtf8 "<Save/>"))]⟩
  folder := []
  now := ⟨⟨2024,5,2⟩,12,0,0,0,none⟩

def saveRequest : MarkRequest where
  names := ["a.tsx"]
  element := "Save"
  useCaseId := "UC-001"
  function := "save"
  elementId := none
  dryRun := false

theorem fits_saveRequest : saveRequest.Fits savingProject := by
  have hnamed : ∀ name ∈ saveRequest.names, IsName name := by decide +kernel
  refine ⟨⟨hnamed,by decide,⟨["a.tsx"],_,by rfl⟩,by decide +kernel⟩,?_,?_⟩
  · decide +kernel
  · decide +kernel

/-- The element is marked if the marker has no half of a pair. -/
theorem markFile_saveRequest {marker : Marker} {json : List Char} {a : Marker.Marked}
    (hwritten : marker.written = .ok json) (hhalf : holdsHalf json = false)
    (hinject : Marker.inject "<Save/>" "Save" marker "data-matrix-meta" = .ok (.marked a)) :
    (savingProject.markFile saveRequest.path "Save" marker "data-matrix-meta" false).1 =
      .ok (.marked a) := by
  have hread : savingProject.tree.read savingProject.folder saveRequest.path.toText =
      .ok (["a.tsx"],encodeUtf8 "<Save/>") := by rfl
  have htext : holdsHalf a.text.toList = false := by
    refine Marker.holdsHalf_marked hinject hwritten ?_ ?_ hhalf <;> decide +kernel
  exact markFile_of_marked (fits_task fits_saveRequest).2.2.1 hread
    (decodeUtf8_encodeUtf8 "<Save/>") (by rwa [String.ofList_toList]) htext

/-- In a project with one use case its endpoint is found, its element is marked, and the fronts
agree. -/
theorem frontsAgree_savingProject : savingProject.Stands ∧
    savingProject.settings (savingProject.rootOf none) = .ok {} ∧
    savingProject.FrontsAgree ⟨80,false⟩ {} ∧
    (∃ found, savingProject.answered "query_endpoint" (Tool.endpointArguments "post" "/orders") =
      .ok (.object (EndpointMatch.members found))) ∧
    saveRequest.Fits savingProject ∧
    Tool.Succeeds (savingProject.answered "inject_meta" saveRequest.arguments) := by
  have hstands : savingProject.Stands := stands_of_folder_eq_nil rfl
  have hsettings : savingProject.settings (savingProject.rootOf none) = .ok {} := by rfl
  obtain ⟨d,hdocument,htested⟩ := exists_of_any_toOption (show
    ((savingProject.document (savingProject.rootOf none) {}).toOption.any fun d =>
      (d.findEndpoint "post" "/orders").isSome &&
      (d.marker (some "UC-001") (some "save") .null savingProject.today).toOption.any fun marker =>
        (marker.written.toOption.any fun json => !holdsHalf json) &&
        ((Marker.inject "<Save/>" "Save" marker "data-matrix-meta").toOption.bind
          Marker.Outcome.marked?).any (·.changed)) = true by decide +kernel)
  rw [Bool.and_eq_true] at htested
  obtain ⟨found,hfound⟩ := Option.isSome_iff_exists.mp htested.1
  obtain ⟨marker,hmarker,htested⟩ := exists_of_any_toOption htested.2
  rw [Bool.and_eq_true] at htested
  obtain ⟨json,hwritten,hjson⟩ := exists_of_any_toOption htested.1
  obtain ⟨b,hinject,-⟩ := Marker.exists_marked_of_any htested.2
  have hmarked := markFile_saveRequest hwritten (Bool.not_eq_true' _ ▸ hjson) hinject
  have hagree : savingProject.FrontsAgree ⟨80,false⟩ {} :=
    frontsAgree _ hstands hsettings fun fault hfault => by cases hdocument.symm.trans hfault
  have hanswer := ((hagree.asks d hdocument).found "post" "/orders" found (by decide +kernel)
    (by decide +kernel) hfound).1
  exact ⟨hstands,hsettings,hagree,⟨found,hanswer⟩,fits_saveRequest,
    succeeds_of_marked hstands hsettings hdocument fits_saveRequest hmarker hmarked⟩

/-- A matrix whose only use case has a name with half of a pair. -/
def halfText : String :=
  "version: '1'\nproject: p\ndescription: d\nauthor: a\ncreated: c\nlast_updated: '2024-05-01'\n" ++
  "use_cases:\n- id: \"UC-\\ud800\"\n  title: t\n  value: v\n  status: planned\n"

def halfProject : Workspace where
  tree := ⟨[(["schema"],.folder), (["schema", "DCM.yaml"],.file (encodeUtf8 halfText)),
    (["rules"],.folder)] ++ Audit.ruleFiles.map fun name => (["rules", name],.file [])⟩
  folder := []
  now := ⟨⟨2024,5,2⟩,12,0,0,0,none⟩

/-- The tool says that the project passed, and the command fails. -/
theorem status_check_halfProject : halfProject.Stands ∧
    halfProject.settings (halfProject.rootOf none) = .ok {} ∧
    (∃ d, halfProject.document (halfProject.rootOf none) {} = .ok d) ∧
    Tool.SaysPassed (halfProject.answered "check_compliance" []) ∧
    (halfProject.ended ⟨80,false⟩ (.check none false false)).status = 1 := by
  have hsettings : halfProject.settings (halfProject.rootOf none) = .ok {} := by rfl
  have htested : ((halfProject.audit (halfProject.rootOf none) {}).toOption.any fun run =>
      run.matrixLoaded && !run.report.failed false &&
        !decide (Printable (run.inStyle ⟨80,false,false⟩ .lines))) = true := by decide +kernel
  cases haudit : halfProject.audit (halfProject.rootOf none) {} with
  | error fault =>
    rw [haudit] at htested
    cases htested
  | ok run =>
    rw [haudit] at htested
    simp only [Except.toOption, Option.any_some, Bool.and_eq_true, Bool.not_eq_true',
      decide_eq_false_iff_not] at htested
    obtain ⟨⟨hloaded,hpassed⟩,hunprinted⟩ := htested
    refine ⟨stands_of_folder_eq_nil rfl,hsettings,?_,?_,?_⟩
    · rcases audit_cases haudit with ⟨e,-,-,rfl⟩ | ⟨d,hd,-⟩
      · cases hloaded
      · exact ⟨d,hd⟩
    · rw [answered_check hsettings haudit, saysPassed_iff, hpassed]
      rfl
    · obtain ⟨output,e,he⟩ := CommandEnd.exists_printing_of_not_printable ⟨80,false⟩ hunprinted
        (if run.report.failed false then 1 else 0)
      have hended := ended_check hsettings haudit ⟨80,false⟩ none false false
      exact congrArg CommandEnd.status (hended.trans he)

end Workspace

end Traceability
