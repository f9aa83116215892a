import Traceability.Proofs.Marker.Attributes
import Traceability.Proofs.Project.Passing
import Traceability.Proofs.Tool.Confinement

/-! # What commands and tools change

Questions change nothing. Marking changes at most the file that it names, and registering at most the
file of the document. What fails changes nothing, with one exception: a text that cannot be encoded.
A marked text without bytes leaves its file empty, and an answer that cannot be printed comes after
its file was written. What cannot be encoded are the halves of pairs; files and arguments are without
the private characters that stand for them (`Text.isHalf`).
-/
namespace Traceability
open Text Command

def Task.isQuestion : Task → Bool
  | .inject .. => false
  | .addUseCase .. => false
  | _ => true

namespace CommandEnd

theorem status_ofFault (e : Fault) : (ofFault e).status ≠ 0 := by
  rw [ofFault]
  split
  · simp [complaint]
  · simp [broken]

end CommandEnd

namespace Tool

def reportsFailure : Json → Bool
  | .object members =>
    match members.lookup "success" with
    | some (.bool false) => true
    | _ => false
  | _ => false

/-- There is no answer, or it says that nothing was marked. -/
def Fails (answer : Except ToolError Json) : Prop := ∀ j, answer = .ok j → reportsFailure j = true

theorem fails_error (e : ToolError) : Fails (.error e) := by
  intro j h
  cases h

theorem reportsFailure_of_refused (m : Marking) (target : Path) (marker : Marker)
    (r : Marker.Refusal) {j : Json} (h : markingAnswer m target marker (.refused r) = .ok j) :
    reportsFailure j = true := by
  unfold markingAnswer at h
  split at h
  · cases h
  · rw [← Except.ok.inj h]
    rfl

/-- An element that was marked is always answered for. -/
theorem exists_markingAnswer_marked (m : Marking) (target : Path) (marker : Marker)
    (b : Marker.Marked) :
    ∃ j, markingAnswer m target marker (.marked b) = .ok j ∧ reportsFailure j = false := by
  unfold markingAnswer
  split
  · next h => cases h
  · exact ⟨_,rfl,rfl⟩

end Tool

namespace Workspace
variable (w : Workspace)

structure Framed : Prop where
  /-- A command line that is not understood changes nothing. -/
  unread : ∀ terminal line refusal, Command.ofLine w line = .error refusal →
    (w.runLine terminal line).2 = w.tree
  /-- A question changes nothing. -/
  asked : ∀ terminal line c, Command.ofLine w line = .ok c → c.task.isQuestion = true →
    (w.runLine terminal line).2 = w.tree
  /-- A tool that does not mark changes nothing. -/
  askedTool : ∀ root name given, Tool.ofName? name ≠ some .injectMeta →
    (w.callTool root name given).2 = w.tree
  /-- A command that fails changes nothing, unless a text cannot be encoded; then it may be that one
  file is another one. -/
  failed : ∀ terminal line, (w.runLine terminal line).1.status ≠ 0 →
    (w.runLine terminal line).2 = w.tree ∨
      (∃ e, (w.runLine terminal line).1.fault = some (.encoding e)) ∧
        w.OneFile (w.runLine terminal line).2
  /-- So does a tool that fails. -/
  failedTool : ∀ root name given, Tool.Fails (w.callTool root name given).1 →
    (w.callTool root name given).2 = w.tree ∨
      (∃ e, (w.callTool root name given).1 = .error (.fault (.encoding e))) ∧
        w.OneFile (w.callTool root name given).2
  /-- A command that marks rewrites the file that it names. -/
  marked : ∀ terminal line project file element useCaseId function elementId dryRun,
    Command.ofLine w line =
      .ok ⟨project, .inject file element useCaseId function elementId dryRun⟩ →
    (w.runLine terminal line).1.status = 0 →
    ∃ s d marker b, w.loaded (w.rootOf project) = .ok (s, d) ∧
      d.marker (some useCaseId) (some function) (.ofText? elementId) w.today = .ok marker ∧
      w.Rewrites (Path.ofText file) element marker s.markerKey dryRun b (w.runLine terminal line).2
  /-- A tool that marks rewrites the file that it names, and says what became of it. -/
  markedTool : ∀ root name given j, Tool.ofName? name = some .injectMeta →
    (w.callTool root name given).1 = .ok j → Tool.reportsFailure j = false →
    ∃ s d m target marker b, w.settings root = .ok s ∧ w.markingInput root s given = .ok (d, m) ∧
      Tool.markingTarget w root d m = .ok (target, marker) ∧
      w.Rewrites target ((Tool.elementName? m.element).getD "") marker s.markerKey
        m.dryRun.toValue.isTruthy b (w.callTool root name given).2 ∧
      Tool.markingAnswer m target marker (.marked b) = .ok j
  /-- A command that registers rewrites the file of the document. -/
  added : ∀ terminal line project title value actor status,
    Command.ofLine w line = .ok ⟨project, .addUseCase title value actor status⟩ →
    (w.runLine terminal line).1.status = 0 →
    ∃ s place old new, w.settings (w.rootOf project) = .ok s ∧
      w.tree.find w.folder (matrixPath (w.rootOf project) s).toText = .ok (place, .file old) ∧
      (w.runLine terminal line).2 = w.tree.put place (.file new)

/-! ## Command lines -/

section Lines
variable {w} {terminal : Terminal} {line : List String}

theorem runLine_refused {refusal : Refusal} (h : Command.ofLine w line = .error refusal) :
    (w.runLine terminal line).2 = w.tree := by
  rw [runLine, h]

/-- A command line that is understood ends as its command does. -/
theorem runLine_ok {c : Command} (h : Command.ofLine w line = .ok c) :
    (w.runLine terminal line).1.status = (w.runCommand terminal c).1.status ∧
      (w.runLine terminal line).1.fault = (w.runCommand terminal c).1.fault ∧
      (w.runLine terminal line).2 = (w.runCommand terminal c).2 := by
  rw [runLine, h]
  exact ⟨rfl,rfl,rfl⟩

theorem runTask_question {root : Path} {task : Task} (h : task.isQuestion = true) :
    (w.runTask terminal root task).2 = w.tree := by
  cases task with
  | inject => cases h
  | addUseCase => cases h
  | check => rfl
  | violations => rfl
  | endpoint => rfl
  | serve => rfl

end Lines

/-! ## Tasks -/

/-- A task fails and changes nothing, or it fails because a text cannot be encoded, or it succeeds and
leaves a certain tree. -/
inductive Ends (left : FileTree → Prop) : CommandEnd × FileTree → Prop
  | failed {result : CommandEnd} (h : result.status ≠ 0) : Ends left (result, w.tree)
  | unencoded {result : CommandEnd} {tree : FileTree} {e : EncodingError} (h : result.status ≠ 0)
    (hfault : result.fault = some (.encoding e)) (hone : w.OneFile tree) : Ends left (result, tree)
  | succeeded {result : CommandEnd} {tree : FileTree} (h : result.status = 0) (hleft : left tree) :
    Ends left (result, tree)

variable {w} {left : FileTree → Prop} {root : Path}

/-- Something is printed at the end, and it may be that it cannot be encoded. -/
theorem Ends.printing {tree : FileTree} (h : left tree) (hone : tree = w.tree ∨ w.OneFile tree)
    (terminal : Terminal) (prints : List Print) :
    w.Ends left (.printing terminal prints 0,tree) := by
  rw [CommandEnd.printing]
  split
  · exact .succeeded rfl h
  · rcases hone with rfl | hone
    · exact .failed Nat.one_ne_zero
    · exact .unencoded Nat.one_ne_zero rfl hone

theorem Ends.of_failing {ending : CommandEnd × FileTree} (h : w.Ends left ending)
    (hstatus : ending.1.status ≠ 0) :
    ending.2 = w.tree ∨ (∃ e, ending.1.fault = some (.encoding e)) ∧ w.OneFile ending.2 := by
  cases h with
  | failed => exact .inl rfl
  | unencoded _ hfault hone => exact .inr ⟨⟨_,hfault⟩,hone⟩
  | succeeded h => exact absurd h hstatus

theorem Ends.of_succeeding {ending : CommandEnd × FileTree} (h : w.Ends left ending)
    (hstatus : ending.1.status = 0) : left ending.2 := by
  cases h with
  | failed h => exact absurd hstatus h
  | unencoded h => exact absurd hstatus h
  | succeeded _ hleft => exact hleft

theorem ends_runInject (terminal : Terminal) (file element useCaseId function : String)
    (elementId : Option String) (dryRun : Bool) :
    w.Ends (fun tree => ∃ s d marker b, w.loaded root = .ok (s, d) ∧
        d.marker (some useCaseId) (some function) (.ofText? elementId) w.today = .ok marker ∧
        w.Rewrites (Path.ofText file) element marker s.markerKey dryRun b tree)
      (w.runInject terminal root file element useCaseId function elementId dryRun) := by
  simp only [runInject]
  split
  · next e _ => exact .failed (CommandEnd.status_ofFault e)
  · next s d hloaded =>
    split
    · exact .failed Nat.one_ne_zero
    · next marker hmarker =>
      -- only the effect is known of the outcome and the tree from here on
      have heffect := w.markEffect_markFile (Path.ofText file) element marker s.markerKey dryRun
      generalize w.markFile (Path.ofText file) element marker s.markerKey dryRun = marked
        at heffect ⊢
      obtain ⟨outcome,tree⟩ := marked
      cases heffect with
      | failed => exact .failed Nat.one_ne_zero
      | refused => exact .failed Nat.one_ne_zero
      | emptied h => exact .unencoded Nat.one_ne_zero rfl (.of_read h [])
      | marked h => exact .printing ⟨s,d,marker,_,hloaded,hmarker,h⟩ h.oneFile terminal _

/-- Where a document is saved that was loaded from there. -/
theorem exists_of_save {s : Settings} {d e : Document} {tree : FileTree}
    (hdocument : w.document root s = .ok d) (h : w.save (matrixPath root s) e = .ok tree) :
    ∃ place old new, w.tree.find w.folder (matrixPath root s).toText = .ok (place, .file old) ∧
      tree = w.tree.put place (.file new) := by
  obtain ⟨place,old,hfind,-⟩ := exists_of_document hdocument
  obtain ⟨text,-,h⟩ := exists_of_bind_eq_ok h
  rw [hfind] at h
  exact ⟨place,old,_,hfind,(Except.ok.inj h).symm⟩

theorem ends_runAddUseCase (terminal : Terminal) (title value : String) (actor : Option String)
    (status : String) :
    w.Ends (fun tree => ∃ s place old new, w.settings root = .ok s ∧
        w.tree.find w.folder (matrixPath root s).toText = .ok (place, .file old) ∧
        tree = w.tree.put place (.file new))
      (w.runAddUseCase terminal root title value actor status) := by
  rw [runAddUseCase]
  split
  · next e _ => exact .failed (CommandEnd.status_ofFault e)
  · next s d hloaded =>
    obtain ⟨s',hsettings,hloaded⟩ := exists_of_bind_eq_ok hloaded
    obtain ⟨d',hdocument,hloaded⟩ := exists_of_bind_eq_ok hloaded
    obtain ⟨rfl,rfl⟩ := Prod.mk.inj (Except.ok.inj hloaded)
    split
    · exact .failed Nat.one_ne_zero
    · split
      · exact .failed Nat.one_ne_zero
      · next tree hsave =>
        obtain ⟨place,old,new,hfind,htree⟩ := exists_of_save hdocument hsave
        exact .printing ⟨s',place,old,new,hsettings,hfind,htree⟩
          (.inr ⟨place,old,new,FileTree.at?_of_find hfind,htree⟩) terminal _

/-! ## Tools -/

/-- Marking through a tool fails and changes nothing, or a text cannot be encoded and a file is emptied,
or the element is marked. -/
theorem mark_cases (s : Settings) (d : Document) (m : Tool.Marking) :
    (Tool.Fails (Tool.mark w root s d m).1 ∧ (Tool.mark w root s d m).2 = w.tree) ∨
    ((∃ e, (Tool.mark w root s d m).1 = .error (.fault (.encoding e))) ∧
      w.OneFile (Tool.mark w root s d m).2) ∨
    ∃ target marker b j, Tool.markingTarget w root d m = .ok (target, marker) ∧
      w.Rewrites target ((Tool.elementName? m.element).getD "") marker s.markerKey
        m.dryRun.toValue.isTruthy b (Tool.mark w root s d m).2 ∧
      (Tool.mark w root s d m).1 = .ok j ∧
      Tool.markingAnswer m target marker (.marked b) = .ok j ∧ Tool.reportsFailure j = false := by
  simp only [Tool.mark]
  split
  · next e _ => exact .inl ⟨Tool.fails_error _,rfl⟩
  · next target marker htarget =>
    have heffect := w.markEffect_markFile target ((Tool.elementName? m.element).getD "") marker
      s.markerKey m.dryRun.toValue.isTruthy
    generalize w.markFile target ((Tool.elementName? m.element).getD "") marker s.markerKey
      m.dryRun.toValue.isTruthy = marked at heffect ⊢
    obtain ⟨outcome,tree⟩ := marked
    cases heffect with
    | failed => exact .inl ⟨Tool.fails_error _,rfl⟩
    | refused r =>
      exact .inl ⟨fun j => Tool.reportsFailure_of_refused m target marker r,rfl⟩
    | emptied h => exact .inr (.inl ⟨⟨_,rfl⟩,.of_read h []⟩)
    | marked h =>
      obtain ⟨j,hj,hsucceeds⟩ := Tool.exists_markingAnswer_marked m target marker _
      exact .inr (.inr ⟨target,marker,_,j,htarget,h,hj,hj,hsucceeds⟩)

/-- What a request for marking comes to. -/
theorem callTool_injectMeta {name : String} (hname : Tool.ofName? name = some .injectMeta)
    (given : Members) :
    ((w.callTool root name given).2 = w.tree ∧ Tool.Fails (w.callTool root name given).1) ∨
    ∃ s d m, w.settings root = .ok s ∧ w.markingInput root s given = .ok (d, m) ∧
      w.callTool root name given = Tool.mark w root s d m := by
  simp only [callTool, hname]
  split
  · exact .inl ⟨rfl,Tool.fails_error _⟩
  · next s hsettings =>
    split
    · exact .inl ⟨rfl,Tool.fails_error _⟩
    · next d m hinput => exact .inr ⟨s,d,m,hsettings,hinput,rfl⟩

theorem callTool_question {name : String} (hname : Tool.ofName? name ≠ some .injectMeta)
    (given : Members) : (w.callTool root name given).2 = w.tree := by
  rw [callTool]
  split
  · rfl
  · split
    · rfl
    · rfl
    · rfl
    · next h => exact absurd h hname
    · rfl

/-- Commands and tools change what they name, and nothing else. -/
theorem framed (w : Workspace) : w.Framed where
  unread terminal line refusal h := runLine_refused h
  asked terminal line c h hquestion := by
    obtain ⟨-,-,htree⟩ := runLine_ok h
    rw [htree]
    exact runTask_question hquestion
  askedTool root name given h := callTool_question h given
  failed terminal line h := by
    cases hline : Command.ofLine w line with
    | error refusal => exact .inl (runLine_refused hline)
    | ok c =>
      obtain ⟨hstatus,hfault,htree⟩ := runLine_ok hline
      rw [hstatus] at h
      rw [hfault, htree]
      obtain ⟨project,task⟩ := c
      cases task with
      | inject file element useCaseId function elementId dryRun =>
        exact (ends_runInject terminal file element useCaseId function elementId dryRun).of_failing h
      | addUseCase title value actor status =>
        exact (ends_runAddUseCase terminal title value actor status).of_failing h
      | check => exact .inl rfl
      | violations => exact .inl rfl
      | endpoint => exact .inl rfl
      | serve => exact .inl rfl
  failedTool root name given h := by
    by_cases hname : Tool.ofName? name = some .injectMeta
    · rcases callTool_injectMeta hname given with ⟨htree,-⟩ | ⟨s,d,m,-,-,hcall⟩
      · exact .inl htree
      · rw [hcall] at h ⊢
        rcases mark_cases s d m with ⟨-,htree⟩ | hencoding | ⟨target,marker,b,j,-,-,hanswer,-,hj⟩
        · exact .inl htree
        · exact .inr hencoding
        · rw [hanswer] at h
          have hsucceeds := h j rfl
          rw [hj] at hsucceeds
          cases hsucceeds
    · exact .inl (callTool_question hname given)
  marked terminal line project file element useCaseId function elementId dryRun hline h := by
    obtain ⟨hstatus,-,htree⟩ := runLine_ok hline
    rw [hstatus] at h
    rw [htree]
    exact (ends_runInject terminal file element useCaseId function elementId dryRun).of_succeeding h
  markedTool root name given j hname hanswer hj := by
    rcases callTool_injectMeta hname given with ⟨-,hfails⟩ | ⟨s,d,m,hsettings,hinput,hcall⟩
    · rw [hfails j hanswer] at hj
      cases hj
    · rw [hcall] at hanswer ⊢
      rcases mark_cases s d m with
        ⟨hfails,-⟩ | ⟨⟨e,he⟩,-⟩ | ⟨target,marker,b,j',htarget,hrewrites,h,hmarked,-⟩
      · rw [hfails j hanswer] at hj
        cases hj
      · rw [he] at hanswer
        cases hanswer
      · rw [h] at hanswer
        obtain rfl := Except.ok.inj hanswer
        exact ⟨s,d,m,target,marker,b,hsettings,hinput,htarget,hrewrites,hmarked⟩
  added terminal line project title value actor status hline h := by
    obtain ⟨hstatus,-,htree⟩ := runLine_ok hline
    rw [hstatus] at h
    rw [htree]
    exact (ends_runAddUseCase terminal title value actor status).of_succeeding h

/-! ## A text without bytes -/

def oneElement : Workspace where
  tree := ⟨[(["a.tsx"],.file [0x3C, 0x41, 0x2F, 0x3E])]⟩
  folder := []
  now := ⟨⟨2024,5,2⟩,12,0,0,0,none⟩

def oneFunction : Document where
  useCases := some [{ id := some "UC-001", functions := [{ name := some "f" }] }]

def halfMarking : Tool.Marking :=
  ⟨.text "a.tsx",.text "A",.text "UC-001",.text "f",.text (String.ofList [ofCodePoint 0xDCFF]),
    .bool false⟩

def halfMarker : Marker where
  useCaseId := .text "UC-001"
  useCaseTitle := .text ""
  function := .text "f"
  file := .text ""
  line := .int 0
  endpoint := .null
  dbTables := []
  authRequired := .bool false
  lastVerified := .text "2024-05-02"
  visualElementId := .text (String.ofList [ofCodePoint 0xDCFF])

theorem inject_halfMarker : ∃ b e,
    Marker.inject (String.ofList ['<', 'A', '/', '>']) "A" halfMarker "data-matrix-meta" =
      .ok (.marked b) ∧ b.changed = true ∧ encode? b.text = .error e := by
  obtain ⟨b,hinject,htested⟩ := Marker.exists_marked_of_any
    (show ((Marker.inject (String.ofList ['<', 'A', '/', '>']) "A" halfMarker
      "data-matrix-meta").toOption.bind Marker.Outcome.marked?).any
        (fun b => b.changed && (encode? b.text).toOption.isNone) = true by decide +kernel)
  obtain ⟨hchanged,hencode⟩ := Bool.and_eq_true_iff.mp htested
  cases he : encode? b.text with
  | ok content =>
    rw [he] at hencode
    cases hencode
  | error e => exact ⟨b,e,hinject,hchanged,he⟩

/-- The tool fails, and the file that it was to mark is empty. -/
theorem mark_halfMarking :
    oneElement.tree.at? ["a.tsx"] = some (.file [0x3C, 0x41, 0x2F, 0x3E]) ∧
    Tool.Fails (Tool.mark oneElement ⟨.top,[]⟩ {} oneFunction halfMarking).1 ∧
    (Tool.mark oneElement ⟨.top,[]⟩ {} oneFunction halfMarking).2.at? ["a.tsx"] =
      some (.file []) := by
  obtain ⟨b,e,hinject,hchanged,hencode⟩ := inject_halfMarker
  have hplace : Tool.placeBelow (oneElement.folder.resolve ⟨.top,[]⟩) "a.tsx" = .ok ["a.tsx"] := by
    decide +kernel
  have hmarker : Tool.requestedMarker oneElement oneFunction halfMarking = .ok halfMarker := by rfl
  have htarget : Tool.markingTarget oneElement ⟨.top,[]⟩ oneFunction halfMarking =
      .ok (Path.ofLocation ["a.tsx"], halfMarker) := by
    have hpath : halfMarking.filePath = .text "a.tsx" := rfl
    simp only [Tool.markingTarget, hpath, hplace, hmarker, bind, Except.bind, Except.mapError, pure,
      Except.pure]
  have hspelled : spellingFault? (Path.ofLocation ["a.tsx"]).toText = none := by decide +kernel
  have hread : oneElement.tree.read oneElement.folder (Path.ofLocation ["a.tsx"]).toText =
      .ok (["a.tsx"], [0x3C, 0x41, 0x2F, 0x3E]) := by rfl
  have hdecode : decodeUtf8 [0x3C, 0x41, 0x2F, 0x3E] = .ok ['<', 'A', '/', '>'] := by rfl
  have hfile := markFile_unencodable hspelled hread hdecode hinject hchanged hencode
  have hasked : oneElement.markFile (Path.ofLocation ["a.tsx"])
      ((Tool.elementName? halfMarking.element).getD "") halfMarker ({} : Settings).markerKey
      halfMarking.dryRun.toValue.isTruthy =
        (.error (.encoding e), oneElement.tree.put ["a.tsx"] (.file [])) := by
    have helement : (Tool.elementName? halfMarking.element).getD "" = "A" := rfl
    have hdry : halfMarking.dryRun.toValue.isTruthy = false := rfl
    rw [helement, hdry]
    exact hfile
  rw [Tool.mark_of_target htarget hasked]
  exact ⟨rfl,Tool.fails_error _,rfl⟩

end Workspace

end Traceability
