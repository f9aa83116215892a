import Traceability.Proofs.Audit.Addition
import Traceability.Proofs.Audit.Alike
import Traceability.Proofs.Command.Output
import Traceability.Proofs.Project.Passing

/-! # Adding a use case to a project

A use case that is added to a project whose audit finds no errors is the last one of the document that
is loaded afterwards. Only the file of the document is another one, and the audit finds what it found.
The document and the arguments are without the private characters that stand for halves of pairs
(`Text.isHalf`).
-/
namespace Traceability
open Number Text Command

/-! ## Requests -/

structure Request where
  title : String
  value : String
  actor : Option String
  status : String

namespace Request

def task (r : Request) : Task := .addUseCase r.title r.value r.actor r.status

def useCase (r : Request) (id : Option String) : UseCase :=
  { id := id, title := some r.title, value := some r.value, actor := r.actor, status := some r.status }

/-- The request gives a title, a value, and a status in which nothing is implemented yet. -/
structure Admissible (r : Request) : Prop where
  title : r.title ≠ ""
  value : r.value ≠ ""
  status : r.status = "planned" ∨ r.status = "in_progress"

def answer (r : Request) (id : String) : String := s!"Registered {id}: {r.title}\n"

end Request

namespace Document
variable {φ : View} {d : Document} {r : Request} {id : String} {today : Date}

theorem register_useCase (r : Request) (h : ¬ d.AtDigitLimit) :
    d.register (r.useCase none) =
      .ok ({ d with useCases := some (d.active ++ [r.useCase (some ("UC-" ++ padded 3 d.nextNumber))]) },
        r.useCase (some ("UC-" ++ padded 3 d.nextNumber))) := by
  simp only [register, assignId, Request.useCase, nextUseCaseId_of_not_atDigitLimit h]
  rfl

theorem admits_useCase (hr : r.Admissible) (hid : d.IsNewId id) : d.Admits (r.useCase (some id)) where
  id := ⟨id,rfl,hid.isUseCaseId,hid.unused⟩
  status := hr.status.imp (congrArg some) (congrArg some)
  title := bne_iff_ne.mpr hr.title
  value := bne_iff_ne.mpr hr.value
  functions := rfl
  element := rfl

theorem Canonical.grown (hd : d.Canonical) (r : Request) (id : Option String) (today : Date) :
    (d.grown (r.useCase id) today).Canonical := by
  have hnew : (r.useCase id).Canonical := ⟨fun _ hf => absurd hf List.not_mem_nil,rfl⟩
  refine ⟨hd.stack,?_,hd.decisions,hd.deprecated,hd.tables,hd.endpoints,hd.functions,hd.extra⟩
  rintro us hus u hu
  obtain rfl := Option.some.inj hus
  rcases List.mem_append.mp hu with hu | hu
  · rw [Document.active] at hu
    cases hactive : d.useCases with
    | none => simp [hactive] at hu
    | some vs =>
      rw [hactive] at hu
      exact hd.active vs hactive u hu
  · rw [List.mem_singleton.mp hu]
    exact hnew

/-- The document is another one with one more active use case, as it is seen. -/
structure ExtendsBy (φ : View) (e d : Document) (u : UseCase) : Prop where
  active : ∃ us, e.active = us ++ [u] ∧ us.map φ.useCase = d.active.map φ.useCase
  deprecated : e.deprecated.map φ.useCase = d.deprecated.map φ.useCase
  decisions : e.decisions.map φ.decision = d.decisions.map φ.decision
  stack : e.stack.map φ.stack = d.stack.map φ.stack
  extra : φ.Alike e.extra d.extra

/-- Nothing of a use case without functions and free entries is hidden. -/
theorem eq_of_useCase_eq {u w : UseCase} (hfunctions : u.functions = []) (hextra : u.extra = [])
    (h : φ.useCase w = φ.useCase u) : w = u := by
  have hwfunctions : w.functions = [] := by
    have hmap : w.functions.map φ.function = u.functions.map φ.function :=
      congrArg UseCase.functions h
    rw [hfunctions] at hmap
    exact List.map_eq_nil_iff.mp hmap
  have hwextra : w.extra = [] := by
    have hmap : w.extra.map φ.entry = u.extra.map φ.entry := congrArg UseCase.extra h
    rw [hextra] at hmap
    exact List.map_eq_nil_iff.mp hmap
  calc w = { φ.useCase w with functions := w.functions, extra := w.extra } := rfl
    _ = { φ.useCase u with functions := u.functions, extra := u.extra } := by
      rw [h, hwfunctions, hwextra, hfunctions, hextra]
    _ = u := rfl

/-- What was found in the source does not count. -/
theorem extendsBy_of_alike {e : Document} {tables : List Table} {endpoints : List Endpoint}
    {functions : List FunctionEntity} (h : φ.document { e with
      tables := tables, endpoints := endpoints, functions := functions } =
        φ.document (d.grown (r.useCase (some id)) today)) :
    ExtendsBy φ e d (r.useCase (some id)) where
  active := by
    have huses : e.useCases.map (·.map φ.useCase) =
        some ((d.active ++ [r.useCase (some id)]).map φ.useCase) := congrArg Document.useCases h
    obtain ⟨ws,hws,hmap⟩ := Option.map_eq_some_iff.mp huses
    rw [List.map_append] at hmap
    obtain ⟨us,last,rfl,hus,hlast⟩ := List.map_eq_append_iff.mp hmap
    obtain ⟨w,rfl,hw⟩ := List.map_eq_singleton_iff.mp hlast
    refine ⟨us,?_,hus⟩
    rw [Document.active, hws, eq_of_useCase_eq rfl rfl hw]
    rfl
  deprecated := congrArg Document.deprecated h
  decisions := congrArg Document.decisions h
  stack := congrArg Document.stack h
  extra := congrArg Document.extra h

end Document

/-! ## Projects -/

namespace Workspace
variable {w : Workspace} {root : Path} {s : Settings} {d : Document} {run : Audit.Run}

/-- An audit of what looks like the grown document finds no errors and the same warnings. -/
theorem documentRun_grown {φ : View} {w' : Workspace} {u : UseCase} {today : Date} {e : Document}
    {tables : List Table} {endpoints : List Endpoint} {functions : List FunctionEntity}
    (hpresent : w'.present root = w.present root) (hu : d.Admits u) (htoday : today.Exists)
    (he : φ.document { e with tables := tables, endpoints := endpoints, functions := functions } =
      φ.document (d.grown u today))
    (h : (w.documentRun root s d).report.errors = []) :
    (w'.documentRun root s e).report.errors = [] ∧
      (w'.documentRun root s e).report.warnings = (w.documentRun root s d).report.warnings := by
  have hlogged : Audit.logged (w'.present root) s.rulesDir e =
      Audit.logged (w.present root) s.rulesDir (d.grown u today) := by
    rw [hpresent]
    exact Audit.logged_of_alike he (w.present root) s.rulesDir
  rw [errors_documentRun] at h ⊢
  rw [warnings_documentRun, warnings_documentRun, hlogged]
  exact ⟨Audit.clean_logged_grown hu htoday h,Audit.warningsOf_logged_grown hu _ _⟩

/-- What adding a use case leaves of a project that passes: nothing but the file of the document is
another one, and at any later time the project passes with the use case and shows the same check. -/
structure Grows (φ : View) (w : Workspace) (root : Path) (s : Settings) (d : Document)
    (run : Audit.Run) (u : UseCase) (tree : FileTree) : Prop where
  frame : ∃ place old, w.tree.find w.folder (matrixPath root s).toText = .ok (place,.file old) ∧
    ∀ other, other ≠ place → tree.at? other = w.tree.at? other
  later : ∀ now, ∃ e run', Passes { w with tree := tree, now := now } root s e run' ∧
    e.ExtendsBy φ d u ∧ run'.report.warnings = run.report.warnings
  check : ∀ now terminal strict showPasses,
    runCheck { w with tree := tree, now := now } terminal root (some .lines) strict showPasses =
      w.runCheck terminal root (some .lines) strict showPasses

theorem Grows.of_later {φ : View} {u : UseCase} {tree : FileTree} (h : w.Passes root s d run)
    (hframe : ∃ place old, w.tree.find w.folder (matrixPath root s).toText = .ok (place,.file old) ∧
      ∀ other, other ≠ place → tree.at? other = w.tree.at? other)
    (hlater : ∀ now, ∃ e run', Passes { w with tree := tree, now := now } root s e run' ∧
      e.ExtendsBy φ d u ∧ run'.report.warnings = run.report.warnings) :
    Grows φ w root s d run u tree := by
  refine ⟨hframe,hlater,fun now terminal strict showPasses => ?_⟩
  obtain ⟨e,run',h',-,hwarnings⟩ := hlater now
  exact h.runCheck_lines h' hwarnings terminal strict showPasses

/-- The answer to a request holds half of a pair if its title does. -/
theorem holdsHalf_answer (r : Request) {id : String} (hid : d.IsNewId id) :
    holdsHalf (r.answer id).toList = holdsHalf r.title.toList := by
  obtain ⟨digits,-,hdigits,hwritten⟩ := hid.written
  have htext : (r.answer id).toList =
      "Registered UC-".toList ++ digits ++ ": ".toList ++ r.title.toList ++ "\n".toList := by
    have hid : (toString id).toList = ['U', 'C', '-'] ++ digits := hwritten
    simp only [Request.answer, String.toList_append, hid, List.append_assoc]
    rfl
  have hplain : holdsHalf digits = false := by
    rw [holdsHalf, List.any_eq_false]
    intro c hc
    have hdigit := hdigits c hc
    simp only [isAsciiDigit, Bool.and_eq_true, decide_eq_true_eq] at hdigit
    rw [isHalf_of_lt (by rw [firstHalfChar]; omega)]
    decide
  have hfront : holdsHalf "Registered UC-".toList = false := by decide +kernel
  have hmiddle : holdsHalf ": ".toList = false := by decide +kernel
  have hback : holdsHalf "\n".toList = false := by decide +kernel
  rw [htext]
  -- as long as the words are spelled out, rewriting compares them letter by letter
  generalize "Registered UC-".toList = front at hfront ⊢
  generalize ": ".toList = middle at hmiddle ⊢
  generalize "\n".toList = back at hback ⊢
  simp only [holdsHalf, List.any_append] at hfront hplain hmiddle hback ⊢
  rw [hfront, hplain, hmiddle, hback, Bool.or_false, Bool.false_or, Bool.false_or, Bool.false_or]

/-- A document with one more use case is saved over the file of the document. -/
theorem save_grown {u : UseCase} {place : Location} {old : List UInt8} {text : String}
    (hfind : w.tree.find w.folder (matrixPath root s).toText = .ok (place,.file old))
    (htext : (d.grown u w.today).fileText = .ok text) :
    w.save (matrixPath root s) { d with useCases := some (d.active ++ [u]) } =
      .ok (w.tree.put place (.file (encodeUtf8 text))) := by
  rw [Document.grown] at htext
  simp only [save, htext, Except.mapError, bind, Except.bind, hfind]
  rfl

/-- The command of a request registers its use case and saves the document before it answers. -/
theorem runCommand_task (w : Workspace) (terminal : Terminal) {project : Option String}
    {r : Request} {id : String} {tree : FileTree}
    (hsettings : w.settings (w.rootOf project) = .ok s)
    (hdocument : w.document (w.rootOf project) s = .ok d)
    (hregister : d.register (r.useCase none) =
      .ok ({ d with useCases := some (d.active ++ [r.useCase (some id)]) },r.useCase (some id)))
    (hsave : w.save (matrixPath (w.rootOf project) s)
      { d with useCases := some (d.active ++ [r.useCase (some id)]) } = .ok tree) :
    w.runCommand terminal ⟨project,r.task⟩ = (.saying terminal (r.answer id),tree) := by
  show w.runAddUseCase terminal (w.rootOf project) r.title r.value r.actor r.status = _
  rw [Request.useCase] at hregister
  simp only [runAddUseCase, loaded, hsettings, hdocument, bind, Except.bind, pure, Except.pure,
    hregister, hsave]
  rfl

/-- A use case is added to a project that passes. The command succeeds unless the title holds half
of a pair, which cannot be printed. -/
theorem addUseCase_of_passes {φ : View} {w : Workspace} (terminal : Terminal)
    {project : Option String} {s : Settings} {d : Document} {run : Audit.Run}
    (h : w.Passes (w.rootOf project) s d run) {r : Request} (hr : r.Admissible)
    (htoday : w.today.Exists) (hlimit : ¬ d.AtDigitLimit)
    (hback : ∀ e u, d.register (r.useCase none) = .ok (e,u) →
      Yaml.ReadsBack φ (e.stamped w.today).toEntries) :
    ∃ id result tree, d.IsNewId id ∧
      w.runCommand terminal ⟨project,r.task⟩ = (result,tree) ∧
      (holdsHalf r.title.toList = false →
        result = { output := messageText terminal (r.answer id) }) ∧
      (holdsHalf r.title.toList = true → result.status = 1) ∧
      Grows φ w (w.rootOf project) s d run (r.useCase (some id)) tree := by
  have hregister := Document.register_useCase r hlimit
  have hnew := d.isNewId_nextNumber
  generalize "UC-" ++ padded 3 d.nextNumber = id at hregister hnew
  obtain ⟨text,v,htext,hload,hv⟩ := hback _ _ hregister
  obtain ⟨place,old,hfind,hold⟩ := exists_of_document h.document
  have hat := FileTree.at?_of_find hfind
  obtain ⟨cs,source,-,-,hsource⟩ := Document.exists_of_load hold
  have hcanonical : (d.grown (r.useCase (some id)) w.today).Canonical :=
    (Document.canonical_ofValue source d hsource).grown r (some id) w.today
  obtain ⟨e,he,himage⟩ := Document.records_readBack hcanonical hv
  have hwritten := Document.load_encoded htext hload hv he (matrixPath (w.rootOf project) s).toText
  have hsettings : Settings.ofContent (some (encodeUtf8 text)) = Settings.ofContent (some old) :=
    Document.ofContent_written hold hcanonical rfl htext hload hv
  have hanswer := holdsHalf_answer r hnew
  refine ⟨id,_,_,hnew,
    w.runCommand_task terminal h.settings h.document hregister (save_grown hfind htext),?_,?_,
    .of_later h ⟨place,old,hfind,fun other hne => FileTree.at?_put_other _ hne _⟩ fun now => ?_⟩
  · exact fun hprinted => CommandEnd.saying_of_holdsHalf_eq_false terminal (hanswer.trans hprinted)
  · exact fun hhalf => CommandEnd.status_saying_of_holdsHalf terminal (hanswer.trans hhalf)
  have hdocument := document_rewritten hfind hwritten now
  have haudit : run = w.documentRun (w.rootOf project) s d := by
    have haudit := h.audit
    rw [audit_of_document h.document] at haudit
    exact (Except.ok.inj haudit).symm
  have herrors := h.errors
  rw [haudit] at herrors ⊢
  obtain ⟨herrors',hwarnings'⟩ := documentRun_grown
    (present_rewritten hat (encodeUtf8 text) now (w.rootOf project))
    (Document.admits_useCase hr hnew) htoday himage herrors
  exact ⟨e,_,⟨(settings_rewritten hat hsettings now).trans h.settings,hdocument,
    audit_of_document hdocument,herrors'⟩,Document.extendsBy_of_alike himage,hwarnings'⟩

/-! ## A project that was just started -/

def startedDocument : Document where
  version := some "1"
  project := some "p"
  description := some "d"
  author := some "a"
  created := some "2024-05-01"
  lastUpdated := some "2024-05-01"
  useCases := some []
  extra := [(.text "owner", .text "o")]

def startedText : String := startedDocument.fileText.toOption.getD ""

def startedProject : Workspace where
  tree := ⟨[(["schema"],.folder), (["schema", "DCM.yaml"],.file (encodeUtf8 startedText)),
    (["rules"],.folder)] ++ Audit.ruleFiles.map fun name => (["rules", name],.file [])⟩
  folder := []
  now := ⟨⟨2024,5,2⟩,12,0,0,0,none⟩

def planned (title : String) : Request := ⟨title,"v",none,"planned"⟩

def unprinted : String := String.ofList [ofCodePoint 0xDCFF]

theorem passes_startedProject :
    startedProject.Passes (startedProject.rootOf none) {} startedDocument
      (startedProject.documentRun (startedProject.rootOf none) {} startedDocument) := by
  obtain ⟨text,v,htext,hload,hv⟩ : Yaml.ReadsBack .exact startedDocument.toEntries := by
    decide +kernel
  obtain rfl : v = .map startedDocument.toEntries := hv
  have hstarted : startedText = text := by
    rw [startedText, Document.fileText, htext]
    rfl
  have hread : Document.ofValue (.map startedDocument.toEntries) = .ok startedDocument := rfl
  have hcontent : startedProject.content? (matrixPath (startedProject.rootOf none) {}) =
      .ok (some (encodeUtf8 startedText)) :=
    content?_eq_some_iff.mpr ⟨["schema", "DCM.yaml"],by rfl⟩
  have hdocument : startedProject.document (startedProject.rootOf none) {} =
      .ok startedDocument := by
    rw [document_of_load hcontent, hstarted, Document.load_encoded (φ := .exact) htext hload rfl hread]
    rfl
  exact ⟨by rfl,hdocument,audit_of_document hdocument,by decide +kernel⟩

theorem not_atDigitLimit_startedDocument : ¬ startedDocument.AtDigitLimit := by
  rintro ⟨digits,hdigits,-⟩
  exact absurd hdigits List.not_mem_nil

theorem newId_startedDocument : "UC-" ++ padded 3 startedDocument.nextNumber = "UC-001" := by
  decide

theorem register_planned (title : String) : startedDocument.register ((planned title).useCase none) =
    .ok ({ startedDocument with useCases := some [(planned title).useCase (some "UC-001")] },
      (planned title).useCase (some "UC-001")) := by
  rw [Document.register_useCase _ not_atDigitLimit_startedDocument, newId_startedDocument]
  rfl

theorem readsBack_planned {title : String}
    (h : Yaml.ReadsBack .exact (startedDocument.grown ((planned title).useCase (some "UC-001"))
      startedProject.today).toEntries) :
    ∀ e u, startedDocument.register ((planned title).useCase none) = .ok (e,u) →
      Yaml.ReadsBack .exact (e.stamped startedProject.today).toEntries := by
  intro e u hregister
  rw [register_planned] at hregister
  obtain ⟨rfl,rfl⟩ := Prod.mk.inj (Except.ok.inj hregister)
  exact h

theorem addUseCase_of_passes_startedProject : ∃ id result tree, startedDocument.IsNewId id ∧
    startedProject.runCommand ⟨80,false⟩ ⟨none,(planned "t").task⟩ = (result,tree) ∧
    (holdsHalf "t".toList = false →
      result = { output := messageText ⟨80,false⟩ ((planned "t").answer id) }) ∧
    (holdsHalf "t".toList = true → result.status = 1) ∧
    Grows .exact startedProject (startedProject.rootOf none) {} startedDocument
      (startedProject.documentRun (startedProject.rootOf none) {} startedDocument)
      ((planned "t").useCase (some id)) tree :=
  addUseCase_of_passes ⟨80,false⟩ passes_startedProject ⟨by decide,by decide,.inl rfl⟩ rfl
    not_atDigitLimit_startedDocument (readsBack_planned (by decide +kernel))

/-- The command fails in a project that passes if the title is half of a pair. -/
theorem status_addUseCase_unprinted :
    startedProject.Passes (startedProject.rootOf none) {} startedDocument
      (startedProject.documentRun (startedProject.rootOf none) {} startedDocument) ∧
    (planned unprinted).Admissible ∧ startedProject.today.Exists ∧
    ¬ startedDocument.AtDigitLimit ∧
    (∀ e u, startedDocument.register ((planned unprinted).useCase none) = .ok (e,u) →
      Yaml.ReadsBack .exact (e.stamped startedProject.today).toEntries) ∧
    (startedProject.runCommand ⟨80,false⟩ ⟨none,(planned unprinted).task⟩).1.status = 1 := by
  have hback : Yaml.ReadsBack .exact (startedDocument.grown
      ((planned unprinted).useCase (some "UC-001")) startedProject.today).toEntries := by
    decide +kernel
  have hpasses := passes_startedProject
  obtain ⟨place,old,hfind,-⟩ := exists_of_document hpasses.document
  obtain ⟨text,-,htext,-⟩ := id hback
  have hrun := startedProject.runCommand_task ⟨80,false⟩ hpasses.settings hpasses.document
    (register_planned unprinted) (save_grown hfind htext)
  have hnew : startedDocument.IsNewId "UC-001" :=
    newId_startedDocument ▸ startedDocument.isNewId_nextNumber
  have hhalf : holdsHalf (planned unprinted).title.toList = true := by
    rw [planned, unprinted, String.toList_ofList]
    decide
  have hfails := CommandEnd.status_saying_of_holdsHalf ⟨80,false⟩
    ((holdsHalf_answer (planned unprinted) hnew).trans hhalf)
  exact ⟨hpasses,⟨by decide,by decide,.inl rfl⟩,rfl,not_atDigitLimit_startedDocument,
    readsBack_planned hback,(congrArg (fun p => CommandEnd.status p.1) hrun).trans hfails⟩

end Workspace

end Traceability
