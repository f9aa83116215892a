import Traceability.Proofs.Audit.References
import Traceability.Proofs.Audit.Written
import Traceability.Proofs.Text.LowerCase

/-! # What an audit without errors means

A document is sound when its records are complete, its ids and functions are used once, and the
files it names are there. The audit of a document is without errors exactly when it is sound.
-/
namespace Traceability
open Text Audit

/-- What every use case has, whether it is active or not. -/
structure UseCase.Stated (u : UseCase) : Prop where
  id : filled u.id = true
  status : ∃ status ∈ UseCase.validStatuses, u.status = some status
  title : filled u.title = true
  value : filled u.value = true

/-- A name that is not blank and whose lower-case form holds no part that marks a stub. -/
def GenuineName (name : String) : Prop :=
  isBlankText name = false ∧ ∀ token ∈ stubTokens, ¬ token.toList <:+: lower name.toList

/-- A function record that an implemented use case can stand on. -/
structure FunctionRecord.Complete (f : FunctionRecord) : Prop where
  name : ∃ name, f.name = some name ∧ GenuineName name
  file : filled f.file = true
  line : f.line.isSome = true
  authRequired : f.authRequired.isSome = true

/-- A document with nothing to object to. -/
structure Document.Sound (present : String → Bool) (rulesDir : String) (d : Document) :
    Prop where
  fields : ∀ field ∈ [d.version, d.project, d.description, d.author, d.created, d.lastUpdated],
    filled field = true
  lastUpdated : ∃ date, d.lastUpdated = some date ∧ Format.isDate date = true
  useCases : d.useCases.isSome = true
  stated : ∀ u ∈ d.active ++ d.deprecated, u.Stated
  ids : Distinct UseCase.id (d.active ++ d.deprecated)
  names : Distinct (fun p => p.2.name) d.activeFunctions
  endpoints : Distinct (fun p => p.2.endpoint) d.activeFunctions
  implemented : ∀ u ∈ d.active, u.isImplemented = true →
    u.functions ≠ [] ∧ ∀ f ∈ u.functions, f.Complete
  retired : ∀ u ∈ d.deprecated,
    filled u.deprecatedDate = true ∧ filled u.deprecatedReason = true
  elements : Distinct ownElement d.active
  decisions : ∀ a ∈ d.decisions, filled a.decision = true ∧ filled a.context = true
  files : ∀ p ∈ d.activeFunctions, ∀ file, p.2.file = some file → file ≠ "" →
    present file = true
  ruleFiles : ∀ name ∈ ruleFiles, present (rulesDir ++ "/" ++ name) = true

namespace Audit

/-! ## The document as a whole -/

theorem severity_checkRequired_ne {name : String} {value : Option String} :
    (checkRequired name value).severity ≠ .error ↔ filled value = true := by
  rw [checkRequired]
  split <;> simp_all

theorem clean_checkTopLevel {d : Document} : Clean (checkTopLevel d) ↔
    (∀ field ∈ [d.version, d.project, d.description, d.author, d.created, d.lastUpdated],
      filled field = true) ∧
    (∃ date, d.lastUpdated = some date ∧ Format.isDate date = true) ∧ d.useCases.isSome = true := by
  have hfields : (∀ field ∈ requiredFields d, (checkRequired field.1 field.2).severity ≠ .error) ↔
      ∀ field ∈ [d.version, d.project, d.description, d.author, d.created, d.lastUpdated],
        filled field = true := by
    simp [requiredFields, severity_checkRequired_ne]
  rw [checkTopLevel, clean_append, clean_append, clean_map, hfields, and_assoc]
  apply and_congr_right
  intro hfilled
  have hlast := hfilled d.lastUpdated (by simp)
  apply and_congr
  -- a last date that is not filled is reported as missing and not as malformed
  · cases hd : d.lastUpdated with
    | none => simp [hd, filled] at hlast
    | some date =>
      rw [hd] at hlast
      simp [hlast, shown]
  · cases d.useCases <;> simp

theorem clean_checkStack (d : Document) : Clean (checkStack d) := by
  rw [checkStack]
  split
  · simp
  · split
    · simp
    · simp only [clean_map]
      intro part _
      rw [checkPart]
      split <;> simp

/-! ## Use cases -/

theorem clean_checkUseCase {u : UseCase} : Clean (checkUseCase u) ↔
    (∃ status ∈ UseCase.validStatuses, u.status = some status) ∧ filled u.title = true ∧
      filled u.value = true := by
  cases hs : u.status <;> simp [checkUseCase, hs]

theorem map_snd_located (list : String) (us : List UseCase) :
    (located list us).map Prod.snd = us := by
  rw [located, List.map_map]
  exact List.zipIdx_map_fst 0 us

theorem map_snd_locatedUseCases (d : Document) :
    (locatedUseCases d).map Prod.snd = d.active ++ d.deprecated := by
  rw [locatedUseCases, List.map_append, map_snd_located, map_snd_located]

theorem clean_checkIdentity {d : Document} : Clean (checkIdentity d) ↔
    (∀ u ∈ d.active ++ d.deprecated, u.Stated) ∧ Distinct UseCase.id (d.active ++ d.deprecated) := by
  have hmap := map_snd_locatedUseCases d
  have hids : Distinct (fun p => p.2.id) (locatedUseCases d) ↔
      Distinct UseCase.id (d.active ++ d.deprecated) := by
    rw [← hmap, Distinct, Distinct, List.pairwise_map]
  have hall (P : UseCase → Prop) : (∀ p ∈ locatedUseCases d, P p.2) ↔
      ∀ u ∈ d.active ++ d.deprecated, P u := by
    rw [← hmap, List.forall_mem_map]
  have hmissing : Clean ((locatedUseCases d).flatMap fun p =>
      onlyIf (!filled p.2.id) (failure .identity s!"Use case at {p.1} has no id field")) ↔
        ∀ u ∈ d.active ++ d.deprecated, filled u.id = true := by
    rw [clean_flatMap, ← hall]
    simp
  have hduplicate : Clean ((duplicateIds (locatedUseCases d)).map fun row =>
      duplicateId row.1 row.2) ↔ Distinct UseCase.id (d.active ++ d.deprecated) := by
    rw [← hids, ← duplicateIds_eq_nil_iff]
    simp [duplicateId, List.eq_nil_iff_forall_not_mem]
  have hcheck : Clean ((locatedUseCases d).flatMap fun p => checkUseCase p.2) ↔
      ∀ u ∈ d.active ++ d.deprecated, (∃ status ∈ UseCase.validStatuses, u.status = some status) ∧
        filled u.title = true ∧ filled u.value = true := by
    rw [clean_flatMap, ← hall]
    simp only [clean_checkUseCase]
  show Clean (_ ++ _ ++ _ ++ _) ↔ _
  rw [clean_append, clean_append, clean_append, hmissing, hduplicate, hcheck]
  simp only [clean_onlyIf, severity_passing, ne_eq, reduceCtorEq, not_false_eq_true, or_true,
    and_true]
  constructor
  · rintro ⟨⟨hid,hdistinct⟩,hrest⟩
    refine ⟨fun u hu => ?_,hdistinct⟩
    obtain ⟨hstatus,htitle,hvalue⟩ := hrest u hu
    exact ⟨hid u hu,hstatus,htitle,hvalue⟩
  · rintro ⟨hstated,hdistinct⟩
    refine ⟨⟨fun u hu => (hstated u hu).id,hdistinct⟩,fun u hu => ?_⟩
    exact ⟨(hstated u hu).status,(hstated u hu).title,(hstated u hu).value⟩

theorem clean_checkDeprecated {d : Document} : Clean (checkDeprecated d) ↔
    ∀ u ∈ d.deprecated, filled u.deprecatedDate = true ∧ filled u.deprecatedReason = true := by
  simp [checkDeprecated, checkDeprecatedEntry]

/-! ## Functions -/

theorem clean_checkFunctionNames {d : Document} :
    Clean (checkFunctionNames d) ↔ Distinct (fun p => p.2.name) d.activeFunctions :=
  clean_checkRepeats_usesOf

theorem clean_checkEndpoints {d : Document} :
    Clean (checkEndpoints d) ↔ Distinct (fun p => p.2.endpoint) d.activeFunctions :=
  clean_checkRepeats_usesOf

theorem clean_checkRecord {u : UseCase} {f : FunctionRecord} : Clean (checkRecord u f) ↔
    filled f.name = true ∧ filled f.file = true ∧ f.line.isSome = true := by
  simp [checkRecord]

theorem clean_checkImplementedUseCase {u : UseCase} : Clean (checkImplementedUseCase u) ↔
    u.functions ≠ [] ∧ ∀ f ∈ u.functions,
      filled f.name = true ∧ filled f.file = true ∧ f.line.isSome = true := by
  by_cases h : u.functions = []
  · simp [checkImplementedUseCase, h]
  · simp [checkImplementedUseCase, h, clean_checkRecord]

theorem isOwnLower_of_mem_stubTokens {token : String} (h : token ∈ stubTokens) :
    token.toList ≠ [] ∧ ∀ c ∈ token.toList, isOwnLower c = true := by
  have hall : ∀ token ∈ stubTokens,
      token.toList ≠ [] ∧ token.toList.all isOwnLower = true := by
    decide +kernel
  obtain ⟨hne,hown⟩ := hall token h
  exact ⟨hne,List.all_eq_true.mp hown⟩

theorem stubToken?_eq_none_iff {name : String} : stubToken? name = none ↔
    ∀ token ∈ stubTokens, ¬ token.toList <:+: lower name.toList := by
  rw [stubToken?, List.find?_eq_none]
  apply forall₂_congr
  intro token ht
  obtain ⟨hne,hown⟩ := isOwnLower_of_mem_stubTokens ht
  rw [occursIn_iff, infix_lower_iff hne hown]

theorem clean_checkName {u : UseCase} {f : FunctionRecord} : Clean (checkName u f) ↔
    ∃ name, f.name = some name ∧ GenuineName name := by
  rw [checkName]
  cases hn : f.name with
  | none => simp [filled]
  | some name =>
    simp only [Option.some.injEq, exists_eq_left', GenuineName, ← stubToken?_eq_none_iff, shown]
    by_cases hb : isBlankText name = true
    · simp [hb]
    · have hfilled : filled (some name) = true := by
        simp only [filled, bne_iff_ne]
        rintro rfl
        exact hb rfl
      simp only [hb, hfilled]
      cases stubToken? name <;> simp

theorem clean_checkGenuine {u : UseCase} {f : FunctionRecord} : Clean (checkGenuine u f) ↔
    f.authRequired.isSome = true ∧ ∃ name, f.name = some name ∧ GenuineName name := by
  simp [checkGenuine, clean_checkName]

theorem clean_checkGenuineUseCase {u : UseCase} : Clean (checkGenuineUseCase u) ↔
    ∀ f ∈ u.functions,
      f.authRequired.isSome = true ∧ ∃ name, f.name = some name ∧ GenuineName name := by
  simp [checkGenuineUseCase, clean_checkGenuine]

theorem filled_of_genuine {name : String} (h : GenuineName name) : filled (some name) = true := by
  simp only [filled, bne_iff_ne]
  rintro rfl
  exact absurd h.1 (by decide)

theorem filled_name_of_complete {f : FunctionRecord} (h : f.Complete) : filled f.name = true := by
  obtain ⟨name,hn,hg⟩ := h.name
  rw [hn]
  exact filled_of_genuine hg

/-- Both checks of implemented use cases together. -/
theorem clean_implemented {d : Document} :
    Clean (checkImplemented d) ∧ Clean (checkNoFake d) ↔
      ∀ u ∈ d.active, u.isImplemented = true →
        u.functions ≠ [] ∧ ∀ f ∈ u.functions, f.Complete := by
  simp only [checkImplemented, checkNoFake, clean_flatMap, List.mem_filter, and_imp,
    clean_checkImplementedUseCase, clean_checkGenuineUseCase]
  constructor
  · rintro ⟨himplemented,hgenuine⟩ u hu hi
    obtain ⟨hne,hrecords⟩ := himplemented u hu hi
    refine ⟨hne,fun f hf => ?_⟩
    obtain ⟨-,hfile,hline⟩ := hrecords f hf
    obtain ⟨hauth,hname⟩ := hgenuine u hu hi f hf
    exact ⟨hname,hfile,hline,hauth⟩
  · intro h
    constructor
    · intro u hu hi
      obtain ⟨hne,hcomplete⟩ := h u hu hi
      refine ⟨hne,fun f hf => ?_⟩
      exact ⟨filled_name_of_complete (hcomplete f hf),(hcomplete f hf).file,(hcomplete f hf).line⟩
    · intro u hu hi f hf
      have hf := (h u hu hi).2 f hf
      exact ⟨hf.authRequired,hf.name⟩

theorem clean_checkDecisions {d : Document} : Clean (checkDecisions d) ↔
    ∀ a ∈ d.decisions, filled a.decision = true ∧ filled a.context = true := by
  simp [checkDecisions, checkDecision]

/-! ## Files -/

theorem severity_fileFinding (present : String → Bool) (p : UseCase × FunctionRecord) :
    (fileFinding present p).severity ≠ .error ↔ present (shown p.2.file) = true := by
  rw [fileFinding]
  split <;> simp_all

theorem clean_checkFiles {present : String → Bool} {d : Document} :
    Clean (checkFiles present d).findings ↔ ∀ p ∈ d.activeFunctions, ∀ file,
      p.2.file = some file → file ≠ "" → present file = true := by
  have hfirst : (∀ p ∈ d.firstReferences, present (shown p.2.file) = true) ↔
      ∀ file ∈ d.files, present file = true := by
    rw [← Document.map_firstReferences, List.forall_mem_map]
  simp only [checkFiles_eq, clean_map, severity_fileFinding, hfirst, Document.mem_files,
    Document.fileOf, filledText?_eq_some_iff]
  constructor
  · intro h p hp file hfile hne
    exact h file ⟨p,hp,hfile,hne⟩
  · rintro h file ⟨p,hp,hfile,hne⟩
    exact h p hp file hfile hne

theorem clean_checkRuleFiles {present : String → Bool} {rulesDir : String} {names : List String} :
    Clean (checkRuleFiles present rulesDir names).findings ↔
      ∀ name ∈ names, present (rulesDir ++ "/" ++ name) = true := by
  rw [checkRuleFiles_eq, clean_map]
  refine forall₂_congr fun name _ => ?_
  rw [ruleFileFinding]
  split <;> simp_all

/-- An audit is without errors exactly when the document is sound. -/
theorem errors_evaluate_eq_nil_iff (present : String → Bool) (rulesDir : String) (d : Document) :
    (evaluate present rulesDir d).report.errors = [] ↔ d.Sound present rulesDir := by
  rw [report_evaluate, errors_ofFindings_eq_nil_iff, logged, findings_append, findings_append,
    clean_append, clean_append, clean_checkFiles, clean_checkRuleFiles]
  simp only [checkDocument, clean_append, clean_checkTopLevel, clean_checkStack, and_true,
    clean_checkIdentity, clean_checkFunctionNames, clean_checkEndpoints, clean_checkDeprecated,
    clean_checkElements, clean_checkDecisions, and_assoc]
  constructor
  · rintro ⟨hfields,hlast,hcases,hstated,hids,hnames,hends,himpl,hretired,helements,hgenuine,
      hdecisions,hfiles,hrules⟩
    exact ⟨hfields,hlast,hcases,hstated,hids,hnames,hends,clean_implemented.mp ⟨himpl,hgenuine⟩,
      hretired,helements,hdecisions,hfiles,hrules⟩
  · intro h
    obtain ⟨himpl,hgenuine⟩ := clean_implemented.mpr h.implemented
    exact ⟨h.fields,h.lastUpdated,h.useCases,h.stated,h.ids,h.names,h.endpoints,himpl,h.retired,
      h.elements,hgenuine,h.decisions,h.files,h.ruleFiles⟩

end Audit

end Traceability
