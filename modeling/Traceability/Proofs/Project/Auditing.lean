import Traceability.Proofs.Document.Readable
import Traceability.Proofs.Project.Passing

/-! # Audits with a result

A file of settings that breaks the grammar or is no mapping counts as none, and a matrix that is
missing, undecodable, malformed or no mapping is the only finding of its audit. Every other matrix
is evaluated. What remains are the audits that break off: settings that are no text, scalars that do
not fit their types, fields of digits that cannot be read, and paths with a name that is too long.
Both files are without the private characters that stand for halves of pairs (`Text.isHalf`).
-/
namespace Traceability
open Number Text

/-! ## Settings -/

namespace Settings

/-- The settings that the content of a file makes; an unusable one leaves the defaults. -/
inductive SetBy : Option (List UInt8) → Settings → Prop
  | absent : SetBy none {}
  | malformed {bytes : List UInt8} {e : Yaml.LoadError} :
      Yaml.loadBytes bytes = .error e → SetBy (some bytes) {}
  | notMapping {bytes : List UInt8} {v : Value} :
      Yaml.loadBytes bytes = .ok v → v.entries? = none → SetBy (some bytes) {}
  | mapping {bytes : List UInt8} {v : Value} {es : Entries} :
      Yaml.loadBytes bytes = .ok v → v.entries? = some es → SetBy (some bytes) (ofEntries es)

/-- The file is a text in which no scalar fails before it breaks the grammar, or there is none. -/
def Legible (content : Option (List UInt8)) : Prop :=
  ∀ bytes, content = some bytes → ∀ e, Yaml.loadBytes bytes = .error e → e = .malformed

theorem exists_ofContent_iff {content : Option (List UInt8)} :
    (∃ s, ofContent content = .ok s) ↔ Legible content := by
  cases content with
  | none => simp [ofContent, Legible]
  | some bytes =>
    simp only [ofContent, Legible, Option.some.injEq, forall_eq']
    split
    · next h => simp [h]
    · next e hne h =>
      simp only [h, reduceCtorEq, exists_false, Except.error.injEq, forall_eq', false_iff]
      rintro rfl
      exact hne rfl
    · next v h => simp [h]

theorem setBy_of_ofContent {content : Option (List UInt8)} {s : Settings}
    (h : ofContent content = .ok s) : SetBy content s := by
  cases content with
  | none =>
    obtain rfl := Except.ok.inj h
    exact .absent
  | some bytes =>
    simp only [ofContent] at h
    split at h
    · next hload =>
      obtain rfl := Except.ok.inj h
      exact .malformed hload
    · cases h
    · next v hload =>
      obtain rfl := Except.ok.inj h
      rw [Value.entries]
      cases hentries : v.entries? with
      | none => exact .notMapping hload hentries
      | some es => exact .mapping hload hentries

end Settings

/-! ## Documents -/

namespace Document

inductive Unloadable (path : String) : Option (List UInt8) → DocumentError → Prop
  | absent : Unloadable path none (.notFound path)
  | undecodable {bytes : List UInt8} {e : Utf8Error} :
      decodeUtf8 bytes = .error e → Unloadable path (some bytes) (.undecodable path e)
  | malformed {bytes : List UInt8} {cs : List Char} : decodeUtf8 bytes = .ok cs →
      Yaml.load (universalLines cs) = .error .malformed →
      Unloadable path (some bytes) (.unparsable path)
  | notMapping {bytes : List UInt8} {cs : List Char} {v : Value} : decodeUtf8 bytes = .ok cs →
      Yaml.load (universalLines cs) = .ok v → v.entries? = none →
      Unloadable path (some bytes) (.notMapping path)

/-- If the file is a text, no scalar in it fails before it breaks the grammar, and a mapping in it
can be read as a document. -/
def Legible (content : Option (List UInt8)) : Prop :=
  ∀ bytes cs, content = some bytes → decodeUtf8 bytes = .ok cs →
    (∀ e, Yaml.load (universalLines cs) = .error e → e = .malformed) ∧
    ∀ v, Yaml.load (universalLines cs) = .ok v → ∀ es, v.entries? = some es → Readable es

/-- What becomes of a file with some content, or of no file. -/
inductive Loading (path : String) :
    Option (List UInt8) → Except DocumentError Document → Prop
  | unloadable {content : Option (List UInt8)} {e : DocumentError} :
      Unloadable path content e → Loading path content (.error e)
  | scalar {bytes : List UInt8} {cs : List Char} {e : Yaml.LoadError} : decodeUtf8 bytes = .ok cs →
      Yaml.load (universalLines cs) = .error e → e ≠ .malformed →
      Loading path (some bytes) (.error (.scalar e))
  | field {bytes : List UInt8} {cs : List Char} {v : Value} {es : Entries} {e : IntegerError} :
      decodeUtf8 bytes = .ok cs → Yaml.load (universalLines cs) = .ok v → v.entries? = some es →
      ofValue v = .error e → Loading path (some bytes) (.error (.field e))
  | read {bytes : List UInt8} {cs : List Char} {v : Value} {es : Entries} {d : Document} :
      decodeUtf8 bytes = .ok cs → Yaml.load (universalLines cs) = .ok v → v.entries? = some es →
      ofValue v = .ok d → Loading path (some bytes) (.ok d)

theorem loading_load (path : String) (content : Option (List UInt8)) :
    Loading path content (load path content) := by
  cases content with
  | none => exact .unloadable .absent
  | some bytes =>
    cases hcs : decodeUtf8 bytes with
    | error e =>
      simp only [load, hcs, Except.mapError, bind, Except.bind]
      exact .unloadable (.undecodable hcs)
    | ok cs =>
      simp only [load, hcs, Except.mapError, bind, Except.bind, loadValue]
      cases hv : Yaml.load (universalLines cs) with
      | error e =>
        by_cases he : e = .malformed
        · subst he
          exact .unloadable (.malformed hcs hv)
        · cases e
          case malformed => exact absurd rfl he
          all_goals exact .scalar hcs hv he
      | ok v =>
        dsimp only
        by_cases hmap : v.isMap = true
        · obtain ⟨es,hentries⟩ := Option.isSome_iff_exists.mp hmap
          rw [if_pos hmap]
          cases hd : ofValue v with
          | error e => exact .field hcs hv hentries hd
          | ok d => exact .read hcs hv hentries hd
        · rw [if_neg hmap]
          exact .unloadable (.notMapping hcs hv (by simpa [Value.isMap] using hmap))

theorem unloadable_of_load {path : String} {content : Option (List UInt8)} {e : DocumentError}
    (h : load path content = .error e) (habout : e.isAboutFile = true) :
    Unloadable path content e := by
  have hloading := loading_load path content
  rw [h] at hloading
  cases hloading with
  | unloadable hwhy => exact hwhy
  | scalar => cases habout
  | field => cases habout

/-- A file is legible exactly when it holds a document or there is a reason why it holds none. -/
theorem legible_iff (path : String) {content : Option (List UInt8)} : Legible content ↔
    (∃ d, load path content = .ok d) ∨
      ∃ e, load path content = .error e ∧ e.isAboutFile = true := by
  have hloading := loading_load path content
  generalize load path content = result at hloading
  constructor
  · intro h
    cases hloading with
    | unloadable hwhy =>
      refine .inr ⟨_,rfl,?_⟩
      cases hwhy <;> rfl
    | scalar hcs hv hne => exact absurd ((h _ _ rfl hcs).1 _ hv) hne
    | field hcs hv hentries hd =>
      have hreadable := (h _ _ rfl hcs).2 _ hv _ hentries
      rw [← Value.entries_of_entries? hentries, ← exists_ofValue_iff] at hreadable
      obtain ⟨d,hread⟩ := hreadable
      rw [hd] at hread
      cases hread
    | read => exact .inl ⟨_,rfl⟩
  · -- what was decoded and what was loaded are the only ones, so each outcome decides both parts
    intro h bytes cs hcontent hcs
    subst hcontent
    cases hloading with
    | unloadable hwhy =>
      cases hwhy with
      | undecodable he => simp [he] at hcs
      | malformed hcs' hv =>
        obtain rfl := Except.ok.inj (hcs'.symm.trans hcs)
        simp [hv]
      | notMapping hcs' hv hentries =>
        obtain rfl := Except.ok.inj (hcs'.symm.trans hcs)
        rw [hv]
        simp only [reduceCtorEq, false_implies, implies_true, Except.ok.injEq, forall_eq', hentries,
          true_and]
    | scalar => simp [DocumentError.isAboutFile] at h
    | field => simp [DocumentError.isAboutFile] at h
    | read hcs' hv hentries hd =>
      obtain rfl := Except.ok.inj (hcs'.symm.trans hcs)
      have hreadable := exists_ofValue_iff.mp ⟨_,hd⟩
      rw [Value.entries_of_entries? hentries] at hreadable
      rw [hv]
      simpa only [reduceCtorEq, false_implies, implies_true, Except.ok.injEq, forall_eq', hentries,
        true_and, Option.some.injEq] using hreadable

end Document

/-! ## Audits -/

theorem Fault.noDocument?_eq_some_iff {fault : Fault} {e : DocumentError} :
    fault.noDocument? = some e ↔ fault = .document e ∧ e.isAboutFile = true := by
  cases fault with
  | document e' =>
    by_cases h : e'.isAboutFile = true
    · rw [noDocument?, if_pos h, Option.some.injEq, document.injEq]
      constructor
      · rintro rfl
        exact ⟨rfl,h⟩
      · exact And.left
    · rw [noDocument?, if_neg h]
      refine iff_of_false (by simp) ?_
      rintro ⟨he,habout⟩
      exact h (document.inj he ▸ habout)
  | _ => simp [noDocument?]

namespace Workspace
variable {w : Workspace} {root : Path} {s : Settings} {run : Audit.Run}

def compliance (w : Workspace) (root : Path) : Except Fault Audit.Run := do
  w.audit root (← w.settings root)

structure TellsWhy (run : Audit.Run) (e : DocumentError) : Prop where
  errors : run.report.errors = [⟨.documentStructure,.error,e.message⟩]
  warnings : run.report.warnings = []
  passes : run.report.passes = []
  matrixLoaded : run.matrixLoaded = false
  filesChecked : run.filesChecked = 0

/-- The findings are those of an evaluation, with a pass in front that there is a document. -/
structure Evaluates (w : Workspace) (root : Path) (s : Settings) (d : Document) (run : Audit.Run) :
    Prop where
  report : run.report = { (Audit.evaluate (w.present root) s.rulesDir d).report with
    passes := ⟨.documentStructure,.pass,"Matrix file exists and is parseable"⟩ ::
      (Audit.evaluate (w.present root) s.rulesDir d).report.passes }
  matrixLoaded : run.matrixLoaded = true
  filesChecked : run.filesChecked = (Audit.evaluate (w.present root) s.rulesDir d).asked.length

/-- The paths of the settings and of the matrix can be asked for, and both files are legible. -/
structure Legible (w : Workspace) (root : Path) : Prop where
  settings : ∃ content, w.content? (root ++ settingsPath) = .ok content ∧ Settings.Legible content
  matrix : ∀ s, w.settings root = .ok s →
    ∃ content, w.content? (matrixPath root s) = .ok content ∧ Document.Legible content

theorem exists_mapError_iff {ε ε' α : Type} {x : Except ε α} {f : ε → ε'} :
    (∃ a, x.mapError f = .ok a) ↔ ∃ a, x = .ok a := by
  simp only [mapError_eq_ok_iff]

theorem exists_settings_iff : (∃ s, w.settings root = .ok s) ↔
    ∃ content, w.content? (root ++ settingsPath) = .ok content ∧ Settings.Legible content := by
  simp only [settings, exists_bind_iff, exists_mapError_iff, Settings.exists_ofContent_iff]

theorem content?_ne_document (path : Path) (e : DocumentError) :
    w.content? path ≠ .error (.document e) := by
  unfold content?
  dsimp only
  split <;> simp

/-- What keeps a document from being loaded is in its file. -/
theorem exists_of_document_error {e : DocumentError}
    (h : w.document root s = .error (.document e)) :
    ∃ content, w.content? (matrixPath root s) = .ok content ∧
      Document.load (matrixPath root s).toText content = .error e := by
  rw [document] at h
  cases hcontent : w.content? (matrixPath root s) with
  | error fault =>
    rw [hcontent] at h
    have hfault : fault = .document e := Except.error.inj h
    rw [hfault] at hcontent
    exact absurd hcontent (content?_ne_document _ e)
  | ok content =>
    refine ⟨content,rfl,?_⟩
    simp only [hcontent, bind, Except.bind] at h
    cases hload : Document.load (matrixPath root s).toText content with
    | error e' =>
      rw [hload] at h
      exact congrArg Except.error (Fault.document.inj (Except.error.inj h))
    | ok d =>
      rw [hload] at h
      cases h

theorem audit_of_aboutFile {e : DocumentError} (h : w.document root s = .error (.document e))
    (habout : e.isAboutFile = true) : w.audit root s = .ok (w.failedRun root e) := by
  unfold audit
  simp only [h, Fault.noDocument?, habout, if_true]

/-- A matrix is audited unless something in it is wrong, or its path is. -/
theorem audit_cases (h : w.audit root s = .ok run) :
    (∃ e, w.document root s = .error (.document e) ∧ e.isAboutFile = true ∧
      run = w.failedRun root e) ∨
    ∃ d, w.document root s = .ok d ∧ run = w.documentRun root s d := by
  unfold audit at h
  cases hd : w.document root s with
  | ok d =>
    simp only [hd, Except.ok.injEq] at h
    exact .inr ⟨d,rfl,h.symm⟩
  | error fault =>
    simp only [hd] at h
    cases hwhy : fault.noDocument? with
    | none => simp [hwhy] at h
    | some e =>
      obtain ⟨rfl,habout⟩ := Fault.noDocument?_eq_some_iff.mp hwhy
      simp only [hwhy, Except.ok.injEq] at h
      exact .inl ⟨e,rfl,habout,h.symm⟩

theorem exists_audit_iff : (∃ run, w.audit root s = .ok run) ↔
    ∃ content, w.content? (matrixPath root s) = .ok content ∧ Document.Legible content := by
  constructor
  · rintro ⟨run,hrun⟩
    rcases audit_cases hrun with ⟨e,he,habout,-⟩ | ⟨d,hd,-⟩
    · obtain ⟨content,hcontent,hload⟩ := exists_of_document_error he
      exact ⟨content,hcontent,(Document.legible_iff _).mpr (.inr ⟨e,hload,habout⟩)⟩
    · obtain ⟨content,hcontent,hload⟩ := exists_of_bind_eq_ok hd
      exact ⟨content,hcontent,(Document.legible_iff _).mpr (.inl ⟨d,mapError_eq_ok_iff.mp hload⟩)⟩
  · rintro ⟨content,hcontent,hlegible⟩
    have hcases := (Document.legible_iff (matrixPath root s).toText).mp hlegible
    rcases hcases with ⟨d,hload⟩ | ⟨e,hload,habout⟩
    · have hdocument : w.document root s = .ok d := by
        simp only [document_of_load hcontent, hload, Except.mapError]
      exact ⟨_,audit_of_document hdocument⟩
    · have hdocument : w.document root s = .error (.document e) := by
        simp only [document_of_load hcontent, hload, Except.mapError]
      exact ⟨_,audit_of_aboutFile hdocument habout⟩

structure Yields (w : Workspace) (root : Path) : Prop where
  result : (∃ run, w.compliance root = .ok run) ↔ w.Legible root
  outcome : ∀ run, w.compliance root = .ok run → ∃ config s content,
    w.content? (root ++ settingsPath) = .ok config ∧ Settings.SetBy config s ∧
    w.content? (matrixPath root s) = .ok content ∧
    ((∃ e, Document.Unloadable (matrixPath root s).toText content e ∧ TellsWhy run e) ∨
      ∃ d, Document.load (matrixPath root s).toText content = .ok d ∧ w.Evaluates root s d run)

theorem tellsWhy_failedRun (e : DocumentError) : TellsWhy (w.failedRun root e) e :=
  ⟨rfl,rfl,rfl,rfl,rfl⟩

theorem evaluates_documentRun (d : Document) : w.Evaluates root s d (w.documentRun root s d) := by
  refine ⟨?report,rfl,?filesChecked⟩
  case report =>
    rw [report_documentRun, Audit.report_evaluate]
    generalize (Audit.logged (w.present root) s.rulesDir d).findings = fs
    rw [Report.ofFindings, Report.ofFindings, Report.addAll_eq, Report.addAll_eq]
    rfl
  case filesChecked =>
    rw [documentRun, Audit.evaluate_eq, Audit.evaluate_eq]

theorem exists_of_settings (h : w.settings root = .ok s) :
    ∃ config, w.content? (root ++ settingsPath) = .ok config ∧ Settings.SetBy config s := by
  obtain ⟨config,hconfig,hset⟩ := exists_of_bind_eq_ok h
  exact ⟨config,hconfig,Settings.setBy_of_ofContent (mapError_eq_ok_iff.mp hset)⟩

/-- An audit of a project yields a result exactly when its two files are legible, and then the
matrix is evaluated or the reason why it is not is the only finding. -/
theorem yields (w : Workspace) (root : Path) : w.Yields root := by
  refine ⟨?_,?_⟩
  · simp only [compliance, exists_bind_iff, exists_audit_iff]
    constructor
    · rintro ⟨s,hs,hmatrix⟩
      refine ⟨exists_settings_iff.mp ⟨s,hs⟩,fun s' hs' => ?_⟩
      obtain rfl := Except.ok.inj (hs.symm.trans hs')
      exact hmatrix
    · intro h
      obtain ⟨s,hs⟩ := exists_settings_iff.mpr h.settings
      exact ⟨s,hs,h.matrix s hs⟩
  · intro run hrun
    obtain ⟨s,hs,haudit⟩ := exists_of_bind_eq_ok hrun
    obtain ⟨config,hconfig,hset⟩ := exists_of_settings hs
    rcases audit_cases haudit with ⟨e,he,habout,rfl⟩ | ⟨d,hd,rfl⟩
    · obtain ⟨content,hcontent,hload⟩ := exists_of_document_error he
      exact ⟨config,s,content,hconfig,hset,hcontent,
        .inl ⟨e,Document.unloadable_of_load hload habout,tellsWhy_failedRun e⟩⟩
    · obtain ⟨content,hcontent,hload⟩ := exists_of_bind_eq_ok hd
      exact ⟨config,s,content,hconfig,hset,hcontent,
        .inr ⟨d,mapError_eq_ok_iff.mp hload,evaluates_documentRun d⟩⟩

def twoFiles (config matrix : List UInt8) : Workspace where
  tree := ⟨[([".tracematrix"],.folder), ([".tracematrix", "config.yml"],.file config),
    (["schema"],.folder), (["schema", "DCM.yaml"],.file matrix)]⟩
  folder := []
  now := ⟨⟨2024,5,2⟩,12,0,0,0,none⟩

/-- Malformed settings are no settings, and a malformed matrix is a finding. -/
example : ((twoFiles [0x7B] [0x7B]).compliance {}).isOk = true := by
  decide +kernel

theorem not_exists_of_isOk {ε α : Type} {x : Except ε α} (h : x.isOk = false) :
    ¬ ∃ a, x = .ok a := by
  rintro ⟨a,rfl⟩
  cases h

/-- Settings that are no text, a date that does not exist and a line that is a digit without a place
value. -/
theorem compliance_breaks_off :
    (¬ ∃ run, (twoFiles [0xFF] []).compliance {} = .ok run) ∧
    (¬ ∃ run, (twoFiles [] (encodeUtf8 "created: 2026-13-45\n")).compliance {} = .ok run) ∧
    ¬ ∃ run, (twoFiles [] (encodeUtf8
      "use_cases: [\x7bfunctions: [\x7bline: \u00b2\x7d]\x7d]\n")).compliance {} = .ok run := by
  refine ⟨not_exists_of_isOk ?_,not_exists_of_isOk ?_,not_exists_of_isOk ?_⟩
  · decide +kernel
  · decide +kernel
  · decide +kernel

end Workspace

end Traceability
