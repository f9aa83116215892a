import Traceability.Command.Run
import Traceability.Proofs.Audit.Warnings
import Traceability.Proofs.Project.Rewriting
import Traceability.Proofs.Project.Settings

/-! # Projects that pass

A project passes when its settings and its document are loaded and its audit finds no errors. The
findings are those of the evaluation behind one that says that there is a document.
-/
namespace Traceability
open Command

namespace Workspace
variable {w : Workspace} {root : Path} {s : Settings} {d : Document} {run : Audit.Run}

/-- The settings and the document of a project are loaded, and its audit finds no errors. -/
structure Passes (w : Workspace) (root : Path) (s : Settings) (d : Document) (run : Audit.Run) :
    Prop where
  settings : w.settings root = .ok s
  document : w.document root s = .ok d
  audit : w.audit root s = .ok run
  errors : run.report.errors = []

theorem audit_of_document (h : w.document root s = .ok d) :
    w.audit root s = .ok (w.documentRun root s d) := by
  unfold audit
  simp only [h]

theorem report_documentRun : (w.documentRun root s d).report = .ofFindings
    (Audit.passing .documentStructure "Matrix file exists and is parseable" ::
      (Audit.logged (w.present root) s.rulesDir d).findings) := by
  rw [documentRun, Audit.evaluate_eq]
  -- the log is kept from being computed
  generalize Audit.logged (w.present root) s.rulesDir d = l
  rfl

theorem errors_documentRun : (w.documentRun root s d).report.errors = [] ↔
    Audit.Clean (Audit.logged (w.present root) s.rulesDir d).findings := by
  rw [report_documentRun, Audit.errors_ofFindings_eq_nil_iff, Audit.clean_cons]
  exact and_iff_right (by decide)

theorem warnings_documentRun : (w.documentRun root s d).report.warnings =
    Audit.warningsOf (Audit.logged (w.present root) s.rulesDir d).findings := by
  rw [report_documentRun, Audit.warnings_ofFindings]
  generalize (Audit.logged (w.present root) s.rulesDir d).findings = fs
  rfl

theorem document_of_load {content : Option (List UInt8)}
    (hcontent : w.content? (matrixPath root s) = .ok content) : w.document root s =
      (Document.load (matrixPath root s).toText content).mapError .document := by
  simp only [document, hcontent, bind, Except.bind]

/-- Where a document was loaded from. -/
theorem exists_of_document (h : w.document root s = .ok d) : ∃ place old,
    w.tree.find w.folder (matrixPath root s).toText = .ok (place,.file old) ∧
      Document.load (matrixPath root s).toText (some old) = .ok d := by
  obtain ⟨content,hcontent,hload⟩ := exists_of_bind_eq_ok h
  have hload := mapError_eq_ok_iff.mp hload
  cases content with
  | none => cases hload
  | some old =>
    obtain ⟨place,hfind⟩ := content?_eq_some_iff.mp hcontent
    exact ⟨place,old,hfind,hload⟩

/-- The document is loaded from the new content of its file. -/
theorem document_rewritten {place : Location} {old new : List UInt8} {e : Document}
    (hfind : w.tree.find w.folder (matrixPath root s).toText = .ok (place,.file old))
    (hload : Document.load (matrixPath root s).toText (some new) = .ok e) (now : Moment) :
    (w.rewritten place new now).document root s = .ok e := by
  have hcontent : (w.rewritten place new now).content? (matrixPath root s) = .ok (some new) :=
    content?_eq_some_iff.mpr ⟨place,FileTree.find_put_file_same hfind new⟩
  rw [document_of_load hcontent, hload]
  rfl

/-- Settings are the same if the content of the file would give the same ones. -/
theorem settings_rewritten {place : Location} {old new : List UInt8}
    (hat : w.tree.at? place = some (.file old))
    (hsame : Settings.ofContent (some new) = Settings.ofContent (some old)) (now : Moment) :
    (w.rewritten place new now).settings root = w.settings root := by
  rw [settings, settings]
  rcases content?_rewritten hat new now (root ++ settingsPath) with hcontent | ⟨hold,hnew⟩
  · rw [hcontent]
  · simp only [hold, hnew, bind, Except.bind, hsame]

/-- Audits that find the same errors and warnings are shown in the same lines. -/
theorem Passes.runCheck_lines {w' : Workspace} {e : Document} {run' : Audit.Run}
    (h : w.Passes root s d run) (h' : w'.Passes root s e run')
    (hwarnings : run'.report.warnings = run.report.warnings) (terminal : Terminal)
    (strict showPasses : Bool) :
    w'.runCheck terminal root (some .lines) strict showPasses =
      w.runCheck terminal root (some .lines) strict showPasses := by
  have hlines : run'.porcelain = run.porcelain := by
    rw [Audit.Run.porcelain, Audit.Run.porcelain, h.errors, h'.errors, hwarnings]
  have hfailed : ∀ strict, run'.report.failed strict = run.report.failed strict := by
    intro strict
    rw [Report.failed, Report.failed, h.errors, h'.errors, hwarnings]
  simp only [runCheck, h.settings, h'.settings, h.audit, h'.audit, bind, Except.bind,
    Option.getD_some, Audit.Run.inStyle, hlines, hfailed]

end Workspace

end Traceability
