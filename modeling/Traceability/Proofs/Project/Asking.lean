import Traceability.Proofs.Audit.Rules
import Traceability.Proofs.Project.Passing

/-! # Paths that an audit asks for

The audit of a project asks for the files that its document refers to and for the documents that
state the rules, and for nothing else. It counts what it asks for, and answers with one finding each.
-/
namespace Traceability
open Text

namespace Audit
variable (present : String → Bool) (rulesDir : String) (d : Document)

/-- An audit asks for every file once, and has one finding for each answer. -/
structure AsksOnce : Prop where
  asked : (evaluate present rulesDir d).asked = d.askedPaths rulesDir
  distinct : d.files.Nodup
  references : (d.firstReferences.map fun p => shown p.2.file) = d.files
  /-- Apart from the records of implemented use cases, only files are judged under this rule. -/
  files : ∀ severity, ofRule .completeness
      ((evaluate present rulesDir d).report.ofSeverity severity) =
    (checkImplemented d ++ d.firstReferences.map (fileFinding present)).filter
      (·.severity == severity)
  documents : ∀ severity, ofRule .ruleDocuments
      ((evaluate present rulesDir d).report.ofSeverity severity) =
    (ruleFiles.map fun name => ruleFileFinding present (rulesDir ++ "/" ++ name)).filter
      (·.severity == severity)

theorem asked_evaluate : (evaluate present rulesDir d).asked = d.askedPaths rulesDir := by
  rw [evaluate_eq, logged, asked_append, asked_append, checkFiles_eq, checkRuleFiles_eq,
    List.nil_append]
  rfl

theorem asksOnce : AsksOnce present rulesDir d := by
  have hcompleteness : ofRule .completeness (logged present rulesDir d).findings =
      checkImplemented d ++ ((checkFiles present d).findings ++ []) :=
    ofRule_logged_of_alone present rulesDir d (by simp [checks])
  have hruleDocuments : ofRule .ruleDocuments (logged present rulesDir d).findings =
      (checkRuleFiles present rulesDir ruleFiles).findings ++ [] :=
    ofRule_logged_of_alone present rulesDir d (by simp [checks])
  rw [List.append_nil, checkFiles_eq] at hcompleteness
  rw [List.append_nil, checkRuleFiles_eq] at hruleDocuments
  refine ⟨asked_evaluate present rulesDir d,nodup_eraseDups _,d.map_firstReferences,?files,?documents⟩
  case files =>
    intro severity
    rw [report_evaluate, ofRule_ofSeverity, hcompleteness]
  case documents =>
    intro severity
    rw [report_evaluate, ofRule_ofSeverity, hruleDocuments]

/-- Files are asked for once each, and a run on a document that is loaded counts what it asks for. -/
theorem evaluate_asksOnce :
    (∀ (present : String → Bool) (rulesDir : String) (d : Document),
      AsksOnce present rulesDir d) ∧
    ∀ (w : Workspace) (root : Path) (s : Settings) (d : Document), w.document root s = .ok d →
      ∃ run, w.audit root s = .ok run ∧ run.matrixLoaded = true ∧
        run.filesChecked = (d.askedPaths s.rulesDir).length := by
  refine ⟨asksOnce,fun w root s d hdocument => ?_⟩
  refine ⟨w.documentRun root s d,Workspace.audit_of_document hdocument,rfl,?_⟩
  rw [Workspace.documentRun, evaluate_eq, ← asked_evaluate_eq, asked_evaluate]

def twoInOneFile : Workspace where
  tree := ⟨[(["schema"],.folder), (["schema", "DCM.yaml"],.file (encodeUtf8
    "use_cases:\n- functions:\n  - name: save\n    file: a.py\n  - name: load\n    file: a.py\n"))]⟩
  folder := []
  now := ⟨⟨2024,5,2⟩,12,0,0,0,none⟩

theorem evaluate_asksOnce_twoInOneFile : ∃ d run,
    twoInOneFile.document {} {} = .ok d ∧ d.files = ["a.py"] ∧
    twoInOneFile.audit {} {} = .ok run ∧ run.filesChecked = 7 := by
  have hfiles : (twoInOneFile.document {} {}).toOption.map Document.files = some ["a.py"] := by
    decide +kernel
  cases hdocument : twoInOneFile.document {} {} with
  | error fault =>
    rw [hdocument] at hfiles
    cases hfiles
  | ok d =>
    rw [hdocument] at hfiles
    have hd : d.files = ["a.py"] := Option.some.inj hfiles
    obtain ⟨run,haudit,-,hchecked⟩ := evaluate_asksOnce.2 twoInOneFile {} {} d hdocument
    refine ⟨d,run,rfl,hd,haudit,?_⟩
    rw [hchecked, Document.askedPaths, hd]
    rfl

end Audit

end Traceability
