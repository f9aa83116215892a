import Traceability.Audit.Run
import Traceability.Proofs.Audit.Details

/-! # One line for each finding

Severities and rule codes hold no colon and no line end, so a finding can be read back from its line
whatever the detail says, as long as the detail stays on the line. A line end in a text that a
detail quotes cuts the line in two.
-/
namespace Traceability
open Text

/-! ## Reading lines -/

def printedLines (s : String) : List (List Char) := if s = "" then [] else lines s

/-- Reads a finding from its line, which is cut at the first two colons. -/
def readFinding? (line : List Char) : Option Finding :=
  let (severity, rest) := cutAt ':' line
  let (rule, detail) := cutAt ':' rest
  match Rule.ofCode? (String.ofList rule), Severity.ofName? (String.ofList severity) with
  | some rule, some severity => some ⟨rule,severity,String.ofList detail⟩
  | _, _ => none

namespace Audit
namespace Run

theorem toList_findingLine (f : Finding) : (findingLine f).toList =
    f.severity.name.toList ++ ':' :: (f.rule.code.toList ++ ':' :: f.detail.toList) := by
  simp [findingLine]

theorem readFinding?_findingLine (f : Finding) : readFinding? (findingLine f).toList = some f := by
  have hname : ∀ severity : Severity, ':' ∉ severity.name.toList ∧
      Severity.ofName? severity.name = some severity := by
    intro severity
    cases severity <;> decide
  have hcode : ∀ rule : Rule, ':' ∉ rule.code.toList ∧ Rule.ofCode? rule.code = some rule := by
    intro rule
    cases rule <;> decide
  simp only [readFinding?, toList_findingLine, cutAt_append_cons (hname f.severity).1,
    cutAt_append_cons (hcode f.rule).1, String.ofList_toList, (hname f.severity).2,
    (hcode f.rule).2]

theorem detail_subset_of_readFinding? {line : List Char} {f : Finding}
    (h : readFinding? line = some f) : f.detail.toList ⊆ line := by
  simp only [readFinding?] at h
  split at h
  · rw [Option.some.injEq] at h
    subst h
    rw [String.toList_ofList]
    exact List.Subset.trans (cutAt_snd_subset ':' _) (cutAt_snd_subset ':' line)
  · simp at h

theorem noBreak_findingLine {f : Finding} (h : NoBreak f.detail) : NoBreak (findingLine f) := by
  have hname : '\n' ∉ f.severity.name.toList := by cases f.severity <;> decide
  have hcode : '\n' ∉ f.rule.code.toList := by cases f.rule <;> decide
  rw [NoBreak] at h ⊢
  rw [toList_findingLine]
  simp [hname, hcode, h]

def reported (r : Run) : List Finding := r.report.errors ++ r.report.warnings

/-- Line by line the output tells the errors and then the warnings. -/
def Decodes (r : Run) : Prop := (printedLines r.porcelain).map readFinding? = r.reported.map some

instance (r : Run) : Decidable r.Decodes := inferInstanceAs (Decidable (_ = _))

theorem printedLines_porcelain {r : Run} (h : ∀ f ∈ r.reported, NoBreak f.detail) :
    printedLines r.porcelain = r.reported.map fun f => (findingLine f).toList := by
  have hchars : r.porcelain.toList =
      joinWith '\n' (r.reported.map fun f => (findingLine f).toList) := by
    rw [porcelain, String.toList_intercalate, joinWith_eq_intercalate, List.map_map]
    rfl
  by_cases hr : r.reported = []
  · rw [hr, List.map_nil] at hchars ⊢
    rw [printedLines, if_pos (String.toList_eq_nil_iff.mp hchars)]
  · have hlines : lines r.porcelain = r.reported.map fun f => (findingLine f).toList := by
      rw [lines, hchars]
      refine splitAt_joinWith (by simpa using hr) fun line hl => ?_
      obtain ⟨f,hf,rfl⟩ := List.mem_map.mp hl
      exact noBreak_findingLine (h f hf)
    have hne : r.porcelain ≠ "" := by
      intro hempty
      obtain ⟨f,fs,hfs⟩ := List.exists_cons_of_ne_nil hr
      rw [hempty, hfs, List.map_cons, toList_findingLine] at hlines
      have hnil := congrArg List.head? hlines
      simp [lines, splitAt] at hnil
    rw [printedLines, if_neg hne, hlines]

/-- The findings can be read back from the output exactly when every detail stays on its line. -/
theorem decodes_iff {r : Run} : r.Decodes ↔ ∀ f ∈ r.reported, NoBreak f.detail := by
  constructor
  · intro h f hf hbreak
    have hmem : some f ∈ (printedLines r.porcelain).map readFinding? := by
      rw [h]
      exact List.mem_map_of_mem hf
    obtain ⟨line,hline,hread⟩ := List.mem_map.mp hmem
    rw [printedLines] at hline
    split at hline
    · simp at hline
    · exact separator_notMem_of_mem_splitAt hline (detail_subset_of_readFinding? hread hbreak)
  · intro h
    rw [Decodes, printedLines_porcelain h, List.map_map]
    simp only [Function.comp_def, readFinding?_findingLine]

end Run

/-! ## The output of an evaluation -/

def Run.evaluated (r : Run) (present : String → Bool) (rulesDir : String) (d : Document) : Run :=
  { r with report := (evaluate present rulesDir d).report }

/-- The output of an evaluation can be read back exactly when every detail stays on its line, as all
of them do when the quoted texts of the document and the directory of the rules do. -/
theorem Run.decodes_evaluated (r : Run) (present : String → Bool) (rulesDir : String)
    (d : Document) :
    ((r.evaluated present rulesDir d).Decodes ↔
      ∀ f ∈ (r.evaluated present rulesDir d).reported, NoBreak f.detail) ∧
    (NoBreak rulesDir → d.OneLine → (r.evaluated present rulesDir d).Decodes) := by
  refine ⟨decodes_iff,fun hdir hd => decodes_iff.mpr fun f hf => ?_⟩
  simp only [reported, evaluated, report_evaluate, Report.ofFindings, Report.addAll_eq,
    List.nil_append, List.mem_append, List.mem_filter, beq_iff_eq] at hf
  rcases hf with ⟨hf,hs⟩ | ⟨hf,hs⟩
  · exact framed_logged present hdir hd f hf (by simp [hs])
  · exact framed_logged present hdir hd f hf (by simp [hs])

def bareUseCase (id : String) : Document where
  useCases := some [{ id := some id }]

theorem Run.decodes_evaluated_bareUseCase :
    (Run.evaluated {} (fun _ => false) "rules" (bareUseCase "UC:1")).Decodes := by
  refine (decodes_evaluated {} (fun _ => false) "rules" (bareUseCase "UC:1")).2 (by decide) ?_
  constructor
  · decide
  · simp only [bareUseCase, Document.active, Option.getD_some, List.append_nil,
      List.forall_mem_singleton]
    constructor <;> decide
  · decide
  · simp [bareUseCase, Document.active, Document.activeFunctions]
  · simp [bareUseCase]

/-- A line end in an id. -/
theorem Run.not_decodes_bareUseCase :
    ¬ (Run.evaluated {} (fun _ => false) "rules" (bareUseCase "UC\n1")).Decodes := by
  have hcheck : warning .identity "Use case ID \"UC\n1\" does not follow UC-XXX format" ∈
      checkIdentity (bareUseCase "UC\n1") := by
    decide +kernel
  rw [decodes_iff]
  intro h
  refine absurd (h (warning .identity _) ?_) (show ¬ NoBreak (warning .identity
    "Use case ID \"UC\n1\" does not follow UC-XXX format").detail by decide)
  simp [reported, evaluated, report_evaluate, Report.ofFindings, Report.addAll_eq, logged,
    checkDocument, hcheck]

end Audit

end Traceability
