import Mathlib.Algebra.BigOperators.Group.List.Basic
import Mathlib.Algebra.GroupWithZero.Nat
import Traceability.Audit.Run
import Traceability.Proofs.Audit.Rules

/-! # Accounts of a report

The checks of an audit add to one report, which may hold findings already. Every finding goes to the
end of the list of its severity, so none is lost, none is counted twice, and the sums of the summary
are the lengths of the lists.
-/
namespace Traceability

namespace Report
variable {r : Report}

theorem ofSeverity_add (r : Report) (f : Finding) (severity : Severity) :
    (r.add f).ofSeverity severity =
      r.ofSeverity severity ++ if f.severity = severity then [f] else [] := by
  rw [add]
  cases f.severity <;> cases severity <;> simp [ofSeverity]

/-- Every finding is in the list of its severity. -/
def Filed (r : Report) : Prop := ∀ severity, ∀ f ∈ r.ofSeverity severity, f.severity = severity

theorem filed_empty : Filed {} := by
  intro severity f hf
  cases severity <;> cases hf

theorem Filed.add (h : r.Filed) (f : Finding) : (r.add f).Filed := by
  intro severity g hg
  rw [ofSeverity_add, List.mem_append] at hg
  rcases hg with hg | hg
  · exact h severity g hg
  · by_cases hf : f.severity = severity
    · rw [if_pos hf, List.mem_singleton] at hg
      rw [hg, hf]
    · rw [if_neg hf] at hg
      cases hg

theorem Filed.addAll (h : r.Filed) (fs : List Finding) : (r.addAll fs).Filed := by
  induction fs generalizing r with
  | nil => exact h
  | cons f fs ih => exact ih (h.add f)

/-- Reports to which errors, warnings and passes have been added one after the other. -/
inductive Built : Report → Prop
  | empty : Built {}
  | error {r : Report} (rule : Rule) (detail : String) (h : Built r) : Built (r.error rule detail)
  | warn {r : Report} (rule : Rule) (detail : String) (h : Built r) : Built (r.warn rule detail)
  | passed {r : Report} (rule : Rule) (detail : String) (h : Built r) : Built (r.passed rule detail)

theorem Built.filed (h : r.Built) : r.Filed := by
  induction h with
  | empty => exact filed_empty
  | error rule detail _ ih => exact ih.add _
  | warn rule detail _ ih => exact ih.add _
  | passed rule detail _ ih => exact ih.add _

/-! ## Counts -/

theorem Filed.countP_toList (h : r.Filed) (severity : Severity) :
    (r.toList.countP fun f => f.severity == severity) = (r.ofSeverity severity).length := by
  have hlist : ∀ s, ((r.ofSeverity s).countP fun f => f.severity == severity) =
      if s = severity then (r.ofSeverity s).length else 0 := by
    intro s
    split
    · next hs =>
      rw [List.countP_eq_length]
      intro f hf
      rw [h s f hf, hs, beq_self_eq_true]
    · next hs =>
      rw [List.countP_eq_zero]
      intro f hf hsame
      exact hs ((h s f hf).symm.trans (beq_iff_eq.mp hsame))
  have htoList : r.toList = r.ofSeverity .error ++ r.ofSeverity .warning ++ r.ofSeverity .pass := rfl
  rw [htoList, List.countP_append, List.countP_append, hlist, hlist, hlist]
  cases severity <;> simp

end Report

def RuleCounts.ofSeverity (row : RuleCounts) : Severity → Nat
  | .error => row.errors
  | .warning => row.warnings
  | .pass => row.passes

namespace Report

theorem ofSeverity_countsOf (r : Report) (rule : Rule) (severity : Severity) :
    (r.countsOf rule).ofSeverity severity = r.count rule severity := by
  cases severity <;> rfl

theorem countP_rule (rule : Rule) (fs : List Finding) :
    (fs.countP fun f => f.rule == rule) =
      (fs.countP fun f => f.rule == rule && f.severity == .error) +
      (fs.countP fun f => f.rule == rule && f.severity == .warning) +
      (fs.countP fun f => f.rule == rule && f.severity == .pass) := by
  induction fs with
  | nil => rfl
  | cons f fs ih =>
    simp only [List.countP_cons, ih]
    cases f.rule == rule <;> cases f.severity <;> simp <;> omega

/-- The summary has a row for each rule with a finding. -/
theorem map_rule_summary (r : Report) :
    r.summary.map (·.rule) = Rule.all.filter fun rule => r.toList.any (·.rule == rule) := by
  have hrow : ∀ rule, ((r.countsOf rule).errors + (r.countsOf rule).warnings +
      (r.countsOf rule).passes != 0) = r.toList.any (·.rule == rule) := by
    intro rule
    have hsum := countP_rule rule r.toList
    rw [Bool.eq_iff_iff, bne_iff_ne, countsOf, count, count, count, ← hsum, ← Nat.pos_iff_ne_zero,
      List.countP_pos_iff, List.any_eq_true]
  rw [summary, List.filter_map, List.map_map]
  simp only [Function.comp_def, hrow]
  exact List.map_id' _

/-- Over the rules, the findings of a severity are counted once each. -/
theorem sum_countP_rules (severity : Severity) (fs : List Finding) :
    (Rule.all.map fun rule =>
      fs.countP fun f => f.rule == rule && f.severity == severity).sum =
      fs.countP fun f => f.severity == severity := by
  induction fs with
  | nil => simp
  | cons f fs ih =>
    have hone : (Rule.all.map fun rule =>
        if (f.rule == rule && f.severity == severity) = true then 1 else 0).sum =
        if (f.severity == severity) = true then 1 else 0 := by
      cases f.rule <;> cases f.severity == severity <;> rfl
    simp only [List.countP_cons, List.sum_map_add, ih, hone]

theorem Filed.sum_summary {r : Report} (h : r.Filed) (severity : Severity) :
    (r.summary.map (·.ofSeverity severity)).sum = (r.ofSeverity severity).length := by
  have hempty : ∀ rows : List RuleCounts,
      ((rows.filter fun row => row.errors + row.warnings + row.passes != 0).map
        (·.ofSeverity severity)).sum = (rows.map (·.ofSeverity severity)).sum := by
    intro rows
    induction rows with
    | nil => rfl
    | cons row rows ih =>
      rw [List.filter_cons, List.map_cons, List.sum_cons, ← ih]
      split
      · rfl
      · next hzero =>
        have hnone : row.ofSeverity severity = 0 := by
          simp only [bne_iff_ne, ne_eq, not_not] at hzero
          cases severity <;> simp only [RuleCounts.ofSeverity] <;> omega
        rw [hnone, Nat.zero_add]
  have hcount := sum_countP_rules severity r.toList
  rw [h.countP_toList] at hcount
  rw [summary, hempty, List.map_map, ← hcount]
  congr 1
  exact List.map_congr_left fun rule _ => ofSeverity_countsOf r rule severity

end Report

namespace Audit

def countName : Severity → String
  | .error => "errors_count"
  | .warning => "warnings_count"
  | .pass => "passes_count"

theorem get?_countName (run : Run) (severity : Severity) :
    (run.toJson.get? "summary").bind (·.get? (countName severity)) =
      some (.ofNat (run.report.ofSeverity severity).length) := by
  cases severity <;> rfl

/-- The rules in the order in which they are declared. -/
def ruleOrder : List Rule :=
  [.documentStructure, .identity, .completeness, .decisionFormat, .ruleDocuments, .deprecation,
    .useCaseFirst, .noDuplicate, .noFake, .metaInjection, .stackRules]

section
variable (present : String → Bool) (rulesDir : String) (d : Document)

/-- The checks of an audit run one after the other on what the ones before them have written. -/
theorem evaluate_eq_foldl (r : Report) : evaluate present rulesDir d r =
    (steps present rulesDir d).foldl (fun e step => (step.1.run e).2) { report := r } := by
  rw [evaluate, reportAll_eq_forM]
  generalize steps present rulesDir d = ss, Evaluation.mk r [] = e
  induction ss generalizing e with
  | nil => rfl
  | cons step ss ih => exact ih (step.1.run e).2

/-- What a check adds to the lists of a report does not depend on what they hold. -/
theorem ofSeverity_run_of_mem_steps {step : Reporting Unit × Log}
    (h : step ∈ steps present rulesDir d) (e : Evaluation) (severity : Severity) :
    (step.1.run e).2.report.ofSeverity severity =
      e.report.ofSeverity severity ++ (step.1.run {}).2.report.ofSeverity severity := by
  rw [run_of_mem_steps present rulesDir d step h, run_of_mem_steps present rulesDir d step h]
  show (e.report.addAll step.2.findings).ofSeverity severity =
    _ ++ (Report.ofFindings step.2.findings).ofSeverity severity
  rw [Report.ofSeverity_addAll, Report.ofSeverity_ofFindings]

/-- The accounts of an audit on top of what a report holds. -/
structure Accounted (r : Report) : Prop where
  inTurn : evaluate present rulesDir d r =
    (steps present rulesDir d).foldl (fun e step => (step.1.run e).2) { report := r }
  independent : ∀ step ∈ steps present rulesDir d, ∀ (e : Evaluation) (severity : Severity),
    (step.1.run e).2.report.ofSeverity severity =
      e.report.ofSeverity severity ++ (step.1.run {}).2.report.ofSeverity severity
  lists : ∀ severity, (evaluate present rulesDir d r).report.ofSeverity severity =
    r.ofSeverity severity ++ (evaluate present rulesDir d).report.ofSeverity severity
  asked : (evaluate present rulesDir d r).asked = (evaluate present rulesDir d).asked
  conserved : (evaluate present rulesDir d r).findings.Perm
    (r.toList ++ (evaluate present rulesDir d).findings)
  filed : (evaluate present rulesDir d r).report.Filed
  rows : (evaluate present rulesDir d r).report.summary.map (·.rule) =
    ruleOrder.filter fun rule => (evaluate present rulesDir d r).findings.any (·.rule == rule)
  cells : ∀ row ∈ (evaluate present rulesDir d r).report.summary, ∀ severity,
    row.ofSeverity severity = (evaluate present rulesDir d r).findings.countP
      fun f => f.rule == row.rule && f.severity == severity
  columns : ∀ severity,
    ((evaluate present rulesDir d r).report.summary.map (·.ofSeverity severity)).sum =
      ((evaluate present rulesDir d r).report.ofSeverity severity).length
  json : ∀ run : Run, run.report = (evaluate present rulesDir d r).report → ∀ severity,
    (run.toJson.get? "summary").bind (·.get? (countName severity)) =
      some (.ofNat (run.report.summary.map (·.ofSeverity severity)).sum)

variable {r : Report}

/-- An audit leaves what a report holds and adds what a fresh audit finds, and the counts are those of
the lists. -/
theorem evaluate_accounted (h : r.Built) : Accounted present rulesDir d r := by
  have hfiled : (evaluate present rulesDir d r).report.Filed := by
    rw [report_evaluate_onto]
    exact h.filed.addAll _
  refine ⟨evaluate_eq_foldl present rulesDir d r,?independent,?lists,?asked,?conserved,hfiled,
    Report.map_rule_summary _,?cells,hfiled.sum_summary,?json⟩
  case independent =>
    exact fun step hstep => ofSeverity_run_of_mem_steps present rulesDir d hstep
  case lists =>
    intro severity
    rw [report_evaluate, report_evaluate_onto, Report.ofSeverity_addAll,
      ← Report.ofSeverity_ofFindings]
  case asked => rw [asked_evaluate_eq, asked_evaluate_eq]
  case conserved =>
    rw [Evaluation.findings, Evaluation.findings, report_evaluate, report_evaluate_onto,
      Report.ofFindings]
    -- the findings are kept from being computed
    generalize (logged present rulesDir d).findings = fs
    exact (Report.toList_addAll_perm r fs).trans
      ((Report.toList_addAll_perm {} fs).symm.append_left r.toList)
  case cells =>
    intro row hrow severity
    obtain ⟨rule,-,rfl⟩ := List.mem_map.mp (List.mem_filter.mp hrow).1
    exact Report.ofSeverity_countsOf _ rule severity
  case json =>
    intro run hrun severity
    rw [get?_countName, hrun, hfiled.sum_summary]

def begun : Report :=
  (Report.passed {} .documentStructure "Matrix file exists and is parseable").warn
    .identity "two ids were changed"

theorem evaluate_accounted_begun : begun.Built ∧ Accounted (fun _ => false) "rules" {} begun := by
  have hbegun : begun.Built := .warn _ _ (.passed _ _ .empty)
  exact ⟨hbegun,evaluate_accounted _ _ _ hbegun⟩

end

end Audit

end Traceability
