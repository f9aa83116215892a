import Traceability.Proofs.Audit.References
import Traceability.Proofs.Audit.Written

/-! # Rules of the checks

Each check of an audit reports under a few rules only. What stands under a rule in a report is
therefore what the checks with that rule found, in their order.
-/
namespace Traceability.Audit
open Text

def Under (rules : List Rule) (fs : List Finding) : Prop := ∀ f ∈ fs, f.rule ∈ rules

section Lists
variable {rules : List Rule} {fs gs : List Finding} {f : Finding} {α : Type}

@[simp] theorem under_nil : Under rules [] := by simp [Under]

@[simp] theorem under_cons : Under rules (f :: fs) ↔ f.rule ∈ rules ∧ Under rules fs :=
  List.forall_mem_cons

@[simp] theorem under_append : Under rules (fs ++ gs) ↔ Under rules fs ∧ Under rules gs :=
  List.forall_mem_append

@[simp] theorem under_map {xs : List α} {check : α → Finding} :
    Under rules (xs.map check) ↔ ∀ x ∈ xs, (check x).rule ∈ rules :=
  List.forall_mem_map

@[simp] theorem under_flatMap {xs : List α} {check : α → List Finding} :
    Under rules (xs.flatMap check) ↔ ∀ x ∈ xs, Under rules (check x) := by
  simp only [Under, List.mem_flatMap]
  constructor
  · intro h x hx f hf
    exact h f ⟨x,hx,hf⟩
  · rintro h f ⟨x,hx,hf⟩
    exact h x hx f hf

@[simp] theorem under_onlyIf {condition : Bool} :
    Under rules (onlyIf condition f) ↔ (condition = true → f.rule ∈ rules) := by
  cases condition <;> simp [onlyIf]

end Lists

@[simp] theorem rule_failure (rule : Rule) (detail : String) : (failure rule detail).rule = rule :=
  rfl

@[simp] theorem rule_warning (rule : Rule) (detail : String) : (warning rule detail).rule = rule :=
  rfl

@[simp] theorem rule_passing (rule : Rule) (detail : String) : (passing rule detail).rule = rule :=
  rfl

theorem under_checkTopLevel (d : Document) : Under [.documentStructure] (checkTopLevel d) := by
  have hrequired : ∀ field ∈ requiredFields d,
      (checkRequired field.1 field.2).rule ∈ [.documentStructure] := by
    intro field _
    rw [checkRequired]
    split <;> simp
  rw [checkTopLevel, under_append, under_append, under_map]
  refine ⟨⟨hrequired,by simp⟩,?_⟩
  cases d.useCases <;> simp

theorem under_checkStack (d : Document) :
    Under [.documentStructure,.stackRules] (checkStack d) := by
  rw [checkStack]
  split
  · simp
  · split
    · simp
    · rw [under_map]
      intro part _
      rw [checkPart]
      split <;> simp

theorem under_checkIdentity (d : Document) : Under [.identity,.useCaseFirst] (checkIdentity d) := by
  simp [checkIdentity, duplicateId, checkUseCase]

theorem under_checkRepeats (kind lowerKind : String) (uses : Uses) :
    Under [.noDuplicate] (checkRepeats kind lowerKind uses) := by
  simp [checkRepeats, repeatFinding]

theorem under_checkImplemented (d : Document) : Under [.completeness] (checkImplemented d) := by
  rw [checkImplemented, under_flatMap]
  intro u _
  rw [checkImplementedUseCase]
  split <;> simp [checkRecord]

theorem under_checkDeprecated (d : Document) : Under [.deprecation] (checkDeprecated d) := by
  simp [checkDeprecated, checkDeprecatedEntry]

theorem under_checkElement (u : UseCase) (seen : List String) :
    Under [.metaInjection] (checkElement u seen).1 := by
  unfold checkElement
  split
  · simp
  · split
    · simp
    · dsimp only
      split_ifs <;> simp

theorem under_checkElementsFrom (seen : List String) (us : List UseCase) :
    Under [.metaInjection] (checkElementsFrom seen us) := by
  intro g hg
  obtain ⟨u,-,seen,hu⟩ := exists_of_mem_checkElementsFrom hg
  exact under_checkElement u seen g hu

theorem under_checkNoFake (d : Document) : Under [.noFake] (checkNoFake d) := by
  have hname : ∀ (u : UseCase) (f : FunctionRecord), Under [.noFake] (checkName u f) := by
    intro u f
    rw [checkName]
    split
    · simp
    · split <;> simp
  simp [checkNoFake, checkGenuineUseCase, checkGenuine, hname]

theorem under_checkDecisions (d : Document) : Under [.decisionFormat] (checkDecisions d) := by
  simp [checkDecisions, checkDecision]

theorem under_checkFiles (present : String → Bool) (d : Document) :
    Under [.completeness] (checkFiles present d).findings := by
  rw [checkFiles_eq, under_map]
  intro p _
  rw [fileFinding]
  split <;> simp

theorem under_checkRuleFiles (present : String → Bool) (rulesDir : String) (names : List String) :
    Under [.ruleDocuments] (checkRuleFiles present rulesDir names).findings := by
  rw [checkRuleFiles_eq, under_map]
  intro name _
  rw [ruleFileFinding]
  split <;> simp

def ofRule (rule : Rule) (fs : List Finding) : List Finding := fs.filter fun f => f.rule == rule

theorem ofRule_append (rule : Rule) (fs gs : List Finding) :
    ofRule rule (fs ++ gs) = ofRule rule fs ++ ofRule rule gs :=
  List.filter_append ..

theorem ofRule_eq_nil {rules : List Rule} {rule : Rule} {fs : List Finding} (h : Under rules fs)
    (hrule : rule ∉ rules) : ofRule rule fs = [] := by
  rw [ofRule, List.filter_eq_nil_iff]
  intro f hf heq
  exact hrule (beq_iff_eq.mp heq ▸ h f hf)

theorem ofRule_eq_self {rule : Rule} {fs : List Finding} (h : Under [rule] fs) :
    ofRule rule fs = fs := by
  rw [ofRule, List.filter_eq_self]
  intro f hf
  exact beq_iff_eq.mpr (List.mem_singleton.mp (h f hf))

/-- The findings of a rule in a list of the report are those of its severity. -/
theorem ofRule_ofSeverity (rule : Rule) (severity : Severity) (fs : List Finding) :
    ofRule rule ((Report.ofFindings fs).ofSeverity severity) =
      (ofRule rule fs).filter (·.severity == severity) := by
  rw [Report.ofSeverity_ofFindings, ofRule, ofRule, List.filter_filter, List.filter_filter]
  simp only [Bool.and_comm]

/-! ## All checks -/

/-- What the checks of an audit find, in their order, and the rules under which each may report. -/
def checks (present : String → Bool) (rulesDir : String) (d : Document) :
    List (List Rule × List Finding) := [
  ([.documentStructure],checkTopLevel d),
  ([.documentStructure,.stackRules],checkStack d),
  ([.identity,.useCaseFirst],checkIdentity d),
  ([.noDuplicate],checkFunctionNames d),
  ([.noDuplicate],checkEndpoints d),
  ([.completeness],checkImplemented d),
  ([.deprecation],checkDeprecated d),
  ([.metaInjection],checkElements d),
  ([.noFake],checkNoFake d),
  ([.decisionFormat],checkDecisions d),
  ([.completeness],(checkFiles present d).findings),
  ([.ruleDocuments],(checkRuleFiles present rulesDir ruleFiles).findings)]

section Checks
variable (present : String → Bool) (rulesDir : String) (d : Document)

theorem findings_logged : (logged present rulesDir d).findings =
    (checks present rulesDir d).flatMap Prod.snd := by
  simp only [logged, findings_append, checkDocument, checks, List.flatMap_cons, List.flatMap_nil,
    List.append_assoc, List.append_nil]

theorem under_checks : ∀ check ∈ checks present rulesDir d, Under check.1 check.2 := by
  simp only [checks, List.forall_mem_cons]
  exact ⟨under_checkTopLevel d,under_checkStack d,under_checkIdentity d,under_checkRepeats _ _ _,
    under_checkRepeats _ _ _,under_checkImplemented d,under_checkDeprecated d,
    under_checkElementsFrom [] d.active,under_checkNoFake d,under_checkDecisions d,
    under_checkFiles present d,under_checkRuleFiles present rulesDir ruleFiles,
    by simp⟩

/-- What an audit finds under a rule is found by the checks that may report under it. -/
theorem ofRule_logged (rule : Rule) : ofRule rule (logged present rulesDir d).findings =
    ((checks present rulesDir d).filter fun check => check.1.contains rule).flatMap
      fun check => ofRule rule check.2 := by
  have hunder := under_checks present rulesDir d
  rw [findings_logged]
  generalize checks present rulesDir d = cs at hunder ⊢
  induction cs with
  | nil => rfl
  | cons check rest ih =>
    obtain ⟨hcheck,hrest⟩ := List.forall_mem_cons.mp hunder
    rw [List.flatMap_cons, ofRule_append, ih hrest, List.filter_cons]
    by_cases hrule : rule ∈ check.1
    · rw [if_pos (List.contains_iff_mem.mpr hrule), List.flatMap_cons]
    · have hnone : ofRule rule check.2 = [] := ofRule_eq_nil hcheck hrule
      have hskip : ¬ check.1.contains rule = true := fun h => hrule (List.contains_iff_mem.mp h)
      rw [if_neg hskip, hnone, List.nil_append]

/-- A rule that checks report under alone has all that these checks find. -/
theorem ofRule_logged_of_alone {rule : Rule}
    (h : ∀ check ∈ checks present rulesDir d, rule ∈ check.1 → check.1 = [rule]) :
    ofRule rule (logged present rulesDir d).findings =
      ((checks present rulesDir d).filter fun check => check.1.contains rule).flatMap Prod.snd := by
  rw [ofRule_logged, List.flatMap_def, List.flatMap_def]
  congr 1
  apply List.map_congr_left
  intro check hcheck
  obtain ⟨hmem,hcontains⟩ := List.mem_filter.mp hcheck
  have hunder : Under check.1 check.2 := under_checks present rulesDir d check hmem
  rw [h check hmem (List.contains_iff_mem.mp hcontains)] at hunder
  exact ofRule_eq_self hunder

/-- The rule of ids belongs to the check of ids. -/
theorem ofRule_identity_logged : ofRule .identity (logged present rulesDir d).findings =
    ofRule .identity (checkIdentity d) := by
  have hown : (checks present rulesDir d).filter (fun check => check.1.contains .identity) =
      [([.identity,.useCaseFirst],checkIdentity d)] := rfl
  rw [ofRule_logged, hown, List.flatMap_singleton]

end Checks

end Traceability.Audit
