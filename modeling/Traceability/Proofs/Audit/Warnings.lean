import Traceability.Proofs.Audit.Sound

/-! # Warnings

A report has its warnings in the order of their discovery. The document as a whole is not warned of:
what is said about identity is said use case by use case.
-/
namespace Traceability.Audit

def warningsOf (fs : List Finding) : List Finding := fs.filter (·.severity == .warning)

theorem warnings_ofFindings (fs : List Finding) :
    (Report.ofFindings fs).warnings = warningsOf fs := by
  simp [Report.ofFindings, Report.addAll_eq, warningsOf]

section Lists
variable {fs gs : List Finding} {f : Finding} {α : Type}

@[simp] theorem warningsOf_nil : warningsOf [] = [] := rfl

@[simp] theorem warningsOf_cons_passing {rule : Rule} {detail : String} :
    warningsOf (passing rule detail :: fs) = warningsOf fs := rfl

@[simp] theorem warningsOf_append : warningsOf (fs ++ gs) = warningsOf fs ++ warningsOf gs :=
  List.filter_append ..

@[simp] theorem warningsOf_flatMap {xs : List α} {check : α → List Finding} :
    warningsOf (xs.flatMap check) = xs.flatMap fun x => warningsOf (check x) :=
  List.filter_flatMap ..

theorem warningsOf_eq_nil (h : ∀ f ∈ fs, f.severity ≠ .warning) : warningsOf fs = [] := by
  rw [warningsOf, List.filter_eq_nil_iff]
  intro f hf
  simpa using h f hf

@[simp] theorem warningsOf_onlyIf_failure {b : Bool} {rule : Rule} {detail : String} :
    warningsOf (onlyIf b (failure rule detail)) = [] := by
  cases b <;> rfl

@[simp] theorem warningsOf_onlyIf_passing {b : Bool} {rule : Rule} {detail : String} :
    warningsOf (onlyIf b (passing rule detail)) = [] := by
  cases b <;> rfl

@[simp] theorem warningsOf_onlyIf_warning {b : Bool} {rule : Rule} {detail : String} :
    warningsOf (onlyIf b (warning rule detail)) = onlyIf b (warning rule detail) := by
  cases b <;> rfl

@[simp] theorem warningsOf_cons_ite {b : Bool} {rule : Rule} {good bad : String} :
    warningsOf ((if b then passing rule good else warning rule bad) :: fs) =
      onlyIf (!b) (warning rule bad) ++ warningsOf fs := by
  cases b <;> rfl

end Lists

theorem warningsOf_checkTopLevel (d : Document) : warningsOf (checkTopLevel d) = [] := by
  have hrequired : warningsOf ((requiredFields d).map
      fun field => checkRequired field.1 field.2) = [] := by
    refine warningsOf_eq_nil fun f hf => ?_
    obtain ⟨field,-,rfl⟩ := List.mem_map.mp hf
    rw [checkRequired]
    split <;> simp
  rw [checkTopLevel, warningsOf_append, warningsOf_append, hrequired, warningsOf_onlyIf_failure]
  cases d.useCases <;> rfl

/-- The identity of a document is warned of use case by use case. -/
theorem warningsOf_checkIdentity (d : Document) : warningsOf (checkIdentity d) =
    d.allUseCases.flatMap fun u => warningsOf (checkUseCase u) := by
  have hmap : (locatedUseCases d).map Prod.snd = d.allUseCases := map_snd_locatedUseCases d
  have hduplicates : warningsOf ((duplicateIds (locatedUseCases d)).map
      fun row => duplicateId row.1 row.2) = [] := by
    refine warningsOf_eq_nil fun f hf => ?_
    obtain ⟨row,-,rfl⟩ := List.mem_map.mp hf
    simp [duplicateId]
  show warningsOf (_ ++ _ ++ _ ++ _) = _
  rw [warningsOf_append, warningsOf_append, warningsOf_append, hduplicates, ← hmap,
    List.flatMap_map]
  simp

end Traceability.Audit
