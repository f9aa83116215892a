import Mathlib.Data.Nat.Notation
import Mathlib.Tactic.Common
import Traceability.Proofs.Audit.Findings

/-! # Findings without errors

A report has the findings of each severity in the order of their discovery, so it is without errors
exactly when the findings are clean. Whether they are is decided check by check and record by
record.
-/
namespace Traceability

/-- The report of some findings behind those that are there already. -/
theorem Report.addAll_eq (r : Report) (fs : List Finding) : r.addAll fs = {
    errors := r.errors ++ fs.filter (·.severity == .error)
    warnings := r.warnings ++ fs.filter (·.severity == .warning)
    passes := r.passes ++ fs.filter (·.severity == .pass) } := by
  induction fs generalizing r with
  | nil => simp [addAll]
  | cons f fs ih =>
    have hstep : r.addAll (f :: fs) = (r.add f).addAll fs := rfl
    rw [hstep, ih]
    cases hs : f.severity <;> simp [add, hs]

def Report.ofSeverity (r : Report) : Severity → List Finding
  | .error => r.errors
  | .warning => r.warnings
  | .pass => r.passes

theorem Report.ofSeverity_addAll (r : Report) (fs : List Finding) (severity : Severity) :
    (r.addAll fs).ofSeverity severity =
      r.ofSeverity severity ++ fs.filter (·.severity == severity) := by
  rw [addAll_eq]
  cases severity <;> rfl

theorem Report.ofSeverity_ofFindings (fs : List Finding) (severity : Severity) :
    (ofFindings fs).ofSeverity severity = fs.filter (·.severity == severity) := by
  rw [ofFindings, ofSeverity_addAll]
  cases severity <;> rfl

theorem Report.toList_add_perm (r : Report) (f : Finding) : (r.add f).toList.Perm (r.toList ++ [f]) := by
  rw [add]
  cases f.severity with
  | error =>
    have hmove : ([f] ++ (r.warnings ++ r.passes)).Perm (r.warnings ++ r.passes ++ [f]) :=
      List.perm_append_comm
    rw [List.append_assoc] at hmove
    simp only [toList, List.append_assoc]
    exact hmove.append_left r.errors
  | warning =>
    simp only [toList, List.append_assoc]
    exact (List.perm_append_comm.append_left r.warnings).append_left r.errors
  | pass =>
    simp only [toList, List.append_assoc]
    exact .refl _

/-- No finding that is added is lost, and none is added twice. -/
theorem Report.toList_addAll_perm (r : Report) (fs : List Finding) :
    (r.addAll fs).toList.Perm (r.toList ++ fs) := by
  induction fs generalizing r with
  | nil =>
    rw [List.append_nil]
    exact .refl _
  | cons f fs ih =>
    have hstep : (r.addAll (f :: fs)).toList.Perm ((r.add f).toList ++ fs) := ih (r.add f)
    have hadd : ((r.add f).toList ++ fs).Perm ((r.toList ++ [f]) ++ fs) :=
      (toList_add_perm r f).append_right fs
    rw [List.append_assoc, List.singleton_append] at hadd
    exact hstep.trans hadd

namespace Audit
open Text

/-- No finding fails the audit. -/
def Clean (fs : List Finding) : Prop := ∀ f ∈ fs, f.severity ≠ .error

theorem errors_ofFindings_eq_nil_iff {fs : List Finding} :
    (Report.ofFindings fs).errors = [] ↔ Clean fs := by
  simp [Report.ofFindings, Report.addAll_eq, Clean]

section Lists
variable {fs gs : List Finding} {f : Finding} {α : Type}

theorem clean_iff_filter_eq_nil : Clean fs ↔ fs.filter (·.severity == .error) = [] := by
  simp [Clean]

@[simp] theorem clean_nil : Clean [] := by simp [Clean]

@[simp] theorem clean_cons : Clean (f :: fs) ↔ f.severity ≠ .error ∧ Clean fs := by
  simp [Clean]

@[simp] theorem clean_append : Clean (fs ++ gs) ↔ Clean fs ∧ Clean gs := by
  simp only [Clean, List.mem_append]
  constructor
  · intro h
    exact ⟨fun f hf => h f (.inl hf),fun f hf => h f (.inr hf)⟩
  · rintro ⟨hfs,hgs⟩ f (hf | hf)
    · exact hfs f hf
    · exact hgs f hf

@[simp] theorem clean_flatMap {xs : List α} {check : α → List Finding} :
    Clean (xs.flatMap check) ↔ ∀ x ∈ xs, Clean (check x) := by
  simp only [Clean, List.mem_flatMap]
  constructor
  · intro h x hx f hf
    exact h f ⟨x,hx,hf⟩
  · rintro h f ⟨x,hx,hf⟩
    exact h x hx f hf

@[simp] theorem clean_map {xs : List α} {check : α → Finding} :
    Clean (xs.map check) ↔ ∀ x ∈ xs, (check x).severity ≠ .error := by
  simp [Clean]

@[simp] theorem clean_onlyIf {b : Bool} :
    Clean (onlyIf b f) ↔ b = false ∨ f.severity ≠ .error := by
  cases b <;> simp [onlyIf]

end Lists

@[simp] theorem toString_text (s : String) : toString s = s := rfl

@[simp] theorem severity_failure (rule : Rule) (detail : String) :
    (failure rule detail).severity = .error := rfl

@[simp] theorem severity_warning (rule : Rule) (detail : String) :
    (warning rule detail).severity = .warning := rfl

@[simp] theorem severity_passing (rule : Rule) (detail : String) :
    (passing rule detail).severity = .pass := rfl

end Audit

end Traceability
