import Mathlib.Algebra.BigOperators.Group.Multiset.Basic
import Traceability.Proofs.Audit.Blame
import Traceability.Proofs.Audit.Warnings

/-! # Tallies of findings

The summary and the verdict of a report do not look at what findings say or at their order: they are
read off the tally, which has one entry for each finding, its rule and its severity. The checks that
go through the records once and remember what they have seen report as many repeats as there are
keys more than different keys, whichever of the records they blame.
-/
namespace Traceability

def Finding.heading (f : Finding) : Rule × Severity := (f.rule, f.severity)

namespace Audit
open Text

/-- The headings of some findings, each as often as it comes. -/
def tally (fs : List Finding) : Multiset (Rule × Severity) := ↑(fs.map Finding.heading)

section Lists
variable {fs gs : List Finding} {f : Finding} {α : Type}

@[simp] theorem tally_nil : tally [] = 0 := rfl

@[simp] theorem tally_cons : tally (f :: fs) = f.heading ::ₘ tally fs := rfl

@[simp] theorem tally_append : tally (fs ++ gs) = tally fs + tally gs := by
  rw [tally, List.map_append, ← Multiset.coe_add]
  rfl

theorem tally_flatMap (xs : List α) (check : α → List Finding) :
    tally (xs.flatMap check) = (xs.map fun x => tally (check x)).sum := by
  induction xs with
  | nil => rfl
  | cons x xs ih => rw [List.flatMap_cons, tally_append, ih, List.map_cons, List.sum_cons]

theorem tally_flatMap_filter (xs : List α) (p : α → Bool) (check : α → List Finding) :
    tally ((xs.filter p).flatMap check) =
      (xs.map fun x => if p x then tally (check x) else 0).sum := by
  induction xs with
  | nil => rfl
  | cons x xs ih =>
    rw [List.map_cons, List.sum_cons, ← ih]
    by_cases hx : p x <;> simp [hx]

theorem tally_map_of_heading (xs : List α) {check : α → Finding} (heading : Rule × Severity)
    (h : ∀ x, (check x).heading = heading) :
    tally (xs.map check) = Multiset.replicate xs.length heading := by
  have hmap : (xs.map check).map Finding.heading = xs.map fun _ => heading := by
    rw [List.map_map]
    exact List.map_congr_left fun x _ => h x
  rw [tally, hmap, List.map_const', Multiset.coe_replicate]

theorem tally_onlyIf (b : Bool) (f : Finding) :
    tally (onlyIf b f) = if b then {f.heading} else 0 := by
  cases b <;> rfl

end Lists

@[simp] theorem heading_failure (rule : Rule) (detail : String) :
    (failure rule detail).heading = (rule, .error) := rfl

@[simp] theorem heading_warning (rule : Rule) (detail : String) :
    (warning rule detail).heading = (rule, .warning) := rfl

@[simp] theorem heading_passing (rule : Rule) (detail : String) :
    (passing rule detail).heading = (rule, .pass) := rfl

/-! ## Reports -/

theorem mem_tally {fs : List Finding} {h : Rule × Severity} :
    h ∈ tally fs ↔ ∃ f ∈ fs, f.heading = h := by
  rw [tally, Multiset.mem_coe, List.mem_map]

theorem count_ofFindings (fs : List Finding) (rule : Rule) (severity : Severity) :
    (Report.ofFindings fs).count rule severity = (tally fs).count (rule, severity) := by
  have hperm : (Report.ofFindings fs).toList.Perm fs := Report.toList_addAll_perm {} fs
  rw [Report.count, hperm.countP_eq, tally, Multiset.count, Multiset.coe_countP, List.countP_map]
  refine List.countP_congr fun f _ => ?_
  simp only [Finding.heading, Function.comp_apply, Bool.and_eq_true, beq_iff_eq,
    decide_eq_true_iff, Prod.mk.injEq]
  constructor
  · rintro ⟨rfl,rfl⟩
    exact ⟨rfl,rfl⟩
  · rintro ⟨rfl,rfl⟩
    exact ⟨rfl,rfl⟩

theorem errors_ofFindings_isEmpty {fs : List Finding} :
    (Report.ofFindings fs).errors.isEmpty = true ↔ ∀ h ∈ tally fs, h.2 ≠ .error := by
  rw [List.isEmpty_iff, errors_ofFindings_eq_nil_iff]
  simp [Clean, mem_tally, Finding.heading]

theorem warnings_ofFindings_isEmpty {fs : List Finding} :
    (Report.ofFindings fs).warnings.isEmpty = true ↔ ∀ h ∈ tally fs, h.2 ≠ .warning := by
  rw [List.isEmpty_iff, warnings_ofFindings, warningsOf]
  simp [mem_tally, Finding.heading]

section Verdict
variable {fs gs : List Finding}

theorem summary_eq_of_tally_eq (h : tally fs = tally gs) :
    (Report.ofFindings fs).summary = (Report.ofFindings gs).summary := by
  have hcounts : (Report.ofFindings fs).countsOf = (Report.ofFindings gs).countsOf := by
    funext rule
    simp only [Report.countsOf, count_ofFindings, h]
  rw [Report.summary, hcounts, Report.summary]

theorem ok_eq_of_tally_eq (h : tally fs = tally gs) :
    (Report.ofFindings fs).ok = (Report.ofFindings gs).ok := by
  rw [Report.ok, Report.ok, Bool.eq_iff_iff, errors_ofFindings_isEmpty, errors_ofFindings_isEmpty, h]

theorem failed_eq_of_tally_eq (h : tally fs = tally gs) (strict : Bool) :
    (Report.ofFindings fs).failed strict = (Report.ofFindings gs).failed strict := by
  have herrors := ok_eq_of_tally_eq h
  have hwarnings : (Report.ofFindings fs).warnings.isEmpty =
      (Report.ofFindings gs).warnings.isEmpty := by
    rw [Bool.eq_iff_iff, warnings_ofFindings_isEmpty, warnings_ofFindings_isEmpty, h]
  rw [Report.ok, Report.ok] at herrors
  rw [Report.failed, Report.failed, herrors, hwarnings]

end Verdict

/-! ## Repeats -/

/-- A use of a key is a repeat unless it is the first one. -/
theorem length_repeatsFrom (uses : Uses) :
    (repeatsFrom [] uses).1.length + (uses.map Prod.fst).eraseDups.length = uses.length := by
  rw [repeatsFrom_eq, List.length_map]
  exact length_repeatsOf Prod.fst uses

def repeatTally (rule : Rule) (n : Nat) : Multiset (Rule × Severity) :=
  Multiset.replicate n (rule, .error) + if n = 0 then {(rule, .pass)} else 0

theorem tally_checkRepeats (kind lowerKind : String) (uses : Uses) :
    tally (checkRepeats kind lowerKind uses) =
      repeatTally .noDuplicate (repeatsFrom [] uses).1.length := by
  have hempty : (repeatsFrom [] uses).1.isEmpty = decide ((repeatsFrom [] uses).1.length = 0) := by
    rw [Bool.eq_iff_iff, List.isEmpty_iff, decide_eq_true_iff, List.length_eq_zero_iff]
  show tally (_ ++ _) = _
  rw [tally_append, tally_onlyIf, tally_map_of_heading _ (.noDuplicate, .error) fun _ => rfl,
    hempty, repeatTally]
  simp

def elementTally (u : UseCase) : Multiset (Rule × Severity) := tally (checkElement u []).1

/-- Only errors depend on what has been claimed before. -/
theorem nonErrors_checkElement (u : UseCase) (seen : List String) :
    (checkElement u seen).1.filter (fun f => !f.severity == .error) = (checkElement u []).1 := by
  cases h : filledText? (ownElement u) with
  | none =>
    have hempty : ("" : String) ≠ pendingElement := by decide
    have hformat : Format.isVisualElementId "" = false := by decide
    obtain hu | hu | hu := visualElementId_of_none h <;> simp [checkElement, hu, hempty, hformat]
  | some element =>
    obtain ⟨hu,hpending,hne⟩ := visualElementId_of_some h
    simp only [checkElement, hu, if_neg hpending, if_neg hne]
    cases seen.contains element <;> split <;> rfl

theorem nonErrors_checkElementsFrom (seen : List String) (us : List UseCase) :
    (checkElementsFrom seen us).filter (fun f => !f.severity == .error) =
      us.flatMap fun u => (checkElement u []).1 :=
  filter_checkElementsFrom nonErrors_checkElement seen us

def elementRepeats (us : List UseCase) : ℕ :=
  (repeatsOf (fun u => shown (ownElement u)) (us.filter fun u => filled (ownElement u))).length

theorem elementRepeats_add_length (us : List UseCase) : elementRepeats us +
    (us.filterMap fun u => filledText? (ownElement u)).eraseDups.length =
      (us.filterMap fun u => filledText? (ownElement u)).length := by
  rw [filterMap_ownElement, List.length_map]
  exact length_repeatsOf ..

theorem tally_checkElementsFrom (us : List UseCase) :
    tally (checkElementsFrom [] us) = (us.map elementTally).sum +
      Multiset.replicate (elementRepeats us) (.metaInjection, .error) := by
  have hsplit := List.filter_append_perm (fun f => f.severity == .error) (checkElementsFrom [] us)
  rw [errors_checkElementsFrom, nonErrors_checkElementsFrom] at hsplit
  calc tally (checkElementsFrom [] us)
    _ = tally (_ ++ us.flatMap fun u => (checkElement u []).1) :=
      Multiset.coe_eq_coe.mpr (hsplit.symm.map Finding.heading)
    _ = Multiset.replicate (elementRepeats us) (.metaInjection, .error) +
        (us.map elementTally).sum := by
      rw [tally_append, tally_flatMap,
        tally_map_of_heading _ (.metaInjection, .error) fun _ => rfl]
      rfl
    _ = _ := add_comm _ _

/-! ## Ids with more than one position -/

theorem length_duplicateIds_eq_of_perm {us vs : List (String × UseCase)}
    (h : (idsAt us).Perm (idsAt vs)) : (duplicateIds us).length = (duplicateIds vs).length := by
  have hkept := (eraseDups_perm h).filter fun id => 1 < (idsAt us).count id
  rw [duplicateIds_eq, duplicateIds_eq, List.length_map, List.length_map, hkept.length_eq]
  simp only [h.count_eq]

/-! ## Files -/

def fileHeading (present : String → Bool) (path : String) : Rule × Severity :=
  (.completeness, if present path then .pass else .error)

theorem tally_checkFiles (present : String → Bool) (d : Document) :
    tally (checkFiles present d).findings = ↑(d.files.map (fileHeading present)) := by
  have hheading : ∀ p, (fileFinding present p).heading = fileHeading present (shown p.2.file) := by
    intro p
    rw [fileFinding, fileHeading]
    split <;> rfl
  rw [checkFiles_eq, tally, List.map_map, ← Document.map_firstReferences, List.map_map]
  exact congrArg _ (List.map_congr_left fun p _ => hheading p)

end Audit

end Traceability
