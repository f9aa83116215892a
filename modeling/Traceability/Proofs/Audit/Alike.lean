import Traceability.Proofs.Audit.Scope
import Traceability.Proofs.Document.ReadBack

/-! # Audits of documents that look alike

A view hides labels of free entries. An audit looks at no free entries outside the stack, and of the
stack it sees which choices are null, so documents that look alike have the same findings.
-/
namespace Traceability.Audit
open Text

variable (φ : View)

/-! ## Records -/

theorem audited_useCase (u : UseCase) : (φ.useCase u).audited = u.audited := by
  have hfunctions : (u.functions.map φ.function).map FunctionRecord.audited =
      u.functions.map FunctionRecord.audited := List.map_map
  show UseCase.audited { u with functions := u.functions.map φ.function } = _
  rw [UseCase.audited, hfunctions]
  rfl

theorem audited_decision (a : Decision) : (φ.decision a).audited = a.audited := by
  have halternatives : (a.alternativesConsidered.map φ.value).map (fun _ => Value.null) =
      a.alternativesConsidered.map fun _ => Value.null := List.map_map
  show Decision.audited { a with alternativesConsidered := a.alternativesConsidered.map φ.value } = _
  rw [Decision.audited, halternatives]
  rfl

/-- An audit looks at nothing that a view hides outside the stack. -/
theorem audited_document (d : Document) : (φ.document d).audited = d.audited := by
  have huseCases : (d.useCases.map (·.map φ.useCase)).map (·.map UseCase.audited) =
      d.useCases.map (·.map UseCase.audited) := by
    cases d.useCases with
    | none => rfl
    | some us =>
      simp only [Option.map_some, List.map_map]
      congr 2
      funext u
      exact audited_useCase φ u
  have hdecisions : (d.decisions.map φ.decision).map Decision.audited =
      d.decisions.map Decision.audited := by
    rw [List.map_map]
    congr 1
    funext a
    exact audited_decision φ a
  have hdeprecated : (d.deprecated.map φ.useCase).map UseCase.retired =
      d.deprecated.map UseCase.retired := List.map_map
  show Document.audited { d with
    useCases := d.useCases.map (·.map φ.useCase)
    decisions := d.decisions.map φ.decision
    deprecated := d.deprecated.map φ.useCase } = _
  rw [Document.audited, huseCases, hdecisions, hdeprecated]
  rfl

/-! ## The stack -/

variable {φ}

theorem isNull_iff {v : Value} : v.isNull = true ↔ v = .null := by
  constructor
  · exact Value.eq_null_of_isNull
  · rintro rfl
    rfl

theorem isNull_of_alike {v w : Value} (h : φ.value v = φ.value w) : v.isNull = w.isNull := by
  rw [Bool.eq_iff_iff, isNull_iff, isNull_iff]
  constructor
  · rintro rfl
    exact φ.plain w .null rfl h.symm
  · rintro rfl
    exact φ.plain v .null rfl h

theorem all_isNull_of_alike {es fs : Entries} (h : φ.Alike es fs) :
    (es.map (·.2)).all (·.isNull) = (fs.map (·.2)).all (·.isNull) := by
  rw [View.Alike, map_eq_map_iff_forall₂] at h
  induction h with
  | nil => rfl
  | cons hv _ ih =>
    rw [List.map_cons, List.map_cons, List.all_cons, List.all_cons, ih,
      isNull_of_alike (Prod.mk.inj hv).2]

theorem checkPart_of_alike {s t : Stack} (hparts : s.parts = t.parts) {part : String}
    (hpart : part ∈ requiredParts) : checkPart s part = checkPart t part := by
  have hforeseen : ∃ v, t.parts.lookup part = some v := by
    simp only [requiredParts, List.mem_cons, List.not_mem_nil, or_false] at hpart
    rcases hpart with rfl | rfl | rfl | rfl | rfl | rfl | rfl | rfl | rfl | rfl <;> exact ⟨_,rfl⟩
  obtain ⟨v,hv⟩ := hforeseen
  rw [checkPart, checkPart, Stack.choice, Stack.choice, hparts, hv]

theorem checkStack_of_alike {d e : Document} (h : d.stack.map φ.stack = e.stack.map φ.stack) :
    checkStack d = checkStack e := by
  rw [checkStack, checkStack]
  cases hd : d.stack with
  | none =>
    rw [hd, Option.map_none, eq_comm, Option.map_eq_none_iff] at h
    rw [h]
  | some s =>
    rw [hd, Option.map_some, eq_comm] at h
    obtain ⟨t,ht,hst⟩ := Option.map_eq_some_iff.mp h
    have hparts : s.parts = t.parts := by
      show (φ.stack s).parts = (φ.stack t).parts
      rw [hst]
    have hnull : s.choices.all (·.isNull) = t.choices.all (·.isNull) := by
      rw [Stack.choices, Stack.choices, List.all_append, List.all_append, hparts,
        all_isNull_of_alike (congrArg Stack.extra hst.symm)]
    simp only [ht, hnull]
    split
    · rfl
    · exact List.map_congr_left fun part hpart => checkPart_of_alike hparts hpart

/-! ## The audit -/

/-- Documents that look alike have the same findings, and the same files are asked for. -/
theorem logged_of_alike {d e : Document} (h : φ.document d = φ.document e)
    (present : String → Bool) (rulesDir : String) :
    logged present rulesDir d = logged present rulesDir e := by
  have hstack : checkStack d = checkStack e := checkStack_of_alike (congrArg Document.stack h)
  have haudited : d.audited = e.audited := by
    rw [← audited_document φ d, h, audited_document]
  exact logged_of_audited hstack haudited present rulesDir

end Traceability.Audit
