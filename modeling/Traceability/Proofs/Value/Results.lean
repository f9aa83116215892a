import Mathlib.Data.List.Forall2
import Mathlib.Tactic.Common

/-! # What a reading ensures

A reading fails or has a result. What is known of the results of its parts is known of the whole, and
a list is read item by item.
-/
namespace Traceability

/-- Whatever comes out has the property. -/
def Ensures {ε α : Type} (x : Except ε α) (P : α → Prop) : Prop := ∀ a, x = .ok a → P a

theorem Ensures.bind {ε α β : Type} {x : Except ε α} {f : α → Except ε β} {P : β → Prop}
    (h : ∀ a, x = .ok a → Ensures (f a) P) : Ensures (x >>= f) P := by
  intro b hb
  cases x with
  | error e => cases hb
  | ok a => exact h a rfl b hb

theorem Ensures.pure {ε α : Type} {a : α} {P : α → Prop} (h : P a) :
    Ensures (Pure.pure a : Except ε α) P := by
  rintro b hb
  cases hb
  exact h

theorem Ensures.map {ε α β : Type} {x : Except ε α} {f : α → β} {P : β → Prop}
    (h : ∀ a, x = .ok a → P (f a)) : Ensures (x.map f) P := by
  intro b hb
  cases x with
  | error e => cases hb
  | ok a =>
    cases hb
    exact h a rfl

theorem exists_of_map_eq_ok {ε α β : Type} {x : Except ε α} {f : α → β} {b : β}
    (h : x.map f = .ok b) : ∃ a, x = .ok a ∧ f a = b := by
  cases x with
  | error e => cases h
  | ok a => exact ⟨a,rfl,Except.ok.inj h⟩

theorem map_eq_error_iff {ε α β : Type} {x : Except ε α} {f : α → β} {e : ε} :
    x.map f = .error e ↔ x = .error e := by
  cases x <;> simp [Except.map]

/-- A result that passes a test is there. -/
theorem exists_of_any_toOption {ε α : Type} {x : Except ε α} {p : α → Bool}
    (h : x.toOption.any p = true) : ∃ a, x = .ok a ∧ p a = true := by
  cases x with
  | error e => cases h
  | ok a => exact ⟨a,rfl,h⟩

theorem exists_of_bind_eq_ok {ε α β : Type} {x : Except ε α} {f : α → Except ε β} {b : β}
    (h : (x >>= f) = .ok b) : ∃ a, x = .ok a ∧ f a = .ok b := by
  cases x with
  | error e => cases h
  | ok a => exact ⟨a,rfl,h⟩

theorem mapError_eq_ok_iff {ε ε' α : Type} {x : Except ε α} {f : ε → ε'} {a : α} :
    x.mapError f = .ok a ↔ x = .ok a := by
  cases x <;> simp [Except.mapError]

theorem map_eq_map_iff_forall₂ {α β γ : Type} {f : α → γ} {g : β → γ} {xs : List α} {ys : List β} :
    xs.map f = ys.map g ↔ List.Forall₂ (fun x y => f x = g y) xs ys := by
  rw [← List.forall₂_eq_eq_eq, List.forall₂_map_left_iff, List.forall₂_map_right_iff]

theorem forall₂_comp {α β γ : Type} {R : α → β → Prop} {S : β → γ → Prop} {xs : List α}
    {ys : List β} {zs : List γ} (h : List.Forall₂ R xs ys) (h' : List.Forall₂ S ys zs) :
    List.Forall₂ (fun x z => ∃ y, R x y ∧ S y z) xs zs := by
  induction h generalizing zs with
  | nil =>
    cases h'
    exact .nil
  | cons hx _ ih =>
    cases h' with
    | cons hy hys => exact .cons ⟨_,hx,hy⟩ (ih hys)

theorem exists_mem_iff_of_forall₂ {α β : Type} {p : α → Prop} {q : β → Prop} {xs : List α}
    {ys : List β} (h : List.Forall₂ (fun x y => p x ↔ q y) xs ys) :
    (∃ x ∈ xs, p x) ↔ ∃ y ∈ ys, q y := by
  induction h with
  | nil => simp
  | cons hx _ ih => rw [List.exists_mem_cons_iff, List.exists_mem_cons_iff, hx, ih]

theorem mapM_eq_ok_iff {ε α β : Type} {read : α → Except ε β} {xs : List α} {ys : List β} :
    xs.mapM read = .ok ys ↔ List.Forall₂ (fun x y => read x = .ok y) xs ys := by
  induction xs generalizing ys with
  | nil =>
    rw [List.mapM_nil, List.forall₂_nil_left_iff]
    exact ⟨fun h => (Except.ok.inj h).symm,fun h => congrArg Except.ok h.symm⟩
  | cons x xs ih =>
    rw [List.mapM_cons, List.forall₂_cons_left_iff]
    constructor
    · intro h
      cases hx : read x with
      | error e => simp [hx, bind, Except.bind] at h
      | ok y =>
        cases hxs : xs.mapM read with
        | error e => simp [hx, hxs, bind, Except.bind] at h
        | ok zs =>
          rw [hx, hxs] at h
          exact ⟨y,zs,rfl,ih.mp hxs,(Except.ok.inj h).symm⟩
    · rintro ⟨y,zs,hx,hxs,rfl⟩
      rw [hx, ih.mpr hxs]
      rfl

theorem exists_of_mapM_eq_error {ε α β : Type} {read : α → Except ε β} {xs : List α} {e : ε}
    (h : xs.mapM read = .error e) : ∃ x ∈ xs, read x = .error e := by
  induction xs with
  | nil => cases h
  | cons x xs ih =>
    rw [List.mapM_cons] at h
    cases hx : read x with
    | error f =>
      rw [hx] at h
      exact ⟨x,List.mem_cons_self,hx.trans (congrArg Except.error (Except.error.inj h))⟩
    | ok y =>
      cases hxs : xs.mapM read with
      | error f =>
        rw [hx, hxs] at h
        obtain ⟨z,hz,hread⟩ := ih (hxs.trans (congrArg Except.error (Except.error.inj h)))
        exact ⟨z,List.mem_cons_of_mem _ hz,hread⟩
      | ok ys =>
        rw [hx, hxs] at h
        cases h

theorem exists_getElem?_of_mapM {ε α β : Type} {read : α → Except ε β} {xs : List α} {ys : List β}
    (h : xs.mapM read = .ok ys) {i : ℕ} {x : α} (hx : xs[i]? = some x) :
    ∃ y, ys[i]? = some y ∧ read x = .ok y := by
  have hread := mapM_eq_ok_iff.mp h
  clear h
  induction hread generalizing i with
  | nil => simp at hx
  | cons hfirst _ ih =>
    cases i with
    | zero =>
      obtain rfl := Option.some.inj hx
      exact ⟨_,rfl,hfirst⟩
    | succ i => exact ih hx

theorem exists_mapM_eq_ok {ε α β : Type} {read : α → Except ε β} {image : β → β} {xs : List α}
    {rs : List β}
    (h : List.Forall₂ (fun x r => ∃ q, read x = .ok q ∧ image q = image r) xs rs) :
    ∃ qs, xs.mapM read = .ok qs ∧ qs.map image = rs.map image := by
  induction h with
  | nil => exact ⟨[],rfl,rfl⟩
  | cons hx _ ih =>
    obtain ⟨q,hq,himage⟩ := hx
    obtain ⟨qs,hqs,himages⟩ := ih
    refine ⟨q :: qs,?_,by rw [List.map_cons, himage, himages, List.map_cons]⟩
    exact mapM_eq_ok_iff.mpr (.cons hq (mapM_eq_ok_iff.mp hqs))

/-- Every member of what is read item by item has the property, if each reading ensures it. -/
theorem Ensures.mapM {ε α β : Type} {read : α → Except ε β} {xs : List α} {P : β → Prop}
    (h : ∀ x ∈ xs, Ensures (read x) P) : Ensures (xs.mapM read) fun ys => ∀ y ∈ ys, P y := by
  intro ys hys
  have hread := mapM_eq_ok_iff.mp hys
  induction hread with
  | nil => simp
  | cons hx hxs ih =>
    obtain ⟨hfirst,hrest⟩ := List.forall_mem_cons.mp h
    exact List.forall_mem_cons.mpr ⟨hfirst _ hx,ih hrest (mapM_eq_ok_iff.mpr hxs)⟩

end Traceability
