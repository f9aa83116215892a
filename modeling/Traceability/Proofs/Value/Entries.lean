import Mathlib.Data.List.Basic
import Traceability.Value.Basic

/-! # Looking names up

What stands under a name in entries that are put together from named fields and others. The entries
with given names left out hold none of these names, and leaving them out again changes nothing.
-/
namespace Traceability.Entries

theorem same_text (k : Scalar) (name : String) :
    k.same (.text name) = true ↔ k = .text name := by
  constructor
  · intro h
    cases k <;> simp_all [Scalar.same, Scalar.wholeNumber?]
    all_goals split at h <;> simp_all
  · rintro rfl
    simp [Scalar.same, Scalar.wholeNumber?]

theorem text_same (name : String) (key : Scalar) :
    (Scalar.text name).same key = true ↔ key = .text name := by
  constructor
  · intro h
    cases key <;> simp_all [Scalar.same, Scalar.wholeNumber?]
    split at h <;> simp_all
  · rintro rfl
    simp [Scalar.same, Scalar.wholeNumber?]

@[simp] theorem get?_nil (name : String) : Entries.get? [] name = none := rfl

theorem get?_cons (k : Scalar) (v : Value) (es : Entries) (name : String) :
    Entries.get? ((k, v) :: es) name = if k = .text name then some v else Entries.get? es name := by
  rw [Entries.get?, Entries.at?, List.find?_cons]
  by_cases h : k = .text name
  · rw [(same_text k name).mpr h, if_pos h]
    rfl
  · have hs : k.same (.text name) = false := by
      rw [← Bool.not_eq_true, same_text]
      exact h
    rw [hs, if_neg h]
    rfl

@[simp] theorem get?_text_cons (m : String) (v : Value) (es : Entries) (name : String) :
    Entries.get? ((.text m, v) :: es) name = if m = name then some v else Entries.get? es name := by
  simp [get?_cons]

theorem get?_append (as bs : Entries) (name : String) :
    Entries.get? (as ++ bs) name = (Entries.get? as name).or (Entries.get? bs name) := by
  induction as with
  | nil => rfl
  | cons entry as ih =>
    obtain ⟨k,v⟩ := entry
    rw [List.cons_append, get?_cons, get?_cons, ih]
    split <;> rfl

theorem get?_eq_none_iff {es : Entries} {name : String} :
    es.get? name = none ↔ ∀ entry ∈ es, entry.1 ≠ .text name := by
  simp [Entries.get?, Entries.at?, ← same_text]

theorem get?_named (fields : List (String × Value)) (name : String) :
    (Entries.named fields).get? name = fields.lookup name := by
  induction fields with
  | nil => rfl
  | cons field fields ih =>
    obtain ⟨m,v⟩ := field
    rw [Entries.named, List.map_cons, get?_text_cons, List.lookup_cons, ← Entries.named, ih]
    by_cases h : m = name
    · simp [h]
    · simp [h, beq_false_of_ne (Ne.symm h)]

/-! ## Leaving names out -/

theorem mem_without_iff {names : List String} {es : Entries} {entry : Scalar × Value} :
    entry ∈ es.without names ↔ entry ∈ es ∧ ∀ name ∈ names, entry.1 ≠ .text name := by
  rw [Entries.without, List.mem_filter]
  refine and_congr_right fun _ => ?_
  obtain ⟨k,v⟩ := entry
  cases k with
  | text m =>
    simp only [Bool.not_eq_true', List.contains_eq_mem, decide_eq_false_iff_not, ne_eq,
      Scalar.text.injEq]
    constructor
    · rintro h name hname rfl
      exact h hname
    · exact fun h hm => h m hm rfl
  | _ => simp

theorem without_without (names : List String) (es : Entries) :
    (es.without names).without names = es.without names := by
  simp [Entries.without, List.filter_filter]

theorem without_append (names : List String) (as bs : Entries) :
    Entries.without names (as ++ bs) = as.without names ++ bs.without names :=
  List.filter_append ..

def Free (names : List String) (es : Entries) : Prop := es.without names = es

theorem free_without (names : List String) (es : Entries) : Free names (es.without names) :=
  without_without names es

theorem Free.of_eq {names : List String} {es extra : Entries} (h : extra = es.without names) :
    extra.Free names :=
  h ▸ free_without names es

theorem Free.get? {names : List String} {es : Entries} (h : Free names es) {name : String}
    (hname : name ∈ names) : es.get? name = none := by
  rw [get?_eq_none_iff]
  intro entry hm
  rw [← h] at hm
  exact (mem_without_iff.mp hm).2 name hname

/-- What stands under a key is left where other names are left out. -/
theorem at?_without {names : List String} {key : Scalar} (hkey : ∀ name ∈ names, key ≠ .text name)
    (es : Entries) : (es.without names).at? key = es.at? key := by
  rw [Entries.at?, Entries.at?, Entries.without, List.find?_filter]
  congr 2
  funext entry
  obtain ⟨k,v⟩ := entry
  cases hs : k.same key with
  | false => simp
  | true =>
    cases k with
    | text m =>
      have hm : m ∉ names := fun hm => hkey m hm ((text_same m key).mp hs)
      simp [hm]
    | _ => rfl

theorem get?_without {names : List String} {name : String} (hname : name ∉ names) (es : Entries) :
    (es.without names).get? name = es.get? name := by
  refine at?_without ?_ es
  rintro _ hmem ⟨⟩
  exact hname hmem

theorem without_eq_nil {names : List String} {es : Entries}
    (h : ∀ entry ∈ es, ∃ name ∈ names, entry.1 = .text name) : es.without names = [] := by
  rw [List.eq_nil_iff_forall_not_mem]
  intro entry hm
  obtain ⟨hmem,hnot⟩ := mem_without_iff.mp hm
  obtain ⟨name,hname,he⟩ := h entry hmem
  exact hnot name hname he

/-! ## Putting values under keys -/

theorem get?_put_of_ne {key : Scalar} {name : String} (hne : key ≠ .text name) (v : Value)
    (es : Entries) : (es.put key v).get? name = es.get? name := by
  induction es with
  | nil => simp [put, putUnder, get?_cons, hne]
  | cons entry es ih =>
    obtain ⟨k,w⟩ := entry
    rw [put, putUnder]
    split
    · next hsame =>
      have hk : k ≠ .text name := by
        rintro rfl
        exact hne ((text_same name key).mp hsame)
      rw [get?_cons, get?_cons, if_neg hk, if_neg hk]
    · rw [get?_cons, get?_cons, ← put, ih]

theorem get?_foldl_put {name : String} {more : Entries} (hne : ∀ entry ∈ more, entry.1 ≠ .text name)
    (es : Entries) :
    Entries.get? (more.foldl (fun entries entry => entries.put entry.1 entry.2) es) name =
      es.get? name := by
  induction more generalizing es with
  | nil => rfl
  | cons entry more ih =>
    obtain ⟨hentry,hmore⟩ := List.forall_mem_cons.mp hne
    rw [List.foldl_cons, ih hmore, get?_put_of_ne hentry]

end Traceability.Entries
