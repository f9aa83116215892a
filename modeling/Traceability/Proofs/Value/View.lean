import Traceability.Proofs.Value.Entries
import Traceability.Value.Coerce

/-! # Values up to labels

A value that is written to a file and read again is the same but for its labels: what was one value
in two places comes back as one value, under a label of its own. Readers of fields do not look at
labels. What they need of a way of looking at values is stated once, and holds of values as they are
and of values without labels.
-/
namespace Traceability

/-- Days, moments and numbers with a fraction may carry a label. -/
def Scalar.isLabelled : Scalar → Bool
  | .float _ _ => true
  | .date _ _ => true
  | .moment _ _ => true
  | _ => false

/-- A way of looking at values that sees the scalars without labels, the items of lists and the
entries of mappings. -/
structure View where
  value : Value → Value
  key : Scalar → Scalar
  key_text : ∀ k s, key k = .text s ↔ k = .text s
  plain : ∀ v s, s.isLabelled = false → value v = value (.scalar s) → v = .scalar s
  items : ∀ v w, value v = value w → v.items?.map (·.map value) = w.items?.map (·.map value)
  entries : ∀ v w, value v = value w →
    v.entries?.map (·.map (Prod.map key value)) = w.entries?.map (·.map (Prod.map key value))

namespace View
variable (φ : View)

def entry : Scalar × Value → Scalar × Value := Prod.map φ.key φ.value

def Alike (es fs : Entries) : Prop := es.map φ.entry = fs.map φ.entry

variable {φ}

theorem key_text_congr {k l : Scalar} (h : φ.key k = φ.key l) (name : String) :
    k = .text name ↔ l = .text name := by
  rw [← φ.key_text, h, φ.key_text]

theorem Alike.get? {es fs : Entries} (h : φ.Alike es fs) (name : String) :
    (es.get? name).map φ.value = (fs.get? name).map φ.value := by
  induction es generalizing fs with
  | nil =>
    obtain rfl : fs = [] := List.map_eq_nil_iff.mp h.symm
    rfl
  | cons entry es ih =>
    cases fs with
    | nil => exact absurd h (by simp [Alike])
    | cons entry' fs =>
      obtain ⟨k,v⟩ := entry
      obtain ⟨l,w⟩ := entry'
      obtain ⟨hkv,hrest⟩ := List.cons.inj h
      obtain ⟨hk,hv⟩ := Prod.mk.inj hkv
      simp only [Entries.get?_cons, key_text_congr hk name]
      split
      · exact congrArg some hv
      · exact ih hrest

theorem Alike.field {es fs : Entries} (h : φ.Alike es fs) (name : String) :
    φ.value (es.field name) = φ.value (fs.field name) := by
  have hget := h.get? name
  rw [Entries.field, Entries.field]
  cases he : es.get? name with
  | none =>
    rw [he, Option.map_none] at hget
    rw [Option.map_eq_none_iff.mp hget.symm]
  | some v =>
    rw [he, Option.map_some] at hget
    obtain ⟨w,hw,hvw⟩ := Option.map_eq_some_iff.mp hget.symm
    rw [hw, Option.getD_some, Option.getD_some, hvw]

theorem Alike.has {es fs : Entries} (h : φ.Alike es fs) (name : String) :
    es.has name = fs.has name := by
  have hget := congrArg Option.isSome (h.get? name)
  simpa [Entries.has] using hget

theorem without_map_entry (names : List String) (es : Entries) :
    Entries.without names (es.map φ.entry) = (es.without names).map φ.entry := by
  rw [Entries.without, Entries.without, List.filter_map]
  congr 1
  apply List.filter_congr
  rintro ⟨k,v⟩ -
  simp only [Function.comp_apply, View.entry, Prod.map_apply]
  split
  · next name hk => rw [(φ.key_text k name).mp hk]
  · next hk =>
    split
    · next name => exact absurd ((φ.key_text _ name).mpr rfl) (hk name)
    · rfl

theorem Alike.without {es fs : Entries} (h : φ.Alike es fs) (names : List String) :
    φ.Alike (es.without names) (fs.without names) := by
  have hw := congrArg (Entries.without names) h
  rwa [without_map_entry, without_map_entry] at hw

/-! ## What readers see -/

theorem eq_ofText? {v : Value} {o : Option String} (h : φ.value v = φ.value (.ofText? o)) :
    v = .ofText? o := by
  cases o with
  | none => exact φ.plain v .null rfl h
  | some s => exact φ.plain v (.text s) rfl h

theorem eq_ofInt? {v : Value} {o : Option Int} (h : φ.value v = φ.value (.ofInt? o)) :
    v = .ofInt? o := by
  cases o with
  | none => exact φ.plain v .null rfl h
  | some n => exact φ.plain v (.int n) rfl h

theorem eq_ofBool? {v : Value} {o : Option Bool} (h : φ.value v = φ.value (.ofBool? o)) :
    v = .ofBool? o := by
  cases o with
  | none => exact φ.plain v .null rfl h
  | some b => exact φ.plain v (.bool b) rfl h

theorem eq_bool {v : Value} {b : Bool} (h : φ.value v = φ.value (.bool b)) : v = .bool b :=
  φ.plain v (.bool b) rfl h

theorem eq_text {v : Value} {s : String} (h : φ.value v = φ.value (.text s)) : v = .text s :=
  φ.plain v (.text s) rfl h

theorem exists_items {v : Value} {items : List Value} (h : φ.value v = φ.value (.list items)) :
    ∃ js, v.items? = some js ∧ js.map φ.value = items.map φ.value :=
  Option.map_eq_some_iff.mp (φ.items v (.list items) h)

theorem exists_entries {v : Value} {es : Entries} (h : φ.value v = φ.value (.map es)) :
    ∃ fs, v.entries? = some fs ∧ φ.Alike fs es :=
  Option.map_eq_some_iff.mp (φ.entries v (.map es) h)

theorem items_eq_texts {v : Value} {texts : List String} (h : φ.value v = φ.value (.ofTexts texts)) :
    v.items? = some (texts.map Value.text) := by
  obtain ⟨js,hjs,hmap⟩ := exists_items h
  suffices js = texts.map Value.text by rw [hjs, this]
  clear hjs h
  induction js generalizing texts with
  | nil => simpa using hmap
  | cons j js ih =>
    cases texts with
    | nil => simp at hmap
    | cons s texts =>
      obtain ⟨hj,hrest⟩ := List.cons.inj hmap
      rw [eq_text hj, ih hrest, List.map_cons]

def exact : View where
  value := id
  key := id
  key_text _ _ := Iff.rfl
  plain _ _ _ h := h
  items _ _ h := congrArg (fun v : Value => v.items?.map (·.map id)) h
  entries _ _ h := congrArg (fun v : Value => v.entries?.map (·.map (Prod.map id id))) h

end View

/-! ## Values without labels -/

def Scalar.unlabelled : Scalar → Scalar
  | .float x _ => .float x
  | .date d _ => .date d
  | .moment m _ => .moment m
  | s => s

/-- A collection as it is, and a labelled scalar under one and the same label. -/
def Value.boxed : Value → Value
  | .scalar s => .shared 0 (.scalar s)
  | v => v

mutual

/-- A value without the labels of values that occur in several places. One that occurs inside itself
is left as it is. -/
def Value.unlabelled : Value → Value
  | .scalar s => .scalar s.unlabelled
  | .list items => .list (unlabelledItems items)
  | .pair a b => .pair a.unlabelled b.unlabelled
  | .map entries => .map (unlabelledEntries entries)
  | .set members => .set (members.map Scalar.unlabelled)
  | .shared _ v => v.unlabelled.boxed
  | .loop l v => .loop l v
  | .again l => .again l

def unlabelledItems : List Value → List Value
  | [] => []
  | v :: vs => v.unlabelled :: unlabelledItems vs

def unlabelledEntries : List (Scalar × Value) → List (Scalar × Value)
  | [] => []
  | (k, v) :: rest => (k.unlabelled, v.unlabelled) :: unlabelledEntries rest

end

theorem unlabelledItems_eq_map (items : List Value) :
    unlabelledItems items = items.map Value.unlabelled := by
  induction items with
  | nil => rfl
  | cons v vs ih => rw [unlabelledItems, ih, List.map_cons]

theorem unlabelledEntries_eq_map (entries : List (Scalar × Value)) :
    unlabelledEntries entries = entries.map (Prod.map Scalar.unlabelled Value.unlabelled) := by
  induction entries with
  | nil => rfl
  | cons entry rest ih =>
    obtain ⟨k,v⟩ := entry
    rw [unlabelledEntries, ih, List.map_cons]
    rfl

@[simp] theorem Scalar.unlabelled_unlabelled (s : Scalar) : s.unlabelled.unlabelled = s.unlabelled := by
  cases s <;> rfl

theorem Scalar.unlabelled_eq_text_iff {k : Scalar} {s : String} :
    k.unlabelled = .text s ↔ k = .text s := by
  cases k <;> simp [Scalar.unlabelled]

theorem Scalar.unlabelled_of_isLabelled_eq_false {s : Scalar} (h : s.isLabelled = false) :
    s.unlabelled = s := by
  cases s <;> simp_all [Scalar.unlabelled, Scalar.isLabelled]

theorem Scalar.eq_of_unlabelled_eq {s t : Scalar} (hs : s.isLabelled = false)
    (h : t.unlabelled = s) : t = s := by
  subst h
  cases t <;> simp_all [Scalar.unlabelled, Scalar.isLabelled]

theorem Value.boxed_ne_scalar (v : Value) (s : Scalar) : v.boxed ≠ .scalar s := by
  cases v <;> simp [Value.boxed]

theorem Value.items?_boxed (v : Value) : v.boxed.items? = v.items? := by
  cases v <;> rfl

theorem Value.entries?_boxed (v : Value) : v.boxed.entries? = v.entries? := by
  cases v <;> rfl

mutual

theorem Value.unlabelled_unlabelled : ∀ v : Value, v.unlabelled.unlabelled = v.unlabelled
  | .scalar s => by simp [Value.unlabelled]
  | .list items => by simp [Value.unlabelled, unlabelledItems_unlabelledItems items]
  | .pair a b => by simp [Value.unlabelled, a.unlabelled_unlabelled, b.unlabelled_unlabelled]
  | .map entries => by simp [Value.unlabelled, unlabelledEntries_unlabelledEntries entries]
  | .set members => by simp [Value.unlabelled]
  | .shared l v => by
    have ih := v.unlabelled_unlabelled
    rw [Value.unlabelled]
    cases hv : v.unlabelled <;> simp_all [Value.boxed, Value.unlabelled]
  | .loop l v => rfl
  | .again l => rfl

theorem unlabelledItems_unlabelledItems : ∀ items : List Value,
    unlabelledItems (unlabelledItems items) = unlabelledItems items
  | [] => rfl
  | v :: vs => by
    simp [unlabelledItems, v.unlabelled_unlabelled, unlabelledItems_unlabelledItems vs]

theorem unlabelledEntries_unlabelledEntries : ∀ entries : List (Scalar × Value),
    unlabelledEntries (unlabelledEntries entries) = unlabelledEntries entries
  | [] => rfl
  | (k, v) :: rest => by
    simp [unlabelledEntries, v.unlabelled_unlabelled, unlabelledEntries_unlabelledEntries rest]

end

theorem Value.items?_unlabelled : ∀ v : Value,
    v.unlabelled.items?.map (·.map Value.unlabelled) = v.items?.map (·.map Value.unlabelled)
  | .list items => by
    simp only [Value.unlabelled, Value.items?, Value.content, Option.map_some,
      ← unlabelledItems_eq_map, unlabelledItems_unlabelledItems]
  | .shared l v => by
    rw [Value.unlabelled, Value.items?_boxed]
    exact v.items?_unlabelled
  | .scalar _ => rfl
  | .pair _ _ => rfl
  | .map _ => rfl
  | .set _ => rfl
  | .loop _ _ => rfl
  | .again _ => rfl

theorem Value.entries?_unlabelled : ∀ v : Value,
    v.unlabelled.entries?.map (·.map (Prod.map Scalar.unlabelled Value.unlabelled)) =
      v.entries?.map (·.map (Prod.map Scalar.unlabelled Value.unlabelled))
  | .map entries => by
    simp only [Value.unlabelled, Value.entries?, Value.content, Option.map_some,
      ← unlabelledEntries_eq_map, unlabelledEntries_unlabelledEntries]
  | .shared l v => by
    rw [Value.unlabelled, Value.entries?_boxed]
    exact v.entries?_unlabelled
  | .scalar _ => rfl
  | .list _ => rfl
  | .pair _ _ => rfl
  | .set _ => rfl
  | .loop _ _ => rfl
  | .again _ => rfl

theorem Value.eq_scalar_of_unlabelled_eq {v : Value} {s : Scalar} (hs : s.isLabelled = false)
    (h : v.unlabelled = (Value.scalar s).unlabelled) : v = .scalar s := by
  rw [Value.unlabelled, Scalar.unlabelled_of_isLabelled_eq_false hs] at h
  cases v with
  | scalar t =>
    rw [Value.unlabelled, Value.scalar.injEq] at h
    rw [Scalar.eq_of_unlabelled_eq hs h]
  | shared l v => exact absurd h (Value.boxed_ne_scalar _ s)
  | _ => simp [Value.unlabelled] at h

def View.unlabelled : View where
  value := Value.unlabelled
  key := Scalar.unlabelled
  key_text _ _ := Scalar.unlabelled_eq_text_iff
  plain _ _ hs h := Value.eq_scalar_of_unlabelled_eq hs h
  items v w h := by rw [← v.items?_unlabelled, h, w.items?_unlabelled]
  entries v w h := by rw [← v.entries?_unlabelled, h, w.entries?_unlabelled]

end Traceability
