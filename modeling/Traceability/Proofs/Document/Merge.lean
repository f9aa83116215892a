import Traceability.Document.Merge
import Traceability.Proofs.Document.Discovered

/-! # Merged entities

Merging leaves every printed id with one entity, and an entity keeps its id while its gaps are
filled. Entities with different ids are not merged, so entities that were merged once stay as they
are.
-/
namespace Traceability
open Number

/-! ## Filling gaps -/

/-- A value that is given is not replaced. -/
theorem get?_fillGaps {first : Entries} {name : String} {v : Value} (h : first.get? name = some v)
    (hv : v.isNull = false) (second : Entries) : (fillGaps first second).get? name = some v := by
  rw [fillGaps, Entries.get?_foldl_put, h]
  intro entry hm he
  have hgiven : isGiven first (.text name) = true := by
    rw [isGiven, show first.at? (.text name) = some v from h]
    simp [hv]
  simpa [he, hgiven] using (List.mem_filter.mp hm).2

/-- A field that is given stays as it is. -/
theorem field_fillGaps {first : Entries} {name : String} (h : (first.field name).isNull = false)
    (second : Entries) : (fillGaps first second).field name = first.field name := by
  rw [Entries.field] at h
  cases hget : first.get? name with
  | none =>
    rw [hget] at h
    cases h
  | some v =>
    rw [hget] at h
    rw [Entries.field, get?_fillGaps hget h, Entries.field, hget]

/-! ## Ids -/

def Value.isMoment : Value → Bool
  | .scalar (.moment _ _) => true
  | _ => false

/-- The entry has an id that prints as the key, and it is no moment, which would read as its day. -/
structure HasKey (key : String) (e : Entries) : Prop where
  key : mergeKey e = .ok key
  not_moment : (e.field "id").isMoment = false

theorem HasKey.toTextOrEmpty {key : String} {e : Entries} (h : HasKey key e) :
    (e.field "id").toTextOrEmpty = .ok key := by
  have hkey := h.key
  have hm := h.not_moment
  rw [mergeKey] at hkey
  generalize e.field "id" = v at hkey hm
  cases v with
  | scalar s =>
    cases s with
    | null => simpa [Value.toTextOrEmpty, Value.toText?, Except.map] using hkey
    | moment m l => simp [Value.isMoment] at hm
    | date d l =>
      simpa [Value.toTextOrEmpty, Value.toText?, Value.written?, Value.isWritable,
        Scalar.isWritable, Value.shown, Scalar.shown, Except.map] using hkey
    | _ => simp_all [Value.toTextOrEmpty, Value.toText?, Except.map]
  | _ => simp_all [Value.toTextOrEmpty, Value.toText?, Except.map]

theorem HasKey.fillGaps {key : String} {e : Entries} (h : HasKey key e) (hne : key ≠ "")
    (more : Entries) : HasKey key (fillGaps e more) := by
  have hnull : (e.field "id").isNull = false := by
    rw [← Bool.not_eq_true]
    intro hnull
    have hkey := h.key
    rw [mergeKey, Value.eq_null_of_isNull hnull] at hkey
    exact hne (Except.ok.inj hkey).symm
  have hfield := field_fillGaps hnull more
  exact ⟨by rw [mergeKey, hfield, ← mergeKey, h.key],by rw [hfield, h.not_moment]⟩

/-- No two of the ids that are not empty are the same. -/
def DistinctIds (ids : List String) : Prop := ids.Pairwise fun a b => a ≠ "" → a ≠ b

theorem DistinctIds.append_singleton {ids : List String} (h : DistinctIds ids) {id : String}
    (hid : id ≠ "" → id ∉ ids) : DistinctIds (ids ++ [id]) := by
  refine List.pairwise_append.mpr ⟨h,List.pairwise_singleton ..,?_⟩
  rintro a ha b hb hne rfl
  rw [List.mem_singleton] at hb
  exact hid (hb ▸ hne) (hb ▸ ha)

/-! ## Merging -/

theorem keys_mergeInto (e : Keyed) (es : List Keyed) :
    (mergeInto e es).map Prod.fst =
      if e.1 ∈ es.map Prod.fst then es.map Prod.fst else es.map Prod.fst ++ [e.1] := by
  induction es with
  | nil => rfl
  | cons first es ih =>
    rw [mergeInto]
    by_cases h : first.1 = e.1
    · simp [h]
    · have hiff : e.1 ∈ first.1 :: es.map Prod.fst ↔ e.1 ∈ es.map Prod.fst := by
        rw [List.mem_cons]
        exact or_iff_right (Ne.symm h)
      simp only [if_neg h, List.map_cons, ih, hiff]
      split <;> rfl

theorem mergeInto_of_notMem {e : Keyed} {es : List Keyed} (h : e.1 ∉ es.map Prod.fst) :
    mergeInto e es = es ++ [e] := by
  induction es with
  | nil => rfl
  | cons first es ih =>
    rw [List.map_cons, List.mem_cons, not_or] at h
    rw [mergeInto, if_neg (Ne.symm h.1), ih h.2, List.cons_append]

theorem hasKey_of_mem_mergeInto {e : Keyed} (he : HasKey e.1 e.2) (hne : e.1 ≠ "")
    {es : List Keyed} (h : ∀ f ∈ es, HasKey f.1 f.2) : ∀ f ∈ mergeInto e es, HasKey f.1 f.2 := by
  induction es with
  | nil => simpa [mergeInto] using he
  | cons first es ih =>
    obtain ⟨hfirst,hes⟩ := List.forall_mem_cons.mp h
    rw [mergeInto]
    split
    · next hkey => exact List.forall_mem_cons.mpr ⟨hfirst.fillGaps (hkey ▸ hne) e.2,hes⟩
    · exact List.forall_mem_cons.mpr ⟨hfirst,ih hes⟩

/-- Entities that were merged: each has the id it stands under, and ids differ. -/
structure Merged (es : List Keyed) : Prop where
  keyed : ∀ e ∈ es, HasKey e.1 e.2
  distinct : DistinctIds (es.map Prod.fst)

theorem Merged.mergeKeyed {es : List Keyed} (h : Merged es) {e : Keyed} (he : HasKey e.1 e.2) :
    Merged (mergeKeyed es e) := by
  rw [Traceability.mergeKeyed]
  split
  · next hempty =>
    refine ⟨?_,?_⟩
    · rw [List.forall_mem_append]
      exact ⟨h.keyed,by simpa using he⟩
    · rw [List.map_append]
      exact h.distinct.append_singleton fun hne => absurd hempty hne
  · next hne =>
    refine ⟨hasKey_of_mem_mergeInto he hne h.keyed,?_⟩
    rw [keys_mergeInto]
    split
    · exact h.distinct
    · next hnot => exact h.distinct.append_singleton fun _ => hnot

theorem merged_foldl {es : List Keyed} (hes : ∀ e ∈ es, HasKey e.1 e.2) :
    Merged (es.foldl mergeKeyed []) := by
  suffices ∀ merged, Merged merged → Merged (es.foldl mergeKeyed merged) from
    this [] ⟨by simp,List.Pairwise.nil⟩
  induction es with
  | nil => exact fun _ h => h
  | cons e es ih =>
    obtain ⟨he,hrest⟩ := List.forall_mem_cons.mp hes
    exact fun merged h => ih hrest _ (h.mergeKeyed he)

/-- Entities with different ids are kept as they are. -/
theorem foldl_mergeKeyed_of_distinct {merged es : List Keyed}
    (h : DistinctIds ((merged ++ es).map Prod.fst)) : es.foldl mergeKeyed merged = merged ++ es := by
  induction es generalizing merged with
  | nil => rw [List.foldl_nil, List.append_nil]
  | cons e es ih =>
    have hstep : mergeKeyed merged e = merged ++ [e] := by
      rw [mergeKeyed]
      split
      · rfl
      · next hne =>
        refine mergeInto_of_notMem fun hmem => ?_
        rw [List.map_append, DistinctIds, List.pairwise_append] at h
        exact h.2.2 e.1 hmem e.1 (by simp) hne rfl
    rw [List.foldl_cons, hstep, ih (by rwa [List.append_assoc]), List.append_assoc]
    rfl

def printedId (e : Entries) : String :=
  match e.field "id" with
  | .null => ""
  | v => v.shown

theorem printedId_of_mergeKey {e : Entries} {key : String} (h : mergeKey e = .ok key) :
    printedId e = key := by
  rw [mergeKey] at h
  rw [printedId]
  generalize e.field "id" = v at h
  split at h
  · exact Except.ok.inj h
  · rw [Value.written?] at h
    split at h
    · simpa using h
    · cases h

def DifferentIds (items : List Value) : Prop :=
  DistinctIds ((items.filterMap Value.entries?).map printedId)

theorem ensures_keyedItems (items : List Value) : Ensures (keyedItems items) fun keyed =>
    keyed = (items.filterMap Value.entries?).map fun e => (printedId e,e) := by
  intro keyed hkeyed
  have hitem (e : Entries) :
      Ensures ((mergeKey e).map fun key => (key,e)) fun k => k = (printedId e,e) :=
    .map fun key hkey => by rw [printedId_of_mergeKey hkey]
  rw [← List.forall₂_eq_eq_eq, List.forall₂_map_right_iff]
  exact (List.Forall₂.imp hitem (mapM_eq_ok_iff.mp hkeyed)).flip

/-- Items with different ids are merged into the mappings among them. -/
theorem mergeById_of_differentIds {items : List Value} (h : DifferentIds items) :
    Ensures (mergeById items) fun es => es = items.filterMap Value.entries? := by
  refine .map fun keyed hkeyed => ?_
  rw [ensures_keyedItems items keyed hkeyed]
  rw [foldl_mergeKeyed_of_distinct, List.nil_append, List.map_map, Function.comp_def, List.map_id']
  rwa [List.nil_append, List.map_map]

/-! ## Reading entities -/

def readEntities {α : Type} (read : Entries → Except IntegerError α) (items : List Value) :
    Except IntegerError (List α) := do
  (← mergeById items).mapM read

def NoMomentIds (items : List Value) : Prop :=
  ∀ e ∈ items.filterMap Value.entries?, (e.field "id").isMoment = false

instance (items : List Value) : Decidable (NoMomentIds items) :=
  List.decidableBAll (fun e : Entries => (e.field "id").isMoment = false) _

section
variable {α : Type} {read : Entries → Except IntegerError α} {id : α → String}

/-- Merged entities have different ids once they are read. -/
theorem distinctIds_readEntities
    (hid : ∀ data, Ensures (read data) fun r => (data.field "id").toTextOrEmpty = .ok (id r))
    {items : List Value} (hitems : NoMomentIds items) :
    Ensures (readEntities read items) fun rs => DistinctIds (rs.map id) := by
  have hkeyed : Ensures (keyedItems items) fun es => ∀ e ∈ es, HasKey e.1 e.2 :=
    .mapM fun e he => .map fun key hkey => ⟨hkey,hitems e he⟩
  refine .bind fun es hes rs hrs => ?_
  obtain ⟨keyed,hk,rfl⟩ := exists_of_map_eq_ok hes
  have hmerged := merged_foldl (hkeyed keyed hk)
  generalize keyed.foldl mergeKeyed [] = merged at hrs hmerged
  have hread := List.forall₂_map_left_iff.mp (mapM_eq_ok_iff.mp hrs)
  have hids : List.Forall₂ (fun e r => e.1 = id r) merged rs := by
    refine List.forall₂_iff_zip.mpr ⟨hread.length_eq,fun {e r} hm => ?_⟩
    have htext := hid _ r (List.forall₂_zip hread hm)
    rw [(hmerged.keyed e (List.of_mem_zip hm).1).toTextOrEmpty] at htext
    exact Except.ok.inj htext
  exact map_eq_map_iff_forall₂.mpr hids ▸ hmerged.distinct

/-- Items that look like written entities stand under the ids of these. -/
theorem keyedItems_of_alike {φ : View} {write : α → Entries}
    (hwrite : ∀ r, (write r).field "id" = .text (id r)) {rs : List α} {items : List Value}
    (h : items.map φ.value = (rs.map fun r => .map (write r)).map φ.value) :
    ∃ keyed, keyedItems items = .ok keyed ∧ keyed.map Prod.fst = rs.map id ∧
      List.Forall₂ (fun e r => φ.Alike e.2 (write r)) keyed rs := by
  induction rs generalizing items with
  | nil =>
    obtain rfl : items = [] := List.map_eq_nil_iff.mp h
    exact ⟨[],rfl,rfl,.nil⟩
  | cons r rs ih =>
    cases items with
    | nil => simp at h
    | cons v items =>
      obtain ⟨hv,hrest⟩ := List.cons.inj h
      obtain ⟨data,hdata,hd⟩ := View.exists_entries hv
      obtain ⟨keyed,hkeyed,hids,halike⟩ := ih hrest
      have hfield : data.field "id" = .text (id r) :=
        View.eq_text ((hd.field "id").trans (congrArg φ.value (hwrite r)))
      have hkey : mergeKey data = .ok (id r) := by
        rw [mergeKey, hfield]
        rfl
      refine ⟨(id r,data) :: keyed,?_,by rw [List.map_cons, hids, List.map_cons],.cons hd halike⟩
      rw [keyedItems] at hkeyed
      rw [keyedItems, List.filterMap_cons_some hdata, List.mapM_cons, hkeyed, hkey]
      rfl

/-- Entities with different ids are read back one by one. -/
theorem readEntities_of_alike {φ : View} {write : α → Entries} {image : α → α} {rs : List α}
    (hwrite : ∀ r, (write r).field "id" = .text (id r))
    (hread : ∀ r ∈ rs, ∀ data, φ.Alike data (write r) →
      ∃ q, read data = .ok q ∧ image q = image r)
    (hdistinct : DistinctIds (rs.map id)) {items : List Value}
    (h : items.map φ.value = (rs.map fun r => .map (write r)).map φ.value) :
    ∃ qs, readEntities read items = .ok qs ∧ qs.map image = rs.map image := by
  obtain ⟨keyed,hkeyed,hids,halike⟩ := keyedItems_of_alike hwrite h
  have hmerge : keyed.foldl mergeKeyed [] = keyed :=
    foldl_mergeKeyed_of_distinct (by rwa [List.nil_append, hids])
  have hread : List.Forall₂ (fun data r => ∃ q, read data = .ok q ∧ image q = image r)
      (keyed.map Prod.snd) rs := by
    rw [List.forall₂_map_left_iff]
    refine List.forall₂_iff_zip.mpr ⟨halike.length_eq,fun hm => ?_⟩
    exact hread _ (List.of_mem_zip hm).2 _ (List.forall₂_zip halike hm)
  obtain ⟨qs,hqs,himage⟩ := exists_mapM_eq_ok hread
  refine ⟨qs,?_,himage⟩
  rw [readEntities, mergeById, hkeyed, Except.map, hmerge]
  exact hqs

end

end Traceability
