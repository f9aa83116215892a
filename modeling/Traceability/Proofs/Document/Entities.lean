import Traceability.Proofs.Document.Merge

/-! # Written entities are readable

Entities with one id are merged when they are read. Whatever is merged, each field is one that was
written, so reading does not fail: what a field has to be is kept when gaps are filled.
-/
namespace Traceability
open Number

/-! ## Schemas -/

/-- What the values of some fields have to be. -/
abbrev Schema := List (String × (Value → Prop))

def IsText (v : Value) : Prop := ∃ o, v = .ofText? o

def IsInt (v : Value) : Prop := ∃ o, v = .ofInt? o

def HasTexts (v : Value) : Prop := ∃ texts, v.toTexts = .ok texts

def HasColumns (v : Value) : Prop := ∃ columns, v.items.mapM Column.ofValue = .ok columns

/-- Whatever stands under the names is as the schema says. -/
def Obeys (schema : Schema) (data : Entries) : Prop :=
  ∀ field ∈ schema, ∀ v, (Scalar.text field.1, v) ∈ data → field.2 v

theorem isText_null : IsText .null := ⟨none,rfl⟩

theorem Entries.get?_mem {es : Entries} {name : String} {v : Value} (h : es.get? name = some v) :
    (Scalar.text name, v) ∈ es := by
  induction es with
  | nil => simp at h
  | cons entry es ih =>
    obtain ⟨k,w⟩ := entry
    rw [Entries.get?_cons] at h
    split at h
    · next hk =>
      rw [hk, Option.some.inj h]
      exact List.mem_cons_self
    · exact List.mem_cons_of_mem _ (ih h)

theorem Obeys.field {schema : Schema} {data : Entries} (h : Obeys schema data) {name : String}
    {P : Value → Prop} (hmem : (name,P) ∈ schema) (hnull : P .null) : P (data.field name) := by
  rw [Entries.field]
  cases hget : data.get? name with
  | none => exact hnull
  | some v => exact h _ hmem v (Entries.get?_mem hget)

section
variable {schema : Schema} {data : Entries}

theorem Obeys.toTextOrEmpty (h : Obeys schema data) {name : String}
    (hmem : (name,IsText) ∈ schema) : ∃ s, (data.field name).toTextOrEmpty = .ok s := by
  obtain ⟨o,ho⟩ := h.field hmem isText_null
  exact ⟨o.getD "",by rw [ho, Value.toTextOrEmpty_ofText?]⟩

theorem Obeys.toText? (h : Obeys schema data) {name : String} (hmem : (name,IsText) ∈ schema) :
    ∃ o, (data.field name).toText? = .ok o := by
  obtain ⟨o,ho⟩ := h.field hmem isText_null
  exact ⟨o,by rw [ho, Value.toText?_ofText?]⟩

end

/-! ## Merging -/

theorem Entries.mem_put {es : Entries} {key : Scalar} {v w : Value} {name : String}
    (h : (Scalar.text name, w) ∈ es.put key v) :
    (Scalar.text name, w) ∈ es ∨ key = .text name ∧ w = v := by
  induction es with
  | nil =>
    obtain ⟨hk,hv⟩ := Prod.mk.inj (List.mem_singleton.mp h)
    exact .inr ⟨hk.symm,hv⟩
  | cons entry es ih =>
    obtain ⟨k,x⟩ := entry
    rw [put, putUnder] at h
    split at h
    · next hsame =>
      rcases List.mem_cons.mp h with h | h
      · obtain ⟨rfl,rfl⟩ := Prod.mk.inj h
        exact .inr ⟨(text_same name key).mp hsame,rfl⟩
      · exact .inl (List.mem_cons_of_mem _ h)
    · rcases List.mem_cons.mp h with h | h
      · exact .inl (List.mem_cons.mpr (.inl h))
      · rcases ih h with h | h
        · exact .inl (List.mem_cons_of_mem _ h)
        · exact .inr h

section
variable {schema : Schema} {first second : Entries}

theorem Obeys.fillGaps (hfirst : Obeys schema first) (hsecond : Obeys schema second) :
    Obeys schema (fillGaps first second) := by
  have hmore : Obeys schema (second.filter fun entry => !isGiven first entry.1) :=
    fun field hf v hv => hsecond field hf v (List.mem_of_mem_filter hv)
  rw [Traceability.fillGaps]
  generalize second.filter (fun entry => !isGiven first entry.1) = more at hmore
  induction more generalizing first with
  | nil => exact hfirst
  | cons entry more ih =>
    have hrest : Obeys schema more := fun field hf v hv => hmore field hf v (List.mem_cons_of_mem _ hv)
    refine ih ?_ hrest
    intro field hf v hv
    rcases Entries.mem_put hv with hv | ⟨hkey,rfl⟩
    · exact hfirst field hf v hv
    · exact hmore field hf _ (List.mem_cons.mpr (.inl (Prod.ext hkey.symm rfl)))

theorem obeys_mergeInto {e : Keyed} (he : Obeys schema e.2) {es : List Keyed}
    (hes : ∀ f ∈ es, Obeys schema f.2) : ∀ f ∈ mergeInto e es, Obeys schema f.2 := by
  induction es with
  | nil => simpa [mergeInto] using he
  | cons first es ih =>
    obtain ⟨hfirst,hrest⟩ := List.forall_mem_cons.mp hes
    rw [mergeInto]
    split
    · exact List.forall_mem_cons.mpr ⟨hfirst.fillGaps he,hrest⟩
    · exact List.forall_mem_cons.mpr ⟨hfirst,ih hrest⟩

theorem obeys_foldl_mergeKeyed {es merged : List Keyed} (hes : ∀ e ∈ es, Obeys schema e.2)
    (hmerged : ∀ f ∈ merged, Obeys schema f.2) :
    ∀ f ∈ es.foldl mergeKeyed merged, Obeys schema f.2 := by
  induction es generalizing merged with
  | nil => exact hmerged
  | cons e es ih =>
    obtain ⟨he,hrest⟩ := List.forall_mem_cons.mp hes
    refine ih hrest ?_
    rw [mergeKeyed]
    split
    · rw [List.forall_mem_append]
      exact ⟨hmerged,by simpa using he⟩
    · exact obeys_mergeInto he hmerged

end

/-- Every item has a result. -/
theorem exists_mapM {ε α β : Type} {read : α → Except ε β} {xs : List α}
    (h : ∀ x ∈ xs, ∃ y, read x = .ok y) : ∃ ys, xs.mapM read = .ok ys := by
  induction xs with
  | nil => exact ⟨[],rfl⟩
  | cons x xs ih =>
    obtain ⟨hx,hxs⟩ := List.forall_mem_cons.mp h
    obtain ⟨y,hy⟩ := hx
    obtain ⟨ys,hys⟩ := ih hxs
    exact ⟨y :: ys,mapM_eq_ok_iff.mpr (.cons hy (mapM_eq_ok_iff.mp hys))⟩

/-- Entities that obey a schema are read if what obeys it is readable. -/
theorem exists_readEntities {α : Type} {read : Entries → Except IntegerError α} {schema : Schema}
    (hread : ∀ data, Obeys schema data → ∃ r, read data = .ok r) (hid : ("id",IsText) ∈ schema)
    {items : List Value} (hitems : ∀ e ∈ items.filterMap Value.entries?, Obeys schema e) :
    ∃ rs, readEntities read items = .ok rs := by
  have hkey : ∀ e ∈ items.filterMap Value.entries?, ∃ keyed,
      (mergeKey e).map (fun key => (key,e)) = .ok keyed := by
    intro e he
    obtain ⟨o,ho⟩ := (hitems e he).field hid isText_null
    rw [mergeKey, ho]
    cases o <;> exact ⟨_,rfl⟩
  obtain ⟨keyed,hkeyed⟩ := exists_mapM hkey
  have hobeys : ∀ e ∈ keyed, Obeys schema e.2 := by
    have hall : Ensures (keyedItems items) fun es => ∀ e ∈ es, Obeys schema e.2 :=
      .mapM fun e he => .map fun key _ => hitems e he
    exact hall keyed hkeyed
  have hmerged : ∀ f ∈ keyed.foldl mergeKeyed [], Obeys schema f.2 :=
    obeys_foldl_mergeKeyed hobeys (by simp)
  have hread : ∀ data ∈ (keyed.foldl mergeKeyed []).map (·.2), ∃ r, read data = .ok r := by
    intro data hdata
    obtain ⟨e,he,rfl⟩ := List.mem_map.mp hdata
    exact hread e.2 (hmerged e he)
  obtain ⟨rs,hrs⟩ := exists_mapM hread
  refine ⟨rs,?_⟩
  have hmerge : mergeById items = .ok ((keyed.foldl mergeKeyed []).map (·.2)) := by
    rw [mergeById, keyedItems, hkeyed]
    rfl
  rw [readEntities, hmerge]
  exact hrs

/-! ## What was written -/

namespace View
variable {φ : View} {data es : Entries}

theorem Alike.exists_mem (h : φ.Alike data es) {name : String} {v : Value}
    (hv : (Scalar.text name, v) ∈ data) : ∃ w, (Scalar.text name, w) ∈ es ∧ φ.value v = φ.value w := by
  have hmem : φ.entry (.text name,v) ∈ es.map φ.entry := h ▸ List.mem_map_of_mem hv
  obtain ⟨⟨k,w⟩,hw,heq⟩ := List.mem_map.mp hmem
  obtain ⟨hk,hvalue⟩ := Prod.mk.inj heq
  obtain rfl : k = .text name := (key_text_congr hk name).mpr rfl
  exact ⟨w,hw,hvalue.symm⟩

theorem isText_of_alike {v w : Value} (h : φ.value v = φ.value w) (hw : IsText w) : IsText v := by
  obtain ⟨o,rfl⟩ := hw
  exact ⟨o,eq_ofText? h⟩

theorem isInt_of_alike {v w : Value} (h : φ.value v = φ.value w) (hw : IsInt w) : IsInt v := by
  obtain ⟨o,rfl⟩ := hw
  exact ⟨o,eq_ofInt? h⟩

end View

theorem Entries.Free.notMem {names : List String} {es : Entries} (h : es.Free names) {name : String}
    (hname : name ∈ names) (v : Value) : (Scalar.text name, v) ∉ es := by
  intro hm
  rw [← h] at hm
  exact (mem_without_iff.mp hm).2 name hname rfl

/-- What looks like written fields and free entries obeys a schema if the fields do. -/
theorem View.Alike.obeys {φ : View} {data extra : Entries} {fields : List (String × Value)}
    {names : List String} {schema : Schema} (h : φ.Alike data (Entries.named fields ++ extra))
    (hfree : extra.Free names) (hnames : ∀ field ∈ schema, field.1 ∈ names)
    (hfields : ∀ field ∈ schema, ∀ w, (field.1,w) ∈ fields → ∀ v, φ.value v = φ.value w → field.2 v) :
    Obeys schema data := by
  intro field hfield v hv
  obtain ⟨w,hw,halike⟩ := h.exists_mem hv
  rcases List.mem_append.mp hw with hw | hw
  · obtain ⟨⟨name,x⟩,hf,heq⟩ := List.mem_map.mp hw
    obtain ⟨hname,rfl⟩ := Prod.mk.inj heq
    exact hfields field hfield x (Scalar.text.inj hname ▸ hf) v halike
  · exact absurd hw (hfree.notMem (hnames field hfield) w)

namespace Table

def schema : Schema := [("id",IsText), ("name",IsText), ("owner_service",IsText), ("owner",IsText),
  ("source_file",IsText), ("retention_days",IsInt), ("fields",HasColumns)]

theorem exists_ofEntries {data : Entries} (h : Obeys schema data) :
    ∃ t, Table.ofEntries data = .ok t := by
  obtain ⟨id,hid⟩ := h.toTextOrEmpty (by simp [schema] : ("id",IsText) ∈ schema)
  obtain ⟨name,hname⟩ := h.toTextOrEmpty (by simp [schema] : ("name",IsText) ∈ schema)
  obtain ⟨columns,hcolumns⟩ :=
    h.field (by simp [schema] : ("fields",HasColumns) ∈ schema) ⟨[],rfl⟩
  obtain ⟨days,hdays⟩ := h.field (by simp [schema] : ("retention_days",IsInt) ∈ schema) ⟨none,rfl⟩
  obtain ⟨source,hsource⟩ := h.toText? (by simp [schema] : ("source_file",IsText) ∈ schema)
  cases howner : data.get? "owner_service" with
  | none =>
    obtain ⟨owner,ho⟩ := h.toTextOrEmpty (by simp [schema] : ("owner",IsText) ∈ schema)
    simp only [ofEntries, howner, ho, hid, hname, hcolumns, hdays, hsource, Value.toInt?_ofInt?]
    exact ⟨_,rfl⟩
  | some v =>
    obtain ⟨owner,rfl⟩ := h ("owner_service",IsText) (by simp [schema]) v (Entries.get?_mem howner)
    simp only [ofEntries, howner, hid, hname, hcolumns, hdays, hsource, Value.toInt?_ofInt?,
      Value.toTextOrEmpty_ofText?]
    exact ⟨_,rfl⟩

theorem obeys_of_alike {t : Table} (ht : t.Canonical) {φ : View} {data : Entries}
    (h : φ.Alike data t.toEntries) : Obeys schema data := by
  refine View.Alike.obeys h ht.extra (by simp [schema, fieldNames]) ?_
  intro field hfield w hw v hv
  simp only [schema, List.mem_cons, List.not_mem_nil, or_false] at hfield
  rcases hfield with rfl | rfl | rfl | rfl | rfl | rfl | rfl
  · simp at hw
    exact View.isText_of_alike hv ⟨some _,hw⟩
  · simp at hw
    exact View.isText_of_alike hv ⟨some _,hw⟩
  · simp at hw
    exact View.isText_of_alike hv ⟨_,hw⟩
  · simp at hw
  · simp at hw
    exact View.isText_of_alike hv ⟨_,hw.2⟩
  · simp at hw
    exact View.isInt_of_alike hv ⟨_,hw.2⟩
  · simp at hw
    subst hw
    obtain ⟨items,hitems,halike⟩ := View.exists_items hv
    refine ⟨t.columns,?_⟩
    rw [Value.items, hitems, Option.getD_some]
    exact View.mapM_eq_of_alike (fun c _ v hv => Column.readsBack hv) halike

end Table

/-! ## Records with few fields -/

/-- What the fields of a record have to be whose null fields and empty list of use cases are left
out. -/
def sparseSchema (own : List String) : Schema :=
  ("use_cases",HasTexts) :: own.map fun name => (name,IsText)

theorem sparseEntries_eq (fields : List (String × Value)) (texts : List String) (extra : Entries) :
    sparseEntries fields texts extra = Entries.named ((fields.filter fun field => !field.2.isNull) ++
      if texts.isEmpty then [] else [("use_cases",.ofTexts texts)]) ++ extra := by
  cases texts <;> simp [sparseEntries, presentEntries, presentTexts, Entries.named]

theorem SparseNames.obeys {fields : List (String × Value)} {own names texts : List String}
    {extra : Entries} (hnames : SparseNames fields own names)
    (hfields : ∀ field ∈ fields, IsText field.2) (hfree : extra.Free names) {φ : View}
    {data : Entries} (h : φ.Alike data (sparseEntries fields texts extra)) :
    Obeys (sparseSchema own) data := by
  rw [sparseEntries_eq] at h
  refine h.obeys hfree ?_ ?_
  · intro field hfield
    rcases List.mem_cons.mp hfield with rfl | hfield
    · exact hnames.uses_mem
    · obtain ⟨name,hname,rfl⟩ := List.mem_map.mp hfield
      exact hnames.subset hname
  · intro field hfield w hw v hv
    have huses : ∀ w, ("use_cases",w) ∉ fields := fun w hmem =>
      hnames.uses_notMem (hnames.own_eq ▸ List.mem_map.mpr ⟨_,hmem,rfl⟩)
    rw [List.mem_append, List.mem_filter] at hw
    rcases List.mem_cons.mp hfield with rfl | hfield
    · rcases hw with hw | hw
      · exact absurd hw.1 (huses w)
      · cases texts with
        | nil => simp at hw
        | cons s texts =>
          obtain rfl : w = .ofTexts (s :: texts) := by simpa using hw
          exact ⟨_,Value.toTexts_of_items? (View.items_eq_texts hv)⟩
    · obtain ⟨name,hname,rfl⟩ := List.mem_map.mp hfield
      have hne : name ≠ "use_cases" := fun he => hnames.uses_notMem (he ▸ hname)
      rcases hw with hw | hw
      · exact View.isText_of_alike hv (hfields _ hw.1)
      · cases texts <;> simp [hne] at hw

theorem Obeys.toTexts {own : List String} {data : Entries} (h : Obeys (sparseSchema own) data) :
    ∃ texts, (data.field "use_cases").toTexts = .ok texts :=
  h.field (by simp [sparseSchema] : ("use_cases",HasTexts) ∈ sparseSchema own) ⟨[],rfl⟩

theorem mem_sparseSchema {own : List String} {name : String} (h : name ∈ own) :
    (name,IsText) ∈ sparseSchema own :=
  List.mem_cons_of_mem _ (List.mem_map_of_mem h)

namespace Endpoint

theorem exists_ofEntries {data : Entries}
    (h : Obeys (sparseSchema ["id", "method", "path", "source_file"]) data) :
    ∃ e, Endpoint.ofEntries data = .ok e := by
  obtain ⟨id,hid⟩ := h.toTextOrEmpty (mem_sparseSchema (show "id" ∈ _ by simp))
  obtain ⟨method,hmethod⟩ := h.toTextOrEmpty (mem_sparseSchema (show "method" ∈ _ by simp))
  obtain ⟨path,hpath⟩ := h.toTextOrEmpty (mem_sparseSchema (show "path" ∈ _ by simp))
  obtain ⟨source,hsource⟩ := h.toText? (mem_sparseSchema (show "source_file" ∈ _ by simp))
  obtain ⟨texts,htexts⟩ := h.toTexts
  simp only [ofEntries, hid, hmethod, hpath, hsource, htexts]
  exact ⟨_,rfl⟩

theorem obeys_of_alike {e : Endpoint} (he : e.Canonical) {φ : View} {data : Entries}
    (h : φ.Alike data e.toEntries) :
    Obeys (sparseSchema ["id", "method", "path", "source_file"]) data := by
  refine e.sparseNames.obeys ?_ he.extra h
  simp only [fields, List.forall_mem_cons, List.not_mem_nil, false_implies, implies_true, and_true]
  exact ⟨⟨some _,rfl⟩,⟨some _,rfl⟩,⟨some _,rfl⟩,_,rfl⟩

end Endpoint

namespace FunctionEntity

theorem exists_ofEntries {data : Entries}
    (h : Obeys (sparseSchema ["id", "name", "source_file"]) data) :
    ∃ f, FunctionEntity.ofEntries data = .ok f := by
  obtain ⟨id,hid⟩ := h.toTextOrEmpty (mem_sparseSchema (show "id" ∈ _ by simp))
  obtain ⟨name,hname⟩ := h.toTextOrEmpty (mem_sparseSchema (show "name" ∈ _ by simp))
  obtain ⟨source,hsource⟩ := h.toText? (mem_sparseSchema (show "source_file" ∈ _ by simp))
  obtain ⟨texts,htexts⟩ := h.toTexts
  simp only [ofEntries, hid, hname, hsource, htexts]
  exact ⟨_,rfl⟩

theorem obeys_of_alike {f : FunctionEntity} (hf : f.Canonical) {φ : View} {data : Entries}
    (h : φ.Alike data f.toEntries) : Obeys (sparseSchema ["id", "name", "source_file"]) data := by
  refine f.sparseNames.obeys ?_ hf h
  simp only [fields, List.forall_mem_cons, List.not_mem_nil, false_implies, implies_true, and_true]
  exact ⟨⟨some _,rfl⟩,⟨some _,rfl⟩,_,rfl⟩

end FunctionEntity

/-- Items that look like written entities are read, whether or not their ids differ. -/
theorem exists_readEntities_of_alike {α : Type} {read : Entries → Except IntegerError α}
    {write : α → Entries} {schema : Schema} {rs : List α} {φ : View}
    (hread : ∀ data, Obeys schema data → ∃ r, read data = .ok r) (hid : ("id",IsText) ∈ schema)
    (hwrite : ∀ r ∈ rs, ∀ data, φ.Alike data (write r) → Obeys schema data) {items : List Value}
    (h : items.map φ.value = (rs.map fun r => .map (write r)).map φ.value) :
    ∃ qs, readEntities read items = .ok qs := by
  refine exists_readEntities hread hid fun data hdata => ?_
  obtain ⟨v,hv,hentries⟩ := List.mem_filterMap.mp hdata
  have hmem : φ.value v ∈ (rs.map fun r => .map (write r)).map φ.value := h ▸ List.mem_map_of_mem hv
  rw [List.map_map] at hmem
  obtain ⟨r,hr,hvalue⟩ := List.mem_map.mp hmem
  obtain ⟨es,hes,halike⟩ := View.exists_entries hvalue.symm
  obtain rfl : es = data := Option.some.inj (hes.symm.trans hentries)
  exact hwrite r hr es halike

end Traceability
