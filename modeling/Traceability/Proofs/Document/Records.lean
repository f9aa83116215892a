import Traceability.Decision
import Traceability.Proofs.Value.Results
import Traceability.Proofs.Value.View
import Traceability.Stack
import Traceability.UseCase

/-! # Records are read back

A record that was read is canonical: its free entries have none of the modelled names, and what was
derived on reading would be derived again. The mapping of a canonical record reads as the record,
and so does a mapping that differs from it in labels only, up to the labels in the free entries.
-/
namespace Traceability
open Number Text

/-! ## Fields -/

theorem Value.written?_text (s : String) : (Value.text s).written? = .ok s := rfl

theorem Value.toText?_ofText? (o : Option String) : (Value.ofText? o).toText? = .ok o := by
  cases o <;> rfl

theorem Value.eq_null_of_isNull {v : Value} (h : v.isNull = true) : v = .null := by
  cases v with
  | scalar s => cases s <;> first | rfl | simp [Value.isNull] at h
  | _ => simp [Value.isNull] at h

theorem Value.toTextOrEmpty_text (s : String) : (Value.text s).toTextOrEmpty = .ok s := rfl

theorem Value.toTextOrEmpty_ofText? (o : Option String) :
    (Value.ofText? o).toTextOrEmpty = .ok (o.getD "") := by
  cases o <;> rfl

theorem Value.toInt?_ofInt? (o : Option Int) : (Value.ofInt? o).toInt? = .ok o := by
  cases o <;> rfl

theorem Value.toBool?_ofBool? (o : Option Bool) : (Value.ofBool? o).toBool? = o := by
  cases o <;> rfl

theorem mapM_written?_texts (texts : List String) :
    (texts.map Value.text).mapM Value.written? = .ok texts := by
  induction texts with
  | nil => rfl
  | cons s texts ih =>
    rw [List.map_cons, List.mapM_cons, ih, Value.written?_text]
    rfl

theorem Value.toTexts_of_items? {v : Value} {texts : List String}
    (h : v.items? = some (texts.map Value.text)) : v.toTexts = .ok texts := by
  have hnull : ((texts.map Value.text).filter fun item => !item.isNull) = texts.map Value.text := by
    simp [List.filter_eq_self, Value.isNull]
  rw [Value.toTexts, Value.items, h, Option.getD_some, hnull, mapM_written?_texts]

namespace View
variable {φ : View} {data es : Entries}

theorem Alike.toText? (h : φ.Alike data es) (name : String) {o : Option String}
    (hfield : es.field name = .ofText? o) : (data.field name).toText? = .ok o := by
  rw [eq_ofText? ((h.field name).trans (congrArg φ.value hfield)), Value.toText?_ofText?]

theorem Alike.toInt? (h : φ.Alike data es) (name : String) {o : Option Int}
    (hfield : es.field name = .ofInt? o) : (data.field name).toInt? = .ok o := by
  rw [eq_ofInt? ((h.field name).trans (congrArg φ.value hfield)), Value.toInt?_ofInt?]

theorem Alike.toBool? (h : φ.Alike data es) (name : String) {o : Option Bool}
    (hfield : es.field name = .ofBool? o) : (data.field name).toBool? = o := by
  rw [eq_ofBool? ((h.field name).trans (congrArg φ.value hfield)), Value.toBool?_ofBool?]

theorem Alike.isTrue (h : φ.Alike data es) (name : String) {b : Bool}
    (hfield : es.field name = .bool b) : (data.field name).isTrue = b := by
  rw [eq_bool ((h.field name).trans (congrArg φ.value hfield)), Value.isTrue]

theorem Alike.toTextOrEmpty (h : φ.Alike data es) (name : String) {s : String}
    (hfield : es.field name = .text s) : (data.field name).toTextOrEmpty = .ok s := by
  rw [eq_text ((h.field name).trans (congrArg φ.value hfield)), Value.toTextOrEmpty_text]

theorem Alike.toTexts (h : φ.Alike data es) (name : String) {texts : List String}
    (hfield : es.field name = .ofTexts texts) : (data.field name).toTexts = .ok texts :=
  Value.toTexts_of_items? (items_eq_texts ((h.field name).trans (congrArg φ.value hfield)))

/-- The items under a name, each as it looks. -/
theorem Alike.items (h : φ.Alike data es) (name : String) {items : List Value}
    (hfield : es.field name = .list items) :
    (data.field name).items.map φ.value = items.map φ.value := by
  obtain ⟨js,hjs,hmap⟩ := exists_items ((h.field name).trans (congrArg φ.value hfield))
  rw [Value.items, hjs, Option.getD_some, hmap]

/-- Records that are written one by one are read back one by one. -/
theorem mapM_of_alike {α : Type} {read : Value → Except IntegerError α} {write : α → Value}
    {image : α → α} {rs : List α}
    (hread : ∀ r ∈ rs, ∀ v, φ.value v = φ.value (write r) → ∃ q, read v = .ok q ∧ image q = image r)
    {vs : List Value} (h : vs.map φ.value = (rs.map write).map φ.value) :
    ∃ qs, vs.mapM read = .ok qs ∧ qs.map image = rs.map image := by
  rw [List.map_map, map_eq_map_iff_forall₂] at h
  refine exists_mapM_eq_ok (List.forall₂_iff_zip.mpr ⟨h.length_eq,fun hm => ?_⟩)
  exact hread _ (List.of_mem_zip hm).2 _ (List.forall₂_zip h hm)

theorem mapM_eq_of_alike {α : Type} {read : Value → Except IntegerError α} {write : α → Value}
    {rs : List α} (hread : ∀ r ∈ rs, ∀ v, φ.value v = φ.value (write r) → read v = .ok r)
    {vs : List Value} (h : vs.map φ.value = (rs.map write).map φ.value) : vs.mapM read = .ok rs := by
  have hsame : ∀ r ∈ rs, ∀ v, φ.value v = φ.value (write r) → ∃ q, read v = .ok q ∧ id q = id r :=
    fun r hr v hv => ⟨r,hread r hr v hv,rfl⟩
  obtain ⟨qs,hqs,himage⟩ := mapM_of_alike hsame h
  rw [hqs, ← List.map_id rs, ← himage, List.map_id]

end View

theorem Value.entries_of_entries? {v : Value} {data : Entries} (h : v.entries? = some data) :
    v.entries = data := by
  rw [Value.entries, h, Option.getD_some]

/-! ## Function records and use cases -/

namespace FunctionRecord

def Canonical (f : FunctionRecord) : Prop := f.extra.Free fieldNames

theorem extra_ofValue (v : Value) :
    Ensures (ofValue v) fun f => f.extra = v.entries.without fieldNames := by
  unfold ofValue
  iterate 7 refine .bind fun _ _ => ?_
  exact .pure rfl

theorem canonical_ofValue (v : Value) : Ensures (ofValue v) Canonical :=
  fun f hf => .of_eq (extra_ofValue v f hf)

end FunctionRecord

def View.function (φ : View) (f : FunctionRecord) : FunctionRecord :=
  { f with extra := f.extra.map φ.entry }

/-- A free entry has none of the modelled names, so it is left out with them and nothing else is. -/
theorem Entries.without_named_append {names : List String} {fields : List (String × Value)}
    {extra : Entries} (hnames : fields.map Prod.fst ⊆ names) (hfree : extra.Free names) :
    Entries.without names (Entries.named fields ++ extra) = extra := by
  rw [Entries.without_append, Entries.without_eq_nil, List.nil_append, hfree]
  intro entry hm
  obtain ⟨field,hfield,rfl⟩ := List.mem_map.mp hm
  exact ⟨field.1,hnames (List.mem_map_of_mem hfield),rfl⟩

theorem View.Alike.extra {φ : View} {data es extra : Entries} (h : φ.Alike data es)
    {names : List String} (hextra : es.without names = extra) :
    (data.without names).map φ.entry = extra.map φ.entry := by
  rw [← hextra]
  exact h.without names

theorem FunctionRecord.readsBack {φ : View} {f : FunctionRecord} (hf : f.Canonical) {v : Value}
    (h : φ.value v = φ.value (.map f.toEntries)) :
    ∃ g, FunctionRecord.ofValue v = .ok g ∧ φ.function g = φ.function f := by
  obtain ⟨data,hdata,hd⟩ := View.exists_entries h
  have hextra := hd.extra (Entries.without_named_append (List.Subset.refl fieldNames) hf)
  refine ⟨{ f with extra := data.without fieldNames },?_,?_⟩
  · simp only [ofValue, Value.entries_of_entries? hdata, hd.toText? "name" rfl,
      hd.toText? "file" rfl, hd.toInt? "line" rfl,
      hd.toText? "endpoint" rfl, hd.toTexts "db_tables" rfl,
      hd.toBool? "auth_required" rfl, hd.toTexts "roles_required" rfl,
      hd.toText? "last_modified" rfl]
    rfl
  · rw [View.function, View.function, hextra]

namespace UseCase

structure Canonical (u : UseCase) : Prop where
  functions : ∀ f ∈ u.functions, f.Canonical
  extra : u.extra.Free fieldNames

structure ReadFrom (data : Entries) (u : UseCase) : Prop where
  functions : (data.field "functions").items.mapM FunctionRecord.ofValue = .ok u.functions
  extra : u.extra = data.without fieldNames

theorem readFrom_ofValue (v : Value) : Ensures (ofValue v) (ReadFrom v.entries) := by
  unfold ofValue
  iterate 8 refine .bind fun _ _ => ?_
  refine .bind fun functions hfunctions => ?_
  iterate 4 refine .bind fun _ _ => ?_
  exact .pure ⟨hfunctions,rfl⟩

theorem canonical_ofValue (v : Value) : Ensures (ofValue v) Canonical := by
  intro u hu
  have h := readFrom_ofValue v u hu
  exact ⟨Ensures.mapM (fun v _ => FunctionRecord.canonical_ofValue v) _ h.functions,.of_eq h.extra⟩

end UseCase

def View.useCase (φ : View) (u : UseCase) : UseCase :=
  { u with functions := u.functions.map φ.function, extra := u.extra.map φ.entry }

theorem UseCase.readsBack {φ : View} {u : UseCase} (hu : u.Canonical) {v : Value}
    (h : φ.value v = φ.value (.map u.toEntries)) :
    ∃ w, UseCase.ofValue v = .ok w ∧ φ.useCase w = φ.useCase u := by
  obtain ⟨data,hdata,hd⟩ := View.exists_entries h
  have hextra := hd.extra (Entries.without_named_append (List.Subset.refl fieldNames) hu.extra)
  have hitems : (data.field "functions").items.map φ.value =
      (u.functions.map fun f => .map f.toEntries).map φ.value := hd.items "functions" rfl
  obtain ⟨functions,hread,hfunctions⟩ :=
    View.mapM_of_alike (fun f hf v hv => FunctionRecord.readsBack (hu.functions f hf) hv) hitems
  refine ⟨{ u with functions := functions, extra := data.without fieldNames },?_,?_⟩
  · simp only [ofValue, Value.entries_of_entries? hdata, hd.toText? "id" rfl,
      hd.toText? "title" rfl, hd.toText? "value" rfl, hd.toText? "status" rfl,
      hd.toText? "actor" rfl, hd.toText? "visual_element_id" rfl, hd.toTexts "preconditions" rfl,
      hd.toTexts "postconditions" rfl, hread, hd.toTexts "rules_applied" rfl,
      hd.toText? "deprecated_date" rfl, hd.toText? "deprecated_reason" rfl,
      hd.toText? "replaced_by" rfl]
    rfl
  · rw [View.useCase, View.useCase, hextra, hfunctions]

/-! ## Decisions and the stack -/

namespace Decision

def Canonical (d : Decision) : Prop := d.extra.Free fieldNames

theorem extra_ofValue (v : Value) :
    Ensures (ofValue v) fun d => d.extra = v.entries.without fieldNames := by
  unfold ofValue
  iterate 7 refine .bind fun _ _ => ?_
  exact .pure rfl

theorem canonical_ofValue (v : Value) : Ensures (ofValue v) Canonical :=
  fun d hd => .of_eq (extra_ofValue v d hd)

end Decision

def View.decision (φ : View) (d : Decision) : Decision :=
  { d with
    alternativesConsidered := d.alternativesConsidered.map φ.value, extra := d.extra.map φ.entry }

theorem Decision.readsBack {φ : View} {d : Decision} (hc : d.Canonical) {v : Value}
    (h : φ.value v = φ.value (.map d.toEntries)) :
    ∃ e, Decision.ofValue v = .ok e ∧ φ.decision e = φ.decision d := by
  obtain ⟨data,hdata,hd⟩ := View.exists_entries h
  have hnames : ["id", "date", "status", "title", "context", "decision", "alternatives_considered",
      "consequences"] ⊆ fieldNames := by decide
  have hextra := hd.extra (Entries.without_named_append hnames hc)
  have hitems := hd.items "alternatives_considered" rfl
  refine ⟨{ d with
    alternativesConsidered := (data.field "alternatives_considered").items
    extra := data.without fieldNames },?_,?_⟩
  · simp only [ofValue, Value.entries_of_entries? hdata, hd.toText? "id" rfl,
      hd.toText? "status" rfl, hd.toText? "title" rfl, hd.toText? "date" rfl,
      hd.toText? "context" rfl, hd.toText? "decision" rfl, hd.toTexts "consequences" rfl]
    rfl
  · rw [View.decision, View.decision, hextra, hitems]

namespace Stack

def Canonical (s : Stack) : Prop := s.extra.Free partNames

theorem extra_ofEntries (data : Entries) :
    Ensures (ofEntries data) fun s => s.extra = data.without partNames := by
  unfold ofEntries
  iterate 16 refine .bind fun _ _ => ?_
  exact .pure rfl

theorem canonical_ofEntries (data : Entries) : Ensures (ofEntries data) Canonical :=
  fun s hs => .of_eq (extra_ofEntries data s hs)

end Stack

def View.stack (φ : View) (s : Stack) : Stack := { s with extra := s.extra.map φ.entry }

theorem Stack.readsBack {φ : View} {s : Stack} (hs : s.Canonical) {data : Entries}
    (hd : φ.Alike data s.toEntries) :
    ∃ t, Stack.ofEntries data = .ok t ∧ φ.stack t = φ.stack s := by
  have hextra := hd.extra (Entries.without_named_append (List.Subset.refl partNames) hs)
  refine ⟨{ s with extra := data.without partNames },?_,?_⟩
  · simp only [ofEntries, hd.toText? "runtime" rfl, hd.toText? "framework" rfl,
      hd.toText? "language" rfl, hd.toText? "orm" rfl, hd.toText? "database" rfl,
      hd.toText? "auth" rfl, hd.toText? "api_style" rfl, hd.toText? "styling" rfl,
      hd.toText? "ui_components" rfl, hd.toText? "state_management" rfl, hd.toText? "email" rfl,
      hd.toText? "file_storage" rfl, hd.toText? "deployment" rfl, hd.toText? "ci_cd" rfl,
      hd.toText? "testing" rfl, hd.toText? "package_manager" rfl, hd.toBool? "monorepo" rfl]
    rfl
  · rw [View.stack, View.stack, hextra]

end Traceability
