import Traceability.Discovered
import Traceability.Proofs.Document.Records
import Traceability.Proofs.Text.UpperCase

/-! # Discovered entities are read back

Tables, endpoints and functions that were found in the source leave out fields that are empty. A
missing field reads as the empty one, so what was left out is read back as well.
-/
namespace Traceability
open Number Text

theorem Entries.get?_named_append (fields : List (String × Value)) (extra : Entries)
    (name : String) : Entries.get? (Entries.named fields ++ extra) name =
      (fields.lookup name).or (extra.get? name) := by
  rw [Entries.get?_append, Entries.get?_named]

/-- Fields that may be missing, looked up by name. -/
theorem lookup_filterMap_of_nodup {α β : Type} (given? : α → Option β) {fields : List (String × α)}
    (hnodup : (fields.map Prod.fst).Nodup) (name : String) :
    (fields.filterMap fun field => (given? field.2).map (field.1,·)).lookup name =
      (fields.lookup name).bind given? := by
  induction fields with
  | nil => rfl
  | cons field fields ih =>
    obtain ⟨m,x⟩ := field
    rw [List.map_cons, List.nodup_cons] at hnodup
    by_cases hm : name = m
    · subst hm
      have hrest : fields.lookup name = none := by
        rw [List.lookup_eq_none_iff]
        intro field hf
        rw [bne_iff_ne]
        rintro rfl
        exact hnodup.1 (List.mem_map.mpr ⟨field,hf,rfl⟩)
      rw [List.lookup_cons_self, Option.bind_some]
      cases hx : given? x with
      | none =>
        rw [List.filterMap_cons_none (by simp [hx]), ih hnodup.2, hrest]
        rfl
      | some y =>
        rw [List.filterMap_cons_some (b := (name,y)) (by simp [hx]), List.lookup_cons_self]
    · rw [List.lookup_cons, beq_false_of_ne hm, ← ih hnodup.2]
      cases hx : given? x with
      | none => rw [List.filterMap_cons_none (by simp [hx])]
      | some y =>
        rw [List.filterMap_cons_some (b := (m,y)) (by simp [hx]), List.lookup_cons,
          beq_false_of_ne hm]

def Value.given? (v : Value) : Option Value := if v.isNull then none else some v

theorem presentEntries_eq (fields : List (String × Value)) : presentEntries fields =
    Entries.named (fields.filterMap fun field => field.2.given?.map (field.1,·)) := by
  rw [presentEntries, ← List.filterMap_eq_filter]
  congr 2
  funext field
  cases hn : field.2.isNull <;> simp [Option.guard, Value.given?, hn]

/-- A field that is left out because it is null reads as null. -/
theorem field_presentEntries_append {fields : List (String × Value)} {extra : Entries}
    {names : List String} {name : String} {v : Value} (h : fields.lookup name = some v)
    (hnodup : names.Nodup) (hnames : fields.map Prod.fst = names)
    (hextra : extra.get? name = none) :
    Entries.field (presentEntries fields ++ extra) name = v := by
  subst hnames
  rw [Entries.field, presentEntries_eq, Entries.get?_named_append,
    lookup_filterMap_of_nodup _ hnodup, h, hextra, Option.or_none, Option.bind_some, Value.given?]
  split
  · next hn => rw [Value.eq_null_of_isNull hn, Option.getD_none]
  · rfl

theorem Column.readsBack {φ : View} {c : Column} {v : Value}
    (h : φ.value v = φ.value (.map c.toEntries)) : Column.ofValue v = .ok c := by
  obtain ⟨data,hdata,hd⟩ := View.exists_entries h
  have hnodup : ["name", "type", "is_pii", "gdpr_category"].Nodup := by decide
  have hfield : ∀ name w, List.lookup name [
        ("name", .text c.name),
        ("type", .ofText? c.type),
        ("is_pii", .bool c.isPii),
        ("gdpr_category", .ofText? c.gdprCategory)] = some w → c.toEntries.field name = w := by
    intro name w hw
    have hf := field_presentEntries_append hw hnodup rfl (Entries.get?_nil name)
    rwa [List.append_nil] at hf
  simp only [ofValue, Value.entries_of_entries? hdata, hd.toTextOrEmpty "name" (hfield _ _ rfl),
    hd.toText? "type" (hfield _ _ rfl), hd.isTrue "is_pii" (hfield _ _ rfl),
    hd.toText? "gdpr_category" (hfield _ _ rfl)]
  rfl

namespace Table

/-- The table is as reading leaves it: what was derived from other fields would be derived again. -/
structure Canonical (t : Table) : Prop where
  name : t.name = "" → t.id = ""
  owner : t.ownerService ≠ some ""
  retention : t.retentionDays.isSome = true → t.retentionDeclared = true
  extra : t.extra.Free fieldNames

theorem isSome_toInt?_has {data : Entries} {name : String} {o : Option Int}
    (h : (data.field name).toInt? = .ok o) (ho : o.isSome = true) : data.has name = true := by
  rw [Entries.has]
  cases hget : data.get? name with
  | some v => rfl
  | none =>
    rw [Entries.field, hget] at h
    cases h
    simp at ho

structure ReadFrom (data : Entries) (t : Table) : Prop where
  columns : (data.field "fields").items.mapM Column.ofValue = .ok t.columns
  extra : t.extra = data.without fieldNames

theorem readFrom_ofEntries (data : Entries) : Ensures (ofEntries data) (ReadFrom data) := by
  unfold ofEntries
  iterate 3 refine .bind fun _ _ => ?_
  refine .bind fun columns hcolumns => ?_
  iterate 2 refine .bind fun _ _ => ?_
  exact .pure ⟨hcolumns,rfl⟩

theorem canonical_ofEntries (data : Entries) : Ensures (ofEntries data) Canonical := by
  unfold ofEntries
  refine .bind fun id hid => .bind fun name hname => .bind fun owner howner =>
    .bind fun columns _ => .bind fun days hdays => .bind fun source _ => .pure ⟨?_,?_,?_,?_⟩
  · intro hn
    by_cases he : name = ""
    · simpa [nonEmpty?, he] using hn
    · simp [nonEmpty?, he] at hn
  · by_cases he : owner = "" <;> simp [nonEmpty?, he]
  · exact isSome_toInt?_has hdays
  · exact Entries.free_without _ _

end Table

def View.table (φ : View) (t : Table) : Table := { t with extra := t.extra.map φ.entry }

theorem View.Alike.get?_eq {φ : View} {data es : Entries} (h : φ.Alike data es) (name : String)
    {o : Option String} (hget : es.get? name = some (.ofText? o)) :
    data.get? name = some (.ofText? o) := by
  have hmap := h.get? name
  rw [hget, Option.map_some] at hmap
  obtain ⟨v,hv,himage⟩ := Option.map_eq_some_iff.mp hmap
  rw [hv, eq_ofText? himage]

namespace Table
variable {t : Table}

theorem field_retention (ht : t.Canonical) :
    t.toEntries.field "retention_days" = .ofInt? t.retentionDays ∧
      t.toEntries.has "retention_days" = t.retentionDeclared := by
  have hextra := ht.extra.get? (show "retention_days" ∈ fieldNames by decide)
  cases hd : t.retentionDeclared with
  | true => simp [toEntries, Entries.field, Entries.has, Entries.named, hd]
  | false =>
    have hnone : t.retentionDays = none := by
      cases hr : t.retentionDays with
      | none => rfl
      | some n => simpa [hd] using ht.retention (by simp [hr])
    cases hs : t.sourceFile <;>
      simp [toEntries, Entries.field, Entries.has, Entries.named, hd, hnone, hs, hextra,
        Value.ofInt?]

theorem field_sourceFile (ht : t.Canonical) :
    t.toEntries.field "source_file" = .ofText? t.sourceFile := by
  have hextra := ht.extra.get? (show "source_file" ∈ fieldNames by decide)
  cases hr : (t.retentionDeclared || t.retentionDays.isSome) <;> cases hs : t.sourceFile <;>
    simp [toEntries, Entries.field, Entries.named, hr, hs, hextra, Value.ofText?]

theorem without_toEntries (ht : t.Canonical) : t.toEntries.without fieldNames = t.extra := by
  refine Entries.without_named_append ?_ ht.extra
  cases t.retentionDeclared || t.retentionDays.isSome <;> cases t.sourceFile.isSome <;>
    simp [fieldNames]

theorem readsBack {φ : View} (ht : t.Canonical) {data : Entries} (hd : φ.Alike data t.toEntries) :
    ∃ q, Table.ofEntries data = .ok q ∧ φ.table q = φ.table t := by
  have hextra := hd.extra (without_toEntries ht)
  have hitems : (data.field "fields").items.map φ.value =
      (t.columns.map fun c => .map c.toEntries).map φ.value := hd.items "fields" rfl
  have hread := View.mapM_eq_of_alike (fun c _ v hv => Column.readsBack hv) hitems
  have howner : data.get? "owner_service" = some (.ofText? t.ownerService) :=
    hd.get?_eq "owner_service" rfl
  have hname : (nonEmpty? t.name).getD t.id = t.name := by
    by_cases hn : t.name = ""
    · simp [nonEmpty?, hn, ht.name hn]
    · simp [nonEmpty?, hn]
  have hservice : nonEmpty? (t.ownerService.getD "") = t.ownerService := by
    cases ho : t.ownerService with
    | none => rfl
    | some s =>
      have hs : s ≠ "" := fun hs => ht.owner (by rw [ho, hs])
      simp [nonEmpty?, hs]
  refine ⟨{ t with extra := data.without fieldNames },?_,?_⟩
  · simp only [ofEntries, howner, Value.toTextOrEmpty_ofText?, hd.toTextOrEmpty "id" rfl,
      hd.toTextOrEmpty "name" rfl, hread, hd.isTrue "audit_log" rfl,
      hd.toInt? "retention_days" (field_retention ht).1, hd.has "retention_days",
      (field_retention ht).2, hd.toText? "source_file" (field_sourceFile ht)]
    show Except.ok _ = Except.ok _
    rw [hname, hservice]
  · rw [View.table, View.table, hextra]

end Table

def sparseEntries (fields : List (String × Value)) (texts : List String) (extra : Entries) :
    Entries :=
  presentEntries fields ++ presentTexts "use_cases" texts ++ extra

/-- The modelled names are those of the fields, each once, and the one of the list of use cases. -/
structure SparseNames (fields : List (String × Value)) (own names : List String) : Prop where
  own_eq : fields.map Prod.fst = own
  nodup : own.Nodup
  subset : own ⊆ names
  uses_mem : "use_cases" ∈ names
  uses_notMem : "use_cases" ∉ own

section Sparse
variable {fields : List (String × Value)} {own names texts : List String} {extra : Entries}

theorem get?_presentTexts_append (hextra : extra.get? "use_cases" = none) (name : String) :
    Entries.get? (presentTexts "use_cases" texts ++ extra) name =
      if name = "use_cases" then (if texts.isEmpty then none else some (.ofTexts texts))
      else extra.get? name := by
  rw [presentTexts]
  by_cases hn : name = "use_cases"
  · subst hn
    cases texts <;> simp [hextra]
  · cases texts <;> simp [hn, Ne.symm hn]

theorem SparseNames.field (hnames : SparseNames fields own names) (hfree : extra.Free names)
    (texts : List String) (name : String) {v : Value} (h : fields.lookup name = some v) :
    (sparseEntries fields texts extra).field name = v := by
  have hown : name ∈ own :=
    hnames.own_eq ▸ List.mem_map_of_mem (mem_of_lookup_eq_some h)
  have hne : name ≠ "use_cases" := fun he => hnames.uses_notMem (he ▸ hown)
  rw [sparseEntries, List.append_assoc]
  refine field_presentEntries_append h hnames.nodup hnames.own_eq ?_
  rw [get?_presentTexts_append (hfree.get? hnames.uses_mem), if_neg hne,
    hfree.get? (hnames.subset hown)]

theorem SparseNames.get?_uses (hnames : SparseNames fields own names) (hfree : extra.Free names) :
    (sparseEntries fields texts extra).get? "use_cases" =
      if texts.isEmpty then none else some (.ofTexts texts) := by
  have hnone : (presentEntries fields).get? "use_cases" = none := by
    rw [presentEntries, Entries.get?_named, List.lookup_eq_none_iff]
    intro field hf
    rw [bne_iff_ne]
    intro he
    apply hnames.uses_notMem
    rw [he, ← hnames.own_eq]
    exact List.mem_map_of_mem (List.mem_of_mem_filter hf)
  rw [sparseEntries, List.append_assoc, Entries.get?_append, hnone, Option.none_or,
    get?_presentTexts_append (hfree.get? hnames.uses_mem), if_pos rfl]

theorem SparseNames.without (hnames : SparseNames fields own names) (hfree : extra.Free names) :
    (sparseEntries fields texts extra).without names = extra := by
  rw [sparseEntries, Entries.without_append, hfree, Entries.without_eq_nil, List.nil_append]
  intro entry hm
  rcases List.mem_append.mp hm with hm | hm
  · obtain ⟨field,hfield,rfl⟩ := List.mem_map.mp hm
    refine ⟨field.1,hnames.subset ?_,rfl⟩
    rw [← hnames.own_eq]
    exact List.mem_map_of_mem (List.mem_of_mem_filter hfield)
  · rw [presentTexts] at hm
    split at hm
    · simp at hm
    · rw [List.mem_singleton] at hm
      exact ⟨"use_cases",hnames.uses_mem,by rw [hm]⟩

end Sparse

/-- A list of texts that is left out because it is empty reads as empty. -/
theorem View.Alike.presentTexts {φ : View} {data es : Entries} (h : φ.Alike data es) (name : String)
    {texts : List String}
    (hget : es.get? name = if texts.isEmpty then none else some (.ofTexts texts)) :
    (data.field name).toTexts = .ok texts := by
  cases texts with
  | nil =>
    have hnone := h.get? name
    rw [hget] at hnone
    rw [Entries.field, Option.map_eq_none_iff.mp hnone]
    rfl
  | cons s texts =>
    refine h.toTexts name ?_
    rw [Entries.field, hget]
    rfl

namespace Endpoint

structure Canonical (e : Endpoint) : Prop where
  method : upperCase e.method = e.method
  extra : e.extra.Free fieldNames

theorem extra_ofEntries (data : Entries) :
    Ensures (ofEntries data) fun e => e.extra = data.without fieldNames := by
  unfold ofEntries
  iterate 5 refine .bind fun _ _ => ?_
  exact .pure rfl

theorem canonical_ofEntries (data : Entries) : Ensures (ofEntries data) Canonical := by
  have hmethod : Ensures (ofEntries data) fun e => upperCase e.method = e.method := by
    unfold ofEntries
    iterate 5 refine .bind fun _ _ => ?_
    exact .pure (upperCase_upperCase _)
  exact fun e he => ⟨hmethod e he,.of_eq (extra_ofEntries data e he)⟩

def fields (e : Endpoint) : List (String × Value) := [
  ("id", .text e.id),
  ("method", .text e.method),
  ("path", .text e.path),
  ("source_file", .ofText? e.sourceFile)]

theorem sparseNames (e : Endpoint) :
    SparseNames e.fields ["id", "method", "path", "source_file"] fieldNames :=
  ⟨rfl,by decide,by decide,by decide,by decide⟩

end Endpoint

def View.endpoint (φ : View) (e : Endpoint) : Endpoint := { e with extra := e.extra.map φ.entry }

theorem Endpoint.readsBack {φ : View} {e : Endpoint} (he : e.Canonical) {data : Entries}
    (hd : φ.Alike data e.toEntries) :
    ∃ q, Endpoint.ofEntries data = .ok q ∧ φ.endpoint q = φ.endpoint e := by
  have hfield := fun name v (h : e.fields.lookup name = some v) =>
    e.sparseNames.field he.extra e.useCases name h
  have hextra := hd.extra (e.sparseNames.without he.extra)
  have huses := hd.presentTexts "use_cases" (e.sparseNames.get?_uses he.extra)
  refine ⟨{ e with extra := data.without fieldNames },?_,?_⟩
  · simp only [ofEntries, hd.toTextOrEmpty "id" (hfield _ _ rfl),
      hd.toTextOrEmpty "method" (hfield _ _ rfl), hd.toTextOrEmpty "path" (hfield _ _ rfl),
      hd.toText? "source_file" (hfield _ _ rfl), huses]
    show Except.ok _ = Except.ok _
    rw [he.method]
  · rw [View.endpoint, View.endpoint, hextra]

namespace FunctionEntity

def Canonical (f : FunctionEntity) : Prop := f.extra.Free fieldNames

theorem extra_ofEntries (data : Entries) :
    Ensures (ofEntries data) fun f => f.extra = data.without fieldNames := by
  unfold ofEntries
  iterate 4 refine .bind fun _ _ => ?_
  exact .pure rfl

theorem canonical_ofEntries (data : Entries) : Ensures (ofEntries data) Canonical :=
  fun f hf => .of_eq (extra_ofEntries data f hf)

def fields (f : FunctionEntity) : List (String × Value) := [
  ("id", .text f.id),
  ("name", .text f.name),
  ("source_file", .ofText? f.sourceFile)]

theorem sparseNames (f : FunctionEntity) :
    SparseNames f.fields ["id", "name", "source_file"] fieldNames :=
  ⟨rfl,by decide,by decide,by decide,by decide⟩

end FunctionEntity

def View.functionEntity (φ : View) (f : FunctionEntity) : FunctionEntity :=
  { f with extra := f.extra.map φ.entry }

theorem FunctionEntity.readsBack {φ : View} {f : FunctionEntity} (hf : f.Canonical) {data : Entries}
    (hd : φ.Alike data f.toEntries) :
    ∃ q, FunctionEntity.ofEntries data = .ok q ∧ φ.functionEntity q = φ.functionEntity f := by
  have hfield := fun name v (h : f.fields.lookup name = some v) =>
    f.sparseNames.field hf f.useCases name h
  have hextra := hd.extra (f.sparseNames.without hf)
  have huses := hd.presentTexts "use_cases" (f.sparseNames.get?_uses hf)
  refine ⟨{ f with extra := data.without fieldNames },?_,?_⟩
  · simp only [ofEntries, hd.toTextOrEmpty "id" (hfield _ _ rfl),
      hd.toTextOrEmpty "name" (hfield _ _ rfl), hd.toText? "source_file" (hfield _ _ rfl), huses]
    rfl
  · rw [View.functionEntity, View.functionEntity, hextra]

end Traceability
