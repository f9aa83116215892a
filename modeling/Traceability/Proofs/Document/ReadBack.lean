import Traceability.Document.Basic
import Traceability.Document.Save
import Traceability.Proofs.Document.Entities

/-! # Documents are read back

A document that was read is canonical in all its records, and the ids of its entities differ. The
value of a canonical document reads as that document.
-/
namespace Traceability
open Number

/-! ## The mapping of a document -/

namespace Document

def presentRecords? (records : List Value) : Option Value :=
  if records.isEmpty then none else some (.list records)

/-- The modelled fields of a document; what is left out has no value. -/
def fields (d : Document) : List (String × Option Value) := [
  ("version", some (.ofText? d.version)),
  ("project", some (.ofText? d.project)),
  ("description", some (.ofText? d.description)),
  ("author", some (.ofText? d.author)),
  ("created", some (.ofText? d.created)),
  ("last_updated", some (.ofText? d.lastUpdated)),
  ("stack", d.stack.map fun s => .map s.toEntries),
  ("adrs", some (.list (d.decisions.map fun a => .map a.toEntries))),
  ("use_cases", d.useCases.map fun us => .list (us.map fun u => .map u.toEntries)),
  ("deprecated", some (.list (d.deprecated.map fun u => .map u.toEntries))),
  ("db_tables", presentRecords? (d.tables.map fun t => .map t.toEntries)),
  ("endpoints", presentRecords? (d.endpoints.map fun e => .map e.toEntries)),
  ("functions", presentRecords? (d.functions.map fun f => .map f.toEntries))]

theorem toEntries_eq (d : Document) : d.toEntries =
    Entries.named (d.fields.filterMap fun field => field.2.map (field.1,·)) ++ d.extra := by
  cases hs : d.stack <;> cases hu : d.useCases <;> cases ht : d.tables <;>
    cases he : d.endpoints <;> cases hf : d.functions <;>
    simp [toEntries, fields, presentRecords?, recordsEntry, Entries.named, hs, hu, ht, he, hf]

variable {d : Document}

theorem without_toEntries (hextra : d.extra.Free fieldNames) :
    d.toEntries.without fieldNames = d.extra := by
  rw [toEntries_eq]
  refine Entries.without_named_append (fun name hname => ?_) hextra
  obtain ⟨field,hfield,rfl⟩ := List.mem_map.mp hname
  obtain ⟨source,hsource,hgiven⟩ := List.mem_filterMap.mp hfield
  obtain ⟨v,-,rfl⟩ := Option.map_eq_some_iff.mp hgiven
  have hnames : d.fields.map Prod.fst ⊆ fieldNames := by
    simp [fields, fieldNames]
  exact hnames (List.mem_map_of_mem hsource)

theorem get?_toEntries (hextra : d.extra.Free fieldNames) {name : String}
    (hname : name ∈ fieldNames) : d.toEntries.get? name = (d.fields.lookup name).join := by
  have hnodup : (d.fields.map Prod.fst).Nodup := by
    show ["version", "project", "description", "author", "created", "last_updated", "stack", "adrs",
      "use_cases", "deprecated", "db_tables", "endpoints", "functions"].Nodup
    decide
  rw [toEntries_eq, Entries.get?_named_append, hextra.get? hname, Option.or_none]
  exact lookup_filterMap_of_nodup id hnodup name

/-! ## Canonical documents -/

structure PlainIds (data : Entries) : Prop where
  tables : NoMomentIds (data.field "db_tables").items
  endpoints : NoMomentIds (data.field "endpoints").items
  functions : NoMomentIds (data.field "functions").items

instance (data : Entries) : Decidable (PlainIds data) :=
  decidable_of_iff (NoMomentIds (data.field "db_tables").items ∧
    NoMomentIds (data.field "endpoints").items ∧ NoMomentIds (data.field "functions").items)
    ⟨fun ⟨ht,he,hf⟩ => ⟨ht,he,hf⟩,fun h => ⟨h.tables,h.endpoints,h.functions⟩⟩

/-- All records of the document are as reading leaves them. -/
structure Canonical (d : Document) : Prop where
  stack : ∀ s ∈ d.stack, s.Canonical
  active : ∀ us ∈ d.useCases, ∀ u ∈ us, u.Canonical
  decisions : ∀ a ∈ d.decisions, a.Canonical
  deprecated : ∀ u ∈ d.deprecated, u.Canonical
  tables : ∀ t ∈ d.tables, t.Canonical
  endpoints : ∀ e ∈ d.endpoints, e.Canonical
  functions : ∀ f ∈ d.functions, f.Canonical
  extra : d.extra.Free fieldNames

structure DistinctEntities (d : Document) : Prop where
  tables : DistinctIds (d.tables.map (·.id))
  endpoints : DistinctIds (d.endpoints.map (·.id))
  functions : DistinctIds (d.functions.map (·.id))

theorem Canonical.stamped (hd : d.Canonical) (today : Date) : (d.stamped today).Canonical :=
  ⟨hd.stack,hd.active,hd.decisions,hd.deprecated,hd.tables,hd.endpoints,hd.functions,hd.extra⟩

theorem DistinctEntities.stamped (hd : d.DistinctEntities) (today : Date) :
    (d.stamped today).DistinctEntities :=
  ⟨hd.tables,hd.endpoints,hd.functions⟩

theorem canonical_readStack? (v : Value) :
    Ensures (readStack? v) fun stack => ∀ s ∈ stack, s.Canonical := by
  rw [readStack?]
  split
  · refine .map fun s hs t ht => ?_
    cases ht
    exact Stack.canonical_ofEntries _ s hs
  · exact .pure (by simp)

theorem canonical_readUseCases? (v : Value) :
    Ensures (readUseCases? v) fun useCases => ∀ us ∈ useCases, ∀ u ∈ us, u.Canonical := by
  rw [readUseCases?]
  split
  · refine .map fun us hus ws hws => ?_
    cases hws
    exact Ensures.mapM (fun w _ => UseCase.canonical_ofValue w) us hus
  · exact .pure (by simp)

end Document

theorem Table.id_ofEntries (data : Entries) :
    Ensures (Table.ofEntries data) fun t => (data.field "id").toTextOrEmpty = .ok t.id := by
  refine .bind fun id hid => ?_
  iterate 5 refine .bind fun _ _ => ?_
  exact .pure hid

theorem Endpoint.id_ofEntries (data : Entries) :
    Ensures (Endpoint.ofEntries data) fun e => (data.field "id").toTextOrEmpty = .ok e.id := by
  refine .bind fun id hid => ?_
  iterate 4 refine .bind fun _ _ => ?_
  exact .pure hid

theorem FunctionEntity.id_ofEntries (data : Entries) :
    Ensures (FunctionEntity.ofEntries data) fun f => (data.field "id").toTextOrEmpty = .ok f.id := by
  refine .bind fun id hid => ?_
  iterate 3 refine .bind fun _ _ => ?_
  exact .pure hid

theorem Ensures.readEntities {α : Type} {read : Entries → Except IntegerError α} {P : α → Prop}
    (hread : ∀ data, Ensures (read data) P) (items : List Value) :
    Ensures (Traceability.readEntities read items) fun rs => ∀ r ∈ rs, P r :=
  .bind fun _ _ => .mapM fun data _ => hread data

namespace Document

structure ReadFrom (data : Entries) (d : Document) : Prop where
  stack : readStack? (data.field "stack") = .ok d.stack
  useCases : readUseCases? (data.field "use_cases") = .ok d.useCases
  decisions : (data.field "adrs").items.mapM Decision.ofValue = .ok d.decisions
  deprecated : (data.field "deprecated").items.mapM UseCase.ofValue = .ok d.deprecated
  tables : readEntities Table.ofEntries (data.field "db_tables").items = .ok d.tables
  endpoints : readEntities Endpoint.ofEntries (data.field "endpoints").items = .ok d.endpoints
  functions : readEntities FunctionEntity.ofEntries (data.field "functions").items = .ok d.functions
  extra : data.without fieldNames = d.extra

theorem readFrom_ofValue (v : Value) : Ensures (ofValue v) (ReadFrom v.entries) := by
  unfold ofValue
  iterate 6 refine .bind fun _ _ => ?_
  refine .bind fun stack hstack => .bind fun useCases huseCases =>
    .bind fun decisions hdecisions => .bind fun deprecated hdeprecated =>
    .bind fun tableItems htableItems => .bind fun tables htables =>
    .bind fun endpointItems hendpointItems => .bind fun endpoints hendpoints =>
    .bind fun functionItems hfunctionItems => .bind fun functions hfunctions => .pure ?_
  refine ⟨hstack,huseCases,hdecisions,hdeprecated,?_,?_,?_,rfl⟩
  · rw [readEntities, htableItems]
    exact htables
  · rw [readEntities, hendpointItems]
    exact hendpoints
  · rw [readEntities, hfunctionItems]
    exact hfunctions

theorem canonical_ofValue (v : Value) : Ensures (ofValue v) Canonical := by
  intro d hd
  have h := readFrom_ofValue v d hd
  exact {
    stack := canonical_readStack? _ _ h.stack
    active := canonical_readUseCases? _ _ h.useCases
    decisions := Ensures.mapM (fun w _ => Decision.canonical_ofValue w) _ h.decisions
    deprecated := Ensures.mapM (fun w _ => UseCase.canonical_ofValue w) _ h.deprecated
    tables := Ensures.readEntities Table.canonical_ofEntries _ _ h.tables
    endpoints := Ensures.readEntities Endpoint.canonical_ofEntries _ _ h.endpoints
    functions := Ensures.readEntities FunctionEntity.canonical_ofEntries _ _ h.functions
    extra := h.extra ▸ Entries.free_without _ _ }

theorem distinctEntities_ofValue {v : Value} (hv : PlainIds v.entries) :
    Ensures (ofValue v) DistinctEntities := by
  intro d hd
  have h := readFrom_ofValue v d hd
  exact {
    tables := distinctIds_readEntities Table.id_ofEntries hv.tables _ h.tables
    endpoints := distinctIds_readEntities Endpoint.id_ofEntries hv.endpoints _ h.endpoints
    functions := distinctIds_readEntities FunctionEntity.id_ofEntries hv.functions _ h.functions }

end Document

/-! ## Reading a written document -/

def View.document (φ : View) (d : Document) : Document :=
  { d with
    stack := d.stack.map φ.stack
    useCases := d.useCases.map (·.map φ.useCase)
    decisions := d.decisions.map φ.decision
    deprecated := d.deprecated.map φ.useCase
    tables := d.tables.map φ.table
    endpoints := d.endpoints.map φ.endpoint
    functions := d.functions.map φ.functionEntity
    extra := d.extra.map φ.entry }

namespace Document
variable {φ : View} {d : Document} {data : Entries}

theorem readStack?_of_alike {stack : Option Stack} (hstack : ∀ s ∈ stack, s.Canonical)
    (h : (data.get? "stack").map φ.value = (stack.map fun s => .map s.toEntries).map φ.value) :
    ∃ t, readStack? (data.field "stack") = .ok t ∧ t.map φ.stack = stack.map φ.stack := by
  cases stack with
  | none =>
    rw [Option.map_none, Option.map_none, Option.map_eq_none_iff] at h
    rw [Entries.field, h]
    exact ⟨none,rfl,rfl⟩
  | some s =>
    obtain ⟨v,hv,hvalue⟩ := Option.map_eq_some_iff.mp h
    obtain ⟨entries,hentries,halike⟩ := View.exists_entries hvalue
    obtain ⟨t,ht,himage⟩ := Stack.readsBack (hstack s rfl) halike
    refine ⟨some t,?_,congrArg some himage⟩
    rw [Entries.field, hv, Option.getD_some, readStack?, hentries]
    simp [ht, Except.map]

theorem readUseCases?_of_alike {useCases : Option (List UseCase)}
    (huses : ∀ us ∈ useCases, ∀ u ∈ us, u.Canonical)
    (h : (data.get? "use_cases").map φ.value =
      (useCases.map fun us => .list (us.map fun u => .map u.toEntries)).map φ.value) :
    ∃ ws, readUseCases? (data.field "use_cases") = .ok ws ∧
      ws.map (·.map φ.useCase) = useCases.map (·.map φ.useCase) := by
  cases useCases with
  | none =>
    rw [Option.map_none, Option.map_none, Option.map_eq_none_iff] at h
    rw [Entries.field, h]
    exact ⟨none,rfl,rfl⟩
  | some us =>
    obtain ⟨v,hv,hvalue⟩ := Option.map_eq_some_iff.mp h
    obtain ⟨items,hitems,halike⟩ := View.exists_items hvalue
    obtain ⟨ws,hws,himage⟩ :=
      View.mapM_of_alike (fun u hu w hw => UseCase.readsBack (huses us rfl u hu) hw) halike
    refine ⟨some ws,?_,congrArg some himage⟩
    rw [Entries.field, hv, Option.getD_some, readUseCases?, hitems]
    simp [hws, Except.map]

theorem toText?_of_get? {name : String} {o : Option String}
    (h : (data.get? name).map φ.value = some (φ.value (.ofText? o))) :
    (data.field name).toText? = .ok o := by
  obtain ⟨v,hv,hvalue⟩ := Option.map_eq_some_iff.mp h
  rw [Entries.field, hv, Option.getD_some, View.eq_ofText? hvalue, Value.toText?_ofText?]

theorem items_of_get? {name : String} {items : List Value}
    (h : (data.get? name).map φ.value = some (φ.value (.list items))) :
    (data.field name).items.map φ.value = items.map φ.value := by
  obtain ⟨v,hv,hvalue⟩ := Option.map_eq_some_iff.mp h
  obtain ⟨js,hjs,halike⟩ := View.exists_items hvalue
  rw [Entries.field, hv, Option.getD_some, Value.items, hjs, Option.getD_some, halike]

theorem items_presentRecords? {name : String} {records : List Value}
    (h : (data.get? name).map φ.value = (presentRecords? records).map φ.value) :
    (data.field name).items.map φ.value = records.map φ.value := by
  rw [presentRecords?] at h
  split at h
  · next hempty =>
    rw [Option.map_none, Option.map_eq_none_iff] at h
    rw [Entries.field, h, List.isEmpty_iff.mp hempty]
    rfl
  · exact items_of_get? h

theorem get?_of_alike (hd : d.Canonical) (halike : φ.Alike data d.toEntries) {name : String}
    (hname : name ∈ fieldNames) {o : Option Value} (ho : d.fields.lookup name = some o) :
    (data.get? name).map φ.value = o.map φ.value := by
  rw [halike.get? name, get?_toEntries hd.extra hname, ho, Option.join_some]

/-- What looks like a canonical document is read as that document, if its entities are read. -/
theorem exists_ofValue_of_alike (hd : d.Canonical) (halike : φ.Alike data d.toEntries)
    {tables : List Table} {endpoints : List Endpoint} {functions : List FunctionEntity}
    (htables : readEntities Table.ofEntries (data.field "db_tables").items = .ok tables)
    (hendpoints : readEntities Endpoint.ofEntries (data.field "endpoints").items = .ok endpoints)
    (hfunctions : readEntities FunctionEntity.ofEntries (data.field "functions").items =
      .ok functions) {v : Value} (hdata : v.entries? = some data) :
    ∃ e, ofValue v = .ok e ∧ φ.document e = φ.document { d with
      tables := tables, endpoints := endpoints, functions := functions } := by
  have htext : ∀ name o, name ∈ fieldNames → d.fields.lookup name = some (some (.ofText? o)) →
      (data.field name).toText? = .ok o :=
    fun name o hname ho => toText?_of_get? (get?_of_alike hd halike hname ho)
  obtain ⟨stack,hstack,istack⟩ :=
    readStack?_of_alike hd.stack (get?_of_alike hd halike (by decide : "stack" ∈ fieldNames) rfl)
  obtain ⟨useCases,huseCases,iuseCases⟩ := readUseCases?_of_alike hd.active
    (get?_of_alike hd halike (by decide : "use_cases" ∈ fieldNames) rfl)
  obtain ⟨decisions,hdecisions,idecisions⟩ :=
    View.mapM_of_alike (fun a ha w hw => Decision.readsBack (hd.decisions a ha) hw)
      (items_of_get? (get?_of_alike hd halike (by decide : "adrs" ∈ fieldNames) rfl))
  obtain ⟨deprecated,hdeprecated,ideprecated⟩ :=
    View.mapM_of_alike (fun u hu w hw => UseCase.readsBack (hd.deprecated u hu) hw)
      (items_of_get? (get?_of_alike hd halike (by decide : "deprecated" ∈ fieldNames) rfl))
  obtain ⟨tableItems,hmergeTables,hreadTables⟩ := exists_of_bind_eq_ok htables
  obtain ⟨endpointItems,hmergeEndpoints,hreadEndpoints⟩ := exists_of_bind_eq_ok hendpoints
  obtain ⟨functionItems,hmergeFunctions,hreadFunctions⟩ := exists_of_bind_eq_ok hfunctions
  have hextra : (data.without fieldNames).map φ.entry = d.extra.map φ.entry :=
    halike.extra (without_toEntries hd.extra)
  refine ⟨{ d with
    stack := stack
    useCases := useCases
    decisions := decisions
    deprecated := deprecated
    tables := tables
    endpoints := endpoints
    functions := functions
    extra := data.without fieldNames },?_,?_⟩
  · simp only [ofValue, Value.entries_of_entries? hdata, htext "version" _ (by decide) rfl,
      htext "project" _ (by decide) rfl, htext "description" _ (by decide) rfl,
      htext "author" _ (by decide) rfl, htext "created" _ (by decide) rfl,
      htext "last_updated" _ (by decide) rfl, hstack, huseCases, hdecisions, hdeprecated,
      hmergeTables, hreadTables, hmergeEndpoints, hreadEndpoints, hmergeFunctions, hreadFunctions,
      bind, Except.bind]
    rfl
  · simp only [View.document, istack, iuseCases, idecisions, ideprecated, hextra]

/-- The value of a canonical document is read, and as far as entities with one id are not merged it
is read as the document. -/
theorem records_readBack (hd : d.Canonical) {v : Value} (h : φ.value v = φ.value d.toValue) :
    ∃ e, ofValue v = .ok e ∧ φ.document { e with
      tables := d.tables, endpoints := d.endpoints, functions := d.functions } = φ.document d := by
  obtain ⟨data,hdata,halike⟩ := View.exists_entries h
  obtain ⟨tables,htables⟩ := exists_readEntities_of_alike (fun _ h => Table.exists_ofEntries h)
    (by simp [Table.schema]) (fun t ht _ hes => Table.obeys_of_alike (hd.tables t ht) hes)
    (items_presentRecords? (get?_of_alike hd halike (by decide : "db_tables" ∈ fieldNames) rfl))
  obtain ⟨endpoints,hendpoints⟩ :=
    exists_readEntities_of_alike (fun _ h => Endpoint.exists_ofEntries h)
      (mem_sparseSchema (by simp)) (fun e he _ hes => Endpoint.obeys_of_alike (hd.endpoints e he) hes)
      (items_presentRecords? (get?_of_alike hd halike (by decide : "endpoints" ∈ fieldNames) rfl))
  obtain ⟨functions,hfunctions⟩ :=
    exists_readEntities_of_alike (fun _ h => FunctionEntity.exists_ofEntries h)
      (mem_sparseSchema (by simp))
      (fun f hf _ hes => FunctionEntity.obeys_of_alike (hd.functions f hf) hes)
      (items_presentRecords? (get?_of_alike hd halike (by decide : "functions" ∈ fieldNames) rfl))
  obtain ⟨e,he,himage⟩ :=
    exists_ofValue_of_alike hd halike htables hendpoints hfunctions hdata
  exact ⟨e,he,congrArg (fun x : Document => { x with
    tables := d.tables.map φ.table
    endpoints := d.endpoints.map φ.endpoint
    functions := d.functions.map φ.functionEntity }) himage⟩

/-- The value of a canonical document reads as the document if the ids of its entities differ. -/
theorem readsBack (hd : d.Canonical) (hids : d.DistinctEntities) {v : Value}
    (h : φ.value v = φ.value d.toValue) : ∃ e, ofValue v = .ok e ∧ φ.document e = φ.document d := by
  obtain ⟨data,hdata,halike⟩ := View.exists_entries h
  obtain ⟨tables,htables,itables⟩ :=
    readEntities_of_alike (fun _ => rfl) (fun t ht _ hes => Table.readsBack (hd.tables t ht) hes)
      hids.tables
      (items_presentRecords? (get?_of_alike hd halike (by decide : "db_tables" ∈ fieldNames) rfl))
  obtain ⟨endpoints,hendpoints,iendpoints⟩ :=
    readEntities_of_alike (fun _ => rfl)
      (fun e he _ hes => Endpoint.readsBack (hd.endpoints e he) hes) hids.endpoints
      (items_presentRecords? (get?_of_alike hd halike (by decide : "endpoints" ∈ fieldNames) rfl))
  obtain ⟨functions,hfunctions,ifunctions⟩ :=
    readEntities_of_alike (fun _ => rfl)
      (fun f hf _ hes => FunctionEntity.readsBack (hd.functions f hf) hes) hids.functions
      (items_presentRecords? (get?_of_alike hd halike (by decide : "functions" ∈ fieldNames) rfl))
  obtain ⟨e,he,himage⟩ :=
    exists_ofValue_of_alike hd halike htables hendpoints hfunctions hdata
  refine ⟨e,he,himage.trans ?_⟩
  simp only [View.document, itables, iendpoints, ifunctions]

end Document
end Traceability
