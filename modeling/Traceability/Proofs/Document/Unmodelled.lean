import Traceability.Proofs.Document.ReadBack
import Traceability.Proofs.Value.Decide

/-! # Keys that are not modelled

Every record keeps the entries under keys that it does not model and writes them back behind its
own, at whatever place of the document it stands. The columns of a table are the exception: a column
has nowhere to keep such entries and writes its own four fields only. Entities with one printed id
are merged, so the places of entities are followed where these ids differ.
-/
namespace Traceability
open Number

/-! ## Places of records -/

namespace Entries

def recordAt? (data : Entries) (name : String) (i : ℕ) : Option Entries :=
  (data.field name).items[i]?.bind Value.entries?

/-- The entity at an index of the list under a name, where only mappings are counted. -/
def entityAt? (data : Entries) (name : String) (i : ℕ) : Option Entries :=
  ((data.field name).items.filterMap Value.entries?)[i]?

end Entries

inductive Shelf
  | active
  | deprecated

def Shelf.name : Shelf → String
  | active => "use_cases"
  | deprecated => "deprecated"

def Shelf.useCases (d : Document) : Shelf → List UseCase
  | active => d.active
  | deprecated => d.deprecated

/-- The place of a record in a document. -/
inductive Place
  | root
  | stack
  | useCase (shelf : Shelf) (i : ℕ)
  | functionRecord (shelf : Shelf) (i j : ℕ)
  | decision (i : ℕ)
  | table (i : ℕ)
  | column (i j : ℕ)
  | endpoint (i : ℕ)
  | function (i : ℕ)

def Column.fieldNames : List String := ["name", "type", "is_pii", "gdpr_category"]

namespace Place

def record? (data : Entries) : Place → Option Entries
  | root => some data
  | stack => (data.field "stack").entries?
  | useCase shelf i => data.recordAt? shelf.name i
  | functionRecord shelf i j => (data.recordAt? shelf.name i).bind (·.recordAt? "functions" j)
  | decision i => data.recordAt? "adrs" i
  | table i => data.entityAt? "db_tables" i
  | column i j => (data.entityAt? "db_tables" i).bind (·.recordAt? "fields" j)
  | endpoint i => data.entityAt? "endpoints" i
  | function i => data.entityAt? "functions" i

def modelled : Place → List String
  | root => Document.fieldNames
  | stack => Stack.partNames
  | useCase _ _ => UseCase.fieldNames
  | functionRecord _ _ _ => FunctionRecord.fieldNames
  | decision _ => Decision.fieldNames
  | table _ => Table.fieldNames
  | column _ _ => Column.fieldNames
  | endpoint _ => Endpoint.fieldNames
  | function _ => FunctionEntity.fieldNames

def isColumn : Place → Bool
  | column _ _ => true
  | _ => false

end Place

/-! ## Records that keep their other entries -/

/-- Whatever stands under other keys than the names is written as it was read, in the same order. -/
structure Keeps (names : List String) (data written : Entries) : Prop where
  entries : written.without names = data.without names
  at? : ∀ key, (∀ name ∈ names, key ≠ .text name) → written.at? key = data.at? key

theorem Keeps.of_extra {names : List String} {data written extra : Entries}
    (hextra : extra = data.without names) (hwritten : written.without names = extra) :
    Keeps names data written := by
  have hentries : written.without names = data.without names := hwritten.trans hextra
  refine ⟨hentries,fun key hkey => ?_⟩
  rw [← Entries.at?_without hkey written, hentries, Entries.at?_without hkey]

theorem FunctionRecord.keeps (v : Value) :
    Ensures (ofValue v) fun f => Keeps fieldNames v.entries f.toEntries :=
  fun f hf => .of_extra (extra_ofValue v f hf)
    (Entries.without_named_append (List.Subset.refl fieldNames) (canonical_ofValue v f hf))

theorem UseCase.ReadFrom.keeps {data : Entries} {u : UseCase} (h : u.ReadFrom data) :
    Keeps fieldNames data u.toEntries :=
  .of_extra h.extra (Entries.without_named_append (List.Subset.refl fieldNames) (.of_eq h.extra))

theorem Decision.keeps (v : Value) :
    Ensures (ofValue v) fun d => Keeps fieldNames v.entries d.toEntries := by
  have hnames : ["id", "date", "status", "title", "context", "decision", "alternatives_considered",
      "consequences"] ⊆ fieldNames := by decide
  exact fun d hd => .of_extra (extra_ofValue v d hd)
    (Entries.without_named_append hnames (canonical_ofValue v d hd))

theorem Stack.keeps (data : Entries) :
    Ensures (ofEntries data) fun s => Keeps partNames data s.toEntries :=
  fun s hs => .of_extra (extra_ofEntries data s hs)
    (Entries.without_named_append (List.Subset.refl partNames) (canonical_ofEntries data s hs))

theorem Table.keeps (data : Entries) :
    Ensures (ofEntries data) fun t => Keeps fieldNames data t.toEntries :=
  fun t ht => .of_extra (readFrom_ofEntries data t ht).extra
    (without_toEntries (canonical_ofEntries data t ht))

theorem Endpoint.keeps (data : Entries) :
    Ensures (ofEntries data) fun e => Keeps fieldNames data e.toEntries :=
  fun e he => .of_extra (extra_ofEntries data e he)
    (e.sparseNames.without (canonical_ofEntries data e he).extra)

theorem FunctionEntity.keeps (data : Entries) :
    Ensures (ofEntries data) fun f => Keeps fieldNames data f.toEntries :=
  fun f hf => .of_extra (extra_ofEntries data f hf)
    (f.sparseNames.without (canonical_ofEntries data f hf))

/-- A column is written with modelled names only. -/
theorem Column.without_toEntries (c : Column) : c.toEntries.without fieldNames = [] := by
  refine Entries.without_eq_nil fun entry hentry => ?_
  obtain ⟨field,hfield,rfl⟩ := List.mem_map.mp hentry
  refine ⟨field.1,?_,rfl⟩
  exact List.mem_map_of_mem (f := Prod.fst) (List.mem_of_mem_filter hfield)

/-! ## Records in lists -/

section
variable {α : Type} {write : α → Entries} {data out es : Entries} {name : String} {rs : List α}
  {i : ℕ}

/-- Records of a list are read and written at one index. -/
theorem exists_recordAt? {read : Value → Except IntegerError α} {P : Value → α → Prop}
    (hP : ∀ v, Ensures (read v) (P v))
    (hread : (data.field name).items.mapM read = .ok rs)
    (hwrite : (out.field name).items = rs.map fun r => .map (write r))
    (h : data.recordAt? name i = some es) :
    ∃ v r, v.entries = es ∧ P v r ∧ out.recordAt? name i = some (write r) := by
  obtain ⟨v,hv,hes⟩ := Option.bind_eq_some_iff.mp h
  obtain ⟨r,hr,hvr⟩ := exists_getElem?_of_mapM hread hv
  refine ⟨v,r,Value.entries_of_entries? hes,hP v r hvr,?_⟩
  rw [Entries.recordAt?, hwrite, List.getElem?_map, hr]
  rfl

/-- Entities that are not merged are read and written at one index. -/
theorem exists_entityAt? {read : Entries → Except IntegerError α} {P : Entries → α → Prop}
    (hP : ∀ data, Ensures (read data) (P data)) (hids : DifferentIds (data.field name).items)
    (hread : readEntities read (data.field name).items = .ok rs)
    (hwrite : (out.field name).items = rs.map fun r => .map (write r))
    (h : data.entityAt? name i = some es) :
    ∃ r, P es r ∧ out.entityAt? name i = some (write r) := by
  obtain ⟨merged,hmerged,hrs⟩ := exists_of_bind_eq_ok hread
  obtain rfl := mergeById_of_differentIds hids merged hmerged
  obtain ⟨r,hr,hes⟩ := exists_getElem?_of_mapM hrs h
  have hmaps : (out.field name).items.filterMap Value.entries? = rs.map write := by
    rw [hwrite, List.filterMap_map]
    exact congrFun List.filterMap_eq_map rs
  refine ⟨r,hP es r hes,?_⟩
  rw [Entries.entityAt?, hmaps, List.getElem?_map, hr]
  rfl

end

/-! ## Documents -/

structure Document.DifferentEntities (data : Entries) : Prop where
  tables : DifferentIds (data.field "db_tables").items
  endpoints : DifferentIds (data.field "endpoints").items
  functions : DifferentIds (data.field "functions").items

section
variable {d : Document}

theorem Document.field_toEntries (hextra : d.extra.Free fieldNames) {name : String}
    (hname : name ∈ fieldNames) {o : Option Value} (ho : d.fields.lookup name = some o) :
    d.toEntries.field name = o.getD .null := by
  rw [Entries.field, get?_toEntries hextra hname, ho, Option.join_some]

theorem Document.items_toEntries (hextra : d.extra.Free fieldNames) {name : String}
    (hname : name ∈ fieldNames) {records : List Value}
    (h : d.fields.lookup name = some (presentRecords? records)) :
    (d.toEntries.field name).items = records := by
  rw [field_toEntries hextra hname h]
  cases records <;> rfl

theorem Shelf.items_toEntries (hextra : d.extra.Free Document.fieldNames) (shelf : Shelf) :
    (d.toEntries.field shelf.name).items = (shelf.useCases d).map fun u => .map u.toEntries := by
  cases shelf with
  | active =>
    rw [name, Document.field_toEntries hextra (by decide : "use_cases" ∈ _) rfl, useCases,
      Document.active]
    cases d.useCases <;> rfl
  | deprecated =>
    rw [name, Document.field_toEntries hextra (by decide : "deprecated" ∈ _) rfl]
    rfl

theorem Shelf.mapM_ofValue {data : Entries} (h : d.ReadFrom data) (shelf : Shelf) :
    (data.field shelf.name).items.mapM UseCase.ofValue = .ok (shelf.useCases d) := by
  cases shelf with
  | active =>
    have hread := h.useCases
    rw [Document.readUseCases?] at hread
    rw [name, useCases, Document.active, Value.items]
    split at hread
    · next items hitems =>
      obtain ⟨us,hus,hsome⟩ := exists_of_map_eq_ok hread
      rw [hitems, ← hsome]
      exact hus
    · next hitems =>
      rw [hitems, ← Except.ok.inj hread]
      rfl
  | deprecated => exact h.deprecated

end

namespace Document
variable {v : Value} {d : Document} {data : Entries}

/-- The use case at an index was read from the mapping there and is written at that index. -/
theorem exists_useCase (hd : ofValue v = .ok d) {shelf : Shelf} {i : ℕ}
    (h : v.entries.recordAt? shelf.name i = some data) : ∃ u : UseCase, u.ReadFrom data ∧
      d.toEntries.recordAt? shelf.name i = some u.toEntries := by
  obtain ⟨w,u,rfl,hu,hwritten⟩ := exists_recordAt? UseCase.readFrom_ofValue
    (shelf.mapM_ofValue (readFrom_ofValue v d hd))
    (shelf.items_toEntries (canonical_ofValue v d hd).extra) h
  exact ⟨u,hu,hwritten⟩

theorem exists_table (hd : ofValue v = .ok d) (hids : DifferentEntities v.entries) {i : ℕ}
    (h : v.entries.entityAt? "db_tables" i = some data) : ∃ t, Table.ofEntries data = .ok t ∧
      d.toEntries.entityAt? "db_tables" i = some t.toEntries :=
  exists_entityAt? (fun _ _ ht => ht) hids.tables (readFrom_ofValue v d hd).tables
    (items_toEntries (canonical_ofValue v d hd).extra (by decide) rfl) h

/-- A document writes what stands under keys that are not modelled at every place but in columns,
and nothing of it there. -/
theorem keeps_unmodelled (hd : ofValue v = .ok d) (hids : DifferentEntities v.entries)
    {place : Place} (hplace : place.record? v.entries = some data) :
    ∃ written, place.record? d.toEntries = some written ∧
      if place.isColumn then written.without place.modelled = []
      else Keeps place.modelled data written := by
  have hread := readFrom_ofValue v d hd
  have hextra := (canonical_ofValue v d hd).extra
  cases place with
  | root =>
    obtain rfl := Option.some.inj hplace
    exact ⟨_,rfl,Keeps.of_extra hread.extra.symm (without_toEntries hextra)⟩
  | stack =>
    obtain ⟨s,hs,hstack⟩ : ∃ s, Stack.ofEntries data = .ok s ∧ d.stack = some s := by
      have hread := hread.stack
      rw [readStack?, show (v.entries.field "stack").entries? = some data from hplace] at hread
      obtain ⟨s,hs,hsome⟩ := exists_of_map_eq_ok hread
      exact ⟨s,hs,hsome.symm⟩
    refine ⟨s.toEntries,?_,Stack.keeps data s hs⟩
    rw [Place.record?, field_toEntries hextra (by decide : "stack" ∈ fieldNames) rfl, hstack]
    rfl
  | useCase shelf i =>
    obtain ⟨u,hu,hwritten⟩ := exists_useCase hd hplace
    exact ⟨_,hwritten,hu.keeps⟩
  | functionRecord shelf i j =>
    obtain ⟨es,hes,hfunction⟩ := Option.bind_eq_some_iff.mp hplace
    obtain ⟨u,hu,hwritten⟩ := exists_useCase hd hes
    have hitems : (u.toEntries.field "functions").items =
        u.functions.map fun f => .map f.toEntries := rfl
    obtain ⟨w,f,rfl,hf,hinner⟩ :=
      exists_recordAt? FunctionRecord.keeps hu.functions hitems hfunction
    exact ⟨_,Option.bind_eq_some_iff.mpr ⟨_,hwritten,hinner⟩,hf⟩
  | decision i =>
    have hitems : (d.toEntries.field "adrs").items = d.decisions.map fun a => .map a.toEntries := by
      rw [field_toEntries hextra (by decide : "adrs" ∈ fieldNames) rfl]
      rfl
    obtain ⟨w,a,rfl,ha,hwritten⟩ :=
      exists_recordAt? Decision.keeps hread.decisions hitems hplace
    exact ⟨_,hwritten,ha⟩
  | table i =>
    obtain ⟨t,ht,hwritten⟩ := exists_table hd hids hplace
    exact ⟨_,hwritten,Table.keeps data t ht⟩
  | column i j =>
    obtain ⟨es,hes,hcolumn⟩ := Option.bind_eq_some_iff.mp hplace
    obtain ⟨t,ht,hwritten⟩ := exists_table hd hids hes
    have hitems : (t.toEntries.field "fields").items =
        t.columns.map fun c => .map c.toEntries := rfl
    -- A column has no free entries, so nothing need be known of how it was read.
    obtain ⟨-,c,-,-,hinner⟩ :=
      exists_recordAt? (fun _ _ hc => hc) (Table.readFrom_ofEntries es t ht).columns hitems hcolumn
    exact ⟨_,Option.bind_eq_some_iff.mpr ⟨_,hwritten,hinner⟩,c.without_toEntries⟩
  | endpoint i =>
    obtain ⟨e,he,hwritten⟩ := exists_entityAt? Endpoint.keeps hids.endpoints hread.endpoints
      (items_toEntries hextra (by decide) rfl) hplace
    exact ⟨_,hwritten,he⟩
  | function i =>
    obtain ⟨f,hf,hwritten⟩ := exists_entityAt? FunctionEntity.keeps hids.functions hread.functions
      (items_toEntries hextra (by decide) rfl) hplace
    exact ⟨_,hwritten,hf⟩

def notedColumn : Value := .map [
  (.text "db_tables", .list [
    .map [(.text "id", .text "t"), (.text "note", .text "kept"), (.text "fields", .list [
      .map [(.text "name", .text "c"), (.text "note", .text "dropped")]])]])]

def noteDropped : Document where
  tables := [{
    id := "t", name := "t", columns := [{ name := "c" }], extra := [(.text "note", .text "kept")] }]

theorem ofValue_notedColumn : ofValue notedColumn = .ok noteDropped := rfl

theorem differentEntities_notedColumn : DifferentEntities notedColumn.entries := by
  refine ⟨?_,?_,?_⟩
  all_goals
    unfold DifferentIds DistinctIds
    decide

theorem keeps_unmodelled_notedColumn : ∃ written,
    (Place.table 0).record? noteDropped.toEntries = some written ∧
      written.at? (.text "note") = some (.text "kept") := by
  obtain ⟨written,hwritten,hkeeps⟩ := @keeps_unmodelled notedColumn noteDropped _
    ofValue_notedColumn differentEntities_notedColumn (.table 0) rfl
  have hkeeps : Keeps Table.fieldNames _ written := hkeeps
  exact ⟨written,hwritten,hkeeps.at? (.text "note") (by decide)⟩

/-- The note of the column is not written. -/
theorem drops_notedColumn : ofValue notedColumn = .ok noteDropped ∧
    DifferentEntities notedColumn.entries ∧ ∃ data written,
      (Place.column 0 0).record? notedColumn.entries = some data ∧
      (Place.column 0 0).record? noteDropped.toEntries = some written ∧
      data.at? (.text "note") = some (.text "dropped") ∧ written.at? (.text "note") = none ∧
      ¬ Keeps Column.fieldNames data written := by
  refine ⟨ofValue_notedColumn,differentEntities_notedColumn,_,_,rfl,rfl,rfl,rfl,fun hkeeps => ?_⟩
  have hnote := hkeeps.at? (.text "note") (by decide)
  cases hnote

end Document

end Traceability
