import Mathlib.Tactic.MkIffOfInductiveProp
import Traceability.Proofs.Document.ReadBack
import Traceability.Proofs.Number.Decimal

/-! # Documents that are read

Reading is tolerant of everything but digits. A field that is asked for a text fails if an integer
in it has too many digits to be written, and a field that is asked for an integer fails on a text of
digits that is no numeral, or too long a one. A document is read exactly when no modelled field of
its records fails; entities with one id are merged before their fields are read.
-/
namespace Traceability
open Number Text

/-! ## Readings with results -/

section
variable {ε α β : Type}

theorem exists_pure_iff {a : α} : (∃ b, (pure a : Except ε α) = .ok b) ↔ True :=
  iff_true_intro ⟨a,rfl⟩

theorem exists_bind_iff {x : Except ε α} {f : α → Except ε β} :
    (∃ b, (x >>= f) = .ok b) ↔ ∃ a, x = .ok a ∧ ∃ b, f a = .ok b := by
  cases x <;> simp [bind, Except.bind]

theorem exists_map_iff {x : Except ε α} {f : α → β} :
    (∃ b, x.map f = .ok b) ↔ ∃ a, x = .ok a := by
  cases x <;> simp [Except.map]

theorem exists_mapM_iff {read : α → Except ε β} {xs : List α} :
    (∃ ys, xs.mapM read = .ok ys) ↔ ∀ x ∈ xs, ∃ y, read x = .ok y := by
  refine ⟨?_,exists_mapM⟩
  rintro ⟨ys,hys⟩
  have hread := mapM_eq_ok_iff.mp hys
  induction hread with
  | nil => simp
  | cons hx _ ih => exact List.forall_mem_cons.mpr ⟨⟨_,hx⟩,ih (mapM_eq_ok_iff.mpr ‹_›)⟩

end

/-! ## Fields -/

namespace Value

/-- If the value is a text of digits, they have place values, and there are not too many. -/
def ReadsInteger (v : Value) : Prop :=
  ∀ s, v = .text s → stripped s ≠ "" → (∀ c ∈ (stripped s).toList, isDigit c = true) →
    (∀ c ∈ (stripped s).toList, isDecimal c = true) ∧ (stripped s).toList.length ≤ maxDigits

theorem exists_written?_iff {v : Value} : (∃ s, v.written? = .ok s) ↔ v.isWritable = true := by
  rw [written?]
  split <;> simp_all

theorem exists_toText?_iff {v : Value} : (∃ o, v.toText? = .ok o) ↔ v.isWritable = true := by
  unfold toText?
  split
  · simp [isWritable, Scalar.isWritable]
  · simp [isWritable, Scalar.isWritable]
  · simp [isWritable, Scalar.isWritable]
  · rw [exists_map_iff, exists_written?_iff]

theorem isWritable_of_isNull {v : Value} (h : v.isNull = true) : v.isWritable = true := by
  rw [eq_null_of_isNull h]
  rfl

theorem exists_toTexts_iff {v : Value} :
    (∃ texts, v.toTexts = .ok texts) ↔ ∀ item ∈ v.items, item.isWritable = true := by
  rw [toTexts, exists_mapM_iff]
  simp only [exists_written?_iff, List.mem_filter, Bool.not_eq_true', and_imp]
  apply forall₂_congr
  intro item _
  constructor
  · intro h
    by_cases hnull : item.isNull = true
    · exact isWritable_of_isNull hnull
    · exact h (Bool.eq_false_iff.mpr hnull)
  · exact fun h _ => h

theorem exists_toInt?_iff {v : Value} : (∃ o, v.toInt? = .ok o) ↔ v.ReadsInteger := by
  rw [ReadsInteger]
  unfold toInt?
  split
  · simp
  · next s =>
    simp only [text, scalar.injEq, Scalar.text.injEq, forall_eq']
    by_cases hdigits : stripped s ≠ "" ∧ ∀ c ∈ (stripped s).toList, isDigit c = true
    · obtain ⟨hfull,hall⟩ := hdigits
      have htrue : (stripped s != "" && (stripped s).toList.all isDigit) = true := by
        rw [Bool.and_eq_true, bne_iff_ne, List.all_eq_true]
        exact ⟨hfull,hall⟩
      have hread := exists_readInteger_ten_iff (by simpa using hfull) hall
      rw [String.ofList_toList] at hread
      rw [htrue, if_pos rfl, exists_map_iff, hread]
      exact ⟨fun h _ _ => h,fun h => h hfull hall⟩
    · have hfalse : (stripped s != "" && (stripped s).toList.all isDigit) = false :=
        Bool.eq_false_iff.mpr fun htrue => hdigits (by
          rwa [Bool.and_eq_true, bne_iff_ne, List.all_eq_true] at htrue)
      rw [hfalse, if_neg Bool.false_ne_true]
      refine iff_of_true ⟨none,rfl⟩ fun hfull hall => ?_
      exact absurd ⟨hfull,hall⟩ hdigits
  · next hint htext =>
    refine iff_of_true ⟨none,rfl⟩ ?_
    rintro s rfl
    exact absurd rfl (htext s)

end Value

/-- The fields of a record that are read as texts, as integers and as lists of texts can be read. -/
structure FieldsReadable (texts integers lists : List String) (data : Entries) : Prop where
  texts : ∀ name ∈ texts, (data.field name).isWritable = true
  integers : ∀ name ∈ integers, (data.field name).ReadsInteger
  lists : ∀ name ∈ lists, ∀ item ∈ (data.field name).items, item.isWritable = true

theorem fieldsReadable_iff_exists {texts integers lists : List String} {data : Entries} :
    FieldsReadable texts integers lists data ↔
      (∀ name ∈ texts, ∃ o, (data.field name).toText? = .ok o) ∧
      (∀ name ∈ integers, ∃ o, (data.field name).toInt? = .ok o) ∧
      ∀ name ∈ lists, ∃ ts, (data.field name).toTexts = .ok ts := by
  simp only [Value.exists_toText?_iff, Value.exists_toInt?_iff, Value.exists_toTexts_iff]
  exact ⟨fun h => ⟨h.texts,h.integers,h.lists⟩,fun ⟨ht,hi,hl⟩ => ⟨ht,hi,hl⟩⟩

theorem exists_toTextOrEmpty_iff_toText? {v : Value} :
    (∃ s, v.toTextOrEmpty = .ok s) ↔ ∃ o, v.toText? = .ok o := by
  rw [Value.toTextOrEmpty, exists_map_iff]

/-! ## Records -/

def FunctionRecord.Readable (data : Entries) : Prop :=
  FieldsReadable ["name", "file", "endpoint", "last_modified"] ["line"]
    ["db_tables", "roles_required"] data

theorem FunctionRecord.exists_ofValue_iff {v : Value} :
    (∃ f, FunctionRecord.ofValue v = .ok f) ↔ Readable v.entries := by
  simp only [FunctionRecord.ofValue, exists_bind_iff, exists_pure_iff, exists_and_right, and_true,
    Readable, fieldsReadable_iff_exists, List.forall_mem_cons, List.not_mem_nil, false_implies,
    implies_true]
  grind

@[mk_iff]
structure UseCase.Readable (data : Entries) : Prop where
  fields : FieldsReadable ["id", "title", "value", "status", "actor", "visual_element_id",
    "deprecated_date", "deprecated_reason", "replaced_by"] []
    ["preconditions", "postconditions", "rules_applied"] data
  functions : ∀ v ∈ (data.field "functions").items, FunctionRecord.Readable v.entries

theorem UseCase.exists_ofValue_iff {v : Value} :
    (∃ u, UseCase.ofValue v = .ok u) ↔ Readable v.entries := by
  simp only [UseCase.ofValue, exists_bind_iff, exists_pure_iff, exists_and_right, and_true,
    true_and, readable_iff, fieldsReadable_iff_exists, List.forall_mem_cons, List.not_mem_nil,
    false_implies, implies_true, exists_mapM_iff, FunctionRecord.exists_ofValue_iff]
  constructor
  · rintro ⟨hid,htitle,hvalue,hstatus,hactor,helement,hpre,hpost,hfunctions,hrules,hdate,hreason,
      hreplaced⟩
    exact ⟨⟨⟨hid,htitle,hvalue,hstatus,hactor,helement,hdate,hreason,hreplaced⟩,hpre,hpost,hrules⟩,
      hfunctions⟩
  · rintro ⟨⟨⟨hid,htitle,hvalue,hstatus,hactor,helement,hdate,hreason,hreplaced⟩,hpre,hpost,hrules⟩,
      hfunctions⟩
    exact ⟨hid,htitle,hvalue,hstatus,hactor,helement,hpre,hpost,hfunctions,hrules,hdate,hreason,
      hreplaced⟩

def Decision.Readable (data : Entries) : Prop :=
  FieldsReadable ["id", "status", "title", "date", "context", "decision"] [] ["consequences"] data

theorem Decision.exists_ofValue_iff {v : Value} :
    (∃ a, Decision.ofValue v = .ok a) ↔ Readable v.entries := by
  simp only [Decision.ofValue, exists_bind_iff, exists_pure_iff, exists_and_right, and_true,
    true_and, Readable, fieldsReadable_iff_exists, List.forall_mem_cons, List.not_mem_nil,
    false_implies, implies_true]
  grind

def Stack.Readable (data : Entries) : Prop :=
  FieldsReadable (partNames.erase "monorepo") [] [] data

theorem Stack.exists_ofEntries_iff {data : Entries} :
    (∃ s, Stack.ofEntries data = .ok s) ↔ Readable data := by
  have hnames : partNames.erase "monorepo" = ["runtime", "framework", "language", "orm", "database",
      "auth", "api_style", "styling", "ui_components", "state_management", "email", "file_storage",
      "deployment", "ci_cd", "testing", "package_manager"] := by decide
  simp only [Stack.ofEntries, exists_bind_iff, exists_pure_iff, exists_and_right, and_true,
    Readable, hnames, fieldsReadable_iff_exists, List.forall_mem_cons, List.not_mem_nil,
    false_implies, implies_true]

/-! ## Entities -/

def Column.Readable (data : Entries) : Prop :=
  FieldsReadable ["name", "type", "gdpr_category"] [] [] data

theorem Column.exists_ofValue_iff {v : Value} :
    (∃ c, Column.ofValue v = .ok c) ↔ Readable v.entries := by
  simp only [Column.ofValue, exists_bind_iff, exists_pure_iff, exists_and_right, and_true, Readable,
    fieldsReadable_iff_exists, List.forall_mem_cons, List.not_mem_nil, false_implies, implies_true,
    exists_toTextOrEmpty_iff_toText?]

/-- The owner of a table under either of its names. -/
def Table.owner (data : Entries) : Value := (data.get? "owner_service").getD (data.field "owner")

@[mk_iff]
structure Table.Readable (data : Entries) : Prop where
  fields : FieldsReadable ["id", "name", "source_file"] ["retention_days"] [] data
  owner : (Table.owner data).isWritable = true
  columns : ∀ v ∈ (data.field "fields").items, Column.Readable v.entries

theorem Table.exists_ofEntries_iff {data : Entries} :
    (∃ t, Table.ofEntries data = .ok t) ↔ Readable data := by
  cases howner : data.get? "owner_service"
  all_goals
    simp only [Table.ofEntries, owner, howner, Option.getD_none, Option.getD_some, exists_bind_iff,
      exists_pure_iff, exists_and_right, and_true, readable_iff, fieldsReadable_iff_exists,
      List.forall_mem_cons, List.not_mem_nil, false_implies, implies_true,
      exists_toTextOrEmpty_iff_toText?, exists_mapM_iff, Column.exists_ofValue_iff,
      Value.exists_toText?_iff]
    grind

def Endpoint.Readable (data : Entries) : Prop :=
  FieldsReadable ["id", "method", "path", "source_file"] [] ["use_cases"] data

theorem Endpoint.exists_ofEntries_iff {data : Entries} :
    (∃ e, Endpoint.ofEntries data = .ok e) ↔ Readable data := by
  simp only [Endpoint.ofEntries, exists_bind_iff, exists_pure_iff, exists_and_right, and_true,
    true_and, Readable, fieldsReadable_iff_exists, List.forall_mem_cons, List.not_mem_nil,
    false_implies, implies_true, exists_toTextOrEmpty_iff_toText?]
  grind

def FunctionEntity.Readable (data : Entries) : Prop :=
  FieldsReadable ["id", "name", "source_file"] [] ["use_cases"] data

theorem FunctionEntity.exists_ofEntries_iff {data : Entries} :
    (∃ f, FunctionEntity.ofEntries data = .ok f) ↔ Readable data := by
  simp only [FunctionEntity.ofEntries, exists_bind_iff, exists_pure_iff, exists_and_right, and_true,
    true_and, Readable, fieldsReadable_iff_exists, List.forall_mem_cons, List.not_mem_nil,
    false_implies, implies_true, exists_toTextOrEmpty_iff_toText?]
  grind

/-- Entities can be merged by their ids, and what results can be read. -/
structure EntitiesReadable (readable : Entries → Prop) (v : Value) : Prop where
  ids : ∀ e ∈ v.items.filterMap Value.entries?, (e.field "id").isWritable = true
  merged : ∀ es, mergeById v.items = .ok es → ∀ e ∈ es, readable e

theorem exists_mergeById_iff {items : List Value} : (∃ es, mergeById items = .ok es) ↔
    ∀ e ∈ items.filterMap Value.entries?, (e.field "id").isWritable = true := by
  have hkey (e : Entries) :
      (∃ key, mergeKey e = .ok key) ↔ (e.field "id").isWritable = true := by
    unfold mergeKey
    split
    · next h => simp [h, Value.isWritable, Scalar.isWritable]
    · exact Value.exists_written?_iff
  rw [mergeById, exists_map_iff, keyedItems, exists_mapM_iff]
  simp only [exists_map_iff, hkey]

section
variable {α : Type} {read : Entries → Except IntegerError α} {readable : Entries → Prop} {v : Value}

theorem exists_readEntities_iff (h : ∀ {data}, (∃ r, read data = .ok r) ↔ readable data) :
    (∃ es, mergeById v.items = .ok es ∧ ∀ e ∈ es, ∃ r, read e = .ok r) ↔
      EntitiesReadable readable v := by
  simp only [h]
  constructor
  · rintro ⟨es,hes,hall⟩
    refine ⟨exists_mergeById_iff.mp ⟨es,hes⟩,fun other ho => ?_⟩
    rw [hes] at ho
    exact Except.ok.inj ho ▸ hall
  · intro hreadable
    obtain ⟨es,hes⟩ := exists_mergeById_iff.mpr hreadable.ids
    exact ⟨es,hes,hreadable.merged es hes⟩

theorem exists_readEntities_and_iff (h : ∀ {data}, (∃ r, read data = .ok r) ↔ readable data)
    {rest : Prop} :
    (∃ es, mergeById v.items = .ok es ∧ (∀ e ∈ es, ∃ r, read e = .ok r) ∧ rest) ↔
      EntitiesReadable readable v ∧ rest := by
  rw [← exists_readEntities_iff h]
  simp only [← and_assoc, exists_and_right]

end

/-! ## Documents -/

@[mk_iff]
structure Document.Readable (data : Entries) : Prop where
  fields : FieldsReadable ["version", "project", "description", "author", "created",
    "last_updated"] [] [] data
  stack : ∀ entries, (data.field "stack").entries? = some entries → Stack.Readable entries
  useCases : ∀ v ∈ (data.field "use_cases").items, UseCase.Readable v.entries
  decisions : ∀ v ∈ (data.field "adrs").items, Decision.Readable v.entries
  deprecated : ∀ v ∈ (data.field "deprecated").items, UseCase.Readable v.entries
  tables : EntitiesReadable Table.Readable (data.field "db_tables")
  endpoints : EntitiesReadable Endpoint.Readable (data.field "endpoints")
  functions : EntitiesReadable FunctionEntity.Readable (data.field "functions")

namespace Document

theorem exists_readStack?_iff {v : Value} : (∃ s, readStack? v = .ok s) ↔
    ∀ entries, v.entries? = some entries → Stack.Readable entries := by
  rw [readStack?]
  cases v.entries? with
  | none => simp
  | some entries => simp [exists_map_iff, Stack.exists_ofEntries_iff]

theorem exists_readUseCases?_iff {v : Value} : (∃ us, readUseCases? v = .ok us) ↔
    ∀ item ∈ v.items, UseCase.Readable item.entries := by
  rw [readUseCases?, Value.items]
  cases v.items? with
  | none => simp
  | some items => simp [exists_map_iff, exists_mapM_iff, UseCase.exists_ofValue_iff]

/-- A value is read as a document exactly when none of the fields that are asked for fails. -/
theorem exists_ofValue_iff {v : Value} : (∃ d, ofValue v = .ok d) ↔ Readable v.entries := by
  simp only [ofValue, exists_bind_iff, exists_pure_iff, exists_and_right, and_true, readable_iff,
    fieldsReadable_iff_exists, List.forall_mem_cons, List.not_mem_nil, false_implies, implies_true,
    exists_mapM_iff, Decision.exists_ofValue_iff, UseCase.exists_ofValue_iff, exists_readStack?_iff,
    exists_readUseCases?_iff, exists_readEntities_and_iff Table.exists_ofEntries_iff,
    exists_readEntities_and_iff Endpoint.exists_ofEntries_iff,
    exists_readEntities_iff FunctionEntity.exists_ofEntries_iff, and_assoc]

end Document

end Traceability
