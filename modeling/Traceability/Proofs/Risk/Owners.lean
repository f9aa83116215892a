import Traceability.Proofs.Document.Gathering
import Traceability.Proofs.Risk.Ghosts
import Traceability.Proofs.Value.Decide

/-! # Declared owners

A table is reported to have no owner by what its entries declare together. If one of them has the
key `owner_service`, the first value under it that is not null decides, and null if all are; only if
none has the key, the values under `owner` decide. So an owner under `owner` does not count next to
an `owner_service` that is null, and an owner in a later entry does not count behind an empty one.
-/
namespace Traceability
open Text Number

/-- The value is read as a text that is not empty. -/
def Value.Names (v : Value) : Prop := ∃ s, v.toText? = .ok (some s) ∧ s ≠ ""

theorem Value.names_iff_of_toTextOrEmpty {v : Value} {s : String} (h : v.toTextOrEmpty = .ok s) :
    v.Names ↔ s ≠ "" := by
  obtain ⟨text,htext,rfl⟩ := exists_of_map_eq_ok h
  rw [Names, htext]
  cases text <;> simp

theorem Value.Names.isNull_eq_false {v : Value} (h : v.Names) : v.isNull = false := by
  obtain ⟨s,hs,-⟩ := h
  rw [← Bool.not_eq_true]
  intro hnull
  rw [Value.eq_null_of_isNull hnull] at hs
  cases hs

/-! ## Owners of tables -/

def declaredOwner (group : List Entries) : Value :=
  ((groupValue? group (.text "owner_service")).or (groupValue? group (.text "owner"))).getD .null

theorem Table.owner_eq_declaredOwner {group : List Entries} {whole : Entries}
    (h : Gathers group whole) : Table.owner whole = declaredOwner group := by
  rw [Table.owner, declaredOwner, Entries.field, Entries.get?, Entries.get?, h.values, h.values]
  cases groupValue? group (.text "owner_service") <;> rfl

theorem Table.ownerService_ofEntries (data : Entries) : Ensures (Table.ofEntries data) fun t =>
    (t.ownerService.any (· != "") = true ↔ (Table.owner data).Names) := by
  unfold ofEntries
  refine .bind fun id _ => .bind fun name _ => .bind fun text htext => ?_
  iterate 3 refine .bind fun _ _ => ?_
  refine .pure ?_
  have howner : (Table.owner data).toTextOrEmpty = .ok text := by
    rw [Table.owner]
    cases hget : data.get? "owner_service" with
    | none =>
      rw [hget] at htext
      exact htext
    | some v =>
      rw [hget] at htext
      exact htext
  rw [Value.names_iff_of_toTextOrEmpty howner]
  by_cases hempty : text = "" <;> simp [nonEmpty?, hempty]

/-! ## Reports -/

def ReportsNoOwner (d : Document) (id : String) : Prop :=
  ∃ v ∈ Risk.classify d, v.code = .noOwner ∧ v.entityId = id

theorem reportsNoOwner_iff {d : Document} {id : String} : ReportsNoOwner d id ↔
    ∃ t ∈ d.tables, t.id = id ∧ ¬ t.ownerService.any (· != "") = true := by
  constructor
  · rintro ⟨v,hv,hcode,hid⟩
    rw [Risk.classify, Risk.flatMap_endpointViolations, Risk.flatMap_functionViolations,
      List.mem_append, List.mem_append, List.mem_flatMap, List.mem_map, List.mem_map] at hv
    rcases hv with (⟨t,ht,hmem⟩ | ⟨e,-,rfl⟩) | ⟨f,-,rfl⟩
    · simp only [Risk.tableViolations, List.mem_append, List.mem_ite_nil_left,
        List.mem_ite_nil_right, List.mem_singleton] at hmem
      rcases hmem with (⟨howner,rfl⟩ | ⟨-,rfl⟩) | ⟨-,rfl⟩
      · exact ⟨t,ht,hid,howner⟩
      · cases hcode
      · cases hcode
    · cases hcode
    · cases hcode
  · rintro ⟨t,ht,rfl,howner⟩
    refine ⟨Risk.noOwner t,?_,rfl,rfl⟩
    have hmem : Risk.noOwner t ∈ d.tables.flatMap Risk.tableViolations := by
      refine List.mem_flatMap.mpr ⟨t,ht,?_⟩
      rw [Risk.tableViolations, if_neg howner]
      simp
    rw [Risk.classify]
    exact List.mem_append_left _ (List.mem_append_left _ hmem)

def ReadsAs (id : String) (e : Entries) : Prop := (e.field "id").toTextOrEmpty = .ok id

theorem Moment.toText_ne_empty (m : Moment) (separator : Char) : m.toText separator ≠ "" := by
  intro h
  have hlist := congrArg String.toList h
  simp [Moment.toText] at hlist

theorem Value.shown_of_toTextOrEmpty {v : Value} {s : String} (h : v.toTextOrEmpty = .ok s)
    (hnull : v.isNull = false) (hmoment : v.isMoment = false) : v.shown = s := by
  obtain ⟨text,htext,rfl⟩ := exists_of_map_eq_ok h
  unfold toText? at htext
  split at htext
  · cases hnull
  · cases hmoment
  · cases htext
    rfl
  · obtain ⟨s,hs,rfl⟩ := exists_of_map_eq_ok htext
    rw [written?] at hs
    split at hs
    · exact Except.ok.inj hs
    · cases hs

theorem printedId_ne_empty_of_readsAs {id : String} {e : Entries} (h : ReadsAs id e)
    (hid : id ≠ "") : printedId e ≠ "" := by
  rw [ReadsAs] at h
  rw [printedId]
  generalize e.field "id" = v at h
  split
  · exact absurd (Except.ok.inj h).symm hid
  · next hnull =>
    cases hmoment : v.isMoment with
    | true =>
      unfold Value.isMoment at hmoment
      split at hmoment
      · exact Moment.toText_ne_empty _ ' '
      · cases hmoment
    | false =>
      have hgiven : v.isNull = false :=
        Bool.eq_false_iff.mpr fun h => hnull (Value.eq_null_of_isNull h)
      rwa [Value.shown_of_toTextOrEmpty h hgiven hmoment]

/-! ## Plain declarations -/

def DeclaresOwner (e : Entries) : Prop :=
  (e.field "owner_service").Names ∨ (e.field "owner").Names

/-- What is given under the two keys names an owner, and something is given under `owner_service` if
one of the entries has the key. -/
structure PlainOwners (group : List Entries) : Prop where
  service : ∀ e ∈ group, (e.field "owner_service").isNull = false → (e.field "owner_service").Names
  owner : ∀ e ∈ group, (e.field "owner").isNull = false → (e.field "owner").Names
  given : (∃ e ∈ group, e.has "owner_service" = true) →
    ∃ e ∈ group, (e.field "owner_service").isNull = false

theorem names_groupValue? {group : List Entries} {name : String}
    (hnames : ∀ e ∈ group, (e.field name).isNull = false → (e.field name).Names) {v : Value}
    (h : groupValue? group (.text name) = some v) (hv : v.isNull = false) : v.Names := by
  obtain ⟨e,he,hat⟩ := exists_of_groupValue? h
  have hfield : e.field name = v := by rw [Entries.field, Entries.get?, hat, Option.getD_some]
  exact hfield ▸ hnames e he (by rw [hfield, hv])

/-- Of plain declarations any will do. -/
theorem names_declaredOwner_iff {group : List Entries} (hplain : PlainOwners group) :
    (declaredOwner group).Names ↔ ∃ e ∈ group, DeclaresOwner e := by
  rw [declaredOwner]
  cases hservice : groupValue? group (.text "owner_service") with
  | some v =>
    obtain ⟨e,he,hat⟩ := exists_of_groupValue? hservice
    obtain ⟨f,hf,hgiven⟩ := hplain.given ⟨e,he,by rw [Entries.has, Entries.get?, hat]; rfl⟩
    obtain ⟨w,hw,hnull⟩ := exists_groupValue?_of_given hf hgiven
    obtain rfl : v = w := Option.some.inj (hservice.symm.trans hw)
    rw [Option.some_or, Option.getD_some]
    exact iff_of_true (names_groupValue? hplain.service hservice hnull)
      ⟨f,hf,.inl (hplain.service f hf hgiven)⟩
  | none =>
    have habsent : ∀ e ∈ group, ¬ (e.field "owner_service").Names := by
      intro e he hnames
      obtain ⟨w,hw,-⟩ := exists_groupValue?_of_given he hnames.isNull_eq_false
      rw [hservice] at hw
      cases hw
    rw [Option.none_or]
    constructor
    · intro hnames
      cases howner : groupValue? group (.text "owner") with
      | none =>
        rw [howner] at hnames
        cases hnames.isNull_eq_false
      | some v =>
        rw [howner, Option.getD_some] at hnames
        obtain ⟨e,he,hat⟩ := exists_of_groupValue? howner
        refine ⟨e,he,.inr ?_⟩
        rwa [Entries.field, Entries.get?, hat, Option.getD_some]
    · rintro ⟨e,he,hdeclares⟩
      have hnames := hdeclares.resolve_left (habsent e he)
      obtain ⟨w,hw,hnull⟩ := exists_groupValue?_of_given he hnames.isNull_eq_false
      rw [hw, Option.getD_some]
      exact names_groupValue? hplain.owner hw hnull

/-! ## Owners of documents -/

section
variable {v : Value} {d : Document}

def tableEntries (v : Value) : List Entries := mappings (v.entries.field "db_tables").items

/-- A table without an owner is reported exactly for the ids whose entries declare none together;
the id is that of the first of these entries. -/
theorem reportsNoOwner_iff_declaredOwner (hd : Document.ofValue v = .ok d)
    (hone : ∀ e ∈ tableEntries v, e.OneEach) {id : String} (hid : id ≠ "") :
    ReportsNoOwner d id ↔ ∃ leader ∈ leaders (tableEntries v),
      ReadsAs id leader ∧ ¬ (declaredOwner (sharing (tableEntries v) leader)).Names := by
  have htables := (Document.readFrom_ofValue v d hd).tables
  obtain ⟨result,hresult,hread⟩ := exists_of_bind_eq_ok htables
  have hall := forall₂_comp (forall₂_mergeById hone result hresult) (mapM_eq_ok_iff.mp hread)
  rw [reportsNoOwner_iff]
  symm
  refine exists_mem_iff_of_forall₂ (hall.imp ?_)
  rintro leader t ⟨whole,⟨hbecomes,hwhole⟩,ht⟩
  have htext : (leader.field "id").toTextOrEmpty = .ok t.id := by
    rw [← hwhole]
    exact Table.id_ofEntries whole t ht
  have hreads : ReadsAs id leader ↔ t.id = id := by
    rw [ReadsAs, htext]
    exact ⟨Except.ok.inj,congrArg Except.ok⟩
  rw [hreads]
  refine and_congr_right fun heq => not_congr ?_
  have hprinted := printedId_ne_empty_of_readsAs (hreads.mpr heq) hid
  rw [Becomes, if_neg hprinted] at hbecomes
  have howner : t.ownerService.any (· != "") = true ↔ (Table.owner whole).Names :=
    Table.ownerService_ofEntries whole t ht
  rw [howner, Table.owner_eq_declaredOwner hbecomes]
  exact Iff.rfl

/-- Entries with an id are those that print alike, and they declare their owners plainly. -/
structure PlainlyOwned (es : List Entries) (id : String) : Prop where
  alike : ∀ e ∈ es, ∀ f ∈ es, ReadsAs id e → (ReadsAs id f ↔ printedId f = printedId e)
  owners : ∀ e ∈ es, ReadsAs id e → PlainOwners (sharing es e)

/-- How a table without an owner is reported: by what the entries with one printed id declare
together, and, of plain declarations, by what any entry with the id declares. -/
structure OwnersReported (es : List Entries) (d : Document) (id : String) : Prop where
  together : ReportsNoOwner d id ↔ ∃ leader ∈ leaders es,
    ReadsAs id leader ∧ ¬ (declaredOwner (sharing es leader)).Names
  plain : PlainlyOwned es id →
    (ReportsNoOwner d id ↔ ∀ e ∈ es, ReadsAs id e → ¬ DeclaresOwner e)

/-- A table without an owner is reported by what its entries declare. -/
theorem ownersReported (hd : Document.ofValue v = .ok d) (hone : ∀ e ∈ tableEntries v, e.OneEach)
    {id : String} (hid : id ≠ "") (hused : ∃ e ∈ tableEntries v, ReadsAs id e) :
    OwnersReported (tableEntries v) d id := by
  have htogether := reportsNoOwner_iff_declaredOwner hd hone hid
  refine ⟨htogether,fun hplain => htogether.trans ?_⟩
  constructor
  · rintro ⟨leader,hleader,hreads,hnames⟩ e he hid
    have hmem := mem_of_mem_eraseDupsBy hleader
    rw [names_declaredOwner_iff (hplain.owners leader hmem hreads)] at hnames
    have hshares : e ∈ sharing (tableEntries v) leader :=
      List.mem_filter.mpr ⟨he,by simpa using (hplain.alike leader hmem e he hreads).mp hid⟩
    exact fun hdeclares => hnames ⟨e,hshares,hdeclares⟩
  · intro hnone
    obtain ⟨e,he,hreads⟩ := hused
    obtain ⟨leader,hleader,hprinted⟩ := exists_leader he
    have hmem : leader ∈ tableEntries v := mem_of_mem_eraseDupsBy hleader
    have hlead : ReadsAs id leader := (hplain.alike e he leader hmem hreads).mpr hprinted
    refine ⟨leader,hleader,hlead,?_⟩
    rw [names_declaredOwner_iff (hplain.owners leader hmem hlead)]
    rintro ⟨f,hf,hdeclares⟩
    obtain ⟨hf,hshares⟩ := List.mem_filter.mp hf
    have hfreads := (hplain.alike leader hmem f hf hlead).mpr (by simpa using hshares)
    exact hnone f hf hfreads hdeclares

end

def tablesOnly (tables : List Value) : Value := .map [(.text "db_tables",.list tables)]

/-- The second entry gives the owner that the first one leaves open, and nothing is reported. -/
theorem ownersReported_laterEntry :
    let v := tablesOnly [
      .map [(.text "id",.text "users"),(.text "audit_log",.bool true)],
      .map [(.text "id",.text "users"),(.text "owner",.text "auth")]]
    ∃ d, Document.ofValue v = .ok d ∧ OwnersReported (tableEntries v) d "users" ∧
      PlainlyOwned (tableEntries v) "users" ∧ ¬ ReportsNoOwner d "users" := by
  intro v
  have hone : ∀ e ∈ tableEntries v, e.OneEach := by decide
  have hid : "users" ≠ "" := by decide
  have hreads : ∀ e ∈ tableEntries v, ReadsAs "users" e := List.forall_mem_cons.mpr
    ⟨rfl,List.forall_mem_singleton.mpr rfl⟩
  have hprinted : ∀ e ∈ tableEntries v, printedId e = "users" := by decide
  have hdeclares : ∃ e ∈ tableEntries v, DeclaresOwner e :=
    ⟨_,List.mem_cons_of_mem _ List.mem_cons_self,.inr ⟨"auth",rfl,by decide⟩⟩
  have hplain : PlainlyOwned (tableEntries v) "users" := by
    refine ⟨fun e he f hf _ => iff_of_true (hreads f hf) ?_,fun e he _ => ⟨?_,?_,?_⟩⟩
    · rw [hprinted e he, hprinted f hf]
    · have hnull : ∀ f ∈ tableEntries v, (f.field "owner_service").isNull = true := by decide
      intro f hf hgiven
      rw [hnull f (List.mem_of_mem_filter hf)] at hgiven
      cases hgiven
    · have howner : ∀ f ∈ tableEntries v, (f.field "owner").isNull = false →
          f.field "owner" = .text "auth" := by decide
      intro f hf hgiven
      rw [howner f (List.mem_of_mem_filter hf) hgiven]
      exact ⟨"auth",rfl,by decide⟩
    · have habsent : ∀ f ∈ tableEntries v, f.has "owner_service" = false := by decide
      rintro ⟨f,hf,hhas⟩
      rw [habsent f (List.mem_of_mem_filter hf)] at hhas
      cases hhas
  obtain ⟨d,hd⟩ : ∃ d, Document.ofValue v = .ok d := ⟨_,rfl⟩
  have hreported := ownersReported hd hone hid ⟨_,List.mem_cons_self,rfl⟩
  refine ⟨d,hd,hreported,hplain,?_⟩
  rw [hreported.plain hplain]
  intro hnone
  obtain ⟨e,he,hdeclared⟩ := hdeclares
  exact hnone e he (hreads e he) hdeclared

/-- Next to an `owner_service` that is null the owner does not count. -/
theorem reportsNoOwner_nullService :
    let v := tablesOnly [.map [(.text "id",.text "t"),(.text "owner_service",.null),
      (.text "owner",.text "a")]]
    ∃ d, Document.ofValue v = .ok d ∧ ReportsNoOwner d "t" ∧
      ∃ e ∈ tableEntries v, ReadsAs "t" e ∧ DeclaresOwner e := by
  intro v
  refine ⟨_,rfl,?_,_,List.mem_cons_self,rfl,.inr ⟨"a",rfl,by decide⟩⟩
  exact ⟨_,List.mem_cons_self,rfl,rfl⟩

end Traceability
