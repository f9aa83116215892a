import Mathlib.Algebra.BigOperators.Group.List.Basic
import Mathlib.Algebra.GroupWithZero.Nat
import Mathlib.Tactic.Common
import Mathlib.Tactic.MkIffOfInductiveProp
import Traceability.Proofs.FirstUses
import Traceability.Survey

/-! # Worst tiers and parts

The worst tier of some violations is described by what it is: some violation has it, and none is
worse. So it depends on nothing but which violations there are. Cut by entity, the violations fall
into parts that lose none of them and repeat none, and what is said of the parts adds up to what is
said of the whole.
-/
namespace Traceability

namespace RiskSeverity

def rank (tier : RiskSeverity) : Nat := all.idxOf tier

theorem mem_all (tier : RiskSeverity) : tier ∈ all := by cases tier <;> simp [all]

theorem eq_of_rank_eq {tier other : RiskSeverity} (h : tier.rank = other.rank) : tier = other :=
  (List.idxOf_inj (mem_all tier)).mp h

/-- The first tier that passes a test is as bad as any other that passes it. -/
theorem rank_le_of_find? {test : RiskSeverity → Bool} {tier other : RiskSeverity}
    (h : all.find? test = some tier) (hother : test other = true) : tier.rank ≤ other.rank := by
  obtain ⟨htier,front,back,hall,hfront⟩ := List.find?_eq_some_iff_append.mp h
  have hout : ∀ s, test s = true → s ∉ front := by
    intro s hs hmem
    have hfails := hfront s hmem
    rw [hs] at hfails
    cases hfails
  rw [rank, rank, hall, List.idxOf_append_of_notMem (hout tier htier),
    List.idxOf_append_of_notMem (hout other hother), List.idxOf_cons_self]
  omega

/-- The worse of two tiers, either of which may be missing. -/
def worse : Option RiskSeverity → Option RiskSeverity → Option RiskSeverity
  | none, other => other
  | some tier, none => some tier
  | some tier, some other => some (if tier.rank ≤ other.rank then tier else other)

end RiskSeverity

namespace Risk
open RiskSeverity

section
variable {vs ws : List Violation} {tier other : RiskSeverity}

/-! ## The worst tier -/

/-- Some violation is of the tier, and none is of a worse one. -/
@[mk_iff]
structure IsWorst (vs : List Violation) (tier : RiskSeverity) : Prop where
  occurs : ∃ v ∈ vs, v.severity = tier
  bounds : ∀ v ∈ vs, tier.rank ≤ v.severity.rank

theorem IsWorst.unique (h : IsWorst vs tier) (hother : IsWorst vs other) : tier = other := by
  obtain ⟨v,hv,rfl⟩ := h.occurs
  obtain ⟨w,hw,rfl⟩ := hother.occurs
  exact eq_of_rank_eq (Nat.le_antisymm (h.bounds w hw) (hother.bounds v hv))

theorem worst?_eq_none_iff : worst? vs = none ↔ vs = [] := by
  rw [worst?, List.find?_eq_none, List.eq_nil_iff_forall_not_mem]
  constructor
  · intro h v hv
    refine h v.severity (mem_all _) (List.any_eq_true.mpr ⟨v,hv,beq_self_eq_true _⟩)
  · intro h tier _ hany
    obtain ⟨v,hv,-⟩ := List.any_eq_true.mp hany
    exact h v hv

theorem isWorst_of_worst? (h : worst? vs = some tier) : IsWorst vs tier := by
  constructor
  · have hany : (vs.any fun v => v.severity == tier) = true :=
      List.find?_some (p := fun tier => vs.any fun v => v.severity == tier) h
    obtain ⟨v,hv,htier⟩ := List.any_eq_true.mp hany
    exact ⟨v,hv,beq_iff_eq.mp htier⟩
  · intro v hv
    exact rank_le_of_find? h (List.any_eq_true.mpr ⟨v,hv,beq_self_eq_true _⟩)

theorem worst?_eq_some_iff : worst? vs = some tier ↔ IsWorst vs tier := by
  refine ⟨isWorst_of_worst?,fun h => ?_⟩
  cases hworst : worst? vs with
  | none =>
    obtain ⟨v,hv,-⟩ := h.occurs
    rw [worst?_eq_none_iff.mp hworst] at hv
    cases hv
  | some found => rw [(isWorst_of_worst? hworst).unique h]

theorem isWorst_critical_iff : IsWorst vs .critical ↔ ∃ v ∈ vs, v.severity = .critical := by
  refine ⟨IsWorst.occurs,fun h => ⟨h,fun v _ => ?_⟩⟩
  exact Nat.zero_le v.severity.rank

theorem isWorst_warning_iff : IsWorst vs .warning ↔
    (∃ v ∈ vs, v.severity = .warning) ∧ ∀ v ∈ vs, v.severity ≠ .critical := by
  have hrank : ∀ tier : RiskSeverity, RiskSeverity.warning.rank ≤ tier.rank ↔ tier ≠ .critical := by
    intro tier
    cases tier <;> decide
  simp only [isWorst_iff, hrank]

/-- Neither the order of the violations nor how often they come has a part in the worst tier. -/
theorem worst?_eq_of_mem_iff (h : ∀ v, v ∈ vs ↔ v ∈ ws) : worst? vs = worst? ws := by
  have htest : ∀ tier : RiskSeverity, (vs.any fun v => v.severity == tier) =
      ws.any fun v => v.severity == tier := by
    intro tier
    rw [Bool.eq_iff_iff, List.any_eq_true, List.any_eq_true]
    simp only [h]
  simp only [worst?, htest]

theorem IsWorst.append (hvs : IsWorst vs tier) (hws : IsWorst ws other)
    (h : tier.rank ≤ other.rank) : IsWorst (vs ++ ws) tier := by
  obtain ⟨v,hv,hseverity⟩ := hvs.occurs
  refine ⟨⟨v,List.mem_append_left ws hv,hseverity⟩,fun w hw => ?_⟩
  rcases List.mem_append.mp hw with hw | hw
  · exact hvs.bounds w hw
  · exact Nat.le_trans h (hws.bounds w hw)

theorem worst?_append (vs ws : List Violation) :
    worst? (vs ++ ws) = worse (worst? vs) (worst? ws) := by
  cases hvs : worst? vs with
  | none =>
    rw [worst?_eq_none_iff.mp hvs]
    rfl
  | some tier =>
    cases hws : worst? ws with
    | none =>
      rw [worst?_eq_none_iff.mp hws, List.append_nil, hvs]
      rfl
    | some other =>
      have hfirst := isWorst_of_worst? hvs
      have hsecond := isWorst_of_worst? hws
      rw [worse]
      split
      · next hle => exact worst?_eq_some_iff.mpr (hfirst.append hsecond hle)
      · next hlt =>
        have hswap : ∀ v, v ∈ vs ++ ws ↔ v ∈ ws ++ vs := fun v => List.perm_append_comm.mem_iff
        rw [worst?_eq_of_mem_iff hswap, worst?_eq_some_iff]
        exact hsecond.append hfirst (Nat.le_of_not_le hlt)

/-! ## Parts -/

theorem mem_ofEntity_iff {v : Violation} {id : String} :
    v ∈ ofEntity vs id ↔ v ∈ vs ∧ v.entityId = id := by
  rw [ofEntity, List.mem_filter, beq_iff_eq]

theorem ofEntity_sublist (vs : List Violation) (id : String) : (ofEntity vs id).Sublist vs :=
  List.filter_sublist

/-- The parts of entities among which are all that have a violation make up the whole, by induction on
the entities: the part of the first one is what the other parts leave. -/
theorem flatMap_ofEntity_perm {ids : List String} (hnodup : ids.Nodup)
    (hall : ∀ v ∈ vs, v.entityId ∈ ids) : (ids.flatMap (ofEntity vs)).Perm vs := by
  induction ids generalizing vs with
  | nil =>
    rw [List.eq_nil_iff_forall_not_mem.mpr fun v hv => List.not_mem_nil (hall v hv)]
    exact .refl _
  | cons id ids ih =>
    obtain ⟨hid,htail⟩ := List.nodup_cons.mp hnodup
    have hrest : ids.flatMap (ofEntity vs) =
        ids.flatMap (ofEntity (vs.filter fun v => !(v.entityId == id))) := by
      rw [List.flatMap_def, List.flatMap_def]
      refine congrArg List.flatten (List.map_congr_left fun other hother => ?_)
      rw [ofEntity, ofEntity, List.filter_filter]
      refine List.filter_congr fun v _ => ?_
      by_cases hv : v.entityId = other
      · have hne : v.entityId ≠ id := by
          rintro rfl
          exact hid (hv ▸ hother)
        simp [hv ▸ hne, hv]
      · simp [hv]
    have hleft : ∀ v ∈ vs.filter fun v => !(v.entityId == id), v.entityId ∈ ids := by
      intro v hv
      obtain ⟨hmem,hne⟩ := List.mem_filter.mp hv
      exact (List.mem_cons.mp (hall v hmem)).resolve_left (by simpa using hne)
    rw [List.flatMap_cons, hrest]
    exact ((ih htail hleft).append_left _).trans (List.filter_append_perm _ vs)

/-- The counts of the parts add up to that of the whole. -/
theorem sum_count_ofEntity {ids : List String} (hnodup : ids.Nodup)
    (hall : ∀ v ∈ vs, v.entityId ∈ ids) (tier : RiskSeverity) :
    (ids.map fun id => count (ofEntity vs id) tier).sum = count vs tier := by
  have hperm := (flatMap_ofEntity_perm hnodup hall).countP_eq fun v => v.severity == tier
  rw [List.countP_flatMap] at hperm
  exact hperm

end

def entityIds (vs : List Violation) : List String := (vs.map (·.entityId)).eraseDups

theorem entityId_mem_entityIds {vs : List Violation} : ∀ v ∈ vs, v.entityId ∈ entityIds vs :=
  fun _ hv => List.mem_eraseDups.mpr (List.mem_map_of_mem hv)

end Risk

/-! ## Surveys -/

namespace Document

def entityIds (d : Document) : List String :=
  (d.tables.map (·.id) ++ d.endpoints.map (·.id) ++ d.functions.map (·.id)).eraseDups

end Document

namespace Risk
open RiskSeverity

section
variable {d : Document} {v : Violation}

theorem mem_tableViolations {t : Table} (h : v ∈ tableViolations t) :
    v.entityId = t.id ∧ v.severity ≠ .info := by
  simp only [tableViolations, List.mem_append, List.mem_ite_nil_left, List.mem_ite_nil_right,
    List.mem_singleton] at h
  rcases h with (⟨-,rfl⟩ | ⟨-,rfl⟩) | ⟨-,rfl⟩ <;> simp [noOwner, piiNoAudit, noRetention]

theorem mem_endpointViolations {referenced : List String} {e : Endpoint}
    (h : v ∈ endpointViolations referenced e) : v.entityId = e.id ∧ v.severity ≠ .info := by
  rw [endpointViolations, List.mem_ite_nil_left, List.mem_singleton] at h
  obtain ⟨-,rfl⟩ := h
  simp [ghostEndpoint]

theorem mem_functionViolations {referenced : List String} {f : FunctionEntity}
    (h : v ∈ functionViolations referenced f) : v.entityId = f.id ∧ v.severity ≠ .info := by
  rw [functionViolations, List.mem_ite_nil_left, List.mem_singleton] at h
  obtain ⟨-,rfl⟩ := h
  simp [ghostFunction]

/-- A violation is one of an entity, and it is no mere remark. -/
theorem mem_classify (h : v ∈ classify d) : v.entityId ∈ d.entityIds ∧ v.severity ≠ .info := by
  simp only [classify, List.mem_append, List.mem_flatMap] at h
  simp only [Document.entityIds, List.mem_eraseDups, List.mem_append]
  rcases h with (⟨t,ht,hv⟩ | ⟨e,he,hv⟩) | ⟨f,hf,hv⟩
  · obtain ⟨hid,hsevere⟩ := mem_tableViolations hv
    exact ⟨.inl (.inl (hid ▸ List.mem_map_of_mem ht)),hsevere⟩
  · obtain ⟨hid,hsevere⟩ := mem_endpointViolations hv
    exact ⟨.inl (.inr (hid ▸ List.mem_map_of_mem he)),hsevere⟩
  · obtain ⟨hid,hsevere⟩ := mem_functionViolations hv
    exact ⟨.inr (hid ▸ List.mem_map_of_mem hf),hsevere⟩

end

structure Collapses (vs : List Violation) : Prop where
  none_iff : worst? vs = none ↔ vs = []
  some_iff : ∀ tier, worst? vs = some tier ↔ IsWorst vs tier
  members : ∀ ws, (∀ v, v ∈ vs ↔ v ∈ ws) → worst? vs = worst? ws
  append : ∀ ws, worst? (vs ++ ws) = worse (worst? vs) (worst? ws)

/-- Every violation is in the part of its entity and in no other one, as often as it comes and in the
order of the whole. -/
structure Parted (vs : List Violation) : Prop where
  ids : (entityIds vs).Nodup
  whole : ((entityIds vs).flatMap (ofEntity vs)).Perm vs
  own : ∀ v ∈ vs, v.entityId ∈ entityIds vs ∧ ∀ id, v ∈ ofEntity vs id ↔ id = v.entityId
  order : ∀ id, (ofEntity vs id).Sublist vs

theorem collapses (vs : List Violation) : Collapses vs :=
  ⟨worst?_eq_none_iff,fun _ => worst?_eq_some_iff,fun _ => worst?_eq_of_mem_iff,worst?_append vs⟩

theorem parted (vs : List Violation) : Parted vs := by
  have hnodup := nodup_eraseDups (vs.map (·.entityId))
  refine ⟨hnodup,flatMap_ofEntity_perm hnodup entityId_mem_entityIds,?_,ofEntity_sublist vs⟩
  intro v hv
  refine ⟨entityId_mem_entityIds v hv,fun id => ?_⟩
  rw [mem_ofEntity_iff, eq_comm]
  exact and_iff_right hv

end Risk

namespace Survey
open Risk

/-- The answers for the single entities of a document and the answer for all of it. -/
structure AddsUp (d : Document) : Prop where
  listed : ∀ entity, (ofDocument d entity).toJson.get? "violations" =
    some (.list ((ofDocument d entity).violations.map violationJson))
  together : (d.entityIds.flatMap fun id => (ofDocument d (some id)).violations).Perm
    (ofDocument d none).violations
  own : ∀ v ∈ (ofDocument d none).violations, v.entityId ∈ d.entityIds ∧
    ∀ id, v ∈ (ofDocument d (some id)).violations ↔ id = v.entityId
  order : ∀ id, (ofDocument d (some id)).violations.Sublist (ofDocument d none).violations
  summary : ∀ tier : RiskSeverity,
    ((ofDocument d none).toJson.get? "summary").bind (·.get? tier.name) =
      some (.ofNat (d.entityIds.map fun id => count (ofDocument d (some id)).violations tier).sum)
  tiers : ∀ v ∈ (ofDocument d none).violations, v.severity = .critical ∨ v.severity = .warning
  critical : ∀ id, (ofDocument d (some id)).toJson.get? "worst_severity" = some (.text "critical") ↔
    ∃ v ∈ (ofDocument d none).violations, v.entityId = id ∧ v.severity = .critical
  warning : ∀ id, (ofDocument d (some id)).toJson.get? "worst_severity" = some (.text "warning") ↔
    (∃ v ∈ (ofDocument d none).violations, v.entityId = id ∧ v.severity = .warning) ∧
      ∀ v ∈ (ofDocument d none).violations, v.entityId = id → v.severity ≠ .critical
  null : ∀ id, (ofDocument d (some id)).toJson.get? "worst_severity" = some .null ↔
    ∀ v ∈ (ofDocument d none).violations, v.entityId ≠ id

theorem get?_worst_severity (d : Document) (id : String) :
    (ofDocument d (some id)).toJson.get? "worst_severity" =
      some (tierJson (worst? (ofEntity (classify d) id))) := rfl

theorem get?_summary (d : Document) (tier : RiskSeverity) :
    ((ofDocument d none).toJson.get? "summary").bind (·.get? tier.name) =
      some (.ofNat (count (classify d) tier)) := by
  cases tier <;> rfl

theorem tierJson_eq_text_iff {found : Option RiskSeverity} {tier : RiskSeverity} :
    tierJson found = .text tier.name ↔ found = some tier := by
  cases found with
  | none => simp [tierJson, Json.ofText?]
  | some other => cases other <;> cases tier <;> simp [tierJson, Json.ofText?, RiskSeverity.name]

theorem tierJson_eq_null_iff {found : Option RiskSeverity} : tierJson found = .null ↔ found = none := by
  cases found <;> simp [tierJson, Json.ofText?]

theorem addsUp (d : Document) : AddsUp d := by
  have hids : ∀ v ∈ classify d, v.entityId ∈ d.entityIds := fun v hv => (mem_classify hv).1
  have htiers : ∀ v ∈ classify d, v.severity = .critical ∨ v.severity = .warning := by
    intro v hv
    have hsevere := (mem_classify hv).2
    cases hseverity : v.severity with
    | critical => exact .inl rfl
    | warning => exact .inr rfl
    | info => exact absurd hseverity hsevere
  have hnodup : d.entityIds.Nodup := nodup_eraseDups _
  refine ⟨?listed,flatMap_ofEntity_perm hnodup hids,?own,ofEntity_sublist _,?summary,htiers,
    ?toCritical,?toWarning,?toNull⟩
  case listed =>
    intro entity
    cases entity <;> rfl
  case own =>
    intro v hv
    exact ⟨hids v hv,((parted (classify d)).own v hv).2⟩
  case summary =>
    intro tier
    rw [get?_summary, ← sum_count_ofEntity hnodup hids]
    rfl
  case toCritical =>
    intro id
    rw [get?_worst_severity, Option.some_inj]
    exact tierJson_eq_text_iff.trans ((worst?_eq_some_iff.trans isWorst_critical_iff).trans
      (by simp only [mem_ofEntity_iff, and_assoc]; rfl))
  case toWarning =>
    intro id
    rw [get?_worst_severity, Option.some_inj]
    exact tierJson_eq_text_iff.trans ((worst?_eq_some_iff.trans isWorst_warning_iff).trans
      (by simp only [mem_ofEntity_iff, and_assoc, and_imp]; rfl))
  case toNull =>
    intro id
    rw [get?_worst_severity, Option.some_inj, tierJson_eq_null_iff, worst?_eq_none_iff, ofEntity,
      List.filter_eq_nil_iff]
    simp only [beq_iff_eq]
    rfl

/-- The worst tier is a function of which violations there are, the violations of single entities are
parts of the whole, and the surveys of single entities together say what the survey of the whole
document says. -/
theorem parts_consistent :
    (∀ vs, Collapses vs ∧ Parted vs) ∧ ∀ d, AddsUp d :=
  ⟨fun vs => ⟨collapses vs,parted vs⟩,addsUp⟩

end Survey

end Traceability
