import Mathlib.Tactic.Common
import Traceability.Proofs.Audit.Repeats
import Traceability.Risk

/-! # Ghosts and lookups

An endpoint or a function is a ghost when the lookups find no record of an active use case for it.
The risks go by the references of all records, which are collected once, and the lookups by the
first record that matches; both give the same answer. Only the empty name differs: a record can
have it, and the lookup finds that record, but it refers to nothing.
-/
namespace Traceability
open Text Audit

namespace Document

theorem findEndpoint_eq_none_iff {d : Document} {method path : String} :
    d.findEndpoint method path = none ↔
      endpointKey (method ++ " " ++ path) ∉ Risk.referencedEndpoints d := by
  rw [findEndpoint, Option.map_eq_none_iff, List.find?_eq_none, Risk.referencedEndpoints,
    List.mem_filterMap]
  simp only [beq_iff_eq, not_exists, not_and]

theorem queryEndpoint_eq_error_iff {d : Document} {method path : String} :
    d.queryEndpoint method path = .error ⟨method,path⟩ ↔ d.findEndpoint method path = none := by
  rw [queryEndpoint]
  cases d.findEndpoint method path <;> simp

theorem findFunction_eq_none_iff {d : Document} {name : String} (hname : name ≠ "") :
    d.findFunction (some name) = none ↔ name ∉ Risk.referencedFunctions d := by
  have hmem : ∀ f : FunctionRecord, f.name = some name ↔ f.name.bind nonEmpty? = some name := by
    intro f
    rw [← filledText?, filledText?_eq_some_iff]
    exact (and_iff_left hname).symm
  rw [findFunction, List.find?_eq_none, Risk.referencedFunctions, List.mem_filterMap]
  simp only [beq_iff_eq, hmem, not_exists, not_and]

end Document

namespace Risk

theorem empty_notMem_referencedFunctions (d : Document) : "" ∉ referencedFunctions d := by
  rw [referencedFunctions, List.mem_filterMap]
  rintro ⟨p,-,hp⟩
  exact (filledText?_eq_some_iff.mp hp).2 rfl

def unservedEndpoints (d : Document) : List Endpoint :=
  d.endpoints.filter fun e => (d.findEndpoint e.method e.path).isNone

/-- The functions without a name, and those for which the lookup finds nothing. -/
def unfoundFunctions (d : Document) : List FunctionEntity :=
  d.functions.filter fun f => f.name == "" || (d.findFunction (some f.name)).isNone

def endpointGhost (e : Endpoint) : Violation where
  id := "v_" ++ e.id ++ "_ghost"
  entityId := e.id
  entityKind := .endpoint
  severity := .warning
  code := .ghostEndpoint
  message := "Endpoint \"" ++ e.method ++ " " ++ e.path ++
    "\" is not linked to any use case (ghost logic)."
  autoFixable := true
  fixPrompt := some ("Analyse \"" ++ e.method ++ " " ++ e.path ++
    "\" and create a matching use case, or mark the endpoint as deprecated.")

def functionGhost (f : FunctionEntity) : Violation where
  id := "v_" ++ f.id ++ "_ghost"
  entityId := f.id
  entityKind := .function
  severity := .warning
  code := .ghostFunction
  message := "Function \"" ++ f.name ++ "\" is not linked to any use case (possible dead code)."
  autoFixable := true
  fixPrompt := some ("Check whether \"" ++ f.name ++ "\" is still used. " ++
    "If it is, link it to a use case; otherwise mark it as deprecated.")

theorem ghostEndpoint_eq (e : Endpoint) : ghostEndpoint e = endpointGhost e := by
  simp [ghostEndpoint, endpointGhost, Endpoint.signature, String.append_assoc]

theorem ghostFunction_eq (f : FunctionEntity) : ghostFunction f = functionGhost f := rfl

/-- What is found for each member that does not pass is found for the members that are left. -/
theorem flatMap_unless {α β : Type} {passes fails : α → Bool} (finding : α → β)
    (hfails : ∀ x, fails x = !passes x) (xs : List α) :
    (xs.flatMap fun x => if passes x then [] else [finding x]) = (xs.filter fails).map finding := by
  induction xs with
  | nil => rfl
  | cons x xs ih =>
    rw [List.flatMap_cons, ih, List.filter_cons, hfails x]
    cases passes x <;> rfl

theorem flatMap_endpointViolations (d : Document) :
    d.endpoints.flatMap (endpointViolations (referencedEndpoints d)) =
      (unservedEndpoints d).map endpointGhost := by
  have hown : endpointViolations (referencedEndpoints d) = fun e =>
      if (referencedEndpoints d).contains (endpointKey e.signature) then [] else [endpointGhost e] := by
    funext e
    rw [endpointViolations, ghostEndpoint_eq]
  rw [hown]
  refine flatMap_unless endpointGhost ?_ d.endpoints
  intro e
  rw [Bool.eq_iff_iff, Option.isNone_iff_eq_none, Document.findEndpoint_eq_none_iff,
    ← Endpoint.signature]
  simp

theorem flatMap_functionViolations (d : Document) :
    d.functions.flatMap (functionViolations (referencedFunctions d)) =
      (unfoundFunctions d).map functionGhost := by
  have hown : functionViolations (referencedFunctions d) = fun f =>
      if (referencedFunctions d).contains f.name then [] else [functionGhost f] := by
    funext f
    rw [functionViolations, ghostFunction_eq]
  rw [hown]
  refine flatMap_unless functionGhost ?_ d.functions
  intro f
  rw [Bool.eq_iff_iff, Bool.or_eq_true, Option.isNone_iff_eq_none, beq_iff_eq]
  by_cases hname : f.name = ""
  · simp [hname, empty_notMem_referencedFunctions]
  · simp [hname, Document.findFunction_eq_none_iff hname]

def ofCode (vs : List Violation) (code : ViolationCode) : List Violation :=
  vs.filter fun v => v.code == code

theorem ofCode_append (vs ws : List Violation) (code : ViolationCode) :
    ofCode (vs ++ ws) code = ofCode vs code ++ ofCode ws code :=
  List.filter_append ..

theorem ofCode_map_self {α : Type} {finding : α → Violation} {code : ViolationCode}
    (h : ∀ x, (finding x).code = code) (xs : List α) :
    ofCode (xs.map finding) code = xs.map finding := by
  rw [ofCode, List.filter_eq_self, List.forall_mem_map]
  intro x _
  exact beq_iff_eq.mpr (h x)

theorem ofCode_eq_nil {vs : List Violation} {code : ViolationCode} (h : ∀ v ∈ vs, v.code ≠ code) :
    ofCode vs code = [] := by
  rw [ofCode, List.filter_eq_nil_iff]
  intro v hv hcode
  exact h v hv (beq_iff_eq.mp hcode)

/-- No risk of a table is that of a ghost. -/
theorem of_mem_tableViolations {ts : List Table} {v : Violation}
    (h : v ∈ ts.flatMap tableViolations) :
    v.entityKind = .table ∧ v.code ≠ .ghostEndpoint ∧ v.code ≠ .ghostFunction := by
  obtain ⟨t,-,ht⟩ := List.mem_flatMap.mp h
  simp only [tableViolations, List.mem_append, List.mem_ite_nil_left, List.mem_ite_nil_right,
    List.mem_singleton] at ht
  rcases ht with (⟨-,rfl⟩ | ⟨-,rfl⟩) | ⟨-,rfl⟩ <;> simp [noOwner, piiNoAudit, noRetention]

/-- The ghosts of a document are the entities that the lookups do not find, each reported once and
in document order, endpoints before functions and both behind the tables. -/
structure GhostsByLookup (d : Document) : Prop where
  order : classify d = d.tables.flatMap tableViolations ++
    (unservedEndpoints d).map endpointGhost ++ (unfoundFunctions d).map functionGhost
  tables : ∀ v ∈ d.tables.flatMap tableViolations,
    v.entityKind = .table ∧ v.code ≠ .ghostEndpoint ∧ v.code ≠ .ghostFunction
  endpoints : ofCode (classify d) .ghostEndpoint = (unservedEndpoints d).map endpointGhost
  functions : ofCode (classify d) .ghostFunction = (unfoundFunctions d).map functionGhost
  refusals : ∀ e ∈ d.endpoints, d.queryEndpoint e.method e.path = .error ⟨e.method,e.path⟩ ↔
    d.findEndpoint e.method e.path = none

/-- The ghosts of every document are what the lookups do not find. -/
theorem classify_ghostsByLookup (d : Document) : GhostsByLookup d := by
  have horder : classify d = d.tables.flatMap tableViolations ++
      (unservedEndpoints d).map endpointGhost ++ (unfoundFunctions d).map functionGhost := by
    rw [classify, flatMap_endpointViolations, flatMap_functionViolations]
  refine ⟨horder,fun v => of_mem_tableViolations,?endpoints,?functions,
    fun e _ => Document.queryEndpoint_eq_error_iff⟩
  case endpoints =>
    have htables : ofCode (d.tables.flatMap tableViolations) .ghostEndpoint = [] :=
      ofCode_eq_nil fun v hv => (of_mem_tableViolations hv).2.1
    have hown : ∀ e, (endpointGhost e).code = .ghostEndpoint := fun _ => rfl
    have hfunctions : ofCode ((unfoundFunctions d).map functionGhost) .ghostEndpoint = [] :=
      ofCode_eq_nil (List.forall_mem_map.mpr fun f _ => by simp [functionGhost])
    rw [horder, ofCode_append, ofCode_append, htables, hfunctions, List.append_nil,
      List.nil_append, ofCode_map_self hown]
  case functions =>
    have htables : ofCode (d.tables.flatMap tableViolations) .ghostFunction = [] :=
      ofCode_eq_nil fun v hv => (of_mem_tableViolations hv).2.2
    have hown : ∀ f, (functionGhost f).code = .ghostFunction := fun _ => rfl
    have hendpoints : ofCode ((unservedEndpoints d).map endpointGhost) .ghostFunction = [] :=
      ofCode_eq_nil (List.forall_mem_map.mpr fun e _ => by simp [endpointGhost])
    rw [horder, ofCode_append, ofCode_append, htables, hendpoints, List.nil_append,
      List.nil_append, ofCode_map_self hown]

end Risk
end Traceability
