import Traceability.Proofs.Audit.Scope
import Traceability.Risk

/-! # What surveys and lookups look at

A survey sees the entities that were found in the source without their free entries, and of the use
cases the names and endpoints of the active function records. A lookup goes over the active use cases
alone. With what an audit looks at, nothing that was retired and nothing that is not modelled has a
part in any verdict.
-/
namespace Traceability
open Text

def Table.surveyed (t : Table) : Table := { t with extra := [] }

def Endpoint.surveyed (e : Endpoint) : Endpoint := { e with extra := [] }

def FunctionEntity.surveyed (f : FunctionEntity) : FunctionEntity := { f with extra := [] }

namespace Document

def links (d : Document) : List (Option String × Option String) :=
  d.activeFunctions.map fun p => (p.2.name,p.2.endpoint)

/-- A survey sees the same of two documents. -/
structure SurveyedAlike (d e : Document) : Prop where
  tables : d.tables.map Table.surveyed = e.tables.map Table.surveyed
  endpoints : d.endpoints.map Endpoint.surveyed = e.endpoints.map Endpoint.surveyed
  functions : d.functions.map FunctionEntity.surveyed = e.functions.map FunctionEntity.surveyed
  links : d.links = e.links

end Document

namespace Risk
variable {d e : Document}

theorem referencedEndpoints_eq_of_links (h : d.links = e.links) :
    referencedEndpoints d = referencedEndpoints e := by
  have hlinks : ∀ d : Document, referencedEndpoints d =
      d.links.filterMap fun link => (link.2.bind nonEmpty?).map endpointKey := by
    intro d
    rw [Document.links, List.filterMap_map]
    rfl
  rw [hlinks, hlinks, h]

theorem referencedFunctions_eq_of_links (h : d.links = e.links) :
    referencedFunctions d = referencedFunctions e := by
  have hlinks : ∀ d : Document, referencedFunctions d =
      d.links.filterMap fun link => link.1.bind nonEmpty? := by
    intro d
    rw [Document.links, List.filterMap_map]
    rfl
  rw [hlinks, hlinks, h]

theorem classify_of_surveyedAlike (h : d.SurveyedAlike e) : classify d = classify e := by
  have htables : ∀ ts : List Table,
      ts.flatMap tableViolations = (ts.map Table.surveyed).flatMap tableViolations := by
    intro ts
    rw [List.flatMap_map]
    rfl
  have hendpoints : ∀ (es : List Endpoint) (referenced : List String),
      es.flatMap (endpointViolations referenced) =
        (es.map Endpoint.surveyed).flatMap (endpointViolations referenced) := by
    intro es referenced
    rw [List.flatMap_map]
    rfl
  have hfunctions : ∀ (fs : List FunctionEntity) (referenced : List String),
      fs.flatMap (functionViolations referenced) =
        (fs.map FunctionEntity.surveyed).flatMap (functionViolations referenced) := by
    intro fs referenced
    rw [List.flatMap_map]
    rfl
  rw [classify, classify, htables, hendpoints, hfunctions, h.tables, h.endpoints, h.functions,
    referencedEndpoints_eq_of_links h.links, referencedFunctions_eq_of_links h.links, ← htables,
    ← hendpoints, ← hfunctions]

end Risk

namespace Document

theorem activeFunctions_eq_of_active {d e : Document} (h : d.active = e.active) :
    d.activeFunctions = e.activeFunctions := by
  rw [activeFunctions, activeFunctions, h]

/-- An audit, a survey and the lookups cannot tell documents apart of which they see the same. -/
theorem verdicts_agree (d e : Document) :
    (d.stack = e.stack → d.audited = e.audited → ∀ present rulesDir report,
      Audit.evaluate present rulesDir d report = Audit.evaluate present rulesDir e report) ∧
    (d.SurveyedAlike e → Risk.classify d = Risk.classify e) ∧
    (d.active = e.active →
      (∀ name, d.findFunction name = e.findFunction name) ∧
      ∀ method path, d.findEndpoint method path = e.findEndpoint method path) := by
  refine ⟨?audit,Risk.classify_of_surveyedAlike,?lookups⟩
  case audit =>
    intro hstack haudited present rulesDir report
    have hcheck : Audit.checkStack d = Audit.checkStack e := by
      rw [Audit.checkStack, Audit.checkStack, hstack]
    rw [Audit.evaluate_eq, Audit.evaluate_eq, Audit.logged_of_audited hcheck haudited]
  case lookups =>
    intro hactive
    have hfunctions : d.activeFunctions = e.activeFunctions := activeFunctions_eq_of_active hactive
    constructor
    · intro name
      rw [findFunction, findFunction, hfunctions]
    · intro method path
      rw [findEndpoint, findEndpoint, hfunctions]

def inUse : Document where
  useCases := some [{
    id := some "UC-001"
    status := some "implemented"
    functions := [{ name := some "save", endpoint := some "POST /orders" }] }]
  deprecated := [{ id := some "UC-002", status := some "deprecated" }]
  functions := [{ id := "fn_save", name := "save" }]

def inUseAgain : Document :=
  { inUse with
    deprecated := [{
      id := some "UC-002"
      status := some "deprecated"
      functions := [{ name := some "save", endpoint := some "POST /orders" }] }]
    functions := [{ id := "fn_save", name := "save", extra := [(.text "team",.text "orders")] }] }

theorem verdicts_agree_inUseAgain :
    inUse.deprecated.map (·.functions.length) ≠ inUseAgain.deprecated.map (·.functions.length) ∧
    Audit.evaluate (fun _ => true) "rules" inUse =
      Audit.evaluate (fun _ => true) "rules" inUseAgain ∧
    Risk.classify inUse = Risk.classify inUseAgain ∧
    inUse.findFunction (some "save") = inUseAgain.findFunction (some "save") ∧
    inUse.findEndpoint "post" "/orders" = inUseAgain.findEndpoint "post" "/orders" := by
  obtain ⟨haudit,hsurvey,hlookups⟩ := verdicts_agree inUse inUseAgain
  obtain ⟨hfunction,hendpoint⟩ := hlookups rfl
  exact ⟨by decide,haudit rfl rfl _ _ {},hsurvey ⟨rfl,rfl,rfl,rfl⟩,hfunction _,hendpoint _ _⟩

end Document

end Traceability
