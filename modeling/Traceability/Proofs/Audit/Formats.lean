import Traceability.Proofs.Audit.Forms
import Traceability.Proofs.Audit.RepeatedIds
import Traceability.Proofs.Audit.Warnings

/-! # Reported formats

A report says of the last date, of the ids of use cases and decisions and of the ids of visual
elements whether they have their forms. What it says is decided by what is accepted, so it is right
about a document in which every text that is accepted is plain.
-/
namespace Traceability.Audit
open Format Text

open scoped Classical in
noncomputable def wellformed (form : List Char → Prop) (given : Option String) : Bool :=
  given.any fun s => form s.toList

open scoped Classical in
noncomputable def misformed (form : List Char → Prop) (given : Option String) : Bool :=
  given.any fun s => ¬ form s.toList

def formattedTexts (d : Document) : Formatted → List String
  | .date => (filledText? d.lastUpdated).toList
  | .useCaseId => d.givenIds
  | .decisionId => d.decisions.filterMap fun a => filledText? a.id
  | .elementId => d.active.filterMap ownElement

def PlainlyFormatted (d : Document) : Prop :=
  ∀ kind, ∀ s ∈ formattedTexts d kind, kind.accepted s.toList → Plain s.toList

/-! ## Findings -/

def missingField (name : String) : Finding :=
  failure .documentStructure s!"Matrix top-level field missing: {name}"

def misformedDate (d : Document) : Finding :=
  failure .documentStructure s!"last_updated is not YYYY-MM-DD format: \"{shown d.lastUpdated}\""

def noUseCases : Finding :=
  failure .documentStructure "Matrix use_cases field is missing or not a list"

def misformedId (u : UseCase) : Finding :=
  warning .identity s!"Use case ID \"{shown u.id}\" does not follow UC-XXX format"

def misformedDecisionId (a : Decision) : Finding :=
  warning .decisionFormat s!"ADR missing or invalid id (expected ADR-XXX): {literalOrNone a.id}"

/-- The warnings on a decision that are not about its id. -/
def otherDecisionWarnings (a : Decision) : List Finding :=
  let label := if filled a.id then shown a.id else "unknown"
  onlyIf (!(a.status.any Decision.validStatuses.contains))
    (warning .decisionFormat s!"ADR {label} has invalid status \"{shown a.status}\"") ++
  onlyIf a.alternativesConsidered.isEmpty
    (warning .decisionFormat s!"ADR {label} has no alternatives_considered")

def misformedElement (u : UseCase) : Finding :=
  let element := shown (ownElement u)
  warning .metaInjection
    s!"UC {shown u.id}: visual_element_id \"{element}\" does not match VE-[Entity]-[Action]"

/-- A report says which texts have not the forms of their kinds, next to what else there is of the
same severity under the same rules. -/
structure FormatsReported (form : Formatted → List Char → Prop) (d : Document) (r : Report) :
    Prop where
  dates : ofRule .documentStructure r.errors =
    ((requiredFields d).filter fun field => !filled field.2).map (fun field => missingField field.1) ++
      onlyIf (misformed (form .date) (filledText? d.lastUpdated)) (misformedDate d) ++
      onlyIf d.useCases.isNone noUseCases
  useCaseIds : ofRule .identity r.warnings =
    (d.allUseCases.filter fun u => misformed (form .useCaseId) (filledText? u.id)).map misformedId
  decisionIds : ofRule .decisionFormat r.warnings = d.decisions.flatMap fun a =>
    onlyIf (!wellformed (form .decisionId) (filledText? a.id)) (misformedDecisionId a) ++
      otherDecisionWarnings a
  elementIds : ofRule .metaInjection r.warnings =
    (d.active.filter fun u => misformed (form .elementId) (ownElement u)).map misformedElement

/-! ## Checks -/

section
variable {kind : Formatted} {given : Option String}

theorem any_filledText? (v : Option String) (test : String → Bool) :
    (filledText? v).any test = (filled v && test (shown v)) := by
  rw [filled_eq_isSome]
  cases h : filledText? v with
  | none => rfl
  | some s =>
    rw [shown_of_filledText? h, Option.any_some, Option.isSome_some, Bool.true_and]

theorem wellformed_iff {form : List Char → Prop} :
    wellformed form given = true ↔ ∃ s, given = some s ∧ form s.toList := by
  cases given <;> simp [wellformed]

theorem misformed_iff {form : List Char → Prop} :
    misformed form given = true ↔ ∃ s, given = some s ∧ ¬ form s.toList := by
  cases given <;> simp [misformed]

theorem wellformed_accepted : wellformed kind.accepted given = given.any kind.accepts := by
  rw [Bool.eq_iff_iff, wellformed_iff]
  cases given <;> simp [kind.accepts_iff]

theorem misformed_accepted :
    misformed kind.accepted given = given.any fun s => !kind.accepts s := by
  rw [Bool.eq_iff_iff, misformed_iff]
  cases given <;> simp [← kind.accepts_iff]

end

section
variable (d : Document)

theorem errors_checkTopLevel : (checkTopLevel d).filter (·.severity == .error) =
    ((requiredFields d).filter fun field => !filled field.2).map (fun field => missingField field.1) ++
      onlyIf ((filledText? d.lastUpdated).any fun s => !isDate s) (misformedDate d) ++
      onlyIf d.useCases.isNone noUseCases := by
  have hseverity : ∀ field : String × Option String,
      ((checkRequired field.1 field.2).severity == .error) = !filled field.2 := by
    intro field
    rw [checkRequired]
    cases filled field.2 <;> rfl
  have hrequired : ((requiredFields d).map fun field => checkRequired field.1 field.2).filter
      (·.severity == .error) = ((requiredFields d).filter fun field => !filled field.2).map
        fun field => missingField field.1 := by
    simp only [List.filter_map, Function.comp_def, hseverity]
    refine List.map_congr_left fun field hfield => ?_
    have hmissing : filled field.2 = false := by simpa using (List.mem_filter.mp hfield).2
    rw [checkRequired, hmissing, if_neg Bool.false_ne_true, missingField]
  have hdate : (onlyIf (filled d.lastUpdated && !isDate (shown d.lastUpdated))
      (misformedDate d)).filter (·.severity == .error) =
        onlyIf ((filledText? d.lastUpdated).any fun s => !isDate s) (misformedDate d) := by
    rw [any_filledText?]
    cases filled d.lastUpdated && !isDate (shown d.lastUpdated) <;> rfl
  rw [checkTopLevel, List.filter_append, List.filter_append, hrequired, ← hdate]
  congr 1
  cases d.useCases <;> rfl

theorem warningsOf_checkUseCase (u : UseCase) : warningsOf (checkUseCase u) =
    onlyIf ((filledText? u.id).any fun s => !isUseCaseId s) (misformedId u) := by
  simp [checkUseCase, any_filledText?, misformedId]

theorem warningsOf_checkDecision (a : Decision) : warningsOf (checkDecision a) =
    onlyIf (!(filledText? a.id).any isDecisionId) (misformedDecisionId a) ++
      otherDecisionWarnings a := by
  simp [checkDecision, any_filledText?, misformedDecisionId, otherDecisionWarnings]

theorem warningsOf_checkElement (u : UseCase) (seen : List String) :
    warningsOf (checkElement u seen).1 =
      onlyIf ((ownElement u).any fun s => !isVisualElementId s) (misformedElement u) := by
  cases hu : u.visualElementId with
  | none => simp [checkElement, ownElement, hu, onlyIf]
  | some element =>
    by_cases hpending : element = pendingElement
    · simp [checkElement, ownElement, hu, hpending, onlyIf]
    · have hown : ownElement u = some element := by simp [ownElement, hu, hpending]
      rw [misformedElement, hown, Option.any_some, shown]
      simp only [checkElement, hu, if_neg hpending]
      split <;> simp

theorem warningsOf_checkElementsFrom (seen : List String) (us : List UseCase) :
    warningsOf (checkElementsFrom seen us) = us.flatMap fun u =>
      onlyIf ((ownElement u).any fun s => !isVisualElementId s) (misformedElement u) :=
  filter_checkElementsFrom warningsOf_checkElement seen us

end

/-! ## Reports -/

section
variable {form form' : Formatted → List Char → Prop} {d : Document} {r : Report}

theorem wellformed_congr {p q : List Char → Prop} {given : Option String}
    (h : ∀ s, given = some s → (p s.toList ↔ q s.toList)) : wellformed p given = wellformed q given := by
  rw [Bool.eq_iff_iff, wellformed_iff, wellformed_iff]
  exact exists_congr fun s => and_congr_right (h s)

theorem misformed_congr {p q : List Char → Prop} {given : Option String}
    (h : ∀ s, given = some s → (p s.toList ↔ q s.toList)) : misformed p given = misformed q given := by
  rw [Bool.eq_iff_iff, misformed_iff, misformed_iff]
  exact exists_congr fun s => and_congr_right fun hs => not_congr (h s hs)

/-- Forms that the same texts of a document have are reported alike. -/
theorem FormatsReported.congr (h : FormatsReported form d r)
    (hforms : ∀ kind, ∀ s ∈ formattedTexts d kind, form kind s.toList ↔ form' kind s.toList) :
    FormatsReported form' d r := by
  refine ⟨?dates,?useCaseIds,?decisionIds,?elementIds⟩
  case dates =>
    rw [h.dates, misformed_congr fun s hs => hforms .date s (Option.mem_toList.mpr hs)]
  case useCaseIds =>
    rw [h.useCaseIds]
    congr 1
    refine List.filter_congr fun u hu => misformed_congr fun s hs => ?_
    exact hforms .useCaseId s (List.mem_filterMap.mpr ⟨u,hu,hs⟩)
  case decisionIds =>
    rw [h.decisionIds]
    refine List.flatMap_congr fun a ha => ?_
    rw [wellformed_congr fun s hs => hforms .decisionId s (List.mem_filterMap.mpr ⟨a,ha,hs⟩)]
  case elementIds =>
    rw [h.elementIds]
    congr 1
    refine List.filter_congr fun u hu => misformed_congr fun s hs => ?_
    exact hforms .elementId s (List.mem_filterMap.mpr ⟨u,hu,hs⟩)

theorem formatsReported_accepted (present : String → Bool) (rulesDir : String) (d : Document) :
    FormatsReported Formatted.accepted d (evaluate present rulesDir d).report := by
  have hwarnings : ∀ rule, ofRule rule (Report.ofFindings
      (logged present rulesDir d).findings).warnings =
        warningsOf (ofRule rule (logged present rulesDir d).findings) :=
    fun rule => ofRule_ofSeverity rule .warning _
  rw [report_evaluate]
  refine ⟨?dates,?useCaseIds,?decisionIds,?elementIds⟩
  case dates =>
    have herrors := ofRule_ofSeverity .documentStructure .error
      (logged present rulesDir d).findings
    have hown : (checks present rulesDir d).filter
        (fun check => check.1.contains .documentStructure) =
          [([.documentStructure],checkTopLevel d),
            ([.documentStructure,.stackRules],checkStack d)] := rfl
    -- what is missing from the stack stands under the same rule, but it is no error
    have hstack : (ofRule .documentStructure (checkStack d)).filter (·.severity == .error) = [] :=
      clean_iff_filter_eq_nil.mp fun f hf => clean_checkStack d f (List.mem_of_mem_filter hf)
    rw [ofRule_logged, hown, List.flatMap_cons, List.flatMap_singleton, List.filter_append,
      hstack, List.append_nil, ofRule_eq_self (under_checkTopLevel d), errors_checkTopLevel]
      at herrors
    rw [misformed_accepted]
    exact herrors
  case useCaseIds =>
    -- the texts that a use case must have stand under another rule, and they are errors
    have hunder : Under [.identity] (warningsOf (checkIdentity d)) := by
      rw [warningsOf_checkIdentity]
      simp [warningsOf_checkUseCase, misformedId]
    rw [hwarnings, ofRule_identity_logged, warningsOf, ofRule, List.filter_comm, ← warningsOf,
      ← ofRule, ofRule_eq_self hunder, warningsOf_checkIdentity]
    simp only [warningsOf_checkUseCase, flatMap_onlyIf, misformed_accepted]
    rfl
  case decisionIds =>
    have hown : ofRule .decisionFormat (logged present rulesDir d).findings =
        checkDecisions d ++ [] :=
      ofRule_logged_of_alone present rulesDir d (by simp [checks])
    rw [hwarnings, hown, List.append_nil, checkDecisions, warningsOf_flatMap]
    simp only [warningsOf_checkDecision, wellformed_accepted]
    rfl
  case elementIds =>
    have hown : ofRule .metaInjection (logged present rulesDir d).findings =
        checkElements d ++ [] :=
      ofRule_logged_of_alone present rulesDir d (by simp [checks])
    rw [hwarnings, hown, List.append_nil, checkElements, warningsOf_checkElementsFrom]
    simp only [flatMap_onlyIf, misformed_accepted]
    rfl

/-- A report says of every text whether it is accepted. That is whether it has its form, when all the
accepted texts are plain. -/
theorem evaluate_formatsReported (present : String → Bool) (rulesDir : String) (d : Document) :
    let r := (evaluate present rulesDir d).report
    (∀ (kind : Formatted) (cs : List Char), kind.form cs ↔ kind.accepted cs ∧ Plain cs) ∧
      FormatsReported Formatted.accepted d r ∧
      (PlainlyFormatted d → FormatsReported Formatted.form d r) := by
  intro r
  have haccepted : FormatsReported Formatted.accepted d r :=
    formatsReported_accepted present rulesDir d
  refine ⟨fun kind cs => kind.form_iff,haccepted,fun hplain => haccepted.congr fun kind s hs => ?_⟩
  rw [kind.form_iff]
  exact (and_iff_left_of_imp (hplain kind s hs)).symm

end

def oneOfEach (date useCaseId decisionId elementId : String) : Document where
  lastUpdated := some date
  useCases := some [{ id := some useCaseId, visualElementId := some elementId }]
  decisions := [{ id := some decisionId }]

/-- A date without zeros, a well-formed id, one that is too short and an element without an action. -/
theorem evaluate_formatsReported_ascii :
    let d := oneOfEach "2026-1-1" "UC-001" "ADR-01" "VE-Order"
    PlainlyFormatted d ∧ FormatsReported Formatted.form d
      (evaluate (fun _ => true) "rules" d).report := by
  intro d
  have hascii : ∀ kind, ∀ s ∈ formattedTexts d kind, ∀ c ∈ s.toList, InLine c := by
    intro kind
    cases kind with
    | date =>
      show ∀ s ∈ ["2026-1-1"], _
      simp [InLine]
    | useCaseId =>
      show ∀ s ∈ ["UC-001"], _
      simp [InLine]
    | decisionId =>
      show ∀ s ∈ ["ADR-01"], _
      simp [InLine]
    | elementId =>
      show ∀ s ∈ ["VE-Order"], _
      simp [InLine]
  have hplain : PlainlyFormatted d := fun kind s hs _ => plain_of_inLine (hascii kind s hs)
  exact ⟨hplain,(evaluate_formatsReported _ _ d).2.2 hplain⟩

/-- Line ends behind a text and digits of another script pass for what they are not. -/
theorem evaluate_formats_lenient :
    let d := oneOfEach "2026-01-01\n" "UC-\u0661\u0662\u0663" "ADR-001\n" "VE-Order-Create\n"
    let r := (evaluate (fun _ => true) "rules" d).report
    (misformed (Formatted.form .date) (filledText? d.lastUpdated) = true ∧
      misformedDate d ∉ r.errors) ∧
    (∀ u ∈ d.active,
      (misformed (Formatted.form .useCaseId) (filledText? u.id) = true ∧
        misformedId u ∉ r.warnings) ∧
      misformed (Formatted.form .elementId) (ownElement u) = true ∧
        misformedElement u ∉ r.warnings) ∧
    ∀ a ∈ d.decisions, wellformed (Formatted.form .decisionId) (filledText? a.id) = false ∧
      misformedDecisionId a ∉ r.warnings := by
  intro d r
  have hlineEnd : ∀ (kind : Formatted) (s : String), s.toList.getLast? = some '\n' →
      ¬ kind.form s.toList := fun kind s hs hform => (kind.form_iff.mp hform).2.noLineEnd hs
  have hdigits : ¬ Formatted.form .useCaseId "UC-\u0661\u0662\u0663".toList := by
    intro hform
    have hdigit := (Formatted.form_iff _ |>.mp hform).2.ascii '\u0661' (by decide) (by decide)
    exact absurd hdigit (by decide)
  refine ⟨⟨?date,by decide +kernel⟩,List.forall_mem_singleton.mpr ⟨⟨?useCase,by decide +kernel⟩,
    ?element,by decide +kernel⟩,List.forall_mem_singleton.mpr ⟨?decision,by decide +kernel⟩⟩
  case date => exact misformed_iff.mpr ⟨_,rfl,hlineEnd _ _ (by decide)⟩
  case useCase => exact misformed_iff.mpr ⟨_,rfl,hdigits⟩
  case element => exact misformed_iff.mpr ⟨_,rfl,hlineEnd _ _ (by decide)⟩
  case decision =>
    rw [Bool.eq_false_iff]
    intro hwell
    obtain ⟨s,hs,hform⟩ := wellformed_iff.mp hwell
    obtain rfl := Option.some.inj hs
    exact hlineEnd _ _ (by decide) hform

end Traceability.Audit
