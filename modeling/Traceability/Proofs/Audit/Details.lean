import Traceability.Proofs.Audit.Rules
import Traceability.Proofs.Json.OneLine
import Traceability.Proofs.Yaml.Characters

/-! # Details on one line

A detail is made of fixed words, numbers and texts of the document. The words and numbers hold no
line end, and neither does the literal of a decision's id; every other text is quoted as it is. So
the details of errors and warnings stay on one line when the quoted texts do.
-/
namespace Traceability
open Text

def NoBreak (s : String) : Prop := '\n' ∉ s.toList

instance (s : String) : Decidable (NoBreak s) := inferInstanceAs (Decidable (¬ _))

namespace Audit

/-! ## Pieces of details -/

@[simp] theorem noBreak_append {s t : String} : NoBreak (s ++ t) ↔ NoBreak s ∧ NoBreak t := by
  simp [NoBreak]

@[simp] theorem noBreak_repr (n : ℕ) : NoBreak n.repr := by
  rw [NoBreak, Nat.toList_repr]
  exact (visible_toDigits n).notMem (by decide)

theorem noBreak_intercalate {separator : String} {texts : List String} (hs : NoBreak separator)
    (h : ∀ s ∈ texts, NoBreak s) : NoBreak (separator.intercalate texts) := by
  rw [NoBreak, String.toList_intercalate]
  induction texts with
  | nil => simp
  | cons s texts ih =>
    obtain ⟨hhead,htail⟩ := List.forall_mem_cons.mp h
    cases texts with
    | nil =>
      rw [NoBreak] at hhead
      simpa using hhead
    | cons t texts =>
      rw [List.map_cons, List.map_cons, List.intercalate_cons_cons, ← List.map_cons]
      simp only [List.mem_append, not_or]
      exact ⟨⟨hhead,hs⟩,ih htail⟩

theorem newline_notMem_hexPadded (width n : ℕ) : '\n' ∉ hexPadded width n := by
  have hdigits : ∀ d < 16, Nat.digitChar d ≠ '\n' := by decide
  rw [hexPadded, List.mem_append, not_or]
  constructor
  · intro h
    exact absurd (List.eq_of_mem_replicate h) (by decide)
  · intro h
    obtain ⟨d,hd,he⟩ := Yaml.exists_digitChar_of_mem_toDigits (by decide) h
    exact hdigits d hd he.symm

/-- A literal writes a line end by its escape. -/
theorem noBreak_literalOrNone (s : Option String) : NoBreak (literalOrNone s) := by
  cases s with
  | none => decide
  | some s =>
    have hquote : '\n' ≠ literalQuote s.toList := by
      rw [literalQuote]
      split <;> decide
    have hchar (c : Char) : '\n' ∉ literalChar (literalQuote s.toList) c := by
      unfold literalChar
      split_ifs with hc _ hn
      · rcases hc with rfl | rfl
        · simp [hquote]
        · decide
      · decide
      · decide
      · decide
      · simpa using Ne.symm hn
      · unfold hexEscape
        split_ifs <;> simp [newline_notMem_hexPadded]
    rw [literalOrNone, Text.literal, NoBreak, String.toList_ofList, literalOf]
    simp [hquote, hchar]

/-- A finding that is told to programs has its detail on one line. -/
def Framed (f : Finding) : Prop := f.severity ≠ .pass → NoBreak f.detail

section Findings
variable {rule : Rule} {detail : String} {f : Finding} {condition : Bool}

@[simp] theorem framed_failure : Framed (failure rule detail) ↔ NoBreak detail := by
  simp [Framed, failure]

@[simp] theorem framed_warning : Framed (warning rule detail) ↔ NoBreak detail := by
  simp [Framed, warning]

@[simp] theorem framed_passing : Framed (passing rule detail) := by
  simp [Framed, passing]

@[simp] theorem framed_onlyIf : (∀ g ∈ onlyIf condition f, Framed g) ↔
    (condition = true → Framed f) := by
  cases condition <;> simp [onlyIf]

end Findings

/-! ## Documents on one line -/

end Audit

structure UseCase.OneLine (u : UseCase) : Prop where
  id : NoBreak (shown u.id)
  status : NoBreak (shown u.status)

structure FunctionRecord.OneLine (f : FunctionRecord) : Prop where
  name : NoBreak (shown f.name)
  endpoint : NoBreak (shown f.endpoint)
  file : NoBreak (shown f.file)

structure Decision.OneLine (a : Decision) : Prop where
  id : NoBreak (shown a.id)
  status : NoBreak (shown a.status)

/-- Every text that details may quote stays on one line. -/
structure Document.OneLine (d : Document) : Prop where
  lastUpdated : NoBreak (shown d.lastUpdated)
  useCases : ∀ u ∈ d.active ++ d.deprecated, u.OneLine
  elements : ∀ u ∈ d.active, NoBreak (shown u.visualElementId)
  functions : ∀ p ∈ d.activeFunctions, p.2.OneLine
  decisions : ∀ a ∈ d.decisions, a.OneLine

namespace Audit
variable {d : Document} {u : UseCase} {f : FunctionRecord}

theorem noBreak_label (hu : u.OneLine) : NoBreak (label u) := by
  have hid := hu.id
  cases h : u.id with
  | none =>
    rw [label, h]
    decide
  | some id =>
    rw [h] at hid
    simp only [label, h, Option.bind_some, nonEmpty?]
    split
    · decide
    · exact hid

theorem framed_checkTopLevel (hd : d.OneLine) : ∀ g ∈ checkTopLevel d, Framed g := by
  have hrequired : ∀ field ∈ requiredFields d, Framed (checkRequired field.1 field.2) := by
    simp only [requiredFields, List.forall_mem_cons, checkRequired]
    refine ⟨?_,?_,?_,?_,?_,?_,by simp⟩ <;> split <;> simp +decide
  rw [checkTopLevel, List.forall_mem_append, List.forall_mem_append, List.forall_mem_map]
  refine ⟨⟨hrequired,?_⟩,?_⟩
  · simp +decide [hd.lastUpdated]
  · cases d.useCases <;> simp +decide

theorem framed_checkStack (d : Document) : ∀ g ∈ checkStack d, Framed g := by
  rw [checkStack]
  split
  · simp +decide
  · split
    · simp +decide
    · rw [List.forall_mem_map]
      intro part hpart
      have hname : NoBreak part := by
        have hall : ∀ part ∈ requiredParts, NoBreak part := by decide
        exact hall part hpart
      rw [checkPart]
      split <;> simp +decide [hname]

theorem framed_checkUseCase (hu : u.OneLine) : ∀ g ∈ checkUseCase u, Framed g := by
  simp only [checkUseCase, List.forall_mem_append, framed_onlyIf, framed_failure, framed_warning]
  simp +decide [hu.id, hu.status, noBreak_label hu]

/-! ## Positions of ids -/

theorem noBreak_of_mem_located {list : String} {us : List UseCase} {p : String × UseCase}
    (hlist : NoBreak list) (h : p ∈ located list us) : NoBreak p.1 ∧ p.2 ∈ us := by
  rw [located, List.mem_map] at h
  obtain ⟨⟨u,i⟩,hu,rfl⟩ := h
  have hmem : u ∈ us := by
    obtain ⟨-,-,he⟩ := List.mem_zipIdx hu
    rw [he]
    exact List.getElem_mem _
  have hbrackets : NoBreak "[" ∧ NoBreak "]" := by decide
  simp [hlist, hbrackets, hmem]

theorem noBreak_of_mem_locatedUseCases {p : String × UseCase} (h : p ∈ locatedUseCases d) :
    NoBreak p.1 ∧ p.2 ∈ d.active ++ d.deprecated := by
  rw [locatedUseCases, List.mem_append] at h
  rw [List.mem_append]
  rcases h with h | h
  · obtain ⟨hp,hu⟩ := noBreak_of_mem_located (by decide) h
    exact ⟨hp,.inl hu⟩
  · obtain ⟨hp,hu⟩ := noBreak_of_mem_located (by decide) h
    exact ⟨hp,.inr hu⟩

def OneLineRow (row : String × List String) : Prop := NoBreak row.1 ∧ ∀ p ∈ row.2, NoBreak p

theorem oneLineRow_positionTable {us : List (String × UseCase)}
    (h : ∀ p ∈ us, NoBreak p.1 ∧ p.2.OneLine) : ∀ row ∈ positionTable us, OneLineRow row := by
  rw [positionTable_eq, List.forall_mem_map]
  intro id hid
  constructor
  · obtain ⟨p,hp,hfilled⟩ := List.mem_filterMap.mp (List.mem_eraseDups.mp hid)
    have hline := (h p hp).2.id
    rwa [(filledText?_eq_some_iff.mp hfilled).1] at hline
  · intro position hposition
    obtain ⟨p,hp,rfl⟩ := List.mem_map.mp hposition
    exact (h p (List.mem_of_mem_filter hp)).1

theorem framed_checkIdentity (hd : d.OneLine) : ∀ g ∈ checkIdentity d, Framed g := by
  have hlocated : ∀ p ∈ locatedUseCases d, NoBreak p.1 ∧ p.2.OneLine := by
    intro p hp
    obtain ⟨hposition,hu⟩ := noBreak_of_mem_locatedUseCases hp
    exact ⟨hposition,hd.useCases _ hu⟩
  show ∀ g ∈ _ ++ _ ++ _ ++ _, Framed g
  rw [List.forall_mem_append, List.forall_mem_append, List.forall_mem_append,
    List.forall_mem_flatMap, List.forall_mem_map, List.forall_mem_flatMap]
  refine ⟨⟨⟨?_,?_⟩,by simp⟩,?_⟩
  · intro p hp
    simp +decide [(hlocated p hp).1]
  · intro row hrow
    obtain ⟨hid,hpositions⟩ :=
      oneLineRow_positionTable hlocated row (List.mem_of_mem_filter hrow)
    have hlist : NoBreak (", ".intercalate row.2) := noBreak_intercalate (by decide) hpositions
    simp +decide [duplicateId, hid, hlist]
  · exact fun p hp => framed_checkUseCase (hlocated p hp).2

/-! ## Functions -/

def OneLineUse (use : String × String) : Prop := NoBreak use.1 ∧ NoBreak use.2

theorem framed_checkRepeats {kind lowerKind : String} {uses : Uses} (hkind : NoBreak kind)
    (h : ∀ use ∈ uses, OneLineUse use) : ∀ g ∈ checkRepeats kind lowerKind uses, Framed g := by
  have hrepeats : ∀ r ∈ (repeatsFrom [] uses).1,
      NoBreak r.key ∧ NoBreak r.owner ∧ NoBreak r.user := by
    rw [repeatsFrom_eq, List.forall_mem_map]
    intro r hr
    obtain ⟨hfirst,hlater⟩ := mem_of_mem_repeatsOf hr
    exact ⟨(h _ hlater).1,(h _ hfirst).2,(h _ hlater).2⟩
  show ∀ g ∈ _ ++ _, Framed g
  rw [List.forall_mem_append, List.forall_mem_map]
  refine ⟨fun r hr => ?_,by simp⟩
  obtain ⟨hkey,howner,huser⟩ := hrepeats r hr
  rw [repeatFinding, framed_failure]
  split <;> simp +decide [hkind, hkey, howner, huser]

theorem mem_active_of_mem_activeFunctions {p : UseCase × FunctionRecord}
    (h : p ∈ d.activeFunctions) : p.1 ∈ d.active := by
  simp only [Document.activeFunctions, List.mem_flatMap, List.mem_map] at h
  obtain ⟨u,hu,f,-,rfl⟩ := h
  exact hu

theorem oneLineUse_of_mem_usesOf {value : FunctionRecord → Option String} (hd : d.OneLine)
    (hvalue : ∀ p ∈ d.activeFunctions, NoBreak (shown (value p.2))) :
    ∀ use ∈ usesOf value d, OneLineUse use := by
  intro use huse
  obtain ⟨⟨u,f⟩,hp,he⟩ := List.mem_filterMap.mp huse
  obtain ⟨key,hkey,rfl⟩ := Option.map_eq_some_iff.mp he
  obtain ⟨htext,-⟩ := filledText?_eq_some_iff.mp hkey
  have hbreak := hvalue _ hp
  rw [htext] at hbreak
  have hu := mem_active_of_mem_activeFunctions hp
  exact ⟨hbreak,noBreak_label (hd.useCases u (List.mem_append_left _ hu))⟩

theorem framed_checkFunctionNames (hd : d.OneLine) : ∀ g ∈ checkFunctionNames d, Framed g :=
  framed_checkRepeats (by decide)
    (oneLineUse_of_mem_usesOf hd fun p hp => (hd.functions p hp).name)

theorem framed_checkEndpoints (hd : d.OneLine) : ∀ g ∈ checkEndpoints d, Framed g :=
  framed_checkRepeats (by decide)
    (oneLineUse_of_mem_usesOf hd fun p hp => (hd.functions p hp).endpoint)

theorem framed_checkImplementedUseCase (hu : u.OneLine) (hf : ∀ f ∈ u.functions, f.OneLine) :
    ∀ g ∈ checkImplementedUseCase u, Framed g := by
  rw [checkImplementedUseCase]
  split
  · simp +decide [hu.id]
  · rw [List.forall_mem_cons, List.forall_mem_flatMap]
    refine ⟨by simp,fun f hmem => ?_⟩
    have hname := (hf f hmem).name
    simp only [checkRecord, List.forall_mem_append, framed_onlyIf, framed_failure, framed_warning]
    simp +decide [hu.id, hname]

theorem framed_checkGenuineUseCase (hu : u.OneLine) (hf : ∀ f ∈ u.functions, f.OneLine) :
    ∀ g ∈ checkGenuineUseCase u, Framed g := by
  have htokens : ∀ token ∈ stubTokens, NoBreak token := by decide
  rw [checkGenuineUseCase, List.forall_mem_append, List.forall_mem_append, List.forall_mem_flatMap]
  refine ⟨⟨by simp +decide [hu.id],fun f hmem => ?_⟩,by simp⟩
  have hname := (hf f hmem).name
  have hcheck : ∀ g ∈ checkName u f, Framed g := by
    rw [checkName]
    split
    · simp +decide [hu.id]
    · split
      · next token htoken =>
        have ht := htokens token (List.mem_of_find?_eq_some htoken)
        simp +decide [hu.id, hname, ht]
      · simp
  simp only [checkGenuine, List.forall_mem_append, framed_onlyIf, framed_failure, framed_warning]
  refine ⟨?_,hcheck⟩
  simp +decide [hu.id, hname]

/-- A check of implemented use cases is framed if it is for use cases on one line. -/
theorem framed_flatMap_implemented (hd : d.OneLine) {check : UseCase → List Finding}
    (h : ∀ u : UseCase, u.OneLine → (∀ f ∈ u.functions, f.OneLine) → ∀ g ∈ check u, Framed g) :
    ∀ g ∈ (d.active.filter (·.isImplemented)).flatMap check, Framed g := by
  rw [List.forall_mem_flatMap]
  intro u hu
  have hactive := List.mem_of_mem_filter hu
  refine h u (hd.useCases u (List.mem_append_left _ hactive)) fun f hf => ?_
  refine hd.functions (u,f) ?_
  simp only [Document.activeFunctions, List.mem_flatMap, List.mem_map]
  exact ⟨u,hactive,f,hf,rfl⟩

theorem framed_checkDeprecated (hd : d.OneLine) : ∀ g ∈ checkDeprecated d, Framed g := by
  rw [checkDeprecated, List.forall_mem_append, List.forall_mem_flatMap, List.forall_mem_flatMap]
  constructor
  · intro u hu
    have hline := hd.useCases u (List.mem_append_right _ hu)
    simp only [checkDeprecatedEntry, List.forall_mem_append, framed_onlyIf, framed_failure,
      framed_warning]
    simp +decide [hline.id, hline.status]
  · intro u hu
    have hline := hd.useCases u (List.mem_append_left _ hu)
    simp +decide [hline.id]

theorem framed_checkElement (hu : u.OneLine) (h : NoBreak (shown u.visualElementId))
    (seen : List String) : ∀ g ∈ (checkElement u seen).1, Framed g := by
  unfold checkElement
  split
  · simp
  · next element he =>
    have hbreak : NoBreak element := by rwa [he] at h
    split
    · simp
    · dsimp only
      split_ifs <;> simp +decide [hu.id, hbreak]

theorem framed_checkElements (hd : d.OneLine) : ∀ g ∈ checkElements d, Framed g := by
  intro g hg
  obtain ⟨u,hu,seen,hmem⟩ := exists_of_mem_checkElementsFrom hg
  exact framed_checkElement (hd.useCases u (List.mem_append_left _ hu)) (hd.elements u hu) seen g hmem

theorem framed_checkDecisions (hd : d.OneLine) : ∀ g ∈ checkDecisions d, Framed g := by
  rw [checkDecisions, List.forall_mem_flatMap]
  intro a ha
  have hline := hd.decisions a ha
  have hlabel : NoBreak (if filled a.id then shown a.id else "unknown") := by
    split
    · exact hline.id
    · decide
  simp only [checkDecision, List.forall_mem_append, framed_onlyIf, framed_failure, framed_warning]
  simp +decide [hline.status, noBreak_literalOrNone, hlabel]

/-! ## Files -/

theorem framed_checkFiles (present : String → Bool)
    (h : ∀ p ∈ d.activeFunctions, p.1.OneLine ∧ p.2.OneLine) :
    ∀ g ∈ (checkFiles present d).findings, Framed g := by
  rw [checkFiles_eq, List.forall_mem_map]
  intro p hp
  obtain ⟨hu,hf⟩ := h p (mem_of_mem_firstsOf hp)
  rw [fileFinding]
  split
  · exact framed_passing
  · simp +decide [hu.id, hf.name, hf.file]

theorem framed_checkRuleFiles {present : String → Bool} {rulesDir : String}
    (hdir : NoBreak rulesDir) {names : List String} (h : ∀ name ∈ names, NoBreak name) :
    ∀ g ∈ (checkRuleFiles present rulesDir names).findings, Framed g := by
  rw [checkRuleFiles_eq, List.forall_mem_map]
  intro name hname
  rw [ruleFileFinding]
  split
  · exact framed_passing
  · simp +decide [hdir, h name hname]

/-! ## The audit -/

theorem framed_logged (present : String → Bool) {rulesDir : String} (hdir : NoBreak rulesDir)
    (hd : d.OneLine) : ∀ g ∈ (logged present rulesDir d).findings, Framed g := by
  have hnames : ∀ name ∈ ruleFiles, NoBreak name := by decide
  have hfunctions : ∀ p ∈ d.activeFunctions, p.1.OneLine ∧ p.2.OneLine := by
    intro p hp
    exact ⟨hd.useCases _ (List.mem_append_left _ (mem_active_of_mem_activeFunctions hp)),
      hd.functions p hp⟩
  rw [findings_logged, List.forall_mem_flatMap]
  simp only [checks, List.forall_mem_cons]
  exact ⟨framed_checkTopLevel hd,framed_checkStack d,framed_checkIdentity hd,
    framed_checkFunctionNames hd,framed_checkEndpoints hd,
    framed_flatMap_implemented hd fun _ => framed_checkImplementedUseCase,framed_checkDeprecated hd,
    framed_checkElements hd,framed_flatMap_implemented hd fun _ => framed_checkGenuineUseCase,
    framed_checkDecisions hd,framed_checkFiles present hfunctions,framed_checkRuleFiles hdir hnames,
    by simp⟩

end Audit

end Traceability
