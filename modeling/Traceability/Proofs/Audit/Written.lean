import Traceability.Proofs.Audit.Repeats

/-! # Checks that write to one report

No check reads the report that it writes to. Wherever the report stands when a check begins, the check
adds its own findings behind those that are there, and it asks for its own paths; so an audit that
begins with findings leaves them, and adds what it adds to an empty report.
-/
namespace Traceability

theorem Report.addAll_append (r : Report) (fs gs : List Finding) :
    r.addAll (fs ++ gs) = (r.addAll fs).addAll gs :=
  List.foldl_append ..

namespace Audit
open Text

def Evaluation.write (e : Evaluation) (fs : List Finding) : Evaluation :=
  { e with report := e.report.addAll fs }

def Evaluation.extend (e : Evaluation) (l : Log) : Evaluation :=
  { e.write l.findings with asked := e.asked ++ l.asked }

section
variable (e : Evaluation)

@[simp] theorem write_nil : e.write [] = e := rfl

@[simp] theorem write_write (fs gs : List Finding) : (e.write fs).write gs = e.write (fs ++ gs) := by
  rw [Evaluation.write, Evaluation.write, Evaluation.write, Report.addAll_append]

@[simp] theorem extend_extend (l m : Log) : (e.extend l).extend m = e.extend (l ++ m) := by
  show Evaluation.mk ((e.report.addAll l.findings).addAll m.findings) (e.asked ++ l.asked ++ m.asked) =
    Evaluation.mk (e.report.addAll (l.findings ++ m.findings)) (e.asked ++ (l.asked ++ m.asked))
  rw [List.append_assoc, Report.addAll_append]

theorem extend_findings (fs : List Finding) : e.extend ⟨fs,[]⟩ = e.write fs := by
  show Evaluation.mk _ _ = Evaluation.mk _ _
  rw [List.append_nil]
  rfl

/-! ## The steps of a check -/

@[simp] theorem run_error (rule : Rule) (detail : String) :
    (error rule detail).run e = pure ((),e.write [failure rule detail]) := rfl

@[simp] theorem run_warn (rule : Rule) (detail : String) :
    (warn rule detail).run e = pure ((),e.write [warning rule detail]) := rfl

@[simp] theorem run_passed (rule : Rule) (detail : String) :
    (passed rule detail).run e = pure ((),e.write [passing rule detail]) := rfl

@[simp] theorem run_errorIf (condition : Bool) (rule : Rule) (detail : String) :
    (errorIf condition rule detail).run e =
      pure ((),e.write (onlyIf condition (failure rule detail))) := by
  cases condition <;> rfl

@[simp] theorem run_warnIf (condition : Bool) (rule : Rule) (detail : String) :
    (warnIf condition rule detail).run e =
      pure ((),e.write (onlyIf condition (warning rule detail))) := by
  cases condition <;> rfl

@[simp] theorem run_passedIf (condition : Bool) (rule : Rule) (detail : String) :
    (passedIf condition rule detail).run e =
      pure ((),e.write (onlyIf condition (passing rule detail))) := by
  cases condition <;> rfl

/-- A loop writes what its rounds write. -/
theorem run_forM {α : Type} {check : α → Reporting Unit} {found : α → List Finding}
    (h : ∀ x e, (check x).run e = pure ((),e.write (found x))) (xs : List α) (e : Evaluation) :
    (xs.forM check).run e = pure ((),e.write (xs.flatMap found)) := by
  induction xs generalizing e with
  | nil => rfl
  | cons x xs ih =>
    have hstep : (List.forM (x :: xs) check).run e =
        (check x).run e >>= fun p => (xs.forM check).run p.2 := rfl
    rw [hstep, h, pure_bind, ih, write_write, List.flatMap_cons]

theorem run_forM_singleton {α : Type} {check : α → Reporting Unit} {found : α → Finding}
    (h : ∀ x e, (check x).run e = pure ((),e.write [found x])) (xs : List α) :
    (xs.forM check).run e = pure ((),e.write (xs.map found)) := by
  rw [run_forM h, List.map_eq_flatMap]

/-! ## The document as a whole -/

theorem run_reportRequired (name : String) (value : Option String) :
    (reportRequired name value).run e = pure ((),e.write [checkRequired name value]) := by
  rw [reportRequired, checkRequired]
  split <;> simp

theorem run_reportTopLevel (d : Document) :
    (reportTopLevel d).run e = pure ((),e.write (checkTopLevel d)) := by
  have hrequired := run_forM_singleton (e := e)
    (fun field e => run_reportRequired e field.1 field.2) (requiredFields d)
  rw [reportTopLevel, checkTopLevel, StateT.run_bind, hrequired]
  cases d.useCases <;> simp [reportUseCaseList]

theorem run_reportPart (s : Stack) (part : String) :
    (reportPart s part).run e = pure ((),e.write [checkPart s part]) := by
  rw [reportPart, checkPart]
  cases s.choice part with
  | scalar c => cases c <;> rfl
  | _ => rfl

theorem run_reportStack (d : Document) :
    (reportStack d).run e = pure ((),e.write (checkStack d)) := by
  rw [reportStack, checkStack]
  cases d.stack with
  | none => rfl
  | some s =>
    dsimp only
    split
    · rfl
    · exact run_forM_singleton e (fun part e => run_reportPart e s part) requiredParts

/-! ## Identity -/

/-- The table is built and the missing ids are reported in one loop. -/
theorem run_notePositions (table : List (String × List String)) (us : List (String × UseCase)) :
    (notePositions table us).run e = pure (us.foldl noteUse table,e.write (us.flatMap fun p =>
      onlyIf (!filled p.2.id) (failure .identity s!"Use case at {p.1} has no id field"))) := by
  induction us generalizing table e with
  | nil => rfl
  | cons p us ih =>
    obtain ⟨position,u⟩ := p
    rw [notePositions, List.foldl_cons, List.flatMap_cons, noteUse, filled_eq_isSome, filledText?]
    cases u.id.bind nonEmpty? with
    | none =>
      simp only [StateT.run_bind, run_error, pure_bind, ih, write_write]
      rfl
    | some id => exact ih e (notePosition id position table)

theorem run_reportUseCase (u : UseCase) :
    (reportUseCase u).run e = pure ((),e.write (checkUseCase u)) := by
  simp [reportUseCase, checkUseCase]

theorem run_reportDuplicateId (id : String) (positions : List String) :
    (reportDuplicateId id positions).run e = pure ((),e.write [duplicateId id positions]) := rfl

theorem run_reportIdentity (d : Document) :
    (reportIdentity d).run e = pure ((),e.write (checkIdentity d)) := by
  have hduplicates := fun rows e => run_forM_singleton e
    (fun (row : String × List String) e => run_reportDuplicateId e row.1 row.2) rows
  have huseCases := run_forM (fun (p : String × UseCase) e => run_reportUseCase e p.2)
  simp only [reportIdentity, StateT.run_bind, run_notePositions, pure_bind, hduplicates, huseCases,
    run_passedIf, write_write]
  rw [← List.append_assoc, ← List.append_assoc]
  rfl

/-! ## Duplicates -/

theorem run_reportRepeatsFrom (kind : String) (found : Bool) (owners uses : Uses) :
    (reportRepeatsFrom kind found owners uses).run e = pure
      ((found || !(repeatsFrom owners uses).1.isEmpty,(repeatsFrom owners uses).2),
        e.write ((repeatsFrom owners uses).1.map (repeatFinding kind))) := by
  induction uses generalizing found owners e with
  | nil => simp [reportRepeatsFrom, repeatsFrom]
  | cons use uses ih =>
    obtain ⟨key,user⟩ := use
    rw [reportRepeatsFrom, repeatsFrom]
    cases howner : owners.lookup key with
    | none => exact ih e found (owners ++ [(key,user)])
    | some owner => simp [ih, reportRepeat, repeatFinding]

theorem run_reportRepeats (kind lowerKind : String) (uses : Uses) :
    (reportRepeats kind lowerKind uses).run e =
      pure ((),e.write (checkRepeats kind lowerKind uses)) := by
  simp [reportRepeats, checkRepeats, run_reportRepeatsFrom]

theorem run_reportFunctionNames (d : Document) :
    (reportFunctionNames d).run e = pure ((),e.write (checkFunctionNames d)) :=
  run_reportRepeats e ..

theorem run_reportEndpoints (d : Document) :
    (reportEndpoints d).run e = pure ((),e.write (checkEndpoints d)) :=
  run_reportRepeats e ..

theorem run_reportElement (u : UseCase) (seen : List String) :
    (reportElement u seen).run e = pure ((checkElement u seen).2,e.write (checkElement u seen).1) := by
  rw [reportElement, checkElement]
  cases u.visualElementId with
  | none => rfl
  | some element =>
    by_cases hpending : element = pendingElement
    · simp only [if_pos hpending]
      rfl
    · simp only [if_neg hpending, reportElementFormat]
      by_cases hformat : Format.isVisualElementId element = true <;>
        simp only [hformat, if_true, if_false, Bool.false_eq_true, StateT.run_bind, run_passed,
          run_warn, pure_bind]
      all_goals
        split
        · rfl
        · simp only [StateT.run_bind, run_errorIf, pure_bind, StateT.run_pure, write_write]
          rfl

theorem run_reportElementsFrom (seen : List String) (us : List UseCase) :
    (reportElementsFrom seen us).run e = pure ((),e.write (checkElementsFrom seen us)) := by
  induction us generalizing seen e with
  | nil => rfl
  | cons u us ih =>
    simp only [reportElementsFrom, checkElementsFrom, StateT.run_bind, run_reportElement, pure_bind,
      ih, write_write]

theorem run_reportElements (d : Document) :
    (reportElements d).run e = pure ((),e.write (checkElements d)) :=
  run_reportElementsFrom e ..

/-! ## Completeness -/

theorem run_reportRecord (u : UseCase) (f : FunctionRecord) :
    (reportRecord u f).run e = pure ((),e.write (checkRecord u f)) := by
  simp [reportRecord, checkRecord]

theorem run_reportImplementedUseCase (u : UseCase) :
    (reportImplementedUseCase u).run e = pure ((),e.write (checkImplementedUseCase u)) := by
  have hrecords := run_forM (fun f e => run_reportRecord e u f) u.functions
  rw [reportImplementedUseCase, checkImplementedUseCase]
  split
  · rfl
  · simp only [StateT.run_bind, run_passed, pure_bind, hrecords, write_write]
    rfl

theorem run_reportImplemented (d : Document) :
    (reportImplemented d).run e = pure ((),e.write (checkImplemented d)) :=
  run_forM (fun u e => run_reportImplementedUseCase e u) _ e

theorem run_reportDeprecatedEntry (u : UseCase) :
    (reportDeprecatedEntry u).run e = pure ((),e.write (checkDeprecatedEntry u)) := by
  simp [reportDeprecatedEntry, checkDeprecatedEntry]

theorem run_reportRetired (u : UseCase) :
    (reportRetired u).run e = pure ((),e.write (onlyIf u.isDeprecated (warning .deprecation
      (s!"UC {shown u.id} has status \"deprecated\" but is still in use_cases. " ++
        "Move it to the deprecated list.")))) :=
  run_warnIf e ..

theorem run_reportDeprecated (d : Document) :
    (reportDeprecated d).run e = pure ((),e.write (checkDeprecated d)) := by
  have hentries := run_forM (fun u e => run_reportDeprecatedEntry e u) d.deprecated
  have hretired := run_forM (fun u e => run_reportRetired e u)
  simp only [reportDeprecated, StateT.run_bind, hentries, pure_bind, hretired, write_write]
  rfl

theorem run_reportName (u : UseCase) (f : FunctionRecord) :
    (reportName u f).run e = pure ((),e.write (checkName u f)) := by
  simp only [reportName, checkName]
  split
  · rfl
  · cases stubToken? (shown f.name) <;> rfl

theorem run_reportGenuine (u : UseCase) (f : FunctionRecord) :
    (reportGenuine u f).run e = pure ((),e.write (checkGenuine u f)) := by
  simp [reportGenuine, checkGenuine, run_reportName]

theorem run_reportGenuineUseCase (u : UseCase) :
    (reportGenuineUseCase u).run e = pure ((),e.write (checkGenuineUseCase u)) := by
  have hrecords := run_forM (fun f e => run_reportGenuine e u f) u.functions
  simp only [reportGenuineUseCase, checkGenuineUseCase, StateT.run_bind, run_warnIf, pure_bind,
    hrecords, run_passedIf, write_write, List.append_assoc]

theorem run_reportNoFake (d : Document) :
    (reportNoFake d).run e = pure ((),e.write (checkNoFake d)) :=
  run_forM (fun u e => run_reportGenuineUseCase e u) _ e

theorem run_reportDecision (a : Decision) :
    (reportDecision a).run e = pure ((),e.write (checkDecision a)) := by
  simp [reportDecision, checkDecision]

theorem run_reportDecisions (d : Document) :
    (reportDecisions d).run e = pure ((),e.write (checkDecisions d)) :=
  run_forM (fun a e => run_reportDecision e a) _ e

/-! ## Files -/

theorem run_reportPresence (present : String → Bool) (path : String) (rule : Rule)
    (there missing : String) : (reportPresence present path rule there missing).run e =
      pure ((),e.extend (askFor present path rule there missing)) := by
  have hask : (reportPresence present path rule there missing).run e =
      (if present path then passed rule there else error rule missing).run
        { e with asked := e.asked ++ [path] } := rfl
  rw [hask, askFor]
  split <;> rfl

theorem run_reportFilesFrom (present : String → Bool) (checked : List String)
    (ps : List (UseCase × FunctionRecord)) : (reportFilesFrom present checked ps).run e =
      pure ((),e.extend (checkFilesFrom present checked ps)) := by
  induction ps generalizing checked e with
  | nil => rw [checkFilesFrom, extend_findings]; rfl
  | cons p ps ih =>
    obtain ⟨u,f⟩ := p
    rw [reportFilesFrom, checkFilesFrom]
    cases f.file.bind nonEmpty? with
    | none => exact ih e checked
    | some file =>
      by_cases hchecked : checked.contains file = true
      · simp only [if_pos hchecked]
        exact ih e checked
      · simp only [if_neg hchecked, StateT.run_bind, run_reportPresence, pure_bind, ih, extend_extend]

theorem run_reportFiles (present : String → Bool) (d : Document) :
    (reportFiles present d).run e = pure ((),e.extend (checkFiles present d)) :=
  run_reportFilesFrom e ..

theorem run_reportRuleFiles (present : String → Bool) (rulesDir : String) :
    (reportRuleFiles present rulesDir).run e =
      pure ((),e.extend (checkRuleFiles present rulesDir ruleFiles)) := by
  rw [reportRuleFiles]
  induction ruleFiles generalizing e with
  | nil => rw [checkRuleFiles, extend_findings]; rfl
  | cons name names ih =>
    simp only [List.forM_eq_forM, List.forM_cons, StateT.run_bind, run_reportPresence, pure_bind] at ih ⊢
    rw [ih, extend_extend, checkRuleFiles]

end

/-! ## All checks -/

section
variable (present : String → Bool) (rulesDir : String) (d : Document)

def steps : List (Reporting Unit × Log) := [
  (reportTopLevel d,⟨checkTopLevel d,[]⟩),
  (reportStack d,⟨checkStack d,[]⟩),
  (reportIdentity d,⟨checkIdentity d,[]⟩),
  (reportFunctionNames d,⟨checkFunctionNames d,[]⟩),
  (reportEndpoints d,⟨checkEndpoints d,[]⟩),
  (reportImplemented d,⟨checkImplemented d,[]⟩),
  (reportDeprecated d,⟨checkDeprecated d,[]⟩),
  (reportElements d,⟨checkElements d,[]⟩),
  (reportNoFake d,⟨checkNoFake d,[]⟩),
  (reportDecisions d,⟨checkDecisions d,[]⟩),
  (reportFiles present d,checkFiles present d),
  (reportRuleFiles present rulesDir,checkRuleFiles present rulesDir ruleFiles)]

theorem reportAll_eq_forM :
    reportAll present rulesDir d = (steps present rulesDir d).forM Prod.fst := by
  simp [reportAll, steps]

theorem logged_eq_foldr : logged present rulesDir d =
    (steps present rulesDir d).foldr (fun step log => step.2 ++ log) {} := by
  have hsplit : ∀ fs gs : List Finding, (⟨fs ++ gs,[]⟩ : Log) = ⟨fs,[]⟩ ++ ⟨gs,[]⟩ := fun _ _ => rfl
  simp only [logged, checkDocument, hsplit, log_append_assoc, steps, List.foldr_cons, List.foldr_nil,
    log_append_empty]

/-- Each check extends what is there by what it finds alone. -/
theorem run_of_mem_steps : ∀ step ∈ steps present rulesDir d, ∀ e,
    step.1.run e = pure ((),e.extend step.2) := by
  simp only [steps, List.forall_mem_cons, extend_findings]
  exact ⟨(run_reportTopLevel · d),(run_reportStack · d),(run_reportIdentity · d),
    (run_reportFunctionNames · d),(run_reportEndpoints · d),(run_reportImplemented · d),
    (run_reportDeprecated · d),(run_reportElements · d),(run_reportNoFake · d),
    (run_reportDecisions · d),(run_reportFiles · present d),(run_reportRuleFiles · present rulesDir),
    by simp⟩

theorem run_reportAll (e : Evaluation) : (reportAll present rulesDir d).run e =
    pure ((),e.extend (logged present rulesDir d)) := by
  have hsteps := run_of_mem_steps present rulesDir d
  rw [reportAll_eq_forM, logged_eq_foldr]
  generalize steps present rulesDir d = ss at hsteps ⊢
  induction ss generalizing e with
  | nil =>
    rw [List.foldr_nil, extend_findings]
    rfl
  | cons step ss ih =>
    obtain ⟨hstep,hrest⟩ := List.forall_mem_cons.mp hsteps
    have hrun : (List.forM (step :: ss) Prod.fst).run e =
        step.1.run e >>= fun p => (ss.forM Prod.fst).run p.2 := rfl
    rw [hrun, hstep, pure_bind, ih _ hrest, extend_extend, List.foldr_cons]

/-- An audit leaves what a report holds, and reads nothing of it. -/
theorem evaluate_eq (r : Report) : evaluate present rulesDir d r =
    ⟨r.addAll (logged present rulesDir d).findings,(logged present rulesDir d).asked⟩ := by
  rw [evaluate, run_reportAll]
  -- the log is kept from being computed
  generalize logged present rulesDir d = l
  rfl

theorem report_evaluate_onto (r : Report) : (evaluate present rulesDir d r).report =
    r.addAll (logged present rulesDir d).findings := by
  rw [evaluate_eq]

theorem report_evaluate : (evaluate present rulesDir d).report =
    Report.ofFindings (logged present rulesDir d).findings :=
  report_evaluate_onto present rulesDir d {}

theorem asked_evaluate_eq (r : Report) :
    (evaluate present rulesDir d r).asked = (logged present rulesDir d).asked := by
  rw [evaluate_eq]

end

end Audit

end Traceability
