import Mathlib.Algebra.Group.Nat.Defs
import Traceability.Document.Save
import Traceability.Proofs.Audit.Warnings
import Traceability.Proofs.Document.Registration

/-! # Adding a use case to an audited document

A use case that is stated, has an id of its own and is not implemented yet gives nothing to object to,
and nothing to warn of. An audit without errors stays without errors when one is added, and its
warnings stay as they are.
-/
namespace Traceability
open Number Text

/-! ## Dates and ids that are written -/

theorem newline_notMem_padded (width n : ℕ) : '\n' ∉ (padded width n).toList :=
  fun h => absurd (isAsciiDigit_of_mem_padded h) (by decide)

theorem isDecimal_of_mem_padded {width n : ℕ} {c : Char} (h : c ∈ (padded width n).toList) :
    isDecimal c = true :=
  isDecimal_of_isAsciiDigit (isAsciiDigit_of_mem_padded h)

theorem length_padded_of_lt {width n : ℕ} (hwidth : 0 < width) (h : n < 10 ^ width) :
    (padded width n).toList.length = width := by
  have hlen : (Nat.toDigits 10 n).length ≤ width :=
    (Nat.length_toDigits_le_iff (by decide) hwidth).mpr h
  rw [toList_padded, List.length_append, List.length_replicate]
  omega

theorem digits_padded {width n : ℕ} (hwidth : 0 < width) (h : n < 10 ^ width) :
    Format.digits width (padded width n).toList = true := by
  rw [Format.digits, length_padded_of_lt hwidth h, beq_self_eq_true, Bool.true_and,
    List.all_eq_true]
  exact fun c hc => isDecimal_of_mem_padded hc

def Date.Exists (d : Date) : Prop := Date.ofParts d.year d.month d.day = .ok d

theorem Date.Exists.bounds {d : Date} (h : d.Exists) :
    d.year < 10 ^ 4 ∧ d.month < 10 ^ 2 ∧ d.day < 10 ^ 2 := by
  rw [Date.Exists, Date.ofParts] at h
  have hdays : daysInMonth d.year d.month ≤ 31 := by
    rw [daysInMonth]
    split_ifs <;> omega
  split_ifs at h with h₁ h₂ h₃
  omega

/-- A day of the calendar is written in the format of dates. -/
theorem Date.Exists.isDate_toText {d : Date} (h : d.Exists) : Format.isDate d.toText = true := by
  obtain ⟨hyear,hmonth,hday⟩ := h.bounds
  have htext : d.toText.toList = joinWith '-'
      [(padded 4 d.year).toList, (padded 2 d.month).toList, (padded 2 d.day).toList] := by
    have hdash : (toString "-").toList = ['-'] := rfl
    simp only [Date.toText, joinWith, String.toList_append, hdash, List.append_assoc,
      List.singleton_append]
    rfl
  have hsplit : splitAt '-' (dropFinalNewline d.toText.toList) =
      [(padded 4 d.year).toList, (padded 2 d.month).toList, (padded 2 d.day).toList] := by
    have hnewline : '\n' ∉ d.toText.toList := by
      rw [htext]
      simp [joinWith, newline_notMem_padded]
    rw [dropFinalNewline_of_notMem hnewline, htext, splitAt_joinWith (by simp)]
    have hdash : ∀ width n, '-' ∉ (padded width n).toList :=
      fun width n hm => absurd (isAsciiDigit_of_mem_padded hm) (by decide)
    simp [hdash]
  rw [Format.isDate, hsplit]
  simp only [digits_padded (by decide : 0 < 4) hyear, digits_padded (by decide : 0 < 2) hmonth,
    digits_padded (by decide : 0 < 2) hday, Bool.and_self]

theorem Document.IsNewId.isUseCaseId {d : Document} {id : String} (h : d.IsNewId id) :
    Format.isUseCaseId id = true := by
  obtain ⟨digits,hlen,hdigits,hid⟩ := h.written
  have hline : '\n' ∉ id.toList := by
    rw [hid, List.mem_append, not_or]
    exact ⟨by decide,fun hm => absurd (hdigits _ hm) (by decide)⟩
  rw [Format.isUseCaseId, Format.isNumbered, dropFinalNewline_of_notMem hline, hid, after?_append]
  simp only [Bool.and_eq_true, decide_eq_true_eq, List.all_eq_true]
  exact ⟨hlen,fun c hc => isDecimal_of_isAsciiDigit (hdigits c hc)⟩

/-! ## Adding -/

namespace Document

/-- The document with one more active use case, as it is saved on a day. -/
def grown (d : Document) (u : UseCase) (today : Date) : Document :=
  stamped { d with useCases := some (d.active ++ [u]) } today

/-- A use case to which nothing is to be said in a document. -/
structure Admits (d : Document) (u : UseCase) : Prop where
  id : ∃ id, u.id = some id ∧ Format.isUseCaseId id = true ∧ ∀ w ∈ d.allUseCases, w.id ≠ some id
  status : u.status = some "planned" ∨ u.status = some "in_progress"
  title : filled u.title = true
  value : filled u.value = true
  functions : u.functions = []
  element : u.visualElementId = none

section
variable {d : Document} {u : UseCase} {today : Date}

theorem Admits.isImplemented (h : d.Admits u) : u.isImplemented = false := by
  rw [UseCase.isImplemented]
  rcases h.status with hs | hs <;> rw [hs] <;> rfl

theorem Admits.isDeprecated (h : d.Admits u) : u.isDeprecated = false := by
  rw [UseCase.isDeprecated]
  rcases h.status with hs | hs <;> rw [hs] <;> rfl

theorem Admits.stated (h : d.Admits u) : u.Stated := by
  obtain ⟨id,hid,hformat,-⟩ := h.id
  refine ⟨?_,?_,h.title,h.value⟩
  · rw [hid, filled, bne_iff_ne]
    rintro rfl
    exact absurd hformat (by decide)
  · rcases h.status with hs | hs
    · exact ⟨"planned",by decide,hs⟩
    · exact ⟨"in_progress",by decide,hs⟩

theorem allUseCases_grown : (d.grown u today).allUseCases = d.active ++ u :: d.deprecated := by
  show (d.active ++ [u]) ++ d.deprecated = _
  rw [List.append_assoc, List.singleton_append]

theorem activeFunctions_grown (h : d.Admits u) :
    (d.grown u today).activeFunctions = d.activeFunctions := by
  show (d.active ++ [u]).flatMap _ = _
  rw [List.flatMap_append, List.flatMap_singleton, h.functions, List.map_nil, List.append_nil]
  rfl

end

end Document

namespace Audit
variable {d : Document} {u : UseCase} {today : Date}

theorem usesOf_grown (h : d.Admits u) (value : FunctionRecord → Option String) :
    usesOf value (d.grown u today) = usesOf value d := by
  rw [usesOf, usesOf, Document.activeFunctions_grown h]

theorem filter_isImplemented_grown (h : d.Admits u) :
    (d.grown u today).active.filter (·.isImplemented) = d.active.filter (·.isImplemented) := by
  show (d.active ++ [u]).filter _ = _
  simp [List.filter_append, h.isImplemented]

theorem checkDeprecated_grown (h : d.Admits u) :
    checkDeprecated (d.grown u today) = checkDeprecated d := by
  show d.deprecated.flatMap _ ++ (d.active ++ [u]).flatMap _ = _
  rw [List.flatMap_append, List.flatMap_singleton, h.isDeprecated]
  simp only [onlyIf, Bool.false_eq_true, if_false, List.append_nil]
  rfl

theorem checkElements_grown (h : d.Admits u) : checkElements (d.grown u today) =
    checkElements d ++ [passing .metaInjection
      s!"UC {shown u.id}: visual_element_id null (system UC or intentionally unlinked)"] := by
  show checkElementsFrom [] (d.active ++ [u]) = _
  rw [checkElementsFrom_concat, checkElement, h.element]
  rfl

/-- All checks but three say of the grown document what they say of the document. -/
theorem logged_grown (h : d.Admits u) (present : String → Bool) (rulesDir : String) :
    (logged present rulesDir (d.grown u today)).findings =
      checkTopLevel (d.grown u today) ++ checkStack d ++ checkIdentity (d.grown u today) ++
      checkFunctionNames d ++ checkEndpoints d ++ checkImplemented d ++ checkDeprecated d ++
      checkElements (d.grown u today) ++ checkNoFake d ++ checkDecisions d ++
      (checkFiles present d).findings ++
      (checkRuleFiles present rulesDir ruleFiles).findings := by
  have hfiles : checkFiles present (d.grown u today) = checkFiles present d := by
    rw [checkFiles, checkFiles, Document.activeFunctions_grown h]
  rw [logged, findings_append, findings_append, checkDocument, hfiles, checkFunctionNames,
    checkEndpoints, usesOf_grown h, usesOf_grown h, checkImplemented, checkNoFake,
    filter_isImplemented_grown h, checkDeprecated_grown h]
  rfl

theorem checkUseCase_of_admits (h : d.Admits u) : checkUseCase u = [] := by
  obtain ⟨id,hid,hformat,-⟩ := h.id
  obtain ⟨status,hstatus,hu⟩ := h.stated.status
  have hcontains : UseCase.validStatuses.contains status = true := List.elem_eq_true_of_mem hstatus
  simp only [checkUseCase, hid, shown, hformat, hu, Option.any_some, hcontains, h.title, h.value,
    Bool.not_true, Bool.and_false, onlyIf, Bool.false_eq_true, if_false, List.append_nil]

theorem clean_checkTopLevel_grown (htoday : today.Exists) (h : Clean (checkTopLevel d)) :
    Clean (checkTopLevel (d.grown u today)) := by
  obtain ⟨hfields,-,-⟩ := clean_checkTopLevel.mp h
  have hdate := htoday.isDate_toText
  have hfilled : filled (some today.toText) = true := by
    rw [filled, bne_iff_ne]
    intro he
    rw [he] at hdate
    exact absurd hdate (by decide)
  refine clean_checkTopLevel.mpr ⟨?_,⟨_,rfl,hdate⟩,rfl⟩
  simp only [List.forall_mem_cons] at hfields ⊢
  obtain ⟨hversion,hproject,hdescription,hauthor,hcreated,-⟩ := hfields
  exact ⟨hversion,hproject,hdescription,hauthor,hcreated,hfilled,by simp⟩

theorem clean_checkIdentity_grown (hu : d.Admits u) (h : Clean (checkIdentity d)) :
    Clean (checkIdentity (d.grown u today)) := by
  obtain ⟨hstated,hids⟩ := clean_checkIdentity.mp h
  obtain ⟨id,hid,-,hfresh⟩ := hu.id
  have hall : (d.grown u today).active ++ (d.grown u today).deprecated =
      d.active ++ u :: d.deprecated := Document.allUseCases_grown
  rw [clean_checkIdentity, hall]
  constructor
  · intro w hw
    rcases List.mem_append.mp hw with hw | hw
    · exact hstated w (List.mem_append_left _ hw)
    · rcases List.mem_cons.mp hw with rfl | hw
      · exact hu.stated
      · exact hstated w (List.mem_append_right _ hw)
  · rw [distinct_iff_nodup, List.filterMap_append] at hids ⊢
    obtain ⟨s,hs⟩ := filled_iff.mp hu.stated.id
    rw [List.filterMap_cons_some (by exact hs), List.perm_middle.nodup_iff, List.nodup_cons]
    refine ⟨?_,hids⟩
    rw [← List.filterMap_append, List.mem_filterMap]
    rintro ⟨w,hw,hws⟩
    have hwid := (filledText?_eq_some_iff.mp hws).1
    have huid := (filledText?_eq_some_iff.mp hs).1
    exact hfresh w hw (hwid.trans (huid.symm.trans hid))

/-- A document without errors stays without errors when a use case is added. -/
theorem clean_logged_grown {present : String → Bool} {rulesDir : String} (hu : d.Admits u)
    (htoday : today.Exists) (h : Clean (logged present rulesDir d).findings) :
    Clean (logged present rulesDir (d.grown u today)).findings := by
  rw [logged, findings_append, findings_append] at h
  simp only [checkDocument, clean_append] at h
  rw [logged_grown hu, checkElements_grown hu]
  simp only [clean_append, clean_cons, clean_nil, severity_passing, ne_eq, reduceCtorEq,
    not_false_eq_true, and_true]
  obtain ⟨⟨⟨⟨⟨⟨⟨⟨⟨⟨⟨htop,hstack⟩,hidentity⟩,hnames⟩,hends⟩,himplemented⟩,hdeprecated⟩,helements⟩,
    hgenuine⟩,hdecisions⟩,hfiles⟩,hrules⟩ := h
  exact ⟨⟨⟨⟨⟨⟨⟨⟨⟨⟨⟨clean_checkTopLevel_grown htoday htop,hstack⟩,
    clean_checkIdentity_grown hu hidentity⟩,hnames⟩,hends⟩,himplemented⟩,hdeprecated⟩,helements⟩,
    hgenuine⟩,hdecisions⟩,hfiles⟩,hrules⟩

theorem warningsOf_checkIdentity_grown (hu : d.Admits u) :
    warningsOf (checkIdentity (d.grown u today)) = warningsOf (checkIdentity d) := by
  rw [warningsOf_checkIdentity, warningsOf_checkIdentity, Document.allUseCases_grown,
    Document.allUseCases, List.flatMap_append, List.flatMap_append, List.flatMap_cons,
    checkUseCase_of_admits hu, warningsOf_nil, List.nil_append]

/-- A use case that is added changes no warning. -/
theorem warningsOf_logged_grown (hu : d.Admits u) (present : String → Bool) (rulesDir : String) :
    warningsOf (logged present rulesDir (d.grown u today)).findings =
      warningsOf (logged present rulesDir d).findings := by
  rw [logged_grown hu, logged, findings_append, findings_append, checkDocument,
    checkElements_grown hu]
  simp only [warningsOf_append, warningsOf_checkTopLevel, warningsOf_checkIdentity_grown hu,
    warningsOf_cons_passing, warningsOf_nil, List.append_nil]

end Audit

end Traceability
