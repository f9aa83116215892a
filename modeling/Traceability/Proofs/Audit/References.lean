import Traceability.Proofs.Audit.Repeats

/-! # Files that are asked for

An audit asks for every file that an active function record refers to, once and in the order of the
first references, and then for the documents that state the rules. Each answer makes one finding; that
a file is missing is held against the record that refers to it first.
-/
namespace Traceability
open Text

namespace Document
open Audit

def fileOf (p : UseCase × FunctionRecord) : Option String := filledText? p.2.file

/-- The files that active function records refer to, each once, in the order of first reference. -/
def files (d : Document) : List String := (d.activeFunctions.filterMap fileOf).eraseDups

def firstReferences (d : Document) : List (UseCase × FunctionRecord) :=
  firstsOf fileOf d.activeFunctions

def askedPaths (d : Document) (rulesDir : String) : List String :=
  d.files ++ ruleFiles.map fun name => rulesDir ++ "/" ++ name

theorem mem_files {d : Document} {file : String} :
    file ∈ d.files ↔ ∃ p ∈ d.activeFunctions, fileOf p = some file := by
  rw [files, List.mem_eraseDups, List.mem_filterMap]

/-- Each of the files has a first reference. -/
theorem map_firstReferences (d : Document) :
    (d.firstReferences.map fun p => shown p.2.file) = d.files := by
  have hfiles : d.firstReferences.map fileOf = d.files.map some := map_firstsOf fileOf _
  have hshown : ∀ p ∈ d.firstReferences, shown p.2.file = shown (fileOf p) := by
    intro p hp
    have hmem : fileOf p ∈ d.files.map some := hfiles ▸ List.mem_map_of_mem hp
    obtain ⟨file,-,hfile⟩ := List.mem_map.mp hmem
    rw [← hfile, shown_of_filledText? hfile.symm, shown]
  calc d.firstReferences.map (fun p => shown p.2.file)
    _ = (d.firstReferences.map fileOf).map shown := by
      rw [List.map_map]
      exact List.map_congr_left hshown
    _ = (d.files.map some).map shown := by rw [hfiles]
    _ = d.files := by
      rw [List.map_map]
      exact List.map_id' d.files

end Document

namespace Audit
open Document

def fileFinding (present : String → Bool) (p : UseCase × FunctionRecord) : Finding :=
  if present (shown p.2.file) then
    passing .completeness s!"File reference verified: {shown p.2.file}"
  else
    failure .completeness
      s!"UC {shown p.1.id}: function \"{shown p.2.name}\" references non-existent file: {shown p.2.file}"

def ruleFileFinding (present : String → Bool) (path : String) : Finding :=
  if present path then passing .ruleDocuments s!"Rule file present: {path}"
  else failure .ruleDocuments s!"Required rule file missing: {path}"

theorem checkFilesFrom_singleton (present : String → Bool) (checked : List String)
    (p : UseCase × FunctionRecord) : checkFilesFrom present checked [p] =
      match fileOf p with
      | none => {}
      | some file => if file ∈ checked then {} else ⟨[fileFinding present p],[file]⟩ := by
  obtain ⟨u,f⟩ := p
  rw [checkFilesFrom]
  cases hfile : f.file.bind nonEmpty? with
  | none =>
    have hnone : fileOf (u,f) = none := hfile
    rw [hnone]
    rfl
  | some file =>
    have hsome : fileOf (u,f) = some file := hfile
    have hshown : shown f.file = file := shown_of_filledText? hfile
    simp only [hsome, List.contains_iff_mem, checkFilesFrom, log_append_empty]
    by_cases hchecked : file ∈ checked
    · rw [if_pos hchecked, if_pos hchecked]
    · rw [if_neg hchecked, if_neg hchecked, askFor, fileFinding, hshown]

/-- The file of the last record is asked for unless it has been before. -/
theorem checkFilesFrom_concat (present : String → Bool) (checked : List String)
    (ps : List (UseCase × FunctionRecord)) (p : UseCase × FunctionRecord) :
    checkFilesFrom present checked (ps ++ [p]) = checkFilesFrom present checked ps ++
      match fileOf p with
      | none => {}
      | some file =>
        if file ∈ checked ++ ps.filterMap fileOf then {}
        else ⟨[fileFinding present p],[file]⟩ := by
  induction ps generalizing checked with
  | nil =>
    rw [List.nil_append, List.filterMap_nil, List.append_nil, checkFilesFrom_singleton]
    rfl
  | cons q ps ih =>
    obtain ⟨w,g⟩ := q
    rw [List.cons_append, checkFilesFrom, checkFilesFrom]
    cases hother : g.file.bind nonEmpty? with
    | none =>
      have hnone : fileOf (w,g) = none := hother
      rw [List.filterMap_cons_none hnone]
      exact ih checked
    | some other =>
      have hsome : fileOf (w,g) = some other := hother
      simp only [List.filterMap_cons_some hsome, List.contains_iff_mem]
      by_cases hchecked : other ∈ checked
      · have hsame : ∀ file, file ∈ checked ++ other :: ps.filterMap fileOf ↔
            file ∈ checked ++ ps.filterMap fileOf := by
          intro file
          simp only [List.mem_append, List.mem_cons]
          constructor
          · rintro (h | rfl | h)
            · exact .inl h
            · exact .inl hchecked
            · exact .inr h
          · rintro (h | h)
            · exact .inl h
            · exact .inr (.inr h)
        simp only [if_pos hchecked, ih, hsame]
      · simp only [if_neg hchecked, ih, log_append_assoc, List.append_assoc,
          List.singleton_append]

theorem checkFiles_eq (present : String → Bool) (d : Document) :
    checkFiles present d = ⟨d.firstReferences.map (fileFinding present),d.files⟩ := by
  rw [checkFiles, firstReferences, files]
  induction d.activeFunctions using List.reverseRecOn with
  | nil => rfl
  | append_singleton ps p ih =>
    rw [checkFilesFrom_concat, ih, firstsOf_concat, List.filterMap_append, List.nil_append]
    cases hp : fileOf p with
    | none =>
      rw [List.filterMap_cons_none hp, log_append_empty]
      simp
    | some file =>
      rw [List.filterMap_cons_some hp, List.filterMap_nil, eraseDups_concat]
      simp only [List.mem_eraseDups, Option.any_some, decide_not]
      by_cases hmem : file ∈ ps.filterMap fileOf
      · simp [hmem, log_append_empty]
      · simp only [hmem, if_false, decide_false, Bool.not_false, if_true, List.map_append]
        rfl

theorem checkRuleFiles_eq (present : String → Bool) (rulesDir : String) (names : List String) :
    checkRuleFiles present rulesDir names =
      ⟨names.map fun name => ruleFileFinding present (rulesDir ++ "/" ++ name),
        names.map fun name => rulesDir ++ "/" ++ name⟩ := by
  induction names with
  | nil => rfl
  | cons name names ih =>
    rw [checkRuleFiles, ih]
    rfl

end Audit

end Traceability
