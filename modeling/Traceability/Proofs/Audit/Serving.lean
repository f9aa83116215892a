import Mathlib.Data.List.Nodup
import Traceability.Document.Lookup
import Traceability.Proofs.Audit.Rules
import Traceability.Proofs.Audit.Sound

/-! # One server for each endpoint

A lookup compares endpoints by their keys, in which the case of the method and the blanks around
method and path do not count, while the audit compares them as they are written. The answer of every
lookup is therefore the only possible one exactly when no key comes twice. When the audit reports no
repeat, that is left to the spelling: two records share a key only if they write it in two ways.
-/
namespace Traceability
open Text Audit

def EndpointMatch.ofRecord (endpoint : String) (p : UseCase × FunctionRecord) : EndpointMatch :=
  ⟨p.2.name,p.1.id,p.2.file,p.2.line,endpoint⟩

namespace Document

def servers (d : Document) (method path : String) : List (UseCase × FunctionRecord) :=
  d.activeFunctions.filter fun p => p.2.endpointKey? == some (endpointKey (method ++ " " ++ path))

/-- The endpoint has one server, which the lookup finds, or it has none, and the lookup fails. -/
def AnsweredByOne (d : Document) (method path : String) : Prop :=
  (d.servers method path = [] ∧ d.findEndpoint method path = none) ∨
    ∃ p, d.servers method path = [p] ∧ d.findEndpoint method path =
      some (.ofRecord (endpointKey (method ++ " " ++ path)) p)

def spellings (d : Document) : List String :=
  d.activeFunctions.filterMap fun p => filledText? p.2.endpoint

/-- No key is written in two ways. -/
def SpellsOnce (d : Document) : Prop :=
  ∀ s ∈ d.spellings, ∀ t ∈ d.spellings, endpointKey s = endpointKey t → s = t

/-! ## Keys and servers -/

theorem findEndpoint_eq (d : Document) (method path : String) : d.findEndpoint method path =
    (d.servers method path).head?.map (.ofRecord (endpointKey (method ++ " " ++ path))) := by
  rw [servers, List.head?_filter]
  rfl

theorem answeredByOne_iff {d : Document} {method path : String} :
    d.AnsweredByOne method path ↔ (d.servers method path).length ≤ 1 := by
  rw [AnsweredByOne, findEndpoint_eq]
  match d.servers method path with
  | [] => simp
  | [p] => simp
  | p :: q :: ps => simp

theorem length_servers (d : Document) (method path : String) : (d.servers method path).length =
    (d.spellings.map endpointKey).count (endpointKey (method ++ " " ++ path)) := by
  have hkeys : d.spellings.map endpointKey = d.activeFunctions.filterMap (·.2.endpointKey?) :=
    List.map_filterMap
  rw [hkeys, List.count_filterMap, servers, List.countP_eq_length_filter]

/-- Every spelling can be asked for: as a path without a method. -/
theorem endpointKey_path (s : String) : endpointKey ("" ++ " " ++ s) = endpointKey s := by
  have hblank : isBlank ' ' = true := by decide
  have htrim : trim (' ' :: s.toList) = trim s.toList := by
    rw [trim, trimStart, List.dropWhile_cons_of_pos hblank, ← trimStart, ← trim]
  have hlist : ("" ++ " " ++ s).toList = ' ' :: s.toList := by simp
  rw [endpointKey, endpointKey, endpointKeyOf, hlist, htrim, ← endpointKeyOf]

theorem forall_answeredByOne_iff {d : Document} :
    (∀ method path, d.AnsweredByOne method path) ↔ (d.spellings.map endpointKey).Nodup := by
  simp only [answeredByOne_iff, length_servers, List.nodup_iff_count_le_one]
  constructor
  · intro h key
    by_cases hkey : key ∈ d.spellings.map endpointKey
    · obtain ⟨s,-,rfl⟩ := List.mem_map.mp hkey
      rw [← endpointKey_path]
      exact h "" s
    · rw [List.count_eq_zero.mpr hkey]
      exact Nat.zero_le 1
  · exact fun h method path => h _

theorem nodup_keys_iff {d : Document} (h : d.spellings.Nodup) :
    (d.spellings.map endpointKey).Nodup ↔ d.SpellsOnce := by
  constructor
  · exact fun hkeys s hs t ht he => List.inj_on_of_nodup_map hkeys hs ht he
  · exact fun hspells => h.map_on hspells

/-! ## Audits without repeats -/

theorem nodup_spellings {present : String → Bool} {rulesDir : String} {d : Document}
    (h : ∀ f ∈ (evaluate present rulesDir d).report.errors, f.rule ≠ .noDuplicate) :
    d.spellings.Nodup := by
  rw [spellings, ← distinct_iff_nodup, ← clean_checkEndpoints]
  intro f hf herror
  have hmem : f ∈ (logged present rulesDir d).findings := by
    simp [logged, checkDocument, hf]
  refine h f ?_ (List.mem_singleton.mp (under_checkRepeats _ _ _ f hf))
  simp [report_evaluate, Report.ofFindings, Report.addAll_eq, hmem, herror]

/-- Without reported repeats, every lookup has the only possible answer if no endpoint is written in
two ways, and only then. -/
theorem answeredByOne_iff_spellsOnce {present : String → Bool} {rulesDir : String} {d : Document}
    (h : ∀ f ∈ (evaluate present rulesDir d).report.errors, f.rule ≠ .noDuplicate) :
    (∀ method path, d.AnsweredByOne method path) ↔ d.SpellsOnce :=
  forall_answeredByOne_iff.trans (nodup_keys_iff (nodup_spellings h))

def twoEndpoints (first second : String) : Document where
  useCases := some [
    { id := some "UC-001", functions := [{ name := some "load", endpoint := some first }] },
    { id := some "UC-002", functions := [{ name := some "save", endpoint := some second }] }]

theorem answeredByOne_iff_spellsOnce_twoEndpoints :
    (∀ method path, (twoEndpoints "GET /x" "POST /x").AnsweredByOne method path) ∧
      (twoEndpoints "GET /x" "POST /x").findEndpoint "get" "/x" =
        some ⟨some "load",some "UC-001",none,none,"GET /x"⟩ := by
  have hspells : (twoEndpoints "GET /x" "POST /x").SpellsOnce := by
    unfold SpellsOnce
    decide +kernel
  have hanswered := @answeredByOne_iff_spellsOnce (fun _ => true) "rules"
    (twoEndpoints "GET /x" "POST /x") (by decide +kernel)
  exact ⟨hanswered.mpr hspells,by decide +kernel⟩

/-- Two records serve one endpoint, and no repeat is reported. -/
theorem exists_servers_unreported :
    (∀ f ∈ (evaluate (fun _ => true) "rules" (twoEndpoints "GET /x" "get /x")).report.errors,
        f.rule ≠ .noDuplicate) ∧
      ((twoEndpoints "GET /x" "get /x").servers "GET" "/x").length = 2 ∧
      ¬ (twoEndpoints "GET /x" "get /x").AnsweredByOne "GET" "/x" := by
  refine ⟨by decide +kernel,by decide +kernel,?_⟩
  rw [answeredByOne_iff]
  decide +kernel

end Document

end Traceability
