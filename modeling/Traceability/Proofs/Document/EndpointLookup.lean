import Mathlib.Data.List.Basic
import Traceability.Proofs.Audit.Serving
import Traceability.Proofs.Text.Search
import Traceability.Proofs.Text.UpperCase

/-! # Lookups of endpoints

The key of an endpoint is its own key. A method without blanks and a path that is not blank can be
read off the key, up to the case of the method and the blanks around the path. So a lookup finds the
first active function record whose endpoint is written with this method and this path.
-/
namespace Traceability
open Text

/-! ## Keys -/

theorem isBlank_space : isBlank ' ' = true := by decide

theorem endpointKeyOf_of_notMem {cs : List Char} (h : ' ' ∉ trim cs) :
    endpointKeyOf cs = upper (trim cs) ++ [' '] := by
  simp only [endpointKeyOf, cutAt_of_notMem h]
  rfl

theorem endpointKeyOf_of_trim {cs method rest : List Char} (h : trim cs = method ++ ' ' :: rest)
    (hmethod : ' ' ∉ method) : endpointKeyOf cs = upper method ++ ' ' :: trim rest := by
  simp only [endpointKeyOf, h, cutAt_append_cons hmethod]

/-- The key of a method, a space and a path. -/
theorem endpointKeyOf_append_cons {method path : List Char} (hmethod : ' ' ∉ method)
    (hbegins : ∃ c, method.head? = some c ∧ isBlank c = false) (hpath : trim path ≠ []) :
    endpointKeyOf (method ++ ' ' :: path) = upper method ++ ' ' :: trim path := by
  rw [endpointKeyOf_of_trim (trim_append_cons hbegins hpath) hmethod, trim_trimEnd]

theorem space_notMem_upper {cs : List Char} (h : ' ' ∉ cs) : ' ' ∉ upper cs := by
  rwa [mem_upper_iff_of_isBlank isBlank_space]

/-- A trimmed text with a space in it has a method in front of the first one and a path behind. -/
theorem exists_method_of_mem_trim {cs : List Char} (h : ' ' ∈ trim cs) : ∃ method path,
    trim cs = method ++ ' ' :: path ∧ ' ' ∉ method ∧
      (∃ c, method.head? = some c ∧ isBlank c = false) ∧ trim path ≠ [] := by
  obtain ⟨method,path,hcut,hmethod⟩ := List.eq_append_cons_of_mem h
  have htrimmed := trimmed_trim cs
  rw [hcut] at htrimmed
  refine ⟨method,path,hcut,hmethod,?begins,?ends⟩
  case begins =>
    cases method with
    | nil => exact absurd (htrimmed.begins ' ' rfl) (by decide)
    | cons c method => exact ⟨c,rfl,htrimmed.begins c rfl⟩
  case ends =>
    intro hblank
    have hlast := List.getLast?_eq_some_getLast (List.cons_ne_nil ' ' path)
    have hend := htrimmed.ends _ (by rw [List.getLast?_append, hlast, Option.some_or])
    rcases List.mem_cons.mp (List.getLast_mem (List.cons_ne_nil ' ' path)) with hspace | hmem
    · rw [hspace, isBlank_space] at hend
      cases hend
    · rw [trim_eq_nil_iff.mp hblank _ hmem] at hend
      cases hend

theorem endpointKeyOf_endpointKeyOf (cs : List Char) :
    endpointKeyOf (endpointKeyOf cs) = endpointKeyOf cs := by
  by_cases hspace : ' ' ∈ trim cs
  · obtain ⟨method,path,hcut,hmethod,hbegins,hpath⟩ := exists_method_of_mem_trim hspace
    rw [endpointKeyOf_of_trim hcut hmethod,
      endpointKeyOf_append_cons (space_notMem_upper hmethod) (exists_head?_upper hbegins)
        (by rwa [trim_trim]), upper_upper, trim_trim]
  · have htrim : trim (upper (trim cs) ++ [' ']) = upper (trim cs) := by
      rw [trim_concat isBlank_space, (trimmed_trim cs).upper.trim_eq]
    rw [endpointKeyOf_of_notMem hspace, endpointKeyOf_of_notMem, htrim, upper_upper]
    rw [htrim]
    exact space_notMem_upper hspace

/-- A key is its own key. -/
theorem endpointKey_endpointKey (s : String) : endpointKey (endpointKey s) = endpointKey s := by
  rw [endpointKey, endpointKey, String.toList_ofList, endpointKeyOf_endpointKeyOf]

/-! ## Records that serve an endpoint -/

structure WellFormedRequest (method path : String) : Prop where
  method_ne : method ≠ ""
  solid : ∀ c ∈ method.toList, isBlank c = false
  path : isBlankText path = false

/-- What is written before the first space of the endpoint is the method up to case, and what is
written behind it is the path up to the blanks around it. -/
def FunctionRecord.Serves (f : FunctionRecord) (method path : String) : Prop :=
  ∃ endpoint own rest, f.endpoint = some endpoint ∧ trim endpoint.toList = own ++ ' ' :: rest ∧
    ' ' ∉ own ∧ upper own = upper method.toList ∧ trim rest = trim path.toList

/-- The first active function record that serves an endpoint, with its use case. -/
def Document.FirstServer (d : Document) (method path : String) (p : UseCase × FunctionRecord) : Prop :=
  p.2.Serves method path ∧ ∃ before after, d.activeFunctions = before ++ p :: after ∧
    ∀ q ∈ before, ¬ q.2.Serves method path

section
variable {method path : String}

theorem WellFormedRequest.space_notMem (h : WellFormedRequest method path) :
    ' ' ∉ method.toList := by
  intro hmem
  have hsolid := h.solid ' ' hmem
  rw [isBlank_space] at hsolid
  cases hsolid

theorem WellFormedRequest.trim_path_ne (h : WellFormedRequest method path) :
    trim path.toList ≠ [] := by
  rw [Ne, ← isBlankText_iff, h.path]
  exact Bool.false_ne_true

theorem WellFormedRequest.endpointKey_eq (h : WellFormedRequest method path) :
    endpointKey (method ++ " " ++ path) = upperCase method ++ " " ++ stripped path := by
  have hbegins : ∃ c, method.toList.head? = some c ∧ isBlank c = false := by
    have hne : method.toList ≠ [] := by simpa using h.method_ne
    obtain ⟨c,cs,hcs⟩ := List.exists_cons_of_ne_nil hne
    refine ⟨c,by rw [hcs, List.head?_cons],h.solid c ?_⟩
    rw [hcs]
    exact List.mem_cons_self
  have hlist : (method ++ " " ++ path).toList = method.toList ++ ' ' :: path.toList := by simp
  rw [endpointKey, hlist, endpointKeyOf_append_cons h.space_notMem hbegins h.trim_path_ne,
    ← String.toList_inj]
  simp [upperCase, stripped]

/-- The key of a record is the one that is asked for exactly when the record serves the endpoint. -/
theorem endpointKey?_eq_some_iff (h : WellFormedRequest method path) {f : FunctionRecord} :
    f.endpointKey? = some (endpointKey (method ++ " " ++ path)) ↔ f.Serves method path := by
  rw [h.endpointKey_eq, FunctionRecord.endpointKey?, ← Audit.filledText?, Option.map_eq_some_iff]
  constructor
  · rintro ⟨endpoint,hendpoint,hkey⟩
    have hlist : endpointKeyOf endpoint.toList = upper method.toList ++ ' ' :: trim path.toList := by
      rw [endpointKey, ← String.toList_inj] at hkey
      simpa [upperCase, stripped] using hkey
    have hasked : ' ' ∉ upper method.toList := space_notMem_upper h.space_notMem
    by_cases hspace : ' ' ∈ trim endpoint.toList
    · obtain ⟨own,rest,hcut,hown,-,-⟩ := exists_method_of_mem_trim hspace
      rw [endpointKeyOf_of_trim hcut hown] at hlist
      obtain ⟨hmethod,hpath⟩ := append_cons_inj (space_notMem_upper hown) hasked hlist
      exact ⟨endpoint,own,rest,(Audit.filledText?_eq_some_iff.mp hendpoint).1,hcut,hown,hmethod,hpath⟩
    -- the key of an endpoint without a path ends behind the space
    · rw [endpointKeyOf_of_notMem hspace] at hlist
      obtain ⟨-,hpath⟩ := append_cons_inj (space_notMem_upper hspace) hasked hlist
      exact absurd hpath.symm h.trim_path_ne
  · rintro ⟨endpoint,own,rest,hendpoint,hcut,hown,hmethod,hpath⟩
    refine ⟨endpoint,Audit.filledText?_eq_some_iff.mpr ⟨hendpoint,?filled⟩,?key⟩
    case filled =>
      rintro rfl
      have hnil : trim "".toList = [] := rfl
      rw [hnil] at hcut
      exact List.append_ne_nil_of_right_ne_nil own (List.cons_ne_nil ' ' rest) hcut.symm
    case key =>
      rw [endpointKey, endpointKeyOf_of_trim hcut hown, hmethod, hpath, ← String.toList_inj]
      simp [upperCase, stripped]

namespace Document

theorem findEndpoint_eq_some_iff (h : WellFormedRequest method path) {d : Document}
    {found : EndpointMatch} : d.findEndpoint method path = some found ↔
      ∃ p, d.FirstServer method path p ∧
        found = .ofRecord (upperCase method ++ " " ++ stripped path) p := by
  have hserves : ∀ p : UseCase × FunctionRecord,
      (p.2.endpointKey? == some (endpointKey (method ++ " " ++ path))) = true ↔
        p.2.Serves method path := fun p => beq_iff_eq.trans (endpointKey?_eq_some_iff h)
  have hfirst : ∀ p, (d.servers method path).head? = some p ↔ d.FirstServer method path p := by
    intro p
    rw [servers, List.head?_filter, List.find?_eq_some_iff_append, hserves, FirstServer]
    simp only [Bool.not_eq_true', ← Bool.not_eq_true, hserves]
  rw [findEndpoint_eq, Option.map_eq_some_iff, ← h.endpointKey_eq]
  simp only [hfirst, eq_comm]

/-- A lookup finds the first active function record whose endpoint is written with the method, in any
case, and the path, and nothing if there is none. -/
theorem findEndpoint_first :
    (∀ s, endpointKey (endpointKey s) = endpointKey s) ∧
    ∀ (d : Document) (method path : String), WellFormedRequest method path →
      (d.findEndpoint method path ≠ none ↔ ∃ p ∈ d.activeFunctions, p.2.Serves method path) ∧
      ∀ found, d.findEndpoint method path = some found ↔ ∃ p, d.FirstServer method path p ∧
        found = .ofRecord (upperCase method ++ " " ++ stripped path) p := by
  refine ⟨endpointKey_endpointKey,fun d method path h => ⟨?_,fun found => findEndpoint_eq_some_iff h⟩⟩
  rw [Ne, findEndpoint_eq, Option.map_eq_none_iff, List.head?_eq_none_iff, servers,
    List.filter_eq_nil_iff]
  simp only [beq_iff_eq, endpointKey?_eq_some_iff h, not_forall, not_not, exists_prop]

/-- The lookup passes over the first record and finds the second one, in which the method is written
in another case and with other blanks around it. -/
theorem findEndpoint_first_twoEndpoints :
    WellFormedRequest "gEt" " /x " ∧
      (∃ p ∈ (twoEndpoints "post /x" "\tGet  /x").activeFunctions, p.2.Serves "gEt" " /x ") ∧
      (twoEndpoints "post /x" "\tGet  /x").findEndpoint "gEt" " /x " =
        some ⟨some "save",some "UC-002",none,none,"GET /x"⟩ := by
  have hsolid : "gEt".toList.all (fun c => !isBlank c) = true := by decide
  have hrequest : WellFormedRequest "gEt" " /x " := by
    refine ⟨by decide,fun c hc => ?_,by decide⟩
    simpa using List.all_eq_true.mp hsolid c hc
  obtain ⟨hfound,-⟩ :=
    findEndpoint_first.2 (twoEndpoints "post /x" "\tGet  /x") "gEt" " /x " hrequest
  have hlookup : (twoEndpoints "post /x" "\tGet  /x").findEndpoint "gEt" " /x " =
      some ⟨some "save",some "UC-002",none,none,"GET /x"⟩ := by decide +kernel
  exact ⟨hrequest,hfound.mp (by rw [hlookup]; exact Option.some_ne_none _),hlookup⟩

end Document

end

end Traceability
