import Traceability.Proofs.Document.Readable
import Traceability.Proofs.Value.Keys

/-! # What merging gathers

Mappings with one printed id are gathered into one, which stands where the first of them stood. It
has the keys of all of them in the order of their first uses, and under each key the first value that
is not null. A mapping whose printed id is empty stays as it is, and once merged nothing is merged
again. The only obstacle is an id that cannot be printed.
-/
namespace Traceability
open Number

def mappings (items : List Value) : List Entries := items.filterMap Value.entries?

/-! ## The value under a key -/

/-- The first value that is not null, null if all are. -/
def firstGiven? (values : List Value) : Option Value :=
  if values.isEmpty then none else some ((values.find? fun v => !v.isNull).getD .null)

theorem firstGiven?_singleton (v : Value) : firstGiven? [v] = some v := by
  rw [firstGiven?, List.find?_singleton]
  cases hnull : v.isNull with
  | true =>
    rw [Value.eq_null_of_isNull hnull]
    rfl
  | false => rfl

theorem firstGiven?_concat (values : List Value) (v : Value) : firstGiven? (values ++ [v]) =
    ((firstGiven? values).filter fun w => !w.isNull).or (some v) := by
  cases hfind : values.find? fun w => !w.isNull with
  | none =>
    have hlast : firstGiven? (values ++ [v]) = firstGiven? [v] := by
      simp [firstGiven?, List.find?_append, hfind]
    have hnull : (firstGiven? values).filter (fun w => !w.isNull) = none := by
      rw [firstGiven?, hfind]
      split <;> rfl
    rw [hlast, hnull, firstGiven?_singleton, Option.none_or]
  | some w =>
    have hw : w.isNull = false := by simpa using List.find?_some hfind
    have hne : values.isEmpty = false := by
      cases values with
      | nil => cases hfind
      | cons => rfl
    simp [firstGiven?, List.find?_append, hfind, hne, Option.filter, hw]

theorem mem_of_firstGiven? {values : List Value} {v : Value}
    (h : firstGiven? values = some v) : v ∈ values := by
  induction values using List.reverseRecOn generalizing v with
  | nil => cases h
  | append_singleton values w ih =>
    rw [firstGiven?_concat, Option.or_eq_some_iff, Option.filter_eq_some_iff] at h
    rw [List.mem_append, List.mem_singleton]
    rcases h with ⟨hgiven,-⟩ | ⟨-,hw⟩
    · exact .inl (ih hgiven)
    · exact .inr (Option.some.inj hw).symm

theorem exists_firstGiven?_of_mem {values : List Value} {v : Value} (h : v ∈ values)
    (hv : v.isNull = false) : ∃ w, firstGiven? values = some w ∧ w.isNull = false := by
  have hne : values.isEmpty = false := by
    rw [List.isEmpty_eq_false_iff]
    exact List.ne_nil_of_mem h
  cases hfind : values.find? fun w => !w.isNull with
  | none =>
    have hnull := List.find?_eq_none.mp hfind v h
    simp [hv] at hnull
  | some w =>
    have hw : w.isNull = false := by simpa using List.find?_some hfind
    exact ⟨w,by simp [firstGiven?, hfind, hne],hw⟩

/-- What a group of mappings gives under a key. -/
def groupValue? (group : List Entries) (key : Scalar) : Option Value :=
  firstGiven? (group.filterMap fun e => e.at? key)

theorem exists_of_groupValue? {group : List Entries} {key : Scalar} {v : Value}
    (h : groupValue? group key = some v) : ∃ e ∈ group, e.at? key = some v :=
  List.mem_filterMap.mp (mem_of_firstGiven? h)

/-- What one of the mappings gives is given by the group, though it may be another value. -/
theorem exists_groupValue?_of_given {group : List Entries} {e : Entries} {name : String}
    (he : e ∈ group) (hgiven : (e.field name).isNull = false) :
    ∃ v, groupValue? group (.text name) = some v ∧ v.isNull = false := by
  rw [Entries.field, Entries.get?] at hgiven
  cases hat : e.at? (.text name) with
  | none =>
    rw [hat] at hgiven
    cases hgiven
  | some v =>
    rw [hat] at hgiven
    exact exists_firstGiven?_of_mem (List.mem_filterMap.mpr ⟨e,he,hat⟩) hgiven

theorem isGiven_eq (e : Entries) (key : Scalar) :
    isGiven e key = ((e.at? key).filter fun v => !v.isNull).isSome := by
  rw [isGiven]
  cases e.at? key with
  | none => rfl
  | some v => cases hv : v.isNull <;> simp [hv]

theorem isGiven_congr {a b : Scalar} (h : a.same b = true) (e : Entries) :
    isGiven e a = isGiven e b := by
  rw [isGiven, isGiven, Entries.at?_congr h]

theorem at?_filter_isGiven (first second : Entries) (key : Scalar) :
    Entries.at? (second.filter fun entry => !isGiven first entry.1) key =
      if isGiven first key then none else second.at? key := by
  induction second with
  | nil => split <;> rfl
  | cons entry second ih =>
    obtain ⟨k,v⟩ := entry
    rw [List.filter_cons, Entries.at?_cons]
    by_cases hsame : k.same key = true
    · rw [if_pos hsame, isGiven_congr hsame]
      cases hgiven : isGiven first key with
      | true => simpa [hgiven] using ih
      | false => simp [Entries.at?_cons, hsame]
    · rw [if_neg hsame, ← ih]
      split
      · rw [Entries.at?_cons, if_neg hsame]
      · rfl

theorem at?_fillGaps {second : Entries} (h : second.OneEach) (first : Entries) (key : Scalar) :
    (fillGaps first second).at? key =
      if isGiven first key then first.at? key else (second.at? key).or (first.at? key) := by
  rw [fillGaps, Entries.at?_foldl_put (List.Pairwise.filter _ h), at?_filter_isGiven]
  split
  · rw [Option.none_or]
  · rfl

/-! ## Gathering a group -/

/-- The mapping has the keys of a group in the order of their first uses, and under each key the
first value that is not null, or null if all are. -/
structure Gathers (group : List Entries) (whole : Entries) : Prop where
  keys : whole.map Prod.fst = (group.flatMap fun e => e.map Prod.fst).eraseDupsBy Scalar.same
  values : ∀ key, whole.at? key = groupValue? group key

theorem gathers_singleton {e : Entries} (he : e.OneEach) : Gathers [e] e := by
  refine ⟨?_,fun key => ?_⟩
  · rw [List.flatMap_singleton, he.eraseDupsBy_keys]
  · rw [groupValue?]
    cases hkey : e.at? key with
    | none => simp [hkey, firstGiven?]
    | some v => simp [hkey, firstGiven?_singleton]

theorem Gathers.fillGaps {group : List Entries} {whole e : Entries} (h : Gathers group whole)
    (he : e.OneEach) : Gathers (group ++ [e]) (fillGaps whole e) := by
  refine ⟨?_,fun key => ?_⟩
  · rw [List.flatMap_append, List.flatMap_singleton]
    refine Entries.keys_foldl_put h.keys ?_
    intro entry _ hgiven
    have hsome : isGiven whole entry.1 = true := by simpa using hgiven
    rw [isGiven] at hsome
    cases hat : whole.at? entry.1 with
    | none => simp [hat] at hsome
    | some v =>
      obtain ⟨k,hk,hsame⟩ := Entries.exists_key_of_at? hat
      exact ⟨k,hk,by rwa [Scalar.same_comm]⟩
  · have hwhole := h.values key
    rw [at?_fillGaps he, groupValue?, List.filterMap_append, isGiven_eq]
    rw [groupValue?] at hwhole
    cases hkey : e.at? key with
    | none =>
      have hnone : [e].filterMap (fun e => e.at? key) = [] := by simp [hkey]
      rw [hnone, List.append_nil, Option.none_or, ite_self, hwhole]
    | some v =>
      have hsome : [e].filterMap (fun e => e.at? key) = [v] := by simp [hkey]
      rw [hsome, firstGiven?_concat, ← hwhole]
      cases hgiven : (whole.at? key).filter fun v => !v.isNull with
      | none => rfl
      | some w => exact (Option.filter_eq_some_iff.mp hgiven).1

/-! ## Mappings that lead -/

def repeatsId (later first : Entries) : Bool :=
  printedId later != "" && printedId later == printedId first

theorem repeatsId_eq_true_iff {later first : Entries} : repeatsId later first = true ↔
    printedId later ≠ "" ∧ printedId later = printedId first := by
  simp [repeatsId]

theorem printedId_ne_of_repeatsId_eq_false {later first : Entries}
    (h : repeatsId later first = false) (hne : printedId later ≠ "") :
    printedId later ≠ printedId first := by
  intro heq
  rw [repeatsId_eq_true_iff.mpr ⟨hne,heq⟩] at h
  cases h

/-- The mappings that come first with their printed id, and all those without one. -/
def leaders (es : List Entries) : List Entries := es.eraseDupsBy repeatsId

theorem exists_leader {es : List Entries} {e : Entries} (he : e ∈ es) :
    ∃ leader ∈ leaders es, printedId leader = printedId e := by
  have hkept : e ∈ leaders es ∨ ∃ leader ∈ leaders es, repeatsId e leader = true :=
    mem_or_repeats_of_mem he
  rcases hkept with hlead | ⟨leader,hlead,hrepeats⟩
  · exact ⟨e,hlead,rfl⟩
  · exact ⟨leader,hlead,(repeatsId_eq_true_iff.mp hrepeats).2.symm⟩

def sharing (es : List Entries) (e : Entries) : List Entries :=
  es.filter fun f => printedId f = printedId e

/-- What a leading mapping becomes: it stays as it is if its printed id is empty, and gathers all
mappings with its id otherwise. -/
def Becomes (es : List Entries) (leader whole : Entries) : Prop :=
  if printedId leader = "" then whole = leader else Gathers (sharing es leader) whole

section
variable {es : List Entries} {e leader whole : Entries}

theorem Becomes.concat_other (h : Becomes es leader whole) (hother : repeatsId e leader = false) :
    Becomes (es ++ [e]) leader whole := by
  rw [Becomes] at h ⊢
  split
  · next hid => rwa [if_pos hid] at h
  · next hid =>
    have hdiff : printedId e ≠ printedId leader := by
      intro heq
      exact printedId_ne_of_repeatsId_eq_false hother (heq ▸ hid) heq
    rw [if_neg hid] at h
    rwa [sharing, List.filter_append, List.filter_cons_of_neg (by simpa using hdiff), List.filter_nil,
      List.append_nil]

theorem Becomes.fillGaps (h : Becomes es leader whole) (he : e.OneEach)
    (hrepeats : repeatsId e leader = true) : Becomes (es ++ [e]) leader (fillGaps whole e) := by
  obtain ⟨hne,heq⟩ := repeatsId_eq_true_iff.mp hrepeats
  have hid : printedId leader ≠ "" := heq ▸ hne
  rw [Becomes, if_neg hid] at h ⊢
  rw [sharing, List.filter_append, List.filter_cons_of_pos (by simpa using heq), List.filter_nil]
  exact h.fillGaps he

theorem becomes_of_new (he : e.OneEach) (hnew : ∀ leader ∈ leaders es, repeatsId e leader = false) :
    Becomes (es ++ [e]) e e := by
  rw [Becomes]
  split
  · rfl
  · next hid =>
    have hnone : sharing es e = [] := by
      rw [sharing, List.filter_eq_nil_iff]
      intro f hf heq
      have hsame : printedId f = printedId e := by simpa using heq
      have hkept : f ∈ leaders es ∨ ∃ leader ∈ leaders es, repeatsId f leader = true :=
        mem_or_repeats_of_mem hf
      rcases hkept with hlead | ⟨leader,hlead,hrepeats⟩
      · exact printedId_ne_of_repeatsId_eq_false (hnew f hlead) hid hsame.symm
      · obtain ⟨-,heq⟩ := repeatsId_eq_true_iff.mp hrepeats
        exact printedId_ne_of_repeatsId_eq_false (hnew leader hlead) hid (hsame.symm.trans heq)
    rw [sharing, List.filter_append, ← sharing, hnone, List.filter_cons_of_pos (by simp),
      List.filter_nil, List.nil_append]
    exact gathers_singleton he

structure Held (es : List Entries) (leader : Entries) (held : Keyed) : Prop where
  key : held.1 = printedId leader
  becomes : Becomes es leader held.2
  id : held.2.field "id" = leader.field "id"

theorem Held.concat_other {held : Keyed} (h : Held es leader held)
    (hother : repeatsId e leader = false) : Held (es ++ [e]) leader held :=
  ⟨h.key,h.becomes.concat_other hother,h.id⟩

theorem Held.fillGaps {held : Keyed} (h : Held es leader held) (he : e.OneEach)
    (hrepeats : repeatsId e leader = true) :
    Held (es ++ [e]) leader (held.1,fillGaps held.2 e) := by
  obtain ⟨hne,heq⟩ := repeatsId_eq_true_iff.mp hrepeats
  have hnull : (held.2.field "id").isNull = false := by
    rw [← Bool.not_eq_true]
    intro hnull
    rw [heq, printedId, ← h.id, Value.eq_null_of_isNull hnull] at hne
    exact hne rfl
  exact ⟨h.key,h.becomes.fillGaps he hrepeats,(field_fillGaps hnull e).trans h.id⟩

theorem forall₂_held_concat {ls : List Entries} {merged : List Keyed}
    (h : List.Forall₂ (Held es) ls merged) (hother : ∀ leader ∈ ls, repeatsId e leader = false) :
    List.Forall₂ (Held (es ++ [e])) ls merged := by
  induction h with
  | nil => exact .nil
  | cons hfirst _ ih =>
    obtain ⟨hl,hls⟩ := List.forall_mem_cons.mp hother
    exact .cons (hfirst.concat_other hl) (ih hls)

/-- A mapping whose id is there fills the gaps of what is held for it, and of nothing else. -/
theorem forall₂_held_mergeInto {ls : List Entries} {merged : List Keyed} (he : e.OneEach)
    (h : List.Forall₂ (Held es) ls merged)
    (hls : ls.Pairwise fun first later => repeatsId later first = false)
    (hrepeats : ∃ leader ∈ ls, repeatsId e leader = true) :
    List.Forall₂ (Held (es ++ [e])) ls (mergeInto (printedId e,e) merged) := by
  induction h with
  | nil => simp at hrepeats
  | @cons leader held ls merged hfirst hrest ih =>
    obtain ⟨hl,hls⟩ := List.pairwise_cons.mp hls
    rw [mergeInto]
    cases hid : repeatsId e leader with
    | true =>
      obtain ⟨hne,heq⟩ := repeatsId_eq_true_iff.mp hid
      rw [if_pos (hfirst.key.trans heq.symm)]
      refine .cons (hfirst.fillGaps he hid) (forall₂_held_concat hrest ?_)
      intro later hlater
      have hdiff := hl later hlater
      rw [← Bool.not_eq_true, repeatsId_eq_true_iff] at hdiff ⊢
      rintro ⟨-,hlatereq⟩
      exact hdiff ⟨hlatereq ▸ hne,hlatereq ▸ heq⟩
    | false =>
      have hkey : held.1 ≠ printedId e := by
        obtain ⟨_,_,hsome⟩ := hrepeats
        obtain ⟨hne,-⟩ := repeatsId_eq_true_iff.mp hsome
        intro heq
        exact printedId_ne_of_repeatsId_eq_false hid hne (heq.symm.trans hfirst.key)
      rw [if_neg hkey]
      refine .cons (hfirst.concat_other hid) (ih hls ?_)
      obtain ⟨f,hf,hsome⟩ := hrepeats
      rcases List.mem_cons.mp hf with rfl | hf
      · rw [hid] at hsome
        cases hsome
      · exact ⟨f,hf,hsome⟩

/-- One more mapping leads itself or fills what is held for its leader. -/
theorem forall₂_held_mergeKeyed {merged : List Keyed} (he : e.OneEach)
    (h : List.Forall₂ (Held es) (leaders es) merged) :
    List.Forall₂ (Held (es ++ [e])) (leaders (es ++ [e]))
      (mergeKeyed merged (printedId e,e)) := by
  have hleaders : leaders (es ++ [e]) =
      if (leaders es).any (repeatsId e) then leaders es else leaders es ++ [e] :=
    eraseDupsBy_concat es e
  have hids : (leaders es).map printedId = merged.map Prod.fst :=
    map_eq_map_iff_forall₂.mpr (h.imp fun _ _ hheld => hheld.key.symm)
  rw [hleaders, mergeKeyed]
  by_cases hany : (leaders es).any (repeatsId e) = true
  · obtain ⟨leader,hleader,hrepeats⟩ := List.any_eq_true.mp hany
    rw [if_pos hany, if_neg (repeatsId_eq_true_iff.mp hrepeats).1]
    exact forall₂_held_mergeInto he h (pairwise_eraseDupsBy es) ⟨leader,hleader,hrepeats⟩
  · have hnew : ∀ leader ∈ leaders es, repeatsId e leader = false := by simpa using hany
    have hmerged : (if printedId e = "" then merged ++ [(printedId e,e)]
        else mergeInto (printedId e,e) merged) = merged ++ [(printedId e,e)] := by
      split
      · rfl
      · next hne =>
        refine mergeInto_of_notMem ?_
        rw [← hids, List.mem_map]
        rintro ⟨leader,hleader,heq⟩
        exact printedId_ne_of_repeatsId_eq_false (hnew leader hleader) hne heq.symm
    rw [if_neg hany, hmerged]
    exact List.rel_append (forall₂_held_concat h hnew)
      (.cons ⟨rfl,becomes_of_new he hnew,rfl⟩ .nil)

/-- What is held in the end, by induction on the mappings from the last one. -/
theorem forall₂_held_foldl {es : List Entries} (hes : ∀ e ∈ es, e.OneEach) :
    List.Forall₂ (Held es) (leaders es)
      ((es.map fun e => (printedId e,e)).foldl mergeKeyed []) := by
  induction es using List.reverseRecOn with
  | nil => exact .nil
  | append_singleton es e ih =>
    obtain ⟨hes,he⟩ := List.forall_mem_append.mp hes
    rw [List.map_append, List.foldl_append]
    exact forall₂_held_mergeKeyed (he e (List.mem_singleton_self e)) (ih hes)

end

/-! ## Merging by ids -/

theorem distinctIds_leaders (es : List Entries) : DistinctIds ((leaders es).map printedId) := by
  refine List.pairwise_map.mpr (List.Pairwise.imp ?_ (pairwise_eraseDupsBy es))
  intro first later hdiff hne heq
  exact printedId_ne_of_repeatsId_eq_false hdiff (heq ▸ hne) heq.symm

/-- What merging some items gives. -/
structure MergedFrom (items : List Value) (result : List Entries) : Prop where
  gathered : List.Forall₂ (Becomes (mappings items)) (leaders (mappings items)) result
  distinct : DistinctIds (result.map printedId)
  again : mergeById (result.map .map) = .ok result

theorem mappings_map (es : List Entries) : mappings (es.map .map) = es := by
  rw [mappings, List.filterMap_map]
  exact List.filterMap_some

/-- What results from the leading mappings, which keep their ids. -/
theorem forall₂_mergeById {items : List Value} (hone : ∀ e ∈ mappings items, e.OneEach) :
    Ensures (mergeById items) fun result => List.Forall₂ (fun leader whole =>
      Becomes (mappings items) leader whole ∧ whole.field "id" = leader.field "id")
      (leaders (mappings items)) result := by
  refine .map fun keyed hkeyed => ?_
  rw [ensures_keyedItems items keyed hkeyed, List.forall₂_map_right_iff]
  exact (forall₂_held_foldl hone).imp fun _ _ hheld => ⟨hheld.becomes,hheld.id⟩

theorem mergedFrom_of_writable {items : List Value} (hone : ∀ e ∈ mappings items, e.OneEach)
    (hid : ∀ e ∈ mappings items, (e.field "id").isWritable = true) :
    ∃ result, mergeById items = .ok result ∧ MergedFrom items result := by
  obtain ⟨result,hresult⟩ := exists_mergeById_iff.mpr hid
  have hall := forall₂_mergeById hone result hresult
  have hids : result.map (fun whole => whole.field "id") =
      (leaders (mappings items)).map fun leader => leader.field "id" :=
    (map_eq_map_iff_forall₂.mpr (hall.imp fun _ _ h => h.2.symm)).symm
  have hdistinct : DistinctIds (result.map printedId) := by
    have hprinted : (leaders (mappings items)).map printedId = result.map printedId :=
      map_eq_map_iff_forall₂.mpr (hall.imp fun _ _ h => by rw [printedId, printedId, h.2])
    exact hprinted ▸ distinctIds_leaders (mappings items)
  have hwritable : ∀ whole ∈ mappings (result.map .map), (whole.field "id").isWritable = true := by
    rw [mappings_map]
    intro whole hwhole
    have hmem : whole.field "id" ∈ (leaders (mappings items)).map fun leader => leader.field "id" :=
      hids ▸ List.mem_map_of_mem hwhole
    obtain ⟨leader,hleader,heq⟩ := List.mem_map.mp hmem
    exact heq ▸ hid leader (mem_of_mem_eraseDupsBy hleader)
  obtain ⟨twice,htwice⟩ := exists_mergeById_iff.mpr hwritable
  have hdiff : DifferentIds (result.map .map) := by
    rw [DifferentIds, ← mappings, mappings_map]
    exact hdistinct
  have heq := mergeById_of_differentIds hdiff twice htwice
  rw [← mappings, mappings_map] at heq
  exact ⟨result,hresult,hall.imp fun _ _ h => h.1,hdistinct,by rw [htwice, heq]⟩

/-- Merging fails for one reason only. -/
theorem mergeById_eq_error {items : List Value} {error : IntegerError}
    (h : mergeById items = .error error) : error = .tooLarge := by
  obtain ⟨e,-,hkey⟩ := exists_of_mapM_eq_error (map_eq_error_iff.mp h)
  have hkey := map_eq_error_iff.mp hkey
  rw [mergeKey] at hkey
  split at hkey
  · cases hkey
  · rw [Value.written?] at hkey
    split at hkey
    · cases hkey
    · exact (Except.error.inj hkey).symm

theorem mergeById_of_unwritable {items : List Value} {e : Entries} (he : e ∈ mappings items)
    (hid : (e.field "id").isWritable = false) : mergeById items = .error .tooLarge := by
  cases hmerge : mergeById items with
  | error error => rw [mergeById_eq_error hmerge]
  | ok result =>
    have hwritable := exists_mergeById_iff.mp ⟨result,hmerge⟩ e he
    rw [hid] at hwritable
    cases hwritable

/-- Merging gathers the mappings with one printed id if all ids can be printed, and fails
otherwise. -/
theorem mergeById_gathers {items : List Value} (hone : ∀ e ∈ mappings items, e.OneEach) :
    ((∀ e ∈ mappings items, (e.field "id").isWritable = true) →
      ∃ result, mergeById items = .ok result ∧ MergedFrom items result) ∧
    ((∃ e ∈ mappings items, (e.field "id").isWritable = false) →
      mergeById items = .error .tooLarge) := by
  refine ⟨mergedFrom_of_writable hone,?_⟩
  rintro ⟨e,he,hid⟩
  exact mergeById_of_unwritable he hid

/-- The second of two mappings with one id fills the gap of the first one and adds a key. -/
theorem mergeById_gathers_filledGap :
    let items : List Value := [
      .map [(.text "id",.text "users"),(.text "owner",.null)],
      .text "users",
      .map [(.text "name",.text "orders")],
      .map [(.text "id",.text "users"),(.text "audit_log",.bool true),(.text "owner",.text "auth")]]
    let result : List Entries := [
      [(.text "id",.text "users"),(.text "owner",.text "auth"),(.text "audit_log",.bool true)],
      [(.text "name",.text "orders")]]
    mergeById items = .ok result ∧ MergedFrom items result := by
  intro items result
  have hone : ∀ e ∈ mappings items, e.OneEach := by decide
  have hid : ∀ e ∈ mappings items, (e.field "id").isWritable = true := by decide
  obtain ⟨merged,hmerged,hfrom⟩ := (mergeById_gathers hone).1 hid
  have hresult : mergeById items = .ok result := rfl
  obtain rfl : result = merged := Except.ok.inj (hresult.symm.trans hmerged)
  exact ⟨hresult,hfrom⟩

/-- An id of too many digits cannot be printed, and no list results. -/
theorem mergeById_longId :
    mergeById [.map [(.text "id",.int (.ofNat (Nat.pow 10 4300)))]] = .error .tooLarge := by
  have hid : (Entries.field [(.text "id",.int (.ofNat (Nat.pow 10 4300)))] "id").isWritable =
      false := by
    decide +kernel
  exact mergeById_of_unwritable (List.mem_singleton_self _) hid

end Traceability
