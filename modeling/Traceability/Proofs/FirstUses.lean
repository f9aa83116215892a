import Mathlib.Data.List.Basic
import Mathlib.Data.List.Induction

/-! # First uses and repeats

Of a list only the members are kept that repeat none of those kept before them. A member at the end
is kept exactly when it repeats none of what was kept. With a key, every member is either the first
with its key or a repeat of that one.
-/
namespace Traceability

variable {α : Type} {repeats : α → α → Bool}

theorem eraseDupsBy_loop_concat (xs : List α) (a : α) (kept : List α) :
    List.eraseDupsBy.loop repeats (xs ++ [a]) kept =
      if (List.eraseDupsBy.loop repeats xs kept).any (repeats a) then
        List.eraseDupsBy.loop repeats xs kept
      else List.eraseDupsBy.loop repeats xs kept ++ [a] := by
  induction xs generalizing kept with
  | nil =>
    simp only [List.nil_append, List.eraseDupsBy.loop, List.any_reverse]
    cases kept.any (repeats a) <;> simp
  | cons x xs ih =>
    by_cases hx : kept.any (repeats x) = true
    · simpa only [List.cons_append, List.eraseDupsBy.loop, hx] using ih kept
    · simpa only [List.cons_append, List.eraseDupsBy.loop, Bool.eq_false_iff.mpr hx]
        using ih (x :: kept)

theorem eraseDupsBy_concat (xs : List α) (a : α) :
    (xs ++ [a]).eraseDupsBy repeats =
      if (xs.eraseDupsBy repeats).any (repeats a) then xs.eraseDupsBy repeats
      else xs.eraseDupsBy repeats ++ [a] :=
  eraseDupsBy_loop_concat xs a []

/-- What is kept repeats nothing that was kept before it. -/
theorem pairwise_eraseDupsBy (xs : List α) :
    (xs.eraseDupsBy repeats).Pairwise fun first later => repeats later first = false := by
  induction xs using List.reverseRecOn with
  | nil => exact List.Pairwise.nil
  | append_singleton xs a ih =>
    rw [eraseDupsBy_concat]
    split
    · exact ih
    · next hnew =>
      refine List.pairwise_append.mpr ⟨ih,List.pairwise_singleton ..,?_⟩
      simpa using hnew

theorem eraseDupsBy_of_pairwise {xs : List α}
    (h : xs.Pairwise fun first later => repeats later first = false) :
    xs.eraseDupsBy repeats = xs := by
  induction xs using List.reverseRecOn with
  | nil => rfl
  | append_singleton xs a ih =>
    obtain ⟨hxs,-,hnew⟩ := List.pairwise_append.mp h
    rw [eraseDupsBy_concat, ih hxs, if_neg]
    simpa using hnew

theorem mem_of_mem_eraseDupsBy {xs : List α} {a : α} (h : a ∈ xs.eraseDupsBy repeats) : a ∈ xs := by
  induction xs using List.reverseRecOn with
  | nil => exact h
  | append_singleton xs x ih =>
    rw [eraseDupsBy_concat] at h
    rw [List.mem_append]
    split at h
    · exact .inl (ih h)
    · exact (List.mem_append.mp h).imp_left ih

/-- What is not kept repeats something that is. -/
theorem mem_or_repeats_of_mem {xs : List α} {a : α} (h : a ∈ xs) :
    a ∈ xs.eraseDupsBy repeats ∨ ∃ first ∈ xs.eraseDupsBy repeats, repeats a first = true := by
  induction xs using List.reverseRecOn with
  | nil => cases h
  | append_singleton xs x ih =>
    have hkept : ∀ first ∈ xs.eraseDupsBy repeats, first ∈ (xs ++ [x]).eraseDupsBy repeats := by
      intro first hfirst
      rw [eraseDupsBy_concat]
      split
      · exact hfirst
      · exact List.mem_append_left _ hfirst
    rcases List.mem_append.mp h with hxs | hx
    · refine (ih hxs).imp (hkept a) ?_
      rintro ⟨first,hfirst,hrepeats⟩
      exact ⟨first,hkept first hfirst,hrepeats⟩
    · obtain rfl := List.mem_singleton.mp hx
      rw [eraseDupsBy_concat]
      split
      · next hany => exact .inr (List.any_eq_true.mp hany)
      · exact .inl (List.mem_append_right _ hx)

/-! ## Texts -/

theorem eraseDups_concat (texts : List String) (text : String) : (texts ++ [text]).eraseDups =
    if text ∈ texts.eraseDups then texts.eraseDups else texts.eraseDups ++ [text] := by
  rw [List.eraseDups, eraseDupsBy_concat, ← List.eraseDups]
  simp only [List.any_beq, List.contains_iff_mem]

theorem nodup_eraseDups (texts : List String) : texts.eraseDups.Nodup := by
  have hpairs : texts.eraseDups.Pairwise fun first later => (later == first) = false :=
    pairwise_eraseDupsBy texts
  refine hpairs.imp ?_
  rintro text _ hdiff rfl
  rw [beq_self_eq_true] at hdiff
  cases hdiff

theorem eraseDups_perm {texts others : List String} (h : texts.Perm others) :
    texts.eraseDups.Perm others.eraseDups := by
  refine (List.perm_ext_iff_of_nodup (nodup_eraseDups _) (nodup_eraseDups _)).mpr fun text => ?_
  rw [List.mem_eraseDups, List.mem_eraseDups]
  exact h.mem_iff

/-! ## First members with a key -/

section
variable {key : α → Option String} {xs : List α} {text : String}

/-- The first members with each of the keys, in the order of the keys' first uses. -/
def firstsOf (key : α → Option String) (xs : List α) : List α :=
  (xs.filterMap key).eraseDups.filterMap fun text => xs.find? fun x => key x == some text

theorem exists_find?_of_mem_filterMap (h : text ∈ xs.filterMap key) :
    ∃ first, xs.find? (fun x => key x == some text) = some first ∧ key first = some text := by
  obtain ⟨x,hx,hkey⟩ := List.mem_filterMap.mp h
  cases hfirst : xs.find? fun x => key x == some text with
  | none =>
    have hdiff := List.find?_eq_none.mp hfirst x hx
    rw [hkey, beq_self_eq_true] at hdiff
    exact absurd rfl hdiff
  | some first =>
    have hsame : (key first == some text) = true :=
      List.find?_some (p := fun y => key y == some text) hfirst
    exact ⟨first,rfl,beq_iff_eq.mp hsame⟩

theorem mem_of_mem_firstsOf {x : α} (h : x ∈ firstsOf key xs) : x ∈ xs := by
  obtain ⟨text,-,hfirst⟩ := List.mem_filterMap.mp h
  exact List.mem_of_find?_eq_some hfirst

theorem map_firstsOf (key : α → Option String) (xs : List α) :
    (firstsOf key xs).map key = (xs.filterMap key).eraseDups.map some := by
  rw [firstsOf, List.map_filterMap, ← List.filterMap_eq_map]
  refine List.filterMap_congr fun text htext => ?_
  obtain ⟨first,hfirst,hkey⟩ := exists_find?_of_mem_filterMap (List.mem_eraseDups.mp htext)
  rw [hfirst, Option.map_some, hkey, Function.comp_apply]

/-- One more member at the end is a first one exactly when no member before it has its key. -/
theorem firstsOf_concat (x : α) : firstsOf key (xs ++ [x]) =
    firstsOf key xs ++ if (key x).any (· ∉ xs.filterMap key) then [x] else [] := by
  have hold : (xs.filterMap key).eraseDups.filterMap
      (fun text => (xs ++ [x]).find? fun y => key y == some text) = firstsOf key xs := by
    refine List.filterMap_congr fun text htext => ?_
    obtain ⟨first,hfirst,-⟩ := exists_find?_of_mem_filterMap (List.mem_eraseDups.mp htext)
    rw [List.find?_append, hfirst, Option.some_or]
  rw [firstsOf, List.filterMap_append]
  cases hx : key x with
  | none =>
    rw [List.filterMap_cons_none hx, List.filterMap_nil, List.append_nil, hold]
    simp
  | some text =>
    rw [List.filterMap_cons_some hx, List.filterMap_nil, eraseDups_concat]
    simp only [List.mem_eraseDups, Option.any_some, decide_not]
    by_cases hmem : text ∈ xs.filterMap key
    · rw [if_pos hmem, hold]
      simp [hmem]
    · have hnew : (xs ++ [x]).find? (fun y => key y == some text) = some x := by
        rw [List.find?_append, List.find?_eq_none.mpr, Option.none_or]
        · simp [hx]
        · intro y hy hkey
          exact hmem (List.mem_filterMap.mpr ⟨y,hy,beq_iff_eq.mp hkey⟩)
      rw [if_neg hmem, List.filterMap_append, hold]
      simp only [List.filterMap_cons, hnew, List.filterMap_nil, hmem, decide_false, Bool.not_false,
        if_true]

end

/-! ## Repeats of a key -/

section
variable {β : Type}

/-- The members of a list that are not the first with their key, in order, each behind the first. -/
def repeatsOf (key : α → String) (xs : List α) : List (α × α) :=
  xs.zipIdx.filterMap fun (x, i) =>
    ((xs.take i).find? fun first => key first == key x).map fun first => (first, x)

theorem mem_of_mem_repeatsOf {key : α → String} {xs : List α} {r : α × α}
    (h : r ∈ repeatsOf key xs) : r.1 ∈ xs ∧ r.2 ∈ xs := by
  obtain ⟨⟨x,i⟩,hx,hr⟩ := List.mem_filterMap.mp h
  obtain ⟨first,hfirst,rfl⟩ := Option.map_eq_some_iff.mp hr
  exact ⟨List.mem_of_mem_take (List.mem_of_find?_eq_some hfirst),List.fst_mem_of_mem_zipIdx hx⟩

/-- One more member at the end is a repeat exactly when a member before it has its key. -/
theorem repeatsOf_concat (key : α → String) (xs : List α) (x : α) : repeatsOf key (xs ++ [x]) =
    repeatsOf key xs ++
      ((xs.find? fun first => key first == key x).map fun first => (first, x)).toList := by
  have hlast : (xs ++ [x]).take xs.length = xs := List.take_left ..
  have hold : xs.zipIdx.filterMap (fun (y, i) =>
      (((xs ++ [x]).take i).find? fun first => key first == key y).map fun first => (first, y)) =
      repeatsOf key xs := by
    refine List.filterMap_congr ?_
    rintro ⟨y,i⟩ hp
    have hlt : i < xs.length := List.snd_lt_of_mem_zipIdx hp
    have hbefore : (xs ++ [x]).take i = xs.take i :=
      List.take_append_of_le_length (Nat.le_of_lt hlt)
    simp only [hbefore]
  rw [repeatsOf, List.zipIdx_append, List.filterMap_append, hold]
  congr 1
  simp only [List.zipIdx_cons, List.zipIdx_nil, Nat.zero_add, List.filterMap_cons, hlast]
  cases xs.find? (fun first => key first == key x) <;> rfl

theorem repeatsOf_map (f : β → α) (key : α → String) (xs : List β) :
    repeatsOf key (xs.map f) = (repeatsOf (fun x => key (f x)) xs).map (Prod.map f f) := by
  rw [repeatsOf, repeatsOf, List.zipIdx_map, List.filterMap_map, List.map_filterMap]
  refine List.filterMap_congr fun p _ => ?_
  simp only [Function.comp_apply, Prod.map_fst, Prod.map_snd, id_eq, ← List.map_take, List.find?_map,
    Option.map_map]
  rfl

/-- A key has as many repeats as it has members but one. -/
theorem countP_repeatsOf (key : α → String) (xs : List α) (text : String) :
    ((repeatsOf key xs).countP fun r => key r.2 == text) =
      (xs.countP fun x => key x == text) - 1 := by
  induction xs using List.reverseRecOn with
  | nil => rfl
  | append_singleton xs x ih =>
    rw [repeatsOf_concat, List.countP_append, List.countP_append, ih]
    by_cases hx : key x = text
    · subst hx
      cases hfirst : xs.find? (fun first => key first == key x) with
      | none =>
        have hzero : xs.countP (fun y => key y == key x) = 0 :=
          List.countP_eq_zero.mpr (List.find?_eq_none.mp hfirst)
        simp [hzero]
      | some first =>
        have hsame := List.find?_some hfirst
        have hpos : 0 < xs.countP (fun y => key y == key x) :=
          List.countP_pos_iff.mpr ⟨first,List.mem_of_find?_eq_some hfirst,hsame⟩
        simp only [Option.map_some, Option.toList_some, List.countP_singleton, beq_self_eq_true,
          if_true]
        omega
    · cases xs.find? (fun first => key first == key x) <;> simp [hx]

example : repeatsOf Prod.fst [("a", 1), ("b", 2), ("a", 3), ("a", 4)] =
    [(("a", 1), ("a", 3)), (("a", 1), ("a", 4))] := by decide

theorem find?_key_eq_none_iff {key : α → String} {xs : List α} {text : String} :
    xs.find? (fun x => key x == text) = none ↔ text ∉ xs.map key := by
  rw [List.find?_eq_none, List.mem_map]
  simp

theorem exists_find?_key {key : α → String} {xs : List α} {text : String}
    (h : text ∈ xs.map key) : ∃ first, xs.find? (fun x => key x == text) = some first := by
  apply Option.ne_none_iff_exists'.mp
  intro hnone
  exact find?_key_eq_none_iff.mp hnone h

theorem repeatsOf_eq_nil_iff {key : α → String} {xs : List α} :
    repeatsOf key xs = [] ↔ (xs.map key).Nodup := by
  induction xs using List.reverseRecOn with
  | nil => simp [repeatsOf]
  | append_singleton xs x ih =>
    rw [repeatsOf_concat, List.append_eq_nil_iff, ih, Option.toList_eq_nil_iff,
      Option.map_eq_none_iff, find?_key_eq_none_iff, List.map_append, List.map_singleton,
      List.nodup_append]
    constructor
    · rintro ⟨hxs,hx⟩
      refine ⟨hxs,List.pairwise_singleton ..,?_⟩
      rintro text htext last hlast rfl
      exact hx (List.mem_singleton.mp hlast ▸ htext)
    · rintro ⟨hxs,-,hx⟩
      exact ⟨hxs,fun hmem => hx _ hmem _ (List.mem_singleton.mpr rfl) rfl⟩

/-- A member is a repeat unless it is the first with its key. -/
theorem length_repeatsOf (key : α → String) (xs : List α) :
    (repeatsOf key xs).length + (xs.map key).eraseDups.length = xs.length := by
  induction xs using List.reverseRecOn with
  | nil => rfl
  | append_singleton xs x ih =>
    rw [repeatsOf_concat, List.map_append, List.map_cons, List.map_nil, eraseDups_concat,
      List.length_append, List.length_append, List.length_singleton]
    by_cases hmem : key x ∈ xs.map key
    · obtain ⟨first,hfirst⟩ := exists_find?_key hmem
      rw [hfirst, if_pos (List.mem_eraseDups.mpr hmem)]
      simp only [Option.map_some, Option.toList_some, List.length_singleton]
      omega
    · have hnew : key x ∉ (xs.map key).eraseDups := fun h => hmem (List.mem_eraseDups.mp h)
      rw [find?_key_eq_none_iff.mpr hmem, if_neg hnew, List.length_append, List.length_singleton]
      simp only [Option.map_none, Option.toList_none, List.length_nil]
      omega

end

end Traceability
