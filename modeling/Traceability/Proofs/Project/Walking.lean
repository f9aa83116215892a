import Mathlib.Data.List.TakeWhile
import Traceability.Proofs.Project.Rewriting
import Traceability.Proofs.Text.Search

/-! # Walking to a location

A location whose names can be names of files is spelled by a path that leads there and nowhere else.
The walk looks at the entries on the way to the location and at the one that stands there, so it ends
alike in two trees that have the same entries at these places.
-/
namespace Traceability
open Text

def isPathChar (c : Char) : Bool := c != '\x00' && (!isHalf c || isStrayByte c)

theorem pathEncodingError?_eq_none_iff (path : String) : pathEncodingError? path = none ↔
    ∀ c ∈ path.toList, (!isHalf c || isStrayByte c) = true := by
  rw [← List.dropWhile_eq_nil_iff]
  simp only [pathEncodingError?]
  cases path.toList.dropWhile fun c => !isHalf c || isStrayByte c with
  | nil => simp
  | cons c cs => simp

/-- A tree can be asked for a path if it can be asked for each of its characters. -/
theorem spellingFault?_eq_none_iff {path : String} :
    spellingFault? path = none ↔ ∀ c ∈ path.toList, isPathChar c = true := by
  have hnull : (if path.toList.contains '\x00' then some (Fault.access .nullByte path) else none) =
      none ↔ ∀ c ∈ path.toList, c ≠ '\x00' := by
    rw [ite_eq_right_iff]
    simp only [List.contains_iff_mem, reduceCtorEq, imp_false]
    constructor
    · rintro h c hc rfl
      exact h hc
    · intro h hmem
      exact h _ hmem rfl
  have hencoded := pathEncodingError?_eq_none_iff path
  simp only [isPathChar, Bool.and_eq_true, bne_iff_ne, forall_and]
  rw [spellingFault?, ← hnull, ← hencoded]
  cases pathEncodingError? path <;> simp

structure IsName (name : String) : Prop where
  further : isIdleName name = false
  down : name ≠ parentName
  spelled : ∀ c ∈ name.toList, isPathChar c = true
  whole : '/' ∉ name.toList

theorem isName_iff {name : String} : IsName name ↔ isIdleName name = false ∧ name ≠ parentName ∧
    name.toList.all isPathChar = true ∧ '/' ∉ name.toList := by
  rw [List.all_eq_true]
  exact ⟨fun h => ⟨h.further,h.down,h.spelled,h.whole⟩,
    fun ⟨hfurther,hdown,hspelled,hwhole⟩ => ⟨hfurther,hdown,hspelled,hwhole⟩⟩

instance : DecidablePred IsName := fun _ => decidable_of_iff _ isName_iff.symm

namespace Location

def Named (place : Location) : Prop := ∀ name ∈ place, IsName name

variable {here place : Location} {names : List String}

theorem follow_of_isName {name : String} (h : IsName name) (here : Location) :
    here.follow name = here ++ [name] := by
  rw [follow, h.further, if_neg Bool.false_ne_true, if_neg h.down]

theorem follow_parentName (here : Location) : here.follow parentName = here.dropLast := by
  have hidle : isIdleName parentName = false := by decide
  rw [follow, hidle, if_neg Bool.false_ne_true, if_pos rfl]

theorem Named.follow {name : String} (h : here.Named) (hname : IsName name ∨ name = parentName) :
    (here.follow name).Named := by
  rcases hname with hname | rfl
  · rw [follow_of_isName hname]
    intro other hother
    rcases List.mem_append.mp hother with hother | hother
    · exact h other hother
    · exact List.mem_singleton.mp hother ▸ hname
  · rw [follow_parentName]
    exact fun other hother => h other (List.mem_of_mem_dropLast hother)

end Location

namespace Path

/-- The names of a path that a tree can be asked for lead down or up. -/
theorem isName_of_mem_names {path : String} (h : ∀ c ∈ path.toList, isPathChar c = true)
    {name : String} (hname : name ∈ (ofText path).names) : IsName name ∨ name = parentName := by
  obtain ⟨hmem,hidle⟩ := List.mem_filter.mp hname
  obtain ⟨piece,hpiece,rfl⟩ := List.mem_map.mp hmem
  by_cases hparent : String.ofList piece = parentName
  · exact .inr hparent
  · refine .inl ⟨by simpa using hidle,hparent,fun c hc => ?_,?_⟩
    · rw [String.toList_ofList] at hc
      exact h c (subset_of_mem_splitAt hpiece hc)
    · rw [String.toList_ofList]
      exact separator_notMem_of_mem_splitAt hpiece

theorem toList_toText_ofLocation (place : Location) : (ofLocation place).toText.toList =
    '/' :: joinWith '/' (place.map String.toList) := by
  have hbody : (Start.top.toText ++ "/".intercalate place).toList =
      '/' :: joinWith '/' (place.map String.toList) := by
    rw [String.toList_append, String.toList_intercalate, joinWith_eq_intercalate]
    rfl
  have hne : Start.top.toText ++ "/".intercalate place ≠ "" := by
    intro h
    rw [h] at hbody
    simp at hbody
  show (if Start.top.toText ++ "/".intercalate place = "" then "."
    else Start.top.toText ++ "/".intercalate place).toList = _
  rw [if_neg hne, hbody]

theorem spelled_ofLocation {place : Location} (h : place.Named) :
    ∀ c ∈ (ofLocation place).toText.toList, isPathChar c = true := by
  have hslash : isPathChar '/' = true := by decide
  have hjoined : ∀ place : Location, place.Named →
      ∀ c ∈ joinWith '/' (place.map String.toList), isPathChar c = true := by
    intro place h
    induction place with
    | nil => simp [joinWith]
    | cons name names ih =>
      obtain ⟨hname,hnames⟩ := List.forall_mem_cons.mp h
      cases names with
      | nil => exact hname.spelled
      | cons next rest =>
        intro c hc
        rw [List.map_cons, List.map_cons, joinWith, ← List.map_cons] at hc
        · rcases List.mem_append.mp hc with hc | hc
          · exact hname.spelled c hc
          · rcases List.mem_cons.mp hc with rfl | hc
            · exact hslash
            · exact ih hnames c hc
        · simp
  rw [toList_toText_ofLocation]
  exact List.forall_mem_cons.mpr ⟨hslash,hjoined place h⟩

theorem spellingFault?_ofLocation {place : Location} (h : place.Named) :
    spellingFault? (ofLocation place).toText = none :=
  spellingFault?_eq_none_iff.mpr (spelled_ofLocation h)

/-- Joined names are cut again where they were joined. -/
theorem names_joined {names : List String} (h : Location.Named names) (hne : names ≠ []) :
    (splitAt '/' (joinWith '/' (names.map String.toList))).map String.ofList = names := by
  have hpieces : splitAt '/' (joinWith '/' (names.map String.toList)) = names.map String.toList := by
    refine splitAt_joinWith (by simpa using hne) fun piece hpiece => ?_
    obtain ⟨name,hname,rfl⟩ := List.mem_map.mp hpiece
    exact (h name hname).whole
  have hback : (String.ofList ∘ String.toList) = id := funext fun s => String.ofList_toList
  rw [hpieces, List.map_map, hback, List.map_id]

/-- The names between the slashes are those on the way, behind the empty one in front. -/
theorem slashNames_ofLocation {place : Location} (h : place.Named) (hne : place ≠ []) :
    slashNames (ofLocation place).toText = "" :: place := by
  rw [slashNames, toList_toText_ofLocation, splitAt, if_pos rfl, List.map_cons, names_joined h hne]

end Path

namespace FileTree
variable {t t' : FileTree} {here place : Location} {names : List String}

theorem walk_empty (t : FileTree) (names : List String) : t.walk [] ("" :: names) = t.walk [] names := by
  have hsize : ¬ longestName < "".utf8ByteSize := by decide
  have hroot : t.at? [] = some .folder := by simp [at?]
  have hstep : t.step [] "" = .ok [] := by
    simp only [step, hroot, if_neg hsize]
    rfl
  rw [walk, hstep]
  rfl

/-- Names lead to the location that they spell, if they lead anywhere. -/
theorem eq_of_walk (h : Location.Named names) (hwalk : t.walk here names = .ok place) :
    place = here ++ names := by
  induction names generalizing here with
  | nil =>
    obtain rfl := Except.ok.inj hwalk
    rw [List.append_nil]
  | cons name names ih =>
    obtain ⟨hname,hnames⟩ := List.forall_mem_cons.mp h
    rw [walk] at hwalk
    cases hstep : t.step here name with
    | error e =>
      rw [hstep] at hwalk
      cases hwalk
    | ok there =>
      rw [hstep] at hwalk
      have hthere : there = here ++ [name] := by
        rw [step] at hstep
        split at hstep
        · cases hstep
        · cases hstep
        · split at hstep
          · cases hstep
          · rw [← Except.ok.inj hstep, Location.follow_of_isName hname]
      rw [ih hnames hwalk, hthere, List.append_assoc, List.singleton_append]

/-- A walk ends alike in trees with the same entries on the way. -/
theorem walk_congr (h : Location.Named names)
    (hway : ∀ way, way <+: names → t.at? (here ++ way) = t'.at? (here ++ way)) :
    t.walk here names = t'.walk here names := by
  induction names generalizing here with
  | nil => rfl
  | cons name names ih =>
    obtain ⟨hname,hnames⟩ := List.forall_mem_cons.mp h
    have hhere := hway [] (List.nil_prefix)
    rw [List.append_nil] at hhere
    have hstep : t.step here name = t'.step here name := by rw [step, step, hhere]
    have hrest : t.walk (here ++ [name]) names = t'.walk (here ++ [name]) names := by
      refine ih hnames fun way hfront => ?_
      rw [List.append_assoc, List.singleton_append]
      exact hway (name :: way) (List.cons_prefix_cons.mpr ⟨rfl,hfront⟩)
    rw [walk, walk, ← hstep]
    cases hs : t.step here name with
    | error e => rfl
    | ok there =>
      -- one step is the walk of a single name, and that ends where the name says
      have hthere : there = here ++ [name] := by
        have hsingle : Location.Named [name] := fun other hother => List.mem_singleton.mp hother ▸ hname
        refine eq_of_walk (t := t) hsingle ?_
        rw [walk, hs]
        rfl
      rw [hthere]
      exact hrest

def found (t : FileTree) (walked : Except AccessError Location) :
    Except AccessError (Location × Entry) := do
  let place ← walked
  match t.at? place with
  | some e => pure (place, e)
  | none => .error .missing

theorem find_ofLocation (h : place.Named) (t : FileTree) (folder : Location) :
    t.find folder (Path.ofLocation place).toText =
      if longestPath < (Path.ofLocation place).toText.utf8ByteSize then .error .longName
      else t.found (t.walk [] place) := by
  have hchars := Path.toList_toText_ofLocation place
  have hnull : (Path.ofLocation place).toText.toList.contains '\x00' = false := by
    rw [Bool.eq_false_iff]
    intro hmem
    have hnull := Path.spelled_ofLocation h _ (List.contains_iff_mem.mp hmem)
    revert hnull
    decide
  have hne : (Path.ofLocation place).toText ≠ "" := by
    intro he
    rw [he] at hchars
    simp at hchars
  have hhead : (Path.ofLocation place).toText.toList.head? = some '/' := by
    rw [hchars]
    rfl
  have hwalk : t.walk [] (slashNames (Path.ofLocation place).toText) = t.walk [] place := by
    by_cases hplace : place = []
    · rw [hplace]
      have hslashes : slashNames (Path.ofLocation []).toText = ["", ""] := by decide +kernel
      rw [hslashes, walk_empty, walk_empty]
    · rw [Path.slashNames_ofLocation h hplace, walk_empty]
  rw [find, hnull, if_neg Bool.false_ne_true, if_neg hne, hhead, if_pos rfl, ← hwalk]
  rfl

/-- The spelling of a location leads to the location, if it leads anywhere. -/
theorem eq_of_find_ofLocation (h : place.Named) {folder : Location} {e : Entry}
    (hfind : t.find folder (Path.ofLocation place).toText = .ok (here,e)) : here = place := by
  rw [find_ofLocation h] at hfind
  split at hfind
  · cases hfind
  · cases hwalk : t.walk [] place with
    | error e =>
      rw [hwalk] at hfind
      cases hfind
    | ok there =>
      rw [hwalk] at hfind
      simp only [found, bind, Except.bind] at hfind
      split at hfind
      · rw [← (Prod.mk.inj (Except.ok.inj hfind)).1, eq_of_walk h hwalk, List.nil_append]
      · cases hfind

/-- The spelling of a location leads to the same in trees with the same entries on the way. -/
theorem find_ofLocation_congr (h : place.Named) (hway : ∀ way, way <+: place → t.at? way = t'.at? way)
    (folder : Location) : t.find folder (Path.ofLocation place).toText =
      t'.find folder (Path.ofLocation place).toText := by
  have hwalk : t.walk [] place = t'.walk [] place := walk_congr h fun way hfront => hway way hfront
  rw [find_ofLocation h, find_ofLocation h, ← hwalk]
  cases hw : t.walk [] place with
  | error e => rfl
  | ok there =>
    have hthere := eq_of_walk h hw
    rw [List.nil_append] at hthere
    simp only [found, bind, Except.bind, hthere, hway place (List.prefix_rfl)]

end FileTree

end Traceability
