import Traceability.Project.Workspace
import Traceability.Proofs.Project.Marking
import Traceability.Proofs.Project.Walking
import Traceability.Proofs.Value.Results

/-! # Files below the working folder

A file below the working folder has two spellings: the names from the working folder on, and the
names from the top folder on. Both lead to the same file if the working folder is there, as long as
the longer one is not too long.
-/
namespace Traceability
open Text

namespace Path
variable {names : List String}

def below (names : List String) : Path := ⟨.here,names⟩

theorem exists_cons_of_isName {name : String} (h : IsName name) :
    ∃ c cs, name.toList = c :: cs ∧ c ≠ '/' := by
  cases hname : name.toList with
  | nil =>
    have hidle := h.further
    rw [String.toList_eq_nil_iff.mp hname] at hidle
    cases hidle
  | cons c cs =>
    refine ⟨c,cs,rfl,?_⟩
    rintro rfl
    exact h.whole (hname ▸ List.mem_cons_self)

/-- Joined names begin with something else than a slash. -/
theorem exists_cons_joined (h : Location.Named names) (hne : names ≠ []) :
    ∃ c cs, joinWith '/' (names.map String.toList) = c :: cs ∧ c ≠ '/' := by
  obtain ⟨name,rest,rfl⟩ := List.exists_cons_of_ne_nil hne
  obtain ⟨c,cs,hname,hc⟩ := exists_cons_of_isName (h name List.mem_cons_self)
  cases rest with
  | nil => exact ⟨c,cs,by simpa [joinWith] using hname,hc⟩
  | cons next rest =>
    refine ⟨c,cs ++ '/' :: joinWith '/' ((next :: rest).map String.toList),?_,hc⟩
    simp [joinWith, hname]

theorem toList_toText_below (h : Location.Named names) (hne : names ≠ []) :
    (below names).toText.toList = joinWith '/' (names.map String.toList) := by
  obtain ⟨c,cs,hjoined,-⟩ := exists_cons_joined h hne
  have hbody : ("" ++ "/".intercalate names).toList = joinWith '/' (names.map String.toList) := by
    rw [String.toList_append, String.toList_intercalate, joinWith_eq_intercalate]
    rfl
  have hnonempty : "" ++ "/".intercalate names ≠ "" := by
    intro he
    rw [he, hjoined] at hbody
    cases hbody
  show (if "" ++ "/".intercalate names = "" then "." else "" ++ "/".intercalate names).toList = _
  rw [if_neg hnonempty, hbody]

theorem slashNames_below (h : Location.Named names) (hne : names ≠ []) :
    slashNames (below names).toText = names := by
  rw [slashNames, toList_toText_below h hne, names_joined h hne]

theorem ofChars_of_ne {c : Char} {cs : List Char} (hc : c ≠ '/') :
    Start.ofChars (c :: cs) = .here := by
  unfold Start.ofChars
  split
  · next he => exact absurd (List.cons.inj he).1 hc
  · next he => exact absurd (List.cons.inj he).1 hc
  · next he => exact absurd (List.cons.inj he).1 hc
  · rfl

/-- The spelling of a path that goes down is read as the path. -/
theorem ofText_toText_below (h : Location.Named names) (hne : names ≠ []) :
    ofText (below names).toText = below names := by
  obtain ⟨c,cs,hjoined,hc⟩ := exists_cons_joined h hne
  have hidle : names.filter (fun name => !isIdleName name) = names :=
    List.filter_eq_self.mpr fun name hname => by simp [(h name hname).further]
  rw [ofText, slashNames_below h hne, hidle, toList_toText_below h hne, hjoined, ofChars_of_ne hc,
    below]

theorem spelled_below (h : Location.Named names) (hne : names ≠ []) :
    ∀ c ∈ (below names).toText.toList, isPathChar c = true := by
  have hspelled := spelled_ofLocation h
  rw [toList_toText_ofLocation] at hspelled
  rw [toList_toText_below h hne]
  exact (List.forall_mem_cons.mp hspelled).2

end Path

namespace Location

theorem resolve_below {folder names : Location} (h : names.Named) :
    folder.resolve (Path.below names) = folder ++ names := by
  show names.foldl follow folder = folder ++ names
  induction names generalizing folder with
  | nil => rw [List.foldl_nil, List.append_nil]
  | cons name names ih =>
    obtain ⟨hname,hnames⟩ := List.forall_mem_cons.mp h
    rw [List.foldl_cons, follow_of_isName hname, ih hnames, List.append_assoc,
      List.singleton_append]

theorem resolve_ofLocation {folder place : Location} (h : place.Named) :
    folder.resolve (Path.ofLocation place) = place := by
  have hdown : resolve [] (Path.below place) = [] ++ place := resolve_below h
  rwa [List.nil_append] at hdown

end Location

namespace FileTree
variable {t : FileTree}

theorem walk_append {here there : Location} {names more : List String}
    (h : t.walk here names = .ok there) : t.walk here (names ++ more) = t.walk there more := by
  induction names generalizing here with
  | nil =>
    obtain rfl := Except.ok.inj h
    rfl
  | cons name names ih =>
    rw [walk] at h
    obtain ⟨next,hstep,hrest⟩ := exists_of_bind_eq_ok h
    rw [List.cons_append, walk, hstep]
    exact ih hrest

theorem find_below {names : List String} (h : Location.Named names) (hne : names ≠ [])
    (folder : Location) : t.find folder (Path.below names).toText =
      if longestPath < (Path.below names).toText.utf8ByteSize then .error .longName
      else t.found (t.walk folder names) := by
  obtain ⟨c,cs,hjoined,hc⟩ := Path.exists_cons_joined h hne
  have hchars := Path.toList_toText_below h hne
  rw [hjoined] at hchars
  have hnull : (Path.below names).toText.toList.contains '\x00' = false := by
    rw [Bool.eq_false_iff]
    intro hmem
    have hnull := Path.spelled_below h hne _ (List.contains_iff_mem.mp hmem)
    revert hnull
    decide
  have hfull : (Path.below names).toText ≠ "" := by
    intro he
    rw [he] at hchars
    cases hchars
  have hhead : (Path.below names).toText.toList.head? ≠ some '/' := by
    rw [hchars]
    simpa using hc
  rw [find, hnull, if_neg Bool.false_ne_true, if_neg hfull, if_neg hhead,
    Path.slashNames_below h hne]
  rfl

theorem found_eq_ok_iff {walked : Except AccessError Location} {place : Location} {e : Entry} :
    t.found walked = .ok (place, e) ↔ walked = .ok place ∧ t.at? place = some e := by
  cases walked with
  | error err => simp [found, bind, Except.bind]
  | ok there =>
    simp only [found, bind, Except.bind]
    split
    · next entry hat =>
      simp only [pure, Except.pure, Except.ok.injEq, Prod.mk.injEq]
      constructor
      · rintro ⟨rfl,rfl⟩
        exact ⟨rfl,hat⟩
      · rintro ⟨rfl,hentry⟩
        exact ⟨rfl,Option.some.inj (hat.symm.trans hentry)⟩
    · next hnone =>
      simp only [reduceCtorEq, Except.ok.injEq, false_iff, not_and]
      rintro rfl
      simp [hnone]

end FileTree

namespace Workspace
variable {w : Workspace} {names : List String}

structure Stands (w : Workspace) : Prop where
  named : w.folder.Named
  there : w.tree.walk [] w.folder = .ok w.folder

/-- There is a file below the working folder, and a tree can be asked for its whole way. -/
structure FileBelow (w : Workspace) (names : List String) : Prop where
  named : Location.Named names
  further : names ≠ []
  found : ∃ place content,
    w.tree.find w.folder (Path.below names).toText = .ok (place, .file content)
  short : (Path.ofLocation (w.folder ++ names)).toText.utf8ByteSize ≤ longestPath

/-- The file is read by both of its spellings. -/
theorem FileBelow.exists_read (h : w.FileBelow names) (hstands : w.Stands) : ∃ content,
    w.tree.read w.folder (Path.below names).toText = .ok (w.folder ++ names, content) ∧
      w.tree.read w.folder (Path.ofLocation (w.folder ++ names)).toText =
        .ok (w.folder ++ names, content) := by
  obtain ⟨place,content,hfind⟩ := h.found
  have hnamed : Location.Named (w.folder ++ names) :=
    List.forall_mem_append.mpr ⟨hstands.named,h.named⟩
  have hfound := hfind
  rw [FileTree.find_below h.named h.further] at hfound
  split at hfound
  · cases hfound
  · obtain ⟨hwalk,hat⟩ := FileTree.found_eq_ok_iff.mp hfound
    obtain rfl := FileTree.eq_of_walk h.named hwalk
    refine ⟨content,FileTree.read_eq_ok_iff.mpr hfind,FileTree.read_eq_ok_iff.mpr ?_⟩
    rw [FileTree.find_ofLocation hnamed, if_neg h.short.not_gt]
    exact FileTree.found_eq_ok_iff.mpr ⟨(FileTree.walk_append hstands.there).trans hwalk,hat⟩

end Workspace

end Traceability
