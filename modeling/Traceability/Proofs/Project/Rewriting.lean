import Mathlib.Data.Nat.Notation
import Mathlib.Tactic.Common
import Traceability.Project.Workspace

/-! # Rewriting a file

When the file at a place gets another content, every path leads where it led before, and the content
is another one only where a path leads to the place.
-/
namespace Traceability

namespace FileTree
variable {t : FileTree} {place : Location} {old : List UInt8}

theorem ne_nil_of_file (h : t.at? place = some (.file old)) : place ≠ [] := by
  rintro rfl
  simp [at?] at h

/-- A file is no way to anything, whatever its content is. -/
theorem step_put_file (h : t.at? place = some (.file old)) (new : List UInt8) (here : Location)
    (name : String) : (t.put place (.file new)).step here name = t.step here name := by
  rw [step, step]
  by_cases heq : here = place
  · rw [heq, at?_put_same t (ne_nil_of_file h), h]
  · rw [at?_put_other t heq]

theorem walk_put_file (h : t.at? place = some (.file old)) (new : List UInt8) (here : Location)
    (names : List String) : (t.put place (.file new)).walk here names = t.walk here names := by
  induction names generalizing here with
  | nil => rfl
  | cons name names ih =>
    rw [walk, walk, step_put_file h]
    simp only [ih]

/-- A path leads to what it led to before, or it leads to the place. -/
theorem find_put_file (h : t.at? place = some (.file old)) (new : List UInt8) (folder : Location)
    (path : String) : (t.put place (.file new)).find folder path = t.find folder path ∨
      t.find folder path = .ok (place,.file old) ∧
        (t.put place (.file new)).find folder path = .ok (place,.file new) := by
  simp only [find, walk_put_file h]
  split_ifs
  · exact .inl rfl
  · exact .inl rfl
  · exact .inl rfl
  all_goals
    generalize t.walk _ (slashNames path) = walked
    cases walked with
    | error e => exact .inl rfl
    | ok here =>
      simp only [bind, Except.bind]
      by_cases heq : here = place
      · rw [heq, at?_put_same t (ne_nil_of_file h), h]
        exact .inr ⟨rfl,rfl⟩
      · rw [at?_put_other t heq]
        exact .inl rfl

/-- What a path leads to is in the tree. -/
theorem at?_of_find {folder here : Location} {path : String} {e : Entry}
    (h : t.find folder path = .ok (here,e)) : t.at? here = some e := by
  simp only [find] at h
  split_ifs at h
  all_goals
    generalize t.walk _ (slashNames path) = walked at h
    cases walked with
    | error e => cases h
    | ok there =>
      simp only [bind, Except.bind] at h
      cases hat : t.at? there with
      | none =>
        rw [hat] at h
        cases h
      | some found =>
        rw [hat] at h
        obtain ⟨rfl,rfl⟩ := Prod.mk.inj (Except.ok.inj h)
        exact hat

/-- A path to the place leads to the new content. -/
theorem find_put_file_same {folder : Location} {path : String}
    (h : t.find folder path = .ok (place,.file old)) (new : List UInt8) :
    (t.put place (.file new)).find folder path = .ok (place,.file new) := by
  have hat := at?_of_find h
  rcases find_put_file hat new folder path with hsame | ⟨-,hnew⟩
  · rw [h] at hsame
    have hold := at?_of_find hsame
    rw [at?_put_same t (ne_nil_of_file hat)] at hold
    rw [hsame, Option.some.inj hold]
  · exact hnew

end FileTree

namespace Workspace
variable {w : Workspace} {place : Location} {old : List UInt8}

def rewritten (w : Workspace) (place : Location) (new : List UInt8) (now : Moment) : Workspace :=
  { w with tree := w.tree.put place (.file new), now := now }

theorem content?_eq_some_iff {path : Path} {content : List UInt8} :
    w.content? path = .ok (some content) ↔
      ∃ here, w.tree.find w.folder path.toText = .ok (here,.file content) := by
  constructor
  · intro h
    simp only [content?] at h
    split at h
    · next here found hfind =>
      obtain rfl := Option.some.inj (Except.ok.inj h)
      exact ⟨here,hfind⟩
    · cases h
    · cases h
  · rintro ⟨here,hfind⟩
    simp only [content?, hfind]

/-- The files that were there are there. -/
theorem present_rewritten (h : w.tree.at? place = some (.file old)) (new : List UInt8) (now : Moment)
    (root : Path) : (w.rewritten place new now).present root = w.present root := by
  funext path
  simp only [present, rewritten]
  rcases FileTree.find_put_file h new w.folder (root ++ Path.ofText path).toText with
    hsame | ⟨hold,hnew⟩
  · rw [hsame]
  · rw [hold, hnew]

/-- A path leads to the content it led to before, or to the content that is another one. -/
theorem content?_rewritten (h : w.tree.at? place = some (.file old)) (new : List UInt8)
    (now : Moment) (path : Path) :
    (w.rewritten place new now).content? path = w.content? path ∨
      w.content? path = .ok (some old) ∧
        (w.rewritten place new now).content? path = .ok (some new) := by
  simp only [content?, rewritten]
  rcases FileTree.find_put_file h new w.folder path.toText with hsame | ⟨hold,hnew⟩
  · rw [hsame]
    exact .inl rfl
  · rw [hold, hnew]
    exact .inr ⟨rfl,rfl⟩

end Workspace

end Traceability
