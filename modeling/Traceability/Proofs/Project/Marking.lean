import Traceability.Project.Source
import Traceability.Proofs.Project.Rewriting
import Traceability.Proofs.Text.Utf8

/-! # What marking a file writes

Marking reads one file and writes at most that file. The answer and what is written are a function of
what the reading gave, so the rest of the tree has no part in them.
-/
namespace Traceability
open Text

namespace FileTree

theorem read_eq_ok_iff {t : FileTree} {folder place : Location} {path : String}
    {content : List UInt8} : t.read folder path = .ok (place,content) ↔
      t.find folder path = .ok (place,.file content) := by
  rw [read]
  cases t.find folder path with
  | error e => simp [bind, Except.bind]
  | ok found =>
    obtain ⟨there,entry⟩ := found
    cases entry <;> simp [bind, Except.bind, pure, Except.pure]

def rewriting (t : FileTree) : Option (Location × List UInt8) → FileTree
  | none => t
  | some (place, content) => t.put place (.file content)

theorem at?_rewriting_other {t : FileTree} {edit : Option (Location × List UInt8)} {other : Location}
    (h : ∀ place content, edit = some (place, content) → other ≠ place) :
    (t.rewriting edit).at? other = t.at? other := by
  cases edit with
  | none => rfl
  | some written => exact at?_put_other t (h _ _ rfl) _

theorem at?_rewriting_congr {t t' : FileTree} {place : Location} (h : t'.at? place = t.at? place)
    (edit : Option (Location × List UInt8)) :
    (t'.rewriting edit).at? place = (t.rewriting edit).at? place := by
  cases edit with
  | none => exact h
  | some written =>
    obtain ⟨there,content⟩ := written
    show (t'.put there (.file content)).at? place = (t.put there (.file content)).at? place
    by_cases heq : place = there
    · by_cases hroot : there = []
      · rw [heq, hroot]
        rfl
      · rw [heq, at?_put_same t' hroot, at?_put_same t hroot]
    · rw [at?_put_other t' heq, at?_put_other t heq, h]

end FileTree

namespace Workspace

def writing (place : Location) (dryRun : Bool) (a : Marker.Marked) :
    Except Fault Marker.Outcome × Option (Location × List UInt8) :=
  if a.changed && !dryRun then
    match encode? a.text with
    | .ok content => (.ok (.marked a), some (place, content))
    | .error e => (.error (.encoding e), some (place, []))
  else (.ok (.marked a), none)

def marking (spelled element : String) (a : Marker) (key : String) (dryRun : Bool) :
    Except AccessError (Location × List UInt8) →
      Except Fault Marker.Outcome × Option (Location × List UInt8)
  | .error e => (.ok (.refused (.unreadable (e.message spelled))), none)
  | .ok (place, content) =>
    match decodeUtf8 content with
    | .error e => (.ok (.refused (.unreadable e.message)), none)
    | .ok cs =>
      match Marker.inject (String.ofList cs) element a key with
      | .error e => (.error (.marker e), none)
      | .ok (.refused r) => (.ok (.refused r), none)
      | .ok (.marked b) => writing place dryRun b

variable {w : Workspace} {path : Path} {element key : String} {a : Marker} {dryRun : Bool}

theorem writeOutcome_marked (t : FileTree) (place : Location) (b : Marker.Marked) :
    writeOutcome t place dryRun (.marked b) =
      ((writing place dryRun b).1,t.rewriting (writing place dryRun b).2) := by
  rw [writeOutcome, writing]
  split
  · cases encode? b.text <;> rfl
  · rfl

/-- Marking a file, once its path is one that a tree can be asked for. -/
theorem markFile_eq (h : spellingFault? path.toText = none) :
    w.markFile path element a key dryRun =
      ((marking path.toText element a key dryRun (w.tree.read w.folder path.toText)).1,
        w.tree.rewriting
          (marking path.toText element a key dryRun (w.tree.read w.folder path.toText)).2) := by
  simp only [markFile, h]
  cases w.tree.read w.folder path.toText with
  | error e => rfl
  | ok found =>
    obtain ⟨place,content⟩ := found
    simp only [marking]
    cases decodeUtf8 content with
    | error e => rfl
    | ok cs =>
      simp only
      cases Marker.inject (String.ofList cs) element a key with
      | error e => rfl
      | ok outcome =>
        cases outcome with
        | refused r => rfl
        | marked b => exact writeOutcome_marked w.tree place b

/-- A marked text without halves of pairs can be written. -/
theorem markFile_of_marked {place : Location} {content : List UInt8} {cs : List Char}
    {b : Marker.Marked} (hspelled : spellingFault? path.toText = none)
    (hread : w.tree.read w.folder path.toText = .ok (place,content))
    (hdecode : decodeUtf8 content = .ok cs)
    (hinject : Marker.inject (String.ofList cs) element a key = .ok (.marked b))
    (hhalf : holdsHalf b.text.toList = false) :
    (w.markFile path element a key dryRun).1 = .ok (.marked b) := by
  rw [markFile_eq hspelled, hread]
  simp only [marking, hdecode, hinject, writing, encode?_of_holdsHalf_eq_false hhalf]
  split <;> rfl

/-- A marked text is not written, or written with its bytes, or found to have none when its file is
already empty. -/
theorem writing_cases (place : Location) (dryRun : Bool) (b : Marker.Marked) :
    (b.changed = false ∨ dryRun = true) ∧ writing place dryRun b = (.ok (.marked b), none) ∨
    (b.changed = true ∧ dryRun = false) ∧ ((∃ new, encode? b.text = .ok new ∧
        writing place dryRun b = (.ok (.marked b), some (place, new))) ∨
      ∃ e, writing place dryRun b = (.error (.encoding e), some (place, []))) := by
  rw [writing]
  split
  · next hwritten =>
    simp only [Bool.and_eq_true, Bool.not_eq_eq_eq_not, Bool.not_true] at hwritten
    refine .inr ⟨hwritten,?_⟩
    cases hencode : encode? b.text with
    | ok new => exact .inl ⟨new,rfl,rfl⟩
    | error e => exact .inr ⟨e,rfl⟩
  · next hkept =>
    refine .inl ⟨?_,rfl⟩
    simpa [Bool.and_eq_true, imp_iff_not_or] using hkept

/-- Marking fails, or refuses, or the element was marked in the text of the file that was read. -/
theorem marking_cases (spelled element : String) (a : Marker) (key : String) (dryRun : Bool)
    (read : Except AccessError (Location × List UInt8)) :
    (∃ e, marking spelled element a key dryRun read = (.error e, none)) ∨
    (∃ r, marking spelled element a key dryRun read = (.ok (.refused r), none)) ∨
    ∃ place old cs b, read = .ok (place, old) ∧ decodeUtf8 old = .ok cs ∧
      Marker.inject (String.ofList cs) element a key = .ok (.marked b) ∧
      marking spelled element a key dryRun read = writing place dryRun b := by
  cases read with
  | error e => exact .inr (.inl ⟨_,rfl⟩)
  | ok found =>
    obtain ⟨place,old⟩ := found
    simp only [marking]
    cases hdecode : decodeUtf8 old with
    | error e => exact .inr (.inl ⟨_,rfl⟩)
    | ok cs =>
      simp only
      cases hinject : Marker.inject (String.ofList cs) element a key with
      | error e => exact .inl ⟨_,rfl⟩
      | ok outcome =>
        cases outcome with
        | refused r => exact .inr (.inl ⟨r,rfl⟩)
        | marked b => exact .inr (.inr ⟨place,old,cs,b,rfl,hdecode,hinject,rfl⟩)

/-- Only the file that was read is written. -/
theorem eq_of_marking {spelled : String} {read : Except AccessError (Location × List UInt8)}
    {place : Location} {content : List UInt8}
    (h : (marking spelled element a key dryRun read).2 = some (place, content)) :
    ∃ old, read = .ok (place, old) := by
  rcases marking_cases spelled element a key dryRun read with
    ⟨e,he⟩ | ⟨r,hr⟩ | ⟨there,old,cs,b,hread,-,-,hmarking⟩
  · rw [he] at h
    cases h
  · rw [hr] at h
    cases h
  · have hthere : there = place := by
      rw [hmarking] at h
      rcases writing_cases there dryRun b with ⟨-,hw⟩ | ⟨-,⟨new,-,hw⟩ | ⟨e,hw⟩⟩
      · rw [hw] at h
        cases h
      · rw [hw] at h
        exact (Prod.mk.inj (Option.some.inj h)).1
      · rw [hw] at h
        exact (Prod.mk.inj (Option.some.inj h)).1
    exact ⟨old,hthere ▸ hread⟩

/-- The element was marked in the text of a file. The file is written with the bytes of the marked
text if this is another text and no rehearsal, and otherwise nothing is written. -/
def Rewrites (w : Workspace) (path : Path) (element : String) (a : Marker) (key : String)
    (dryRun : Bool) (b : Marker.Marked) (tree : FileTree) : Prop :=
  ∃ place old cs, w.tree.read w.folder path.toText = .ok (place, old) ∧ decodeUtf8 old = .ok cs ∧
    Marker.inject (String.ofList cs) element a key = .ok (.marked b) ∧
    (b.changed = true ∧ dryRun = false ∧
        (∃ new, encode? b.text = .ok new ∧ tree = w.tree.put place (.file new)) ∨
      (b.changed = false ∨ dryRun = true) ∧ tree = w.tree)

def OneFile (w : Workspace) (tree : FileTree) : Prop :=
  ∃ place old new, w.tree.at? place = some (.file old) ∧ tree = w.tree.put place (.file new)

theorem OneFile.of_read {place : Location} {old : List UInt8}
    (h : w.tree.read w.folder path.toText = .ok (place,old)) (new : List UInt8) :
    w.OneFile (w.tree.put place (.file new)) :=
  ⟨place,old,new,FileTree.at?_of_find (FileTree.read_eq_ok_iff.mp h),rfl⟩

theorem Rewrites.oneFile {b : Marker.Marked} {tree : FileTree}
    (h : w.Rewrites path element a key dryRun b tree) : tree = w.tree ∨ w.OneFile tree := by
  obtain ⟨place,old,cs,hread,-,-,⟨-,-,new,-,rfl⟩ | ⟨-,htree⟩⟩ := h
  · exact .inr (.of_read hread new)
  · exact .inl htree

/-- What marking a file comes to: a tree is left with another file only if the element was marked, or
if the marked text has no bytes; then the file is emptied. -/
inductive MarkEffect (w : Workspace) (path : Path) (element : String) (a : Marker) (key : String)
    (dryRun : Bool) : Except Fault Marker.Outcome → FileTree → Prop
  | failed (e : Fault) : MarkEffect w path element a key dryRun (.error e) w.tree
  | refused (r : Marker.Refusal) : MarkEffect w path element a key dryRun (.ok (.refused r)) w.tree
  | marked {b : Marker.Marked} {tree : FileTree} (h : Rewrites w path element a key dryRun b tree) :
    MarkEffect w path element a key dryRun (.ok (.marked b)) tree
  | emptied {place : Location} {old : List UInt8} {e : EncodingError}
    (h : w.tree.read w.folder path.toText = .ok (place, old)) :
    MarkEffect w path element a key dryRun (.error (.encoding e)) (w.tree.put place (.file []))

theorem markEffect_markFile (w : Workspace) (path : Path) (element : String) (a : Marker)
    (key : String) (dryRun : Bool) : MarkEffect w path element a key dryRun
      (w.markFile path element a key dryRun).1 (w.markFile path element a key dryRun).2 := by
  cases hspelled : spellingFault? path.toText with
  | some e =>
    simp only [markFile, hspelled]
    exact .failed e
  | none =>
    rw [markFile_eq hspelled]
    rcases marking_cases path.toText element a key dryRun (w.tree.read w.folder path.toText) with
      ⟨e,he⟩ | ⟨r,hr⟩ | ⟨place,old,cs,b,hread,hdecode,hinject,hmarking⟩
    · rw [he]
      exact .failed e
    · rw [hr]
      exact .refused r
    · rw [hmarking]
      rcases writing_cases place dryRun b with
        ⟨hkept,hw⟩ | ⟨⟨hchanged,hdry⟩,⟨new,hencode,hw⟩ | ⟨e,hw⟩⟩
      · rw [hw]
        exact .marked ⟨place,old,cs,hread,hdecode,hinject,.inr ⟨hkept,rfl⟩⟩
      · rw [hw]
        exact .marked ⟨place,old,cs,hread,hdecode,hinject,
          .inl ⟨hchanged,hdry,new,hencode,rfl⟩⟩
      · rw [hw]
        exact .emptied hread

/-- A marked text that cannot be encoded is found out when the file is already empty. -/
theorem markFile_unencodable {place : Location} {old : List UInt8} {cs : List Char}
    {b : Marker.Marked} {e : EncodingError} (hpath : spellingFault? path.toText = none)
    (hread : w.tree.read w.folder path.toText = .ok (place,old)) (hdecode : decodeUtf8 old = .ok cs)
    (hinject : Marker.inject (String.ofList cs) element a key = .ok (.marked b))
    (hchanged : b.changed = true) (hencode : encode? b.text = .error e) :
    w.markFile path element a key false = (.error (.encoding e),w.tree.put place (.file [])) := by
  simp only [markFile, hpath, hread, hdecode, hinject, writeOutcome, hchanged, hencode, Bool.not_false,
    Bool.and_self, if_true]

end Workspace

end Traceability
