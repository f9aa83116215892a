import Traceability.Proofs.Project.Marking
import Traceability.Proofs.Project.Walking
import Traceability.Proofs.Value.Results
import Traceability.Tool.Run

/-! # Marking stays below the root

The tool for marking follows the path of the file by name alone. It refuses a path that does not end
below the root before anything else is asked for, and otherwise it reads and writes the file at that
place. So no file outside the root is read or written, whatever the arguments are. Paths with a null
byte or with a half of a pair that stands for no byte are names of no file; they are faults of their
own. Files and arguments are without the private characters that stand for halves (`Text.isHalf`).
-/
namespace Traceability
open Text

namespace Tool

def markedPlace (w : Workspace) (root : Path) (path : String) : Location :=
  (w.folder.resolve root).resolve (Path.ofText path)

/-- Names lead by name alone when a tree can be asked for each place on the way. -/
theorem placeFrom_eq {here : Location} {names : List String} (hhere : here.Named)
    (hnames : ∀ name ∈ names, IsName name ∨ name = parentName) :
    placeFrom here names = .ok (names.foldl Location.follow here) ∧
      Location.Named (names.foldl Location.follow here) := by
  induction names generalizing here with
  | nil => exact ⟨rfl,hhere⟩
  | cons name names ih =>
    obtain ⟨hname,hrest⟩ := List.forall_mem_cons.mp hnames
    have hthere := hhere.follow hname
    obtain ⟨hok,hnamed⟩ := ih hthere hrest
    refine ⟨?_,hnamed⟩
    simp only [placeFrom, Path.spellingFault?_ofLocation hthere, hok, ite_self]
    rfl

theorem named_resolve {top : Location} {path : String} (htop : top.Named)
    (hpath : ∀ c ∈ path.toList, isPathChar c = true) :
    placeFrom ((Path.ofText path).start.placeFrom top) (Path.ofText path).names =
      .ok (top.resolve (Path.ofText path)) ∧ (top.resolve (Path.ofText path)).Named := by
  have hstart : Location.Named ((Path.ofText path).start.placeFrom top) := by
    cases (Path.ofText path).start with
    | here => exact htop
    | top => exact fun _ h => absurd h List.not_mem_nil
    | top2 => exact fun _ h => absurd h List.not_mem_nil
  exact placeFrom_eq hstart fun name hname => Path.isName_of_mem_names hpath hname

/-- What a tool answers about a file that was marked. -/
theorem mark_of_target {w : Workspace} {root : Path} {s : Settings} {d : Document} {m : Marking}
    {target : Path} {marker : Marker} {outcome : Except Fault Marker.Outcome} {tree : FileTree}
    (htarget : markingTarget w root d m = .ok (target,marker))
    (hfile : w.markFile target ((elementName? m.element).getD "") marker s.markerKey
      m.dryRun.toValue.isTruthy = (outcome,tree)) :
    mark w root s d m = ((outcome.mapError .fault).bind (markingAnswer m target marker),tree) := by
  simp only [mark, htarget, hfile]

def markedRead (m : Marking) (s : Settings) (target : Path) (marker : Marker)
    (read : Except AccessError (Location × List UInt8)) :
    Except ToolError Json × Option (Location × List UInt8) :=
  let marked := Workspace.marking target.toText ((elementName? m.element).getD "") marker
    s.markerKey m.dryRun.toValue.isTruthy read
  ((marked.1.mapError .fault).bind (markingAnswer m target marker), marked.2)

section Marking
variable {w : Workspace} {root : Path} {path : String} {s : Settings} {d : Document} {m : Marking}
variable (htop : (w.folder.resolve root).Named) (hpath : ∀ c ∈ path.toList, isPathChar c = true)
include htop hpath

theorem placeBelow_eq : placeBelow (w.folder.resolve root) path =
    if (w.folder.resolve root).isPrefixOf (markedPlace w root path) then
      .ok (markedPlace w root path)
    else .error (.outside path) := by
  rw [placeBelow, (named_resolve htop hpath).1]
  rfl

/-- A path that leads out of the root is refused before the document is asked. -/
theorem mark_outside (hm : m.filePath = .text path)
    (h : ¬ w.folder.resolve root <+: markedPlace w root path) :
    mark w root s d m = (.error (.outside path),w.tree) := by
  have hbelow : ¬ (w.folder.resolve root).isPrefixOf (markedPlace w root path) = true :=
    fun hb => h (List.isPrefixOf_iff_prefix.mp hb)
  have hplace := placeBelow_eq htop hpath
  rw [if_neg hbelow] at hplace
  have htarget : markingTarget w root d m = .error (.outside path) := by
    simp only [markingTarget, hm, hplace, bind, Except.bind]
  rw [mark, htarget]

/-- Below the root nothing happens without a marker. -/
theorem mark_unlisted (hm : m.filePath = .text path)
    (h : w.folder.resolve root <+: markedPlace w root path) {e : UnlistedFunction}
    (hmarker : requestedMarker w d m = .error e) :
    mark w root s d m = (.error (.unlisted e),w.tree) := by
  have hplace := placeBelow_eq htop hpath
  rw [if_pos (List.isPrefixOf_iff_prefix.mpr h)] at hplace
  have htarget : markingTarget w root d m = .error (.unlisted e) := by
    simp only [markingTarget, hm, hplace, hmarker, bind, Except.bind, Except.mapError]
  rw [mark, htarget]

/-- A path that leads to a place below the root is marked at this place. -/
theorem mark_inside (hm : m.filePath = .text path)
    (h : w.folder.resolve root <+: markedPlace w root path) {marker : Marker}
    (hmarker : requestedMarker w d m = .ok marker) :
    (mark w root s d m).1 = (markedRead m s (Path.ofLocation (markedPlace w root path)) marker
        (w.tree.read w.folder (Path.ofLocation (markedPlace w root path)).toText)).1 ∧
      (mark w root s d m).2 =
        w.tree.rewriting (markedRead m s (Path.ofLocation (markedPlace w root path)) marker
          (w.tree.read w.folder (Path.ofLocation (markedPlace w root path)).toText)).2 := by
  have hplace := placeBelow_eq htop hpath
  rw [if_pos (List.isPrefixOf_iff_prefix.mpr h)] at hplace
  have hspelled : spellingFault? (Path.ofLocation (markedPlace w root path)).toText = none :=
    Path.spellingFault?_ofLocation (named_resolve htop hpath).2
  have htarget : markingTarget w root d m =
      .ok (Path.ofLocation (markedPlace w root path), marker) := by
    simp only [markingTarget, hm, hplace, hmarker, bind, Except.bind, Except.mapError, pure,
      Except.pure]
  rw [mark_of_target htarget (Workspace.markFile_eq hspelled)]
  simp only [markedRead, and_self]

end Marking

/-- A marked file was answered for, or something was wrong with it; it was not outside. -/
theorem markedRead_ne_outside {m : Marking} {s : Settings} {target : Path} {marker : Marker}
    {read : Except AccessError (Location × List UInt8)} {path : String} :
    (markedRead m s target marker read).1 ≠ .error (.outside path) := by
  simp only [markedRead]
  generalize (Workspace.marking target.toText ((elementName? m.element).getD "") marker s.markerKey
    m.dryRun.toValue.isTruthy read).1 = outcome
  cases outcome with
  | error e => simp [Except.mapError, Except.bind]
  | ok outcome =>
    simp only [Except.mapError, Except.bind, markingAnswer]
    split <;> simp

/-- Marking writes at most the file at the place to which the path leads. -/
theorem eq_of_markedRead {m : Marking} {s : Settings} {w : Workspace} {target place : Location}
    {marker : Marker} {content : List UInt8} (htarget : target.Named)
    (h : (markedRead m s (Path.ofLocation target) marker
      (w.tree.read w.folder (Path.ofLocation target).toText)).2 = some (place, content)) :
    place = target := by
  obtain ⟨old,hread⟩ := Workspace.eq_of_marking h
  exact FileTree.eq_of_find_ofLocation htarget (FileTree.read_eq_ok_iff.mp hread)

structure Confined (w : Workspace) (root : Path) (path : String) : Prop where
  /-- The path is refused exactly if it leads out of the root. -/
  refused_iff : ∀ s d m, m.filePath = .text path →
    ((mark w root s d m).1 = .error (.outside path) ↔
      ¬ w.folder.resolve root <+: markedPlace w root path)
  /-- The refusal comes first: neither the tree nor the document nor another argument matters. -/
  refused_first : ¬ w.folder.resolve root <+: markedPlace w root path →
    ∀ tree s d m, m.filePath = .text path →
      mark { w with tree := tree } root s d m = (.error (.outside path), tree)
  /-- The answer, and what becomes of the places below the root, are the same in every tree with the
  same entries there and on the way to the root. -/
  unread : ∀ tree s d m, m.filePath = .text path →
    (∀ place, w.folder.resolve root <+: place ∨ place <+: w.folder.resolve root →
      tree.at? place = w.tree.at? place) →
    (mark { w with tree := tree } root s d m).1 = (mark w root s d m).1 ∧
      ∀ place, w.folder.resolve root <+: place →
        (mark { w with tree := tree } root s d m).2.at? place = (mark w root s d m).2.at? place
  /-- Outside the root everything stays as it is. -/
  unchanged : ∀ s d m, m.filePath = .text path → ∀ place, ¬ w.folder.resolve root <+: place →
    (mark w root s d m).2.at? place = w.tree.at? place
  /-- So it does with every request for a tool that names the path. -/
  requested : ∀ name given, given.lookup "file_path" = some (.text path) →
    ∀ place, ¬ w.folder.resolve root <+: place →
      (w.callTool root name given).2.at? place = w.tree.at? place

theorem filePath_of_markingInput {w : Workspace} {root : Path} {s : Settings} {d : Document}
    {given : Members} {m : Marking} {path : Json} (hgiven : given.lookup "file_path" = some path)
    (h : w.markingInput root s given = .ok (d,m)) : m.filePath = path := by
  obtain ⟨d',-,h⟩ := exists_of_bind_eq_ok h
  obtain ⟨m',hm,h⟩ := exists_of_bind_eq_ok h
  obtain ⟨-,rfl⟩ := Prod.mk.inj (Except.ok.inj h)
  obtain ⟨filePath,hpath,hm⟩ := exists_of_bind_eq_ok hm
  obtain ⟨element,-,hm⟩ := exists_of_bind_eq_ok hm
  obtain ⟨useCaseId,-,hm⟩ := exists_of_bind_eq_ok hm
  obtain ⟨function,-,hm⟩ := exists_of_bind_eq_ok hm
  rw [← Except.ok.inj hm]
  rw [need, hgiven] at hpath
  exact (Except.ok.inj hpath).symm

/-- A request changes what marking changes. -/
theorem at?_callTool {w : Workspace} {root : Path} {path : String} {place : Location}
    (h : ∀ s d m, m.filePath = .text path → (mark w root s d m).2.at? place = w.tree.at? place)
    (name : String) {given : Members} (hgiven : given.lookup "file_path" = some (.text path)) :
    (w.callTool root name given).2.at? place = w.tree.at? place := by
  rw [Workspace.callTool]
  split
  · rfl
  · next s _ =>
    split
    · rfl
    · rfl
    · rfl
    · split
      · rfl
      · next d m hinput => exact h s d m (filePath_of_markingInput hgiven hinput)
    · rfl

section Confined
variable {w : Workspace} {root : Path} {path : String}
variable (htop : (w.folder.resolve root).Named) (hpath : ∀ c ∈ path.toList, isPathChar c = true)
include htop hpath

theorem confined_of_outside (h : ¬ w.folder.resolve root <+: markedPlace w root path) :
    Confined w root path := by
  have houtside : ∀ tree s d m, m.filePath = .text path →
      mark { w with tree := tree } root s d m = (.error (.outside path),tree) :=
    fun tree s d m hm => mark_outside (w := { w with tree := tree }) htop hpath hm h
  have hkept : ∀ s d m, m.filePath = .text path → ∀ place,
      (mark w root s d m).2.at? place = w.tree.at? place := by
    intro s d m hm place
    rw [houtside w.tree s d m hm]
  refine ⟨fun s d m hm => ?_,fun _ => houtside,fun tree s d m hm hsame => ?_,
    fun s d m hm place _ => hkept s d m hm place,fun name given hgiven place _ =>
      at?_callTool (fun s d m hm => hkept s d m hm place) name hgiven⟩
  · exact iff_of_true (congrArg Prod.fst (houtside w.tree s d m hm)) h
  · rw [houtside tree s d m hm, houtside w.tree s d m hm]
    exact ⟨rfl,fun place hplace => hsame place (.inl hplace)⟩

theorem confined_of_inside (h : w.folder.resolve root <+: markedPlace w root path) :
    Confined w root path := by
  have hnamed : (markedPlace w root path).Named := (named_resolve htop hpath).2
  have hkept : ∀ s d m, m.filePath = .text path → ∀ place, ¬ w.folder.resolve root <+: place →
      (mark w root s d m).2.at? place = w.tree.at? place := by
    intro s d m hm place hplace
    cases hmarker : requestedMarker w d m with
    | error e => rw [mark_unlisted htop hpath hm h hmarker]
    | ok marker =>
      rw [(mark_inside htop hpath hm h hmarker).2]
      refine FileTree.at?_rewriting_other fun there content hedit => ?_
      rintro rfl
      exact hplace (eq_of_markedRead hnamed hedit ▸ h)
  refine ⟨fun s d m hm => ?_,fun hout => absurd h hout,fun tree s d m hm hsame => ?_,hkept,
    fun name given hgiven place hplace =>
      at?_callTool (fun s d m hm => hkept s d m hm place hplace) name hgiven⟩
  · refine iff_of_false ?_ (not_not.mpr h)
    cases hmarker : requestedMarker w d m with
    | error e => simp [mark_unlisted htop hpath hm h hmarker]
    | ok marker =>
      rw [(mark_inside htop hpath hm h hmarker).1]
      exact markedRead_ne_outside
  · have hfind : tree.find w.folder (Path.ofLocation (markedPlace w root path)).toText =
        w.tree.find w.folder (Path.ofLocation (markedPlace w root path)).toText :=
      FileTree.find_ofLocation_congr hnamed
        (fun way hway => hsame way (List.prefix_or_prefix_of_prefix h hway)) w.folder
    have hread : tree.read w.folder (Path.ofLocation (markedPlace w root path)).toText =
        w.tree.read w.folder (Path.ofLocation (markedPlace w root path)).toText := by
      rw [FileTree.read, FileTree.read, hfind]
    cases hmarker : requestedMarker w d m with
    | error e =>
      rw [mark_unlisted htop hpath hm h hmarker,
        mark_unlisted (w := { w with tree := tree }) htop hpath hm h hmarker]
      exact ⟨rfl,fun place hplace => hsame place (.inl hplace)⟩
    | ok marker =>
      obtain ⟨hanswer,htree⟩ :=
        mark_inside (w := { w with tree := tree }) (s := s) htop hpath hm h hmarker
      obtain ⟨hanswer',htree'⟩ := mark_inside (s := s) htop hpath hm h hmarker
      rw [← hread] at hanswer' htree'
      refine ⟨hanswer.trans hanswer'.symm,fun place hplace => ?_⟩
      rw [htree, htree']
      exact FileTree.at?_rewriting_congr (hsame place (.inl hplace)) _

end Confined

/-- The tool for marking is confined to the root, for every path that can name a file. -/
theorem confined_mark {w : Workspace} {root : Path} {path : String}
    (htop : (w.folder.resolve root).Named) (hpath : ∀ c ∈ path.toList, isPathChar c = true) :
    Confined w root path := by
  by_cases h : w.folder.resolve root <+: markedPlace w root path
  · exact confined_of_inside htop hpath h
  · exact confined_of_outside htop hpath h

def sideBySide : Workspace where
  tree := ⟨[(["shop"],.folder), (["shop", "a.tsx"],.file (encodeUtf8 "<A/>")),
    (["shopping"],.folder), (["shopping", "a.tsx"],.file (encodeUtf8 "<A/>"))]⟩
  folder := []
  now := ⟨⟨2024,5,2⟩,12,0,0,0,none⟩

theorem named_shop : Location.Named ["shop"] := by
  intro name hname
  obtain rfl := List.mem_singleton.mp hname
  have hspelled : "shop".toList.all isPathChar = true := by decide +kernel
  exact ⟨by decide,by decide,List.all_eq_true.mp hspelled,by decide +kernel⟩

/-- The project next door is outside. -/
theorem confined_mark_sideBySide :
    Confined sideBySide (Path.ofText "/shop") "x/../../shopping//./a.tsx" ∧
      ¬ sideBySide.folder.resolve (Path.ofText "/shop") <+:
        markedPlace sideBySide (Path.ofText "/shop") "x/../../shopping//./a.tsx" := by
  have htop : sideBySide.folder.resolve (Path.ofText "/shop") = ["shop"] := by decide +kernel
  have hplace : markedPlace sideBySide (Path.ofText "/shop") "x/../../shopping//./a.tsx" =
      ["shopping", "a.tsx"] := by decide +kernel
  have hspelled : "x/../../shopping//./a.tsx".toList.all isPathChar = true := by decide +kernel
  refine ⟨confined_mark (htop ▸ named_shop) (List.all_eq_true.mp hspelled),?_⟩
  rw [htop, hplace]
  decide

def unspelled : String := String.ofList ['/', ofCodePoint 0xD800]

def markingAt (path : String) : Marking :=
  ⟨.text path,.text "A",.text "UC-001",.text "f",.null,.bool false⟩

/-- A path that can name no file leads out of the root, and it is refused for another reason. -/
theorem mark_unspelled : '\x00' ∉ unspelled.toList ∧
    ¬ sideBySide.folder.resolve (Path.ofText "/shop") <+:
      markedPlace sideBySide (Path.ofText "/shop") unspelled ∧
    mark sideBySide (Path.ofText "/shop") {} {} (markingAt unspelled) =
      (.error (.fault (.encoding ⟨1, 1, 0xD800, "surrogates not allowed"⟩)), sideBySide.tree) ∧
    (mark sideBySide (Path.ofText "/shop") {} {} (markingAt unspelled)).1 ≠
      .error (.outside unspelled) := by
  have htop : sideBySide.folder.resolve (Path.ofText "/shop") = ["shop"] := by decide +kernel
  have hfirst : (markedPlace sideBySide (Path.ofText "/shop") unspelled).head? ≠ some "shop" := by
    decide +kernel
  have hplace : placeBelow (sideBySide.folder.resolve (Path.ofText "/shop")) unspelled =
      .error (.fault (.encoding ⟨1, 1, 0xD800, "surrogates not allowed"⟩)) := by decide +kernel
  have hmark : mark sideBySide (Path.ofText "/shop") {} {} (markingAt unspelled) =
      (.error (.fault (.encoding ⟨1, 1, 0xD800, "surrogates not allowed"⟩)), sideBySide.tree) := by
    simp only [mark, markingTarget, markingAt, hplace, bind, Except.bind]
  refine ⟨by decide +kernel,?_,hmark,by simp [hmark]⟩
  rw [htop]
  rintro ⟨rest,hrest⟩
  rw [← hrest] at hfirst
  exact hfirst rfl

end Tool

end Traceability
