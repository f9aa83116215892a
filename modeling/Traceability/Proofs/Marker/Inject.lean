import Traceability.Marker.Inject
import Traceability.Proofs.Json.OneLine
import Traceability.Proofs.Marker.Strip
import Traceability.Proofs.Marker.Tag

/-! # Outcomes of marking

Where a text is marked depends on the text, the element and the attribute's name, and not on the
marker. What comes out is described by that place and the marker's written form.
-/
namespace Traceability.Marker
open Text

/-! ## The written form -/

theorem quote_notMem_escapeQuotes (cs : List Char) : '\x27' ∉ escapeQuotes cs := by
  simp only [escapeQuotes, List.mem_flatMap, not_exists, not_and]
  intro c _
  split_ifs with hc
  · decide
  · simpa using Ne.symm hc

theorem newline_notMem_escapeQuotes {cs : List Char} (h : '\n' ∉ cs) : '\n' ∉ escapeQuotes cs := by
  simp only [escapeQuotes, List.mem_flatMap, not_exists, not_and]
  intro c hc
  split_ifs with hq
  · decide
  · simp only [List.mem_singleton]
    rintro rfl
    exact h hc

theorem exists_json_of_written {a : Marker} {json : List Char} (h : a.written = .ok json) :
    ∃ j, a.toValue.toJson? = .ok j ∧ json = escapeQuotes j.compactChars := by
  rw [written] at h
  cases hj : a.toValue.toJson? with
  | error e => simp [hj, Except.map] at h
  | ok j =>
    simp only [hj, Except.map, Except.ok.injEq] at h
    exact ⟨j,rfl,h.symm⟩

theorem quote_notMem_written {a : Marker} {json : List Char} (h : a.written = .ok json) :
    '\x27' ∉ json := by
  obtain ⟨j,-,rfl⟩ := exists_json_of_written h
  exact quote_notMem_escapeQuotes _

theorem newline_notMem_written {a : Marker} {json : List Char} (h : a.written = .ok json) :
    '\n' ∉ json := by
  obtain ⟨j,-,rfl⟩ := exists_json_of_written h
  exact newline_notMem_escapeQuotes (Json.newline_notMem_compactChars j)

/-! ## The place -/

def withAttribute (text : String) (i : ℕ) (attr json before after : List Char) : String :=
  unlines ((lines text).set i (before ++ quotedAttribute attr json ++ after))

/-- The line on which an element is marked, and the parts of it that surround the new attribute. -/
structure MarkPlace (text element : String) (attr : List Char) (i : ℕ)
    (before after : List Char) : Prop where
  name : isElementName element.toList = true
  target : findTarget (lines text) element.toList = some i
  behind : BehindFirstTag (tagOf element.toList ((lines text).getD i []))
    (strip attr ((lines text).getD i [])) before after

def markedAt (text : String) (i : ℕ) (attr json before after : List Char) : Marked where
  text := withAttribute text i attr json before after
  line := i + 1
  hadPrior := mentions attr ((lines text).getD i [])
  changed := before ++ quotedAttribute attr json ++ after != (lines text).getD i []

inductive RefusalCause (text element : String) (attr : List Char) : Refusal → Prop
  | invalidName : isElementName element.toList = false →
      RefusalCause text element attr (.invalidName element)
  | notFound : isElementName element.toList = true →
      findTarget (lines text) element.toList = none →
      RefusalCause text element attr (.notFound element)
  | unchanged (i : ℕ) : isElementName element.toList = true →
      findTarget (lines text) element.toList = some i →
      (∀ before after, ¬ MarkPlace text element attr i before after) →
      RefusalCause text element attr
        (.unchanged (String.ofList (tagOf element.toList ((lines text).getD i []))) (i + 1)
          (mentions attr ((lines text).getD i [])))

inductive Marking (text element : String) (attr : List Char) (a : Marker) :
    Except UnserializableError Outcome → Prop
  | refused {r : Refusal} : RefusalCause text element attr r →
      Marking text element attr a (.ok (.refused r))
  | unwritten {i : ℕ} {e : UnserializableError} : isElementName element.toList = true →
      findTarget (lines text) element.toList = some i → a.written = .error e →
      Marking text element attr a (.error e)
  | marked {i : ℕ} {before after json : List Char} :
      MarkPlace text element attr i before after → a.written = .ok json →
      Marking text element attr a (.ok (.marked (markedAt text i attr json before after)))

theorem marking_markLine {text element : String} {attr json : List Char} {a : Marker} {i : ℕ}
    (hname : isElementName element.toList = true)
    (htarget : findTarget (lines text) element.toList = some i) (hw : a.written = .ok json) :
    Marking text element attr a (.ok (markLine (lines text) i element.toList attr json)) := by
  rw [markLine, attributeText_eq]
  cases hi : insertInTag? (tagOf element.toList ((lines text).getD i []))
      (quotedAttribute attr json) (strip attr ((lines text).getD i [])) with
  | none =>
    refine .refused (.unchanged i hname htarget ?_)
    intro before after hp
    exact insertInTag?_eq_none_iff.mp hi before after hp.behind
  | some line =>
    obtain ⟨before,after,hb,rfl⟩ := insertInTag?_eq_some_iff.mp hi
    exact .marked ⟨hname,htarget,hb⟩ hw

theorem marking_inject (text element key : String) (a : Marker) :
    Marking text element key.toList a (inject text element a key) := by
  rw [inject]
  by_cases hn : isElementName element.toList = true
  · rw [if_neg (by simp [hn])]
    cases ht : findTarget (lines text) element.toList with
    | none => exact .refused (.notFound hn ht)
    | some i =>
      cases hw : a.written with
      | error e => exact .unwritten hn ht hw
      | ok json => exact marking_markLine hn ht hw
  · rw [Bool.not_eq_true] at hn
    rw [if_pos (by simp [hn])]
    exact .refused (.invalidName hn)

theorem inject_eq_error_iff {text element key : String} {a : Marker} {e : UnserializableError} :
    inject text element a key = .error e ↔
      isElementName element.toList = true ∧
        (∃ i, findTarget (lines text) element.toList = some i) ∧ a.written = .error e := by
  constructor
  · intro h
    have hm := marking_inject text element key a
    rw [h] at hm
    cases hm with
    | unwritten hn ht hw => exact ⟨hn,⟨_,ht⟩,hw⟩
  · rintro ⟨hn,⟨i,ht⟩,hw⟩
    simp [inject, hn, ht, hw, Except.map]

/-- An element is marked exactly where there is a place for it. -/
theorem inject_eq_marked_iff {text element key : String} {a : Marker} {m : Marked} :
    inject text element a key = .ok (.marked m) ↔
      ∃ i before after json, MarkPlace text element key.toList i before after ∧
        a.written = .ok json ∧ m = markedAt text i key.toList json before after := by
  constructor
  · intro h
    have hm := marking_inject text element key a
    rw [h] at hm
    cases hm with
    | marked hp hw => exact ⟨_,_,_,_,hp,hw,rfl⟩
  · rintro ⟨i,before,after,json,hp,hw,rfl⟩
    have hi := insertInTag?_of_behindFirstTag hp.behind (quotedAttribute key.toList json)
    simp only [inject, hp.name, hp.target, hw, Except.map, markLine, attributeText_eq, hi,
      Bool.not_true, Bool.false_eq_true, if_false]
    rfl

end Traceability.Marker
