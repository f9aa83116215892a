import Traceability.Proofs.Marker.Inject
import Traceability.Proofs.Marker.Target

/-! # Marking leaves the rest of a text alone

A marked text has the lines of the text before, one of them excepted. That line has lost the
attributes of the name that stood on it, and the new attribute stands once behind its first tag.
-/
namespace Traceability.Marker
open Text

def Outcome.text? : Outcome → Option String
  | refused _ => none
  | marked m => some m.text

theorem newline_notMem_line {text : String} {i : ℕ} {l : List Char}
    (h : (lines text)[i]? = some l) : '\n' ∉ l :=
  separator_notMem_of_mem_splitAt (List.mem_of_getElem? h)

/-- Each character of a stripped line stood on the line. -/
theorem mem_of_mem_stripFrom {attr : List Char} {n : ℕ} {line : List Char} {c : Char}
    (h : c ∈ stripFrom attr n line) : c ∈ line := by
  induction line generalizing n with
  | nil => simp [stripFrom] at h
  | cons d line ih =>
    cases n with
    | succ n => exact List.mem_cons_of_mem _ (ih (by simpa [stripFrom] using h))
    | zero =>
      rw [stripFrom] at h
      cases hp : paddedLength? attr (d :: line) with
      | some k =>
        simp only [hp] at h
        exact List.mem_cons_of_mem _ (ih h)
      | none =>
        simp only [hp] at h
        rcases List.mem_cons.mp h with rfl | h
        · exact List.mem_cons_self
        · exact List.mem_cons_of_mem _ (ih h)

theorem newline_notMem_quotedAttribute {attr json : List Char} (ha : '\n' ∉ attr)
    (hj : '\n' ∉ json) : '\n' ∉ quotedAttribute attr json := by
  simp [quotedAttribute, ha, hj]

/-- A place lies on a line of the text. -/
theorem MarkPlace.getElem? {text element : String} {attr : List Char} {i : ℕ}
    {before after : List Char} (h : MarkPlace text element attr i before after) :
    (lines text)[i]? = some ((lines text).getD i []) := by
  have hi := (findTarget_spec h.target).1
  rw [List.getD_eq_getElem _ _ hi]
  exact List.getElem?_eq_getElem hi

theorem set_getD_self (ls : List (List Char)) {i : ℕ} (h : i < ls.length) :
    ls.set i (ls.getD i []) = ls := by
  rw [List.getD_eq_getElem _ _ h]
  exact List.set_getElem_self h

/-- The lines of a marked text. -/
theorem MarkPlace.lines_withAttribute {text element : String} {attr json : List Char} {i : ℕ}
    {before after : List Char} (h : MarkPlace text element attr i before after)
    (ha : '\n' ∉ attr) (hj : '\n' ∉ json) :
    lines (withAttribute text i attr json before after) =
      (lines text).set i (before ++ quotedAttribute attr json ++ after) := by
  apply lines_unlines_set
  have hl : '\n' ∉ before ++ after := by
    rw [← h.behind.cut]
    intro hm
    exact newline_notMem_line h.getElem? (mem_of_mem_stripFrom hm)
  have ht := newline_notMem_quotedAttribute ha hj
  simp_all

/-- The marked line of a marked text. -/
theorem MarkPlace.getD_withAttribute {text element : String} {attr json : List Char} {i : ℕ}
    {before after : List Char} (h : MarkPlace text element attr i before after)
    (ha : '\n' ∉ attr) (hj : '\n' ∉ json) :
    (lines (withAttribute text i attr json before after)).getD i [] =
      before ++ quotedAttribute attr json ++ after := by
  have hi := (findTarget_spec h.target).1
  rw [h.lines_withAttribute ha hj, List.getD_eq_getElem?_getD, List.getElem?_set_self hi,
    Option.getD_some]

theorem quotedAttribute_ne_nil (attr json : List Char) : quotedAttribute attr json ≠ [] := by
  simp [quotedAttribute]

/-- Each character of a marked text stood in the text or belongs to the attribute. -/
theorem mem_or_of_mem_marked {text element key : String} {a : Marker} {m : Marked} {json : List Char}
    (h : inject text element a key = .ok (.marked m)) (hw : a.written = .ok json) {c : Char}
    (hc : c ∈ m.text.toList) : c ∈ text.toList ∨ c ∈ quotedAttribute key.toList json := by
  obtain ⟨i,before,after,json',hp,hw',rfl⟩ := inject_eq_marked_iff.mp h
  obtain rfl : json = json' := Except.ok.inj (hw.symm.trans hw')
  obtain ⟨front,back,hset⟩ := exists_joinWith_set '\n' (findTarget_spec hp.target).1
  have htext : text.toList = front ++ (lines text).getD i [] ++ back := by
    rw [← hset, set_getD_self _ (findTarget_spec hp.target).1, lines, joinWith_splitAt]
  have hline : ∀ c ∈ before ++ after, c ∈ text.toList := by
    intro c hc
    rw [htext]
    exact List.mem_append_left _ (List.mem_append_right _ (mem_of_mem_stripFrom (hp.behind.cut ▸ hc)))
  simp only [markedAt, withAttribute, unlines, String.toList_ofList, hset, List.mem_append] at hc
  rcases hc with (hc | (hc | hc) | hc) | hc
  · exact .inl (by simp [htext, hc])
  · exact .inl (hline c (List.mem_append_left _ hc))
  · exact .inr hc
  · exact .inl (hline c (List.mem_append_right _ hc))
  · exact .inl (by simp [htext, hc])

/-- A marked text has halves of pairs only from the text, the key and the payload. -/
theorem holdsHalf_marked {text element key : String} {a : Marker} {m : Marked} {json : List Char}
    (h : inject text element a key = .ok (.marked m)) (hw : a.written = .ok json)
    (htext : holdsHalf text.toList = false) (hkey : holdsHalf key.toList = false)
    (hjson : holdsHalf json = false) : holdsHalf m.text.toList = false := by
  have hattribute : holdsHalf (quotedAttribute key.toList json) = false := by
    have hmarks : isHalf ' ' = false ∧ isHalf '=' = false ∧ isHalf '\x27' = false := by decide
    simp only [holdsHalf] at hkey hjson
    simp [holdsHalf, quotedAttribute, hkey, hjson, hmarks]
  rw [holdsHalf, List.any_eq_false] at htext hattribute ⊢
  exact fun c hc => (mem_or_of_mem_marked h hw hc).elim (htext c) (hattribute c)

def saving : Marker where
  useCaseId := .text "UC-1"
  useCaseTitle := .text "Save"
  function := .text "save"
  file := .text "a.py"
  line := .int 3

def Outcome.marked? : Outcome → Option Marked
  | .refused _ => none
  | .marked m => some m

/-- An evaluated attempt that marked something, with what was tested of the result. -/
theorem exists_marked_of_any {ε : Type} {o : Except ε Outcome} {p : Marked → Bool}
    (h : (o.toOption.bind Outcome.marked?).any p = true) : ∃ m, o = .ok (.marked m) ∧ p m = true := by
  cases o with
  | error e => cases h
  | ok o =>
    cases o with
    | refused r => cases h
    | marked m => exact ⟨m,rfl,h⟩

theorem isBlank_data : ∀ c ∈ "data".toList, isBlank c = false := by
  have hany : "data".toList.any isBlank = false := by decide +kernel
  intro c hc
  exact Bool.eq_false_iff.mpr (List.any_eq_false.mp hany c hc)

end Traceability.Marker
