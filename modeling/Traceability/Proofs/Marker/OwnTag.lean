import Traceability.Proofs.Marker.Location
import Traceability.Proofs.Marker.Reinjection

/-! # Marking an element at its own tag

The first line that uses an element is found by the element's name, but the tag that is marked is
read from the line anew, and what is read are letters, digits and dots behind a letter. So the tag
is the element's own one if its name is made of these characters. A longer name is cut short; and a
name that begins with an underscore or a dollar sign is not read at all, so that it is only marked
when the line opens no other tag.
-/
namespace Traceability.Marker
open Text

/-- The tag that is read from a line with the element's tag in front is the element's own one. -/
def OwnTag (name line : List Char) : Prop :=
  (∀ c ∈ name, isTagNameChar c = true) ∨
    ((∀ c ∈ name.head?, isAsciiLetter c = false) ∧ ¬ Opens line)

/-! ## The tag that is read -/

theorem tagName?_append_of_notMem {front : List Char} (h : '<' ∉ front) (cs : List Char) :
    tagName? (front ++ '<' :: cs) = tagName? ('<' :: cs) := by
  induction front with
  | nil => rfl
  | cons d front ih =>
    obtain ⟨hd,hfront⟩ := not_or.mp (List.mem_cons.not.mp h)
    obtain ⟨e,more,he⟩ := List.exists_cons_of_ne_nil (show front ++ '<' :: cs ≠ [] by simp)
    rw [List.cons_append, he, tagName?_cons_cons, if_neg fun hand => hd hand.1.symm, ← he,
      ih hfront]

theorem tagName?_eq_none {line : List Char} (h : opensTag line = false) :
    tagName? line = none := by
  induction line with
  | nil => rfl
  | cons c line ih =>
    cases line with
    | nil => simp [tagName?]
    | cons d cs =>
      rw [← Bool.not_eq_true, opensTag_cons_cons, not_or, Bool.not_eq_true] at h
      rw [tagName?_cons_cons, if_neg h.1]
      exact ih h.2

/-- A name that does not begin with a letter begins with a character of no tag name. -/
theorem isTagNameChar_head_eq_false {d : Char} {rest : List Char}
    (hname : isElementName (d :: rest) = true) (hd : isAsciiLetter d = false) :
    isTagNameChar d = false := by
  simp only [isElementName, beginsElementName, hd, Bool.false_or, Bool.and_eq_true, Bool.or_eq_true,
    beq_iff_eq] at hname
  rcases hname.1 with rfl | rfl
  · decide +kernel
  · decide +kernel

section Reading
variable {name front back : List Char} {c : Char}

theorem takeWhile_isTagNameChar (hc : endsName c = true) :
    (name ++ c :: back).takeWhile isTagNameChar = name.takeWhile isTagNameChar := by
  have hstop : ∀ d ∈ (c :: back).head?, isTagNameChar d = false := by
    simpa using isTagNameChar_eq_false_of_endsName hc
  have hcut := takeWhile_append_congr name hstop (show ∀ d ∈ ([] : List Char).head?, _ by simp)
  rwa [List.append_nil] at hcut

/-- The tag that is read from the line is the first one, if the line's first angle bracket opens
it. -/
theorem tagOf_eq_iff (hname : isElementName name = true) (hc : endsName c = true)
    (hfront : '<' ∉ front) :
    tagOf name (front ++ '<' :: name ++ c :: back) = name ↔
      OwnTag name (front ++ '<' :: name ++ c :: back) := by
  obtain ⟨d,rest,rfl⟩ := List.exists_cons_of_ne_nil (ne_nil_of_isElementName hname)
  by_cases hd : isAsciiLetter d = true
  · have hread : tagName? (front ++ '<' :: d :: rest ++ c :: back) =
        some (d :: rest.takeWhile isTagNameChar) := by
      rw [List.append_assoc, List.cons_append, tagName?_append_of_notMem hfront, List.cons_append,
        tagName?_cons_cons, if_pos ⟨rfl,hd⟩, takeWhile_isTagNameChar hc]
    have hfirst : isTagNameChar d = true := by simp [isTagNameChar, hd]
    rw [tagOf, hread, Option.getD_some, List.cons.injEq, and_iff_right rfl,
      List.takeWhile_eq_self_iff, OwnTag]
    simp [hd, hfirst]
  · have hno := isTagNameChar_head_eq_false hname (Bool.eq_false_iff.mpr hd)
    have hown : OwnTag (d :: rest) (front ++ '<' :: d :: rest ++ c :: back) ↔
        opensTag (front ++ '<' :: d :: rest ++ c :: back) = false := by
      rw [← Bool.not_eq_true, opens_iff, OwnTag]
      simp [hd, hno]
    rw [hown, tagOf]
    constructor
    · intro htag
      by_contra hopen
      obtain ⟨e,more,hread,he,-⟩ := exists_tagName?_of_opensTag (Bool.not_eq_false _ ▸ hopen)
      rw [hread, Option.getD_some] at htag
      exact hd ((List.cons.inj htag).1 ▸ he)
    · intro hopen
      rw [tagName?_eq_none hopen, Option.getD_none]

theorem behindFirstTag_of_notMem (hc : endsName c = true) (hfront : '<' ∉ front) :
    BehindFirstTag name (front ++ '<' :: name ++ c :: back) (front ++ '<' :: name) (c :: back) := by
  refine ⟨rfl,List.suffix_append _ _,by simpa [NameEnds] using hc,?_⟩
  rintro before after hcut ⟨lead,rfl⟩ -
  -- the bracket of an earlier tag would stand among the first characters
  by_contra hlt
  apply hfront
  simp only [List.append_assoc, List.length_append] at hcut hlt
  rcases List.append_eq_append_iff.mp hcut with ⟨gap,rfl,-⟩ | ⟨gap,rfl,hgap⟩
  · simp at hlt
  · cases gap with
    | nil => simp at hlt
    | cons g gap =>
      obtain ⟨rfl,-⟩ := List.cons.inj hgap
      simp

end Reading

/-! ## The place that is seen -/

/-- Two texts that can stand in either order end alike, unless one of them is empty. -/
theorem eq_nil_of_append_comm {gap inserted : List Char} (hne : inserted ≠ [])
    (h : inserted ++ gap = gap ++ inserted) (hlast : gap.getLast? ≠ inserted.getLast?) :
    gap = [] := by
  by_contra hgap
  have hboth := congrArg List.getLast? h
  rw [List.getLast?_append_of_ne_nil _ hgap, List.getLast?_append_of_ne_nil _ hne] at hboth
  exact hlast hboth

/-- A text that is inserted at a later place makes another text, unless it ends as what stands in
front of that place does. -/
theorem eq_nil_of_insert_eq {before gap after inserted : List Char} (hne : inserted ≠ [])
    (h : before ++ inserted ++ (gap ++ after) = before ++ gap ++ inserted ++ after)
    (hlast : (before ++ gap).getLast? ≠ inserted.getLast?) : gap = [] := by
  by_contra hgap
  rw [List.getLast?_append_of_ne_nil _ hgap] at hlast
  refine hgap (eq_nil_of_append_comm hne ?_ hlast)
  simp only [List.append_assoc, List.append_cancel_left_eq] at h
  rwa [← List.append_assoc, ← List.append_assoc, List.append_cancel_right_eq] at h

theorem eq_of_insert_eq {before after before' after' inserted : List Char} (hne : inserted ≠ [])
    (hcut : before ++ after = before' ++ after')
    (h : before ++ inserted ++ after = before' ++ inserted ++ after')
    (hlast : before.getLast? ≠ inserted.getLast?) (hlast' : before'.getLast? ≠ inserted.getLast?) :
    before = before' := by
  rcases List.append_eq_append_iff.mp hcut with ⟨gap,rfl,rfl⟩ | ⟨gap,rfl,rfl⟩
  · rw [eq_nil_of_insert_eq hne h hlast', List.append_nil]
  · rw [eq_nil_of_insert_eq hne h.symm hlast, List.append_nil]

/-- Behind the name of a tag stands no quote. -/
theorem getLast?_ne_of_tagged {tag before attr json : List Char}
    (htag : ∀ c ∈ tag, isElementNameChar c = true) (htagged : '<' :: tag <:+ before) :
    before.getLast? ≠ (quotedAttribute attr json).getLast? := by
  obtain ⟨front,rfl⟩ := htagged
  rw [quotedAttribute_eq_concat, List.getLast?_concat,
    List.getLast?_append_of_ne_nil _ (List.cons_ne_nil _ _)]
  intro hquote
  rcases List.mem_cons.mp (List.mem_of_getLast? hquote) with he | hmem
  · exact absurd he (by decide)
  · exact absurd (htag _ hmem) (by decide +kernel)

section Place
variable {text element key : String} {a : Marker} {json attr : List Char} {i : ℕ}

/-- The marked text shows where the attribute was put. -/
theorem line_eq_of_withAttribute_eq {before after before' after' : List Char}
    (hline : (lines text)[i]? = some (before ++ after)) (hcut : before ++ after = before' ++ after')
    (ha : '\n' ∉ attr) (hj : '\n' ∉ json)
    (h : withAttribute text i attr json before after =
      withAttribute text i attr json before' after') :
    before ++ quotedAttribute attr json ++ after = before' ++ quotedAttribute attr json ++ after' := by
  have hl := newline_notMem_line hline
  have ht := newline_notMem_quotedAttribute ha hj
  have hfree : ∀ {x y : List Char}, '\n' ∉ x ++ y → '\n' ∉ x ++ quotedAttribute attr json ++ y := by
    intro x y hxy
    simp only [List.mem_append, not_or] at hxy ⊢
    exact ⟨⟨hxy.1,ht⟩,hxy.2⟩
  have hlines := congrArg lines h
  rw [withAttribute, withAttribute, lines_unlines_set text i (hfree hl),
    lines_unlines_set text i (hfree (hcut ▸ hl))] at hlines
  have hat := congrArg (·[i]?) hlines
  have hi := (List.getElem?_eq_some_iff.mp hline).1
  simpa [hi] using hat

/-- What is known of a marked text whose line did not mention the attribute. -/
theorem markedAt_eq {before after : List Char}
    (hline : (lines text).getD i [] = before ++ after)
    (hm : mentions attr (before ++ after) = false) :
    markedAt text i attr json before after = {
      text := withAttribute text i attr json before after
      line := i + 1
      hadPrior := false
      changed := true } := by
  have hchanged : before ++ quotedAttribute attr json ++ after ≠ before ++ after := by
    intro he
    have hlen := congrArg List.length he
    have hpos := List.length_pos_iff.mpr (quotedAttribute_ne_nil attr json)
    simp only [List.length_append] at hlen
    omega
  rw [markedAt, hline, hm, bne_iff_ne.mpr hchanged]

/-- The tag that is read from a marked line is the one in front of the attribute. -/
theorem MarkPlace.tagOf_eq {before after front back : List Char}
    (h : MarkPlace text element attr i before after)
    (hline : (lines text)[i]? = some (front ++ '<' :: element.toList ++ back))
    (hm : mentions attr (front ++ '<' :: element.toList ++ back) = false)
    (ha : '\n' ∉ attr) (hj : '\n' ∉ json)
    (htext : withAttribute text i attr json (front ++ '<' :: element.toList) back =
      withAttribute text i attr json before after) :
    tagOf element.toList (front ++ '<' :: element.toList ++ back) = element.toList := by
  have hget : (lines text).getD i [] = front ++ '<' :: element.toList ++ back := by
    rw [List.getD_eq_getElem?_getD, hline, Option.getD_some]
  have hbehind := h.behind
  rw [hget, strip_of_mentions_eq_false hm] at hbehind
  have hname : ∀ c ∈ element.toList, isElementNameChar c = true := fun c hc =>
    isElementNameChar_of_mem h.name hc
  have htag : ∀ c ∈ tagOf element.toList (front ++ '<' :: element.toList ++ back),
      isElementNameChar c = true := fun c hc => isElementNameChar_of_mem_tagOf h.name hc
  have hsame : front ++ '<' :: element.toList = before :=
    eq_of_insert_eq (quotedAttribute_ne_nil attr json) hbehind.cut
      (line_eq_of_withAttribute_eq hline hbehind.cut ha hj htext)
      (getLast?_ne_of_tagged hname (List.suffix_append front _))
      (getLast?_ne_of_tagged htag hbehind.tagged)
  exact eq_of_suffix_of_tagged hname htag hbehind.tagged (hsame ▸ List.suffix_append front _)

/-- An element is marked at the tag in front of its line exactly if that tag is the one that is
read from the line. A marker without a JSON form is put nowhere. -/
theorem inject_ownTag_iff {front back : List Char} {c : Char}
    (hname : isElementName element.toList = true) (hkey : ∀ d ∈ key.toList, isBlank d = false)
    (hfirst : IsLeast {i | LineAt (lines text) i (Uses element.toList)} i)
    (hline : (lines text)[i]? = some (front ++ '<' :: element.toList ++ c :: back))
    (hfront : '<' ∉ front) (hc : isBlank c = true ∨ c = '/' ∨ c = '>')
    (hm : mentions key.toList (front ++ '<' :: element.toList ++ c :: back) = false) :
    (∀ json, a.written = .ok json →
      (inject text element a key = .ok (.marked {
          text := withAttribute text i key.toList json (front ++ '<' :: element.toList) (c :: back)
          line := i + 1
          hadPrior := false
          changed := true }) ↔
        OwnTag element.toList (front ++ '<' :: element.toList ++ c :: back))) ∧
      ∀ e, a.written = .error e → inject text element a key = .error e := by
  have hends : endsName c = true := by simpa [endsName, or_assoc] using hc
  have htarget := (found_findTarget (lines text) element.toList).unique (.used hfirst)
  have hget : (lines text).getD i [] = front ++ '<' :: element.toList ++ c :: back := by
    rw [List.getD_eq_getElem?_getD, hline, Option.getD_some]
  refine ⟨fun json hw => ?_,fun e he => inject_eq_error_iff.mpr ⟨hname,⟨i,htarget⟩,he⟩⟩
  rw [← tagOf_eq_iff hname hends hfront]
  constructor
  · intro h
    obtain ⟨j,before,after,json',hplace,hw',hmarked⟩ := inject_eq_marked_iff.mp h
    obtain rfl := Except.ok.inj (hw.symm.trans hw')
    obtain rfl : i = j := Option.some.inj (htarget.symm.trans hplace.target)
    exact hplace.tagOf_eq hline hm (newline_notMem_of_notBlank hkey) (newline_notMem_written hw)
      (congrArg Marked.text hmarked)
  · intro htag
    refine inject_eq_marked_iff.mpr ⟨i,front ++ '<' :: element.toList,c :: back,json,
      ⟨hname,htarget,?_⟩,hw,(markedAt_eq hget hm).symm⟩
    rw [hget, htag, strip_of_mentions_eq_false hm]
    exact behindFirstTag_of_notMem hends hfront

end Place

/-- The first line that uses an element, found by the search. -/
theorem isLeast_uses {text : String} {name : List Char} {i : ℕ}
    (h : (lines text).findIdx? (usesElement name) = some i) :
    IsLeast {i | LineAt (lines text) i (Uses name)} i :=
  lineAt_of_findIdx? (fun _ => uses_iff) h

theorem inject_ownTag_iff_saving :
    ∃ json i front c back, isElementName "Form.Item".toList = true ∧
      (∀ d ∈ "data".toList, isBlank d = false) ∧
      IsLeast {i | LineAt (lines "<A/>\n <Form.Item k><B/>") i (Uses "Form.Item".toList)} i ∧
      (lines "<A/>\n <Form.Item k><B/>")[i]? =
        some (front ++ '<' :: "Form.Item".toList ++ c :: back) ∧
      '<' ∉ front ∧ (isBlank c = true ∨ c = '/' ∨ c = '>') ∧
      mentions "data".toList (front ++ '<' :: "Form.Item".toList ++ c :: back) = false ∧
      saving.written = .ok json ∧
      inject "<A/>\n <Form.Item k><B/>" "Form.Item" saving "data" = .ok (.marked {
          text := withAttribute "<A/>\n <Form.Item k><B/>" i "data".toList json
            (front ++ '<' :: "Form.Item".toList) (c :: back)
          line := i + 1
          hadPrior := false
          changed := true }) := by
  have hname : isElementName "Form.Item".toList = true := by decide +kernel
  have hkey := isBlank_data
  have hfirst := isLeast_uses (show (lines "<A/>\n <Form.Item k><B/>").findIdx?
    (usesElement "Form.Item".toList) = some 1 by decide +kernel)
  have hm : mentions "data".toList ([' '] ++ '<' :: "Form.Item".toList ++ ' ' :: "k><B/>".toList) =
    false := by decide +kernel
  have hc : isBlank ' ' = true := by decide +kernel
  have htag : "Form.Item".toList.all isTagNameChar = true := by decide +kernel
  have hown : OwnTag "Form.Item".toList
      ([' '] ++ '<' :: "Form.Item".toList ++ ' ' :: "k><B/>".toList) :=
    .inl (List.all_eq_true.mp htag)
  cases hw : saving.written with
  | error e =>
    have hok : saving.written.toOption.isSome = true := by decide +kernel
    simp [hw, Except.toOption] at hok
  | ok json =>
    refine ⟨json,1,[' '],' ',"k><B/>".toList,hname,hkey,hfirst,by decide +kernel,by decide,.inl hc,
      hm,rfl,?_⟩
    exact ((inject_ownTag_iff hname hkey hfirst (by decide +kernel) (by decide) (.inl hc) hm).1 json
      hw).mpr hown

/-- A name with an underscore is cut short, and one that begins with an underscore is passed over,
although the element's tag is the first one of the first line. -/
theorem inject_underscore :
    (isElementName "My_Button".toList = true ∧
      IsLeast {i | LineAt (lines "<My_Button />") i (Uses "My_Button".toList)} 0 ∧
      (lines "<My_Button />")[0]? = some ([] ++ '<' :: "My_Button".toList ++ ' ' :: "/>".toList) ∧
      mentions "data".toList "<My_Button />".toList = false ∧
      inject "<My_Button />" "My_Button" saving "data" =
        .ok (.refused (.unchanged "My" 1 false))) ∧
    (isElementName "_A".toList = true ∧
      IsLeast {i | LineAt (lines "<_A><b/>") i (Uses "_A".toList)} 0 ∧
      (lines "<_A><b/>")[0]? = some ([] ++ '<' :: "_A".toList ++ '>' :: "<b/>".toList) ∧
      mentions "data".toList "<_A><b/>".toList = false ∧
      inject "<_A><b/>" "_A" saving "data" = .ok (.marked {
        text := "<_A><b data='\x7b\"use_case_id\":\"UC-1\",\"use_case_title\":\"Save\"," ++
          "\"function\":\"save\",\"file\":\"a.py\",\"line\":3,\"endpoint\":null," ++
          "\"db_tables\":[],\"auth_required\":false,\"last_verified\":\"\"," ++
          "\"schema_version\":\"1.0\",\"visual_element_id\":\"\"\x7d'/>"
        line := 1
        hadPrior := false
        changed := true })) := by
  refine ⟨⟨?_,isLeast_uses ?_,?_,?_,?_⟩,?_,isLeast_uses ?_,?_,?_,?_⟩ <;> decide +kernel

end Traceability.Marker
