import Traceability.Proofs.Marker.Frame

/-! # The last marker wins

A text in which an element was marked has the same place for a marker as the text before: the
search ends at the same line, the same tag is the first one there, and the old attribute is taken
out before the new one is put in. So each marker replaces the one before it without a trace.
-/
namespace Traceability.Marker
open Text

theorem opensTag_of_usesElement {name line : List Char} {c : Char} (hc : c ∈ name.head?)
    (hletter : isAsciiLetter c = true) (h : usesElement name line = true) :
    opensTag line = true := by
  obtain ⟨front,d,back,rfl,-⟩ := usesElement_iff.mp h
  cases name with
  | nil => simp at hc
  | cons e name =>
    obtain rfl : e = c := by simpa using hc
    exact opensTag_iff.mpr ⟨e,name ++ d :: back,⟨front,by simp⟩,hletter⟩

theorem isTagNameChar_eq_false_of_endsName {c : Char} (h : endsName c = true) :
    isTagNameChar c = false := by
  rw [← Bool.not_eq_true]
  intro ht
  simp [endsName_eq_false_of_isElementNameChar (isElementNameChar_of_isTagNameChar ht)] at h

theorem isBlank_eq_false_of_isTagNameChar {c : Char} (h : isTagNameChar c = true) :
    isBlank c = false := by
  have he := endsName_eq_false_of_isElementNameChar (isElementNameChar_of_isTagNameChar h)
  simp only [endsName, Bool.or_eq_false_iff] at he
  exact he.1.1

/-- What is known of a line that an element whose name begins with a letter is marked on: the first
tag stands in front of the place, and its name ends there. -/
theorem MarkPlace.opensTag_before {text element : String} {attr : List Char} {i : ℕ}
    {before after : List Char} (h : MarkPlace text element attr i before after) {c : Char}
    (hc : c ∈ element.toList.head?) (hletter : isAsciiLetter c = true) :
    opensTag before = true ∧ ∀ d ∈ before.getLast?, isBlank d = false := by
  have ho : opensTag ((lines text).getD i []) = true := by
    rcases (findTarget_spec h.target).2 with hu | ho
    · exact opensTag_of_usesElement hc hletter hu
    · exact ho
  obtain ⟨d,rest,hname,hd,hrest⟩ := exists_tagName?_of_opensTag ho
  have htagged := h.behind.tagged
  rw [tagOf, hname, Option.getD_some] at htagged
  obtain ⟨front,rfl⟩ := htagged
  constructor
  · exact opensTag_iff.mpr ⟨d,rest,⟨front,rfl⟩,hd⟩
  · intro e he
    have hm : e ∈ d :: rest := by
      rw [List.getLast?_append_of_ne_nil _ (by simp), List.getLast?_cons_cons] at he
      exact List.mem_of_getLast? he
    rcases List.mem_cons.mp hm with rfl | hm
    · exact isBlank_eq_false_of_isTagNameChar (by simp [isTagNameChar, hd])
    · exact isBlank_eq_false_of_isTagNameChar (hrest e hm)

/-- The first tag of a line is the same with an attribute behind it. -/
theorem tagOf_insert (element : List Char) {before after : List Char}
    (hopen : opensTag before = true) (hends : NameEnds after) (attr json : List Char) :
    tagOf element (before ++ quotedAttribute attr json ++ after) =
      tagOf element (before ++ after) := by
  rw [tagOf, tagOf, List.append_assoc, tagName?_append_congr hopen]
  · simp only [quotedAttribute, List.cons_append, List.head?_cons, Option.mem_def, Option.some.injEq]
    rintro d rfl
    exact isTagNameChar_eq_false_of_endsName (by decide +kernel)
  · exact fun d hd => isTagNameChar_eq_false_of_endsName (hends d hd)

theorem strip_insert {attr json before after : List Char} (hne : attr ≠ [])
    (hblank : ∀ d ∈ attr, isBlank d = false) (hquote : '\x27' ∉ json)
    (hlast : ∀ d ∈ before.getLast?, isBlank d = false)
    (hapart : ¬ attributeLead attr <:+: before ++ after) :
    strip attr (before ++ quotedAttribute attr json ++ after) = before ++ after := by
  have hfront : ¬ attributeLead attr <:+: before :=
    fun hf => hapart (hf.trans (List.prefix_append before after).isInfix)
  have hback : ¬ attributeLead attr <:+: after :=
    fun hf => hapart (hf.trans (List.suffix_append before after).isInfix)
  rw [strip_append_quotedAttribute hne hblank hquote hlast hfront, strip_of_not_infix hback]

/-- A marked text has the place of the text before. -/
theorem MarkPlace.persists {text element : String} {attr json : List Char} {i : ℕ}
    {before after : List Char} (h : MarkPlace text element attr i before after) {c : Char}
    (hc : c ∈ element.toList.head?) (hletter : isAsciiLetter c = true) (hne : attr ≠ [])
    (hblank : ∀ d ∈ attr, isBlank d = false) (hm : mentions attr ((lines text).getD i []) = false)
    (hquote : '\x27' ∉ json) (hj : '\n' ∉ json) :
    MarkPlace (withAttribute text i attr json before after) element attr i before after := by
  obtain ⟨hopen,hlast⟩ := h.opensTag_before hc hletter
  have ha := newline_notMem_of_notBlank hblank
  have hlines := h.lines_withAttribute ha hj
  have hline : (lines text).getD i [] = before ++ after := by
    rw [← h.behind.cut, strip_of_mentions_eq_false hm]
  have hmarked := h.getD_withAttribute ha hj
  rw [hline] at hm
  have hapart := mentions_eq_false_iff.mp hm
  refine ⟨h.name,?_,?_⟩
  · rw [hlines]
    apply findTarget_set h.target
    · rw [hline]
      refine usesElement_insert ?_ (by decide +kernel) h.behind.ends
      intro d hd
      exact endsName_eq_false_of_isElementNameChar (isElementNameChar_of_mem h.name hd)
    · intro _
      rw [List.append_assoc]
      exact opensTag_append_right hopen _
  · have htag := tagOf_insert element.toList hopen h.behind.ends attr json
    have hstrip := strip_insert hne hblank hquote hlast hapart
    have hbehind := h.behind
    rw [hline, strip_of_mentions_eq_false hm] at hbehind
    rw [hmarked, htag, hstrip]
    exact hbehind

/-- The outcomes of marking one element with one marker after the other, each time in the text that
came out before. A refusal ends the run. -/
def injectEach (element key : String) :
    String → List Marker → Except UnserializableError (List Outcome)
  | _, [] => .ok []
  | text, a :: rest =>
    match inject text element a key with
    | .error e => .error e
    | .ok (.refused r) => .ok [.refused r]
    | .ok (.marked m) => (injectEach element key m.text rest).map (.marked m :: ·)

/-- One marker takes the place of another one: nothing of the old one is left in the text. -/
structure Replaces (text element key : String) (old new : Marker) (before now : Marked) : Prop where
  afresh : ∃ m, inject text element new key = .ok (.marked m) ∧ now.text = m.text
  line : now.line = before.line
  hadPrior : now.hadPrior = true
  changed : now.changed = false ↔ new.written = old.written
  kept : now.changed = false → now.text = before.text

/-- Every call of a run replaces the marker of the call before it, and all on one line. -/
structure EachReplaces (text element key : String) (first : Marker) (m : Marked)
    (later : List Marker) (outs : List Outcome) : Prop where
  length : outs.length = later.length
  step : ∀ (k : ℕ) (old new : Marker), (first :: later)[k]? = some old → later[k]? = some new →
    ∃ before now, (Outcome.marked m :: outs)[k]? = some (Outcome.marked before) ∧
      outs[k]? = some (Outcome.marked now) ∧ now.line = m.line ∧
      Replaces text element key old new before now

theorem injectEach_cons_of_error {text element key : String} {a : Marker} {rest : List Marker}
    {e : UnserializableError} (h : inject text element a key = .error e) :
    injectEach element key text (a :: rest) = .error e := by
  rw [injectEach, h]

theorem injectEach_cons_of_marked {text element key : String} {a : Marker} {rest : List Marker}
    {m : Marked} (h : inject text element a key = .ok (.marked m)) :
    injectEach element key text (a :: rest) =
      (injectEach element key m.text rest).map (.marked m :: ·) := by
  rw [injectEach, h]

theorem eachReplaces_nil {text element key : String} {old : Marker} {m : Marked} :
    EachReplaces text element key old m [] [] := ⟨rfl,by simp⟩

theorem EachReplaces.cons {text element key : String} {old new : Marker} {m now : Marked}
    {later : List Marker} {outs : List Outcome}
    (h : EachReplaces text element key new now later outs)
    (hr : Replaces text element key old new m now) :
    EachReplaces text element key old m (new :: later) (.marked now :: outs) := by
  refine ⟨by simp [h.length],?_⟩
  intro k a b ha hb
  cases k with
  | zero =>
    cases ha
    cases hb
    exact ⟨m,now,rfl,rfl,hr.line,hr⟩
  | succ k =>
    rw [List.getElem?_cons_succ] at ha hb
    obtain ⟨x,y,hx,hy,hl,hs⟩ := h.step k a b ha hb
    refine ⟨x,y,?_,?_,hl.trans hr.line,hs⟩
    · rw [List.getElem?_cons_succ, hx]
    · rw [List.getElem?_cons_succ, hy]

theorem quotedAttribute_inj {attr json json' : List Char} :
    quotedAttribute attr json = quotedAttribute attr json' ↔ json = json' := by
  simp [quotedAttribute]

theorem mentions_quotedAttribute (attr json front back : List Char) :
    mentions attr (front ++ quotedAttribute attr json ++ back) = true := by
  rw [mentions, occursIn_iff]
  exact ⟨front ++ [' '],'\x27' :: (json ++ ['\x27']) ++ back,by simp [quotedAttribute_eq]⟩

section Run
variable {text element : String} {attr : List Char} {i : ℕ} {before after : List Char}

/-- One step of a run: the text that the old marker left is marked again at the same place. -/
theorem MarkPlace.replaces {key : String} {old new : Marker} {json json' : List Char}
    (h : MarkPlace text element key.toList i before after) {c : Char}
    (hc : c ∈ element.toList.head?) (hletter : isAsciiLetter c = true) (hne : key.toList ≠ [])
    (hblank : ∀ d ∈ key.toList, isBlank d = false)
    (hm : mentions key.toList ((lines text).getD i []) = false)
    (hold : old.written = .ok json) (hnew : new.written = .ok json') :
    ∃ now, inject (withAttribute text i key.toList json before after) element new key =
        .ok (.marked now) ∧
      now.text = withAttribute text i key.toList json' before after ∧
      ∀ m : Marked, m.text = withAttribute text i key.toList json before after → m.line = i + 1 →
        Replaces text element key old new m now := by
  have hj := newline_notMem_written hold
  have ha := newline_notMem_of_notBlank hblank
  have hplace := h.persists hc hletter hne hblank hm (quote_notMem_written hold) hj
  have hlines := h.lines_withAttribute ha hj
  have hline := h.getD_withAttribute ha hj
  have htext : withAttribute (withAttribute text i key.toList json before after) i key.toList
      json' before after = withAttribute text i key.toList json' before after := by
    rw [withAttribute, hlines, List.set_set, withAttribute]
  refine ⟨_,inject_eq_marked_iff.mpr ⟨i,before,after,json',hplace,hnew,rfl⟩,htext,?_⟩
  intro m hmtext hmline
  have hchanged : (markedAt (withAttribute text i key.toList json before after) i key.toList json'
      before after).changed = false ↔ json' = json := by
    simp only [markedAt, hline, bne_eq_false_iff_eq, List.append_assoc, List.append_cancel_left_eq,
      List.append_cancel_right_eq, quotedAttribute_inj]
  refine ⟨⟨_,inject_eq_marked_iff.mpr ⟨i,before,after,json',h,hnew,rfl⟩,htext⟩,hmline.symm,?_,?_,?_⟩
  · simp only [markedAt, hline, mentions_quotedAttribute]
  · rw [hchanged, hold, hnew, Except.ok.injEq]
  · intro hs
    calc _ = withAttribute text i key.toList json' before after := htext
      _ = withAttribute text i key.toList json before after := by rw [hchanged.mp hs]
      _ = m.text := hmtext.symm

/-- Every call of a run replaces the marker of the call before it, by induction on the markers that
are still to come; `old` is the marker that the text carries. -/
theorem MarkPlace.injectEach_spec {key : String} {json : List Char} {old : Marker}
    (h : MarkPlace text element key.toList i before after) {c : Char}
    (hc : c ∈ element.toList.head?) (hletter : isAsciiLetter c = true) (hne : key.toList ≠ [])
    (hblank : ∀ d ∈ key.toList, isBlank d = false)
    (hm : mentions key.toList ((lines text).getD i []) = false) (later : List Marker)
    (hold : old.written = .ok json) {m : Marked}
    (htext : m.text = withAttribute text i key.toList json before after) (hline : m.line = i + 1) :
    (∀ e, injectEach element key m.text later = .error e → ∃ a ∈ later, a.written = .error e) ∧
    ∀ outs, injectEach element key m.text later = .ok outs →
      EachReplaces text element key old m later outs := by
  induction later generalizing json old m with
  | nil =>
    constructor
    · intro e he
      simp [injectEach] at he
    · intro outs ho
      cases ho
      exact eachReplaces_nil
  | cons new later ih =>
    cases hw : new.written with
    | error e =>
      have hplace := h.persists hc hletter hne hblank hm (quote_notMem_written hold)
        (newline_notMem_written hold)
      have hi : inject m.text element new key = .error e := by
        rw [htext]
        exact inject_eq_error_iff.mpr ⟨h.name,⟨i,hplace.target⟩,hw⟩
      rw [injectEach_cons_of_error hi]
      constructor
      · intro e' he
        cases he
        exact ⟨new,List.mem_cons_self,hw⟩
      · intro outs ho
        cases ho
    | ok json' =>
      obtain ⟨now,hi,hnow,hr⟩ := h.replaces hc hletter hne hblank hm hold hw
      have hrep := hr m htext hline
      obtain ⟨herr,hok⟩ := ih hw hnow (hrep.line.trans hline)
      rw [← htext] at hi
      rw [injectEach_cons_of_marked hi]
      cases hrest : injectEach element key now.text later with
      | error e =>
        constructor
        · intro e' he
          cases he
          obtain ⟨a,ha,hwa⟩ := herr e hrest
          exact ⟨a,List.mem_cons_of_mem _ ha,hwa⟩
        · intro outs ho
          cases ho
      | ok rest =>
        constructor
        · intro e he
          cases he
        · intro outs ho
          cases ho
          exact (hok rest hrest).cons hrep

end Run

/-- Of any number of markers that are put on one element one after the other, only the last one is
found in the text, as if it had been the only one; and putting the same one again changes nothing.
A run ends early only at a marker without a JSON form. -/
theorem injectEach_last_wins {text element key : String} {first : Marker} {m : Marked}
    (hletter : ∃ c ∈ element.toList.head?, isAsciiLetter c = true) (hkey : key ≠ "")
    (hblank : ∀ c ∈ key.toList, isBlank c = false)
    (hfirst : inject text element first key = .ok (.marked m)) (hprior : m.hadPrior = false)
    (later : List Marker) :
    (∀ e, injectEach element key m.text later = .error e → ∃ a ∈ later, a.written = .error e) ∧
    ∀ outs, injectEach element key m.text later = .ok outs →
      EachReplaces text element key first m later outs := by
  obtain ⟨c,hc,hl⟩ := hletter
  obtain ⟨i,before,after,json,hp,hw,rfl⟩ := inject_eq_marked_iff.mp hfirst
  exact hp.injectEach_spec hc hl (by simpa using hkey) hblank hprior later hw rfl rfl

def savingBelow : Marker := { saving with line := .int 4 }

theorem injectEach_last_wins_saving :
    ∃ m outs, inject "<A/>\n<B k>" "B" saving "data" = .ok (.marked m) ∧ m.hadPrior = false ∧
      injectEach "B" "data" m.text [savingBelow, saving] = .ok outs ∧
        EachReplaces "<A/>\n<B k>" "B" "data" saving m [savingBelow, saving] outs := by
  obtain ⟨m,hm,hprior⟩ := exists_marked_of_any (show ((inject "<A/>\n<B k>" "B" saving
    "data").toOption.bind Outcome.marked?).any (!·.hadPrior) = true by decide +kernel)
  rw [Bool.not_eq_true'] at hprior
  obtain ⟨herr,hok⟩ := injectEach_last_wins ⟨'B',by decide,by decide⟩ (by decide) isBlank_data hm
    hprior [savingBelow, saving]
  cases ho : injectEach "B" "data" m.text [savingBelow, saving] with
  | ok outs => exact ⟨m,outs,hm,hprior,ho,hok outs ho⟩
  | error e =>
    obtain ⟨a,ha,he⟩ := herr e ho
    have hwritten : ∀ a ∈ [savingBelow, saving], a.written.isOk = true := by
      decide +kernel
    have hisOk := hwritten a ha
    simp [he, Except.isOk, Except.toBool] at hisOk

end Traceability.Marker
