import Traceability.Marker.Read
import Traceability.Proofs.Json.ReadBack
import Traceability.Proofs.Marker.Frame

/-! # Reading a marker back

The attribute that was put on a line is the first one of its name there if the line mentioned no
other one, and its value is the whole written form. So what is read is the marker.
-/
namespace Traceability.Marker
open Number Text

/-! ## The attribute -/

theorem quotedPart?_quoted {value back : List Char} (h : '\x27' ∉ value) :
    quotedPart? ('\x27' :: (value ++ '\x27' :: back)) = some value := by
  simp [quotedPart?, closedLength?_append h]

theorem attributeValue?_of_lead {attr value back : List Char} (h : '\x27' ∉ value) :
    attributeValue? attr (attributeLead attr ++ '\x27' :: (value ++ '\x27' :: back)) =
      some value := by
  have hread : (after? (attributeLead attr)
      (attributeLead attr ++ '\x27' :: (value ++ '\x27' :: back))).bind quotedPart? =
        some value := by
    rw [after?_append, Option.bind_some, quotedPart?_quoted h]
  cases hcs : attributeLead attr ++ '\x27' :: (value ++ '\x27' :: back) with
  | nil => simp at hcs
  | cons c cs =>
    rw [hcs] at hread
    rw [attributeValue?, hread]

/-- The first attribute of its name is the one that was put there. -/
theorem attributeValue?_append {attr value front back : List Char}
    (hblank : ∀ c ∈ attr, isBlank c = false) (hvalue : '\x27' ∉ value)
    (hfront : ¬ attributeLead attr <:+: front) :
    attributeValue? attr (front ++ quotedAttribute attr value ++ back) = some value := by
  have hno := blank_notMem_attributeLead hblank
  induction front with
  | nil =>
    have hblankLead : after? (attributeLead attr) (quotedAttribute attr value ++ back) = none := by
      rw [after?_eq_none_iff]
      intro h
      have hnil : attributeLead attr <+: [] := prefix_of_prefix_append_cons hno h
      exact hfront hnil.isInfix
    have htext : quotedAttribute attr value ++ back =
        ' ' :: (attributeLead attr ++ '\x27' :: (value ++ '\x27' :: back)) := by
      simp [quotedAttribute_eq]
    rw [htext] at hblankLead
    rw [List.nil_append, htext, attributeValue?, hblankLead]
    exact attributeValue?_of_lead hvalue
  | cons c front ih =>
    have hlead : after? (attributeLead attr)
        (c :: (front ++ quotedAttribute attr value ++ back)) = none := by
      rw [after?_eq_none_iff]
      intro h
      apply hfront
      apply List.IsPrefix.isInfix
      apply prefix_of_prefix_append_cons hno (c := ' ')
      simpa [quotedAttribute] using h
    rw [List.cons_append, List.cons_append, attributeValue?, hlead]
    exact ih fun h => hfront (h.trans (List.suffix_cons c front).isInfix)

/-! ## Fields -/

structure Fields where
  useCaseId : String
  useCaseTitle : String
  function : String
  file : String
  line : ℤ
  endpoint : Option String
  dbTables : List String
  authRequired : Bool
  lastVerified : String
  version : String
  visualElementId : String

namespace Fields

def marker (p : Fields) : Marker where
  useCaseId := .text p.useCaseId
  useCaseTitle := .text p.useCaseTitle
  function := .text p.function
  file := .text p.file
  line := .int p.line
  endpoint := .ofText? p.endpoint
  dbTables := p.dbTables.map .text
  authRequired := .bool p.authRequired
  lastVerified := .text p.lastVerified
  version := .text p.version
  visualElementId := .text p.visualElementId

def json (p : Fields) : Json := .object [
  ("use_case_id", .text p.useCaseId),
  ("use_case_title", .text p.useCaseTitle),
  ("function", .text p.function),
  ("file", .text p.file),
  ("line", .int p.line),
  ("endpoint", .ofText? p.endpoint),
  ("db_tables", .ofTexts p.dbTables),
  ("auth_required", .bool p.authRequired),
  ("last_verified", .text p.lastVerified),
  ("schema_version", .text p.version),
  ("visual_element_id", .text p.visualElementId)]

theorem toJson?_ofText? (s : Option String) : (Value.ofText? s).toJson? = .ok (.ofText? s) := by
  cases s <;> rfl

theorem itemsToJson?_texts (texts : List String) :
    itemsToJson? (texts.map .text) = .ok (texts.map .text) := by
  induction texts with
  | nil => rfl
  | cons s texts ih =>
    rw [List.map_cons, itemsToJson?, ih]
    rfl

theorem toValue_ofText? (s : Option String) : (Json.ofText? s).toValue = .ofText? s := by
  cases s <;> rfl

theorem itemsToValue_texts (texts : List String) :
    Json.itemsToValue (texts.map .text) = texts.map .text := by
  induction texts with
  | nil => rfl
  | cons s texts ih =>
    rw [List.map_cons, Json.itemsToValue, ih]
    rfl

theorem itemsReadBack_texts (texts : List String) : Json.ItemsReadBack (texts.map .text) := by
  induction texts with
  | nil => trivial
  | cons s texts ih => exact ⟨trivial,ih⟩

theorem toValue_json (p : Fields) : p.json.toValue = p.marker.toValue := by
  simp [json, marker, toValue, toEntries, Json.toValue, Json.membersToValue, Entries.named,
    toValue_ofText?, Json.ofTexts, itemsToValue_texts]

theorem toJson?_marker (p : Fields) :
    p.marker.toValue.toJson? = (integerText? p.line).map fun _ => p.json := by
  simp only [json, marker, toValue, toEntries, Value.toJson?, entriesToJson?, Entries.named,
    Scalar.toJson?, Scalar.memberName?, toJson?_ofText?, Json.ofTexts, itemsToJson?_texts,
    List.map_cons, List.map_nil, bind, Except.bind, pure, Except.pure, Except.map]
  cases integerText? p.line <;> rfl

theorem readsBack_json {p : Fields} (h : isWritable p.line = true) : p.json.ReadsBack := by
  have hend : (Json.ofText? p.endpoint).ReadsBack := by cases p.endpoint <;> trivial
  refine ⟨by simp,?_⟩
  exact ⟨trivial,trivial,trivial,trivial,h,hend,itemsReadBack_texts p.dbTables,trivial,trivial,
    trivial,trivial,trivial⟩

theorem get?_named_cons (n name : String) (v : Value) (rest : List (String × Value)) :
    (Entries.named ((n, v) :: rest)).get? name =
      if n = name then some v else (Entries.named rest).get? name := by
  by_cases h : n = name
  · simp [Entries.named, Entries.get?, Entries.at?, Scalar.same, Scalar.wholeNumber?, h]
  · simp [Entries.named, Entries.get?, Entries.at?, Scalar.same, Scalar.wholeNumber?, h]

theorem textField_of_get? {data : Entries} {name : String} {s : String}
    (h : data.get? name = some (.text s)) (default : String) :
    textField data name default = .ok (.text s) := by
  rw [textField, h]
  rfl

/-- The fields are found again under their names. -/
theorem ofEntries_toEntries (p : Fields) : ofEntries p.marker.toEntries = .ok p.marker := by
  have hfields : ∀ name v, p.marker.toEntries.get? name = some v →
      p.marker.toEntries.field name = v := by
    intro name v h
    rw [Entries.field, h, Option.getD_some]
  have hget := get?_named_cons
  unfold ofEntries
  rw [hfields "line" (.int p.line) (by simp [toEntries, marker, hget]),
    hfields "db_tables" (.list (p.dbTables.map .text)) (by simp [toEntries, marker, hget]),
    hfields "endpoint" (.ofText? p.endpoint) (by simp [toEntries, marker, hget]),
    hfields "auth_required" (.bool p.authRequired) (by simp [toEntries, marker, hget]),
    textField_of_get? (s := p.useCaseId) (by simp [toEntries, marker, hget]),
    textField_of_get? (s := p.useCaseTitle) (by simp [toEntries, marker, hget]),
    textField_of_get? (s := p.function) (by simp [toEntries, marker, hget]),
    textField_of_get? (s := p.file) (by simp [toEntries, marker, hget]),
    textField_of_get? (s := p.lastVerified) (by simp [toEntries, marker, hget]),
    textField_of_get? (s := p.version) (by simp [toEntries, marker, hget]),
    textField_of_get? (s := p.visualElementId) (by simp [toEntries, marker, hget])]
  -- an absent line and an empty list are replaced by what they are
  by_cases hline : p.line = 0 <;> cases htables : p.dbTables <;>
    simp [marker, hline, htables, Value.isTruthy, Value.content, Value.toWhole, Value.toSequence,
      bind, Except.bind, pure, Except.pure]

end Fields

/-! ## The line -/

/-- What was put on a line is what is read from it, as long as the line held no other attribute of
the name. -/
theorem MarkPlace.attributeValue?_line {text element : String} {attr json : List Char} {i : ℕ}
    {before after : List Char} (h : MarkPlace text element attr i before after)
    (hblank : ∀ c ∈ attr, isBlank c = false)
    (hm : mentions attr (strip attr ((lines text).getD i [])) = false) (hquote : '\x27' ∉ json)
    (hj : '\n' ∉ json) :
    attributeValue? attr ((lines (withAttribute text i attr json before after)).getD i []) =
      some json := by
  have hfront : ¬ attributeLead attr <:+: before := by
    rw [h.behind.cut] at hm
    intro hf
    exact mentions_eq_false_iff.mp hm (hf.trans (List.prefix_append before after).isInfix)
  rw [h.getD_withAttribute (newline_notMem_of_notBlank hblank) hj]
  exact attributeValue?_append hblank hquote hfront

theorem read_of_attributeValue? {line : List Char} {key : String} {p : Fields}
    (hp : isWritable p.line = true)
    (h : attributeValue? key.toList line = some (escapeQuotes p.json.compactChars)) :
    read (String.ofList line) key = .ok (some p.marker.toValue) := by
  rw [read, String.toList_ofList, h]
  simp only [Json.parse_escapeQuotes_compactChars (Fields.readsBack_json hp)]
  rw [← p.toValue_json]
  rfl

/-- A marker is read back from the line on which it was put, unless the line mentioned the
attribute in a way that is no attribute. -/
theorem read_inject {text element key : String} {p : Fields} {m : Marked}
    (hblank : ∀ c ∈ key.toList, isBlank c = false)
    (h : inject text element p.marker key = .ok (.marked m))
    (hm : m.hadPrior = false ∨
      mentions key.toList (strip key.toList ((lines text).getD (m.line - 1) [])) = false) :
    read (String.ofList ((lines m.text).getD (m.line - 1) [])) key =
        .ok (some p.marker.toValue) ∧
      ofEntries p.marker.toEntries = .ok p.marker := by
  refine ⟨?_,p.ofEntries_toEntries⟩
  obtain ⟨i,before,after,json,hplace,hw,rfl⟩ := inject_eq_marked_iff.mp h
  have hstrip : mentions key.toList (strip key.toList ((lines text).getD i [])) = false := by
    rcases hm with hm | hm
    · rw [strip_of_mentions_eq_false hm]
      exact hm
    · exact hm
  obtain ⟨j,hj,rfl⟩ := exists_json_of_written hw
  have hvalue := hplace.attributeValue?_line hblank hstrip (quote_notMem_written hw)
    (newline_notMem_written hw)
  rw [p.toJson?_marker, integerText?] at hj
  by_cases hp : isWritable p.line = true
  · rw [if_pos hp] at hj
    obtain rfl : p.json = j := by simpa [Except.map] using hj
    exact read_of_attributeValue? hp hvalue
  · rw [if_neg hp] at hj
    simp [Except.map] at hj

def quotingFields : Fields where
  useCaseId := "UC-1"
  useCaseTitle := "data='\\' <B"
  function := "save"
  file := "a.py"
  line := -3
  endpoint := none
  dbTables := ["users"]
  authRequired := true
  lastVerified := ""
  version := "1.0"
  visualElementId := "\n"

theorem read_inject_quotingFields :
    ∃ m, inject "<A/>\n<B k>" "B" quotingFields.marker "data" = .ok (.marked m) ∧
      m.hadPrior = false ∧
      read (String.ofList ((lines m.text).getD (m.line - 1) [])) "data" =
        .ok (some quotingFields.marker.toValue) ∧
      ofEntries quotingFields.marker.toEntries = .ok quotingFields.marker := by
  obtain ⟨m,hm,hprior⟩ := exists_marked_of_any (show ((inject "<A/>\n<B k>" "B"
    quotingFields.marker "data").toOption.bind Outcome.marked?).any (!·.hadPrior) = true by
      decide +kernel)
  rw [Bool.not_eq_true'] at hprior
  obtain ⟨hread,hentries⟩ := read_inject isBlank_data hm (.inl hprior)
  exact ⟨m,hm,hprior,hread,hentries⟩

end Traceability.Marker
