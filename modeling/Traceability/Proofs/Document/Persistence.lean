import Traceability.Document.Load
import Traceability.Proofs.Document.ReadBack
import Traceability.Proofs.Value.Decide
import Traceability.Proofs.Yaml.Characters

/-! # Documents persist

A document that was read is what its own value reads as. Saved and loaded again it is the same but
for the day of its last change, as far as the text of a mapping is read back as that mapping. Its
texts are without the private characters that stand for halves of pairs (`Text.isHalf`).
-/
namespace Traceability
open Number Text

/-! ## Documents as they are -/

namespace View

theorem exact_entry : exact.entry = id := rfl

theorem exact_function : exact.function = id := by
  funext f
  rw [function, exact_entry, List.map_id]
  rfl

theorem exact_useCase : exact.useCase = id := by
  funext u
  rw [useCase, exact_entry, exact_function, List.map_id, List.map_id]
  rfl

theorem exact_decision : exact.decision = id := by
  funext d
  rw [decision, exact_entry, List.map_id, show exact.value = id from rfl, List.map_id]
  rfl

theorem exact_stack : exact.stack = id := by
  funext s
  rw [stack, exact_entry, List.map_id]
  rfl

theorem exact_table : exact.table = id := by
  funext t
  rw [table, exact_entry, List.map_id]
  rfl

theorem exact_endpoint : exact.endpoint = id := by
  funext e
  rw [endpoint, exact_entry, List.map_id]
  rfl

theorem exact_functionEntity : exact.functionEntity = id := by
  funext f
  rw [functionEntity, exact_entry, List.map_id]
  rfl

theorem exact_document (d : Document) : exact.document d = d := by
  simp only [document, exact_entry, exact_useCase, exact_decision, exact_stack, exact_table,
    exact_endpoint, exact_functionEntity, Option.map_id, List.map_id, id_eq]
  rw [show (fun us : List UseCase => us) = id from rfl, Option.map_id]
  rfl

end View

/-! ## Files -/

namespace Yaml

/-- The mapping is read back from the text that is written for it, as it is seen. -/
def ReadsBack (φ : View) (es : Entries) : Prop :=
  ∃ text v, dump es = .ok text ∧ load text.toList = .ok v ∧ φ.value v = φ.value (.map es)

def dumped (es : Entries) : Except IntegerError (List Char) :=
  let roll := Roll.callEntries {} es
  if !roll.writable then .error .tooLarge
  else
    match es with
    | [] => .ok ['\x7b', '\x7d', '\n']
    | es => .ok ((Draft.entries { numbers := roll.numbers } 0 es).page.indentTo 0).written.reverse

theorem dump_eq_map_dumped (es : Entries) : dump es = (dumped es).map String.ofList := by
  simp only [dump, dumped]
  split_ifs
  · rfl
  · cases es <;> rfl

/-- Whether a mapping is read back can be found out. -/
theorem readsBack_iff (φ : View) (es : Entries) :
    ((dumped es).toOption.any fun cs => (load cs).toOption.any fun v =>
      decide (φ.value v = φ.value (.map es))) = true ↔ ReadsBack φ es := by
  rw [ReadsBack, dump_eq_map_dumped]
  constructor
  · intro h
    obtain ⟨cs,hdumped,htested⟩ := exists_of_any_toOption h
    obtain ⟨v,hload,hv⟩ := exists_of_any_toOption htested
    exact ⟨String.ofList cs,v,congrArg (Except.map String.ofList) hdumped,
      by rw [String.toList_ofList, hload],of_decide_eq_true hv⟩
  · rintro ⟨text,v,htext,hload,hv⟩
    obtain ⟨cs,hdumped,rfl⟩ := exists_of_map_eq_ok htext
    rw [String.toList_ofList] at hload
    simp only [hdumped, hload, Except.toOption, Option.any_some, decide_eq_true hv]

instance (φ : View) (es : Entries) : Decidable (ReadsBack φ es) :=
  decidable_of_iff _ (readsBack_iff φ es)

end Yaml

namespace Document

/-- What a written mapping reads as is loaded from the file into which it was written. -/
theorem load_encoded {es : Entries} {text : String} (htext : Yaml.dump es = .ok text) {v : Value}
    (hload : Yaml.load text.toList = .ok v) {φ : View} (hv : φ.value v = φ.value (.map es))
    {e : Document} (he : ofValue v = .ok e) (path : String) :
    load path (some (encodeUtf8 text)) = .ok e := by
  obtain ⟨data,hdata,-⟩ := View.exists_entries hv
  have hmap : v.isMap = true := by
    rw [Value.isMap, hdata]
    rfl
  have hvalue : loadValue path text.toList = .ok v := by
    rw [loadValue, Yaml.universalLines_dump htext, hload]
  simp only [load, decodeUtf8_encodeUtf8, Except.mapError, bind, Except.bind, hvalue, hmap, he,
    if_true]

/-- A canonical document whose entities have different ids is loaded from the file into which it
was written. -/
theorem Canonical.load_fileText {d : Document} (hd : d.Canonical) (hids : d.DistinctEntities)
    {φ : View} (hback : Yaml.ReadsBack φ d.toEntries) (path : String) : ∃ text e,
      d.fileText = .ok text ∧ load path (some (encodeUtf8 text)) = .ok e ∧
        φ.document e = φ.document d := by
  obtain ⟨text,v,htext,hload,hv⟩ := hback
  obtain ⟨e,he,himage⟩ := readsBack hd hids hv
  exact ⟨text,e,htext,load_encoded htext hload hv he path,himage⟩

/-- The document is what its value reads as and what is loaded after it was saved. -/
structure Persists (d : Document) : Prop where
  ofValue_toValue : ofValue d.toValue = .ok d
  load_saved : ∀ today path, Yaml.ReadsBack .exact (d.stamped today).toEntries →
    ∃ text, (d.stamped today).fileText = .ok text ∧
      load path (some (encodeUtf8 text)) = .ok (d.stamped today)
  load_saved_alike : ∀ φ : View, ∀ today path, Yaml.ReadsBack φ (d.stamped today).toEntries →
    ∃ text e, (d.stamped today).fileText = .ok text ∧
      load path (some (encodeUtf8 text)) = .ok e ∧ φ.document e = φ.document (d.stamped today)

/-- A document that was read persists, unless the id of one of its entities was a moment. -/
theorem persists_ofValue {v : Value} (hids : PlainIds v.entries) {d : Document}
    (hd : ofValue v = .ok d) : d.Persists := by
  have hc := canonical_ofValue v d hd
  have hi := distinctEntities_ofValue hids d hd
  refine ⟨?_,?_,?_⟩
  · obtain ⟨e,he,himage⟩ := @readsBack .exact d hc hi d.toValue rfl
    rw [View.exact_document, View.exact_document] at himage
    rw [he, himage]
  · intro today path hback
    obtain ⟨text,e,htext,he,himage⟩ := (hc.stamped today).load_fileText (hi.stamped today) hback path
    rw [View.exact_document, View.exact_document] at himage
    exact ⟨text,htext,himage ▸ he⟩
  · exact fun φ today path hback => (hc.stamped today).load_fileText (hi.stamped today) hback path

def foundTwice : Value := .map [
  (.text "db_tables", .list [
    .map [(.text "id", .text "t")],
    .map [(.text "id", .text "t"), (.text "owner", .text "a")]])]

def mergedTable : Document where
  tables := [{ id := "t", name := "t", ownerService := some "a" }]

/-- One day in two places. -/
def oneDay : Value := .map [(.text "begun", .scalar (.date ⟨2024,5,1⟩ (some 0))),
  (.text "ended", .scalar (.date ⟨2024,5,1⟩ (some 0)))]

def oneDayDocument : Document where
  extra := oneDay.entries

/-- A table that was found twice is written and read back as it is. One day in two places is read
back as one day, but not under its label. -/
theorem persists_ofValue_foundTwice :
    (ofValue foundTwice = .ok mergedTable ∧ mergedTable.Persists ∧
      Yaml.ReadsBack .exact (mergedTable.stamped ⟨2024,5,1⟩).toEntries) ∧
    (ofValue oneDay = .ok oneDayDocument ∧ oneDayDocument.Persists ∧
      Yaml.ReadsBack .unlabelled (oneDayDocument.stamped ⟨2024,5,1⟩).toEntries ∧
      ¬ Yaml.ReadsBack .exact (oneDayDocument.stamped ⟨2024,5,1⟩).toEntries) := by
  have hfound : ofValue foundTwice = .ok mergedTable := rfl
  have hday : ofValue oneDay = .ok oneDayDocument := rfl
  exact ⟨⟨hfound,persists_ofValue (by decide) hfound,by decide +kernel⟩,
    hday,persists_ofValue (by decide) hday,by decide +kernel,by decide +kernel⟩

end Document

end Traceability
