import Traceability.Project.Settings
import Traceability.Proofs.Document.Persistence
import Traceability.Proofs.Text.Intake

/-! # Settings next to a document

A file may hold the settings and the document of a project at once. The settings are read from names
that the document does not model, so they are the same after the document was written to the file.
-/
namespace Traceability
open Text

/-- A text is loaded in blocks as it is loaded at once. -/
theorem Yaml.loadBytes_of_decodeUtf8 {bytes : List UInt8} {cs : List Char}
    (h : decodeUtf8 bytes = .ok cs) : loadBytes bytes = load (universalLines cs) := by
  rw [loadBytes, readBlocks_of_decodeUtf8 h]

namespace Settings
variable {φ : View} {es fs : Entries}

def names : List String := ["matrix_path", "rules_dir", "strict", "meta_attribute"]

theorem get?_eq_scalar {name : String} {s : Scalar} (hs : s.isLabelled = false)
    (h : (es.get? name).map φ.value = (fs.get? name).map φ.value)
    (hes : es.get? name = some (.scalar s)) : fs.get? name = some (.scalar s) := by
  rw [hes, Option.map_some, eq_comm] at h
  obtain ⟨v,hv,hvalue⟩ := Option.map_eq_some_iff.mp h
  rw [hv, φ.plain v s hs hvalue]

theorem textSetting_congr {name : String} (default : String)
    (h : (es.get? name).map φ.value = (fs.get? name).map φ.value) :
    textSetting es name default = textSetting fs name default := by
  simp only [textSetting]
  split
  · next s hes => rw [get?_eq_scalar rfl h hes]
  · next hes =>
    split
    · next s hfs => exact absurd (get?_eq_scalar rfl h.symm hfs) (hes s)
    · rfl

theorem truthSetting_congr {name : String} (default : Bool)
    (h : (es.get? name).map φ.value = (fs.get? name).map φ.value) :
    truthSetting es name default = truthSetting fs name default := by
  simp only [truthSetting]
  split
  · next b hes => rw [get?_eq_scalar rfl h hes]
  · next hes =>
    split
    · next b hfs => exact absurd (get?_eq_scalar rfl h.symm hfs) (hes b)
    · rfl

/-- Settings are what is seen under their names. -/
theorem ofEntries_congr (h : ∀ name ∈ names, (es.get? name).map φ.value = (fs.get? name).map φ.value) :
    ofEntries es = ofEntries fs := by
  simp only [ofEntries, textSetting_congr _ (h "matrix_path" (by decide)),
    textSetting_congr _ (h "rules_dir" (by decide)), truthSetting_congr _ (h "strict" (by decide)),
    textSetting_congr _ (h "meta_attribute" (by decide))]

theorem notMem_fieldNames {name : String} (h : name ∈ names) : name ∉ Document.fieldNames := by
  revert name
  decide

end Settings

namespace Document
variable {φ : View} {d e : Document}

/-- What a document was loaded from. -/
theorem exists_of_load {path : String} {bytes : List UInt8}
    (h : load path (some bytes) = .ok d) : ∃ cs v, decodeUtf8 bytes = .ok cs ∧
      Yaml.load (universalLines cs) = .ok v ∧ ofValue v = .ok d := by
  simp only [load] at h
  obtain ⟨cs,hcs,h⟩ := exists_of_bind_eq_ok h
  obtain ⟨v,hv,h⟩ := exists_of_bind_eq_ok h
  refine ⟨cs,v,?_,?_,?_⟩
  · exact mapError_eq_ok_iff.mp hcs
  · rw [loadValue] at hv
    split at hv
    · next w hw => rw [hw, Except.ok.inj hv]
    · cases hv
    · cases hv
  · split at h
    · exact mapError_eq_ok_iff.mp h
    · cases h

/-- A document that is written over the one it was made of leaves the settings in the file as they
were. -/
theorem ofContent_written {path : String} {old : List UInt8} (hold : load path (some old) = .ok d)
    (he : e.Canonical) (hextra : e.extra = d.extra) {text : String}
    (htext : e.fileText = .ok text) {v : Value} (hload : Yaml.load text.toList = .ok v)
    (hv : φ.value v = φ.value e.toValue) :
    Settings.ofContent (some (encodeUtf8 text)) = Settings.ofContent (some old) := by
  obtain ⟨cs,u,hcs,hu,hd⟩ := exists_of_load hold
  obtain ⟨data,hdata,halike⟩ := View.exists_entries hv
  simp only [Settings.ofContent, Yaml.loadBytes_of_decodeUtf8 hcs,
    Yaml.loadBytes_of_decodeUtf8 (decodeUtf8_encodeUtf8 text), Yaml.universalLines_dump htext, hu,
    hload]
  refine congrArg Except.ok (Settings.ofEntries_congr (φ := φ) fun name hname => ?_)
  have hmodelled := Settings.notMem_fieldNames hname
  have hentries : v.entries = data := Value.entries_of_entries? hdata
  have hwritten := Entries.get?_without hmodelled e.toEntries
  have hread := Entries.get?_without hmodelled u.entries
  rw [without_toEntries he.extra, hextra] at hwritten
  rw [(readFrom_ofValue u d hd).extra] at hread
  rw [hentries, halike.get? name, ← hwritten, hread]

end Document

end Traceability
