import Traceability.Proofs.Project.Auditing
import Traceability.Proofs.Text.Trimming

/-! # Usable settings

A setting that is a text is read without the blanks around it and then without the slashes at its
end. Whether there is anything to read is asked before the slashes are cut off. A text of nothing but
slashes is therefore read as nothing, and one whose slashes follow a blank as a text with a blank at
its end. Every other text makes a usable setting, and each setting is decided by the value under its
own name.
-/
namespace Traceability.Settings
open Text

/-- The settings that are texts, each with the name it is read from and the text it has otherwise. -/
inductive TextKey
  | matrixPath
  | rulesDir
  | markerKey

def TextKey.name : TextKey → String
  | matrixPath => "matrix_path"
  | rulesDir => "rules_dir"
  | markerKey => "meta_attribute"

def TextKey.default : TextKey → String
  | matrixPath => "schema/DCM.yaml"
  | rulesDir => "rules"
  | markerKey => "data-matrix-meta"

def text (s : Settings) : TextKey → String
  | .matrixPath => s.matrixPath
  | .rulesDir => s.rulesDir
  | .markerKey => s.markerKey

/-- The mapping in a file with the given content; there is none in a file that is missing, breaks the
grammar or holds something else. -/
def mapping : Option (List UInt8) → Entries
  | none => []
  | some bytes =>
    match Yaml.loadBytes bytes with
    | .ok v => v.entries
    | .error _ => []

/-- A text that can be a path and a key: there is something in it, no blank is around it and no slash
at its end. -/
structure Usable (text : String) : Prop where
  filled : text ≠ ""
  trimmed : Trimmed text.toList
  noSlash : text.toList.getLast? ≠ some '/'

/-- The slashes at the end of a trimmed text follow a blank or nothing at all. -/
def SlashesBehindBlank (text : String) : Prop :=
  ∃ front slashes, trim text.toList = front ++ '/' :: slashes ∧ (∀ c ∈ slashes, c = '/') ∧
    ∀ c, front.getLast? = some c → isBlank c = true

def BlanksAndSlashes (text : String) : Prop := ∀ c ∈ text.toList, isBlank c = true ∨ c = '/'

/-- How a setting comes from the value under its name. -/
structure ReadFrom (value : Option Value) (default setting : String) : Prop where
  kept : (∀ t, value = some (.text t) → isBlankText t = true) → setting = default
  cut : ∀ t, value = some (.text t) → isBlankText t = false →
    (∃ slashes, trim t.toList = setting.toList ++ slashes ∧ ∀ c ∈ slashes, c = '/') ∧
      setting.toList.getLast? ≠ some '/'
  usable_iff : Usable setting ↔ ∀ t, value = some (.text t) → ¬ SlashesBehindBlank t
  default_iff : (∀ t, value = some (.text t) → BlanksAndSlashes t) →
    (setting = default ↔ ∀ t, value = some (.text t) → ¬ SlashesBehindBlank t)

/-- The settings are decided by the values under their names in the file. -/
structure ReadAlone (content : Option (List UInt8)) (s : Settings) : Prop where
  texts : ∀ key, ReadFrom ((mapping content).get? key.name) key.default (s.text key)
  strict : s.strict = true ↔ (mapping content).get? "strict" = some (.bool true)
  sameText : ∀ content' s', ofContent content' = .ok s' → ∀ key,
    (mapping content').get? key.name = (mapping content).get? key.name → s'.text key = s.text key
  sameStrict : ∀ content' s', ofContent content' = .ok s' →
    (mapping content').get? "strict" = (mapping content).get? "strict" → s'.strict = s.strict

/-! ## Texts -/

section
variable {t : String}

theorem isBlank_slash : isBlank '/' = false := by decide

theorem toList_trimmedPath (t : String) :
    (trimmedPath t).toList = dropTrailingWhere (· == '/') (trim t.toList) :=
  String.toList_ofList

/-- What is kept of a text is what the slashes at its end follow. -/
theorem cut_trimmedPath (t : String) :
    (∃ slashes, trim t.toList = (trimmedPath t).toList ++ slashes ∧ ∀ c ∈ slashes, c = '/') ∧
      (trimmedPath t).toList.getLast? ≠ some '/' := by
  obtain ⟨⟨slashes,htrim,hslashes⟩,hends⟩ := dropTrailingWhere_eq_iff.mp (toList_trimmedPath t).symm
  refine ⟨⟨slashes,htrim,fun c hc => beq_iff_eq.mp (hslashes c hc)⟩,fun hslash => ?_⟩
  cases hends '/' hslash

theorem trimmedPath_eq_of_slashes {front slashes : List Char}
    (htrim : trim t.toList = front ++ '/' :: slashes) (hslashes : ∀ c ∈ slashes, c = '/')
    (hlast : ∀ c, front.getLast? = some c → isBlank c = true) : (trimmedPath t).toList = front := by
  rw [toList_trimmedPath]
  refine dropTrailingWhere_eq_iff.mpr ⟨⟨'/' :: slashes,htrim,?_⟩,fun c hc => ?_⟩
  · exact List.forall_mem_cons.mpr ⟨rfl,fun c hc => beq_iff_eq.mpr (hslashes c hc)⟩
  · refine beq_eq_false_iff_ne.mpr fun hslash => ?_
    have hblank := hlast c hc
    rw [hslash, isBlank_slash] at hblank
    cases hblank

theorem usable_trimmedPath_iff (ht : isBlankText t = false) :
    Usable (trimmedPath t) ↔ ¬ SlashesBehindBlank t := by
  constructor
  · rintro husable ⟨front,slashes,htrim,hslashes,hlast⟩
    have hfront := trimmedPath_eq_of_slashes htrim hslashes hlast
    cases hend : front.getLast? with
    | none =>
      rw [List.getLast?_eq_none_iff.mp hend] at hfront
      exact husable.filled (String.toList_eq_nil_iff.mp hfront)
    | some c =>
      have hclear := husable.trimmed.ends c (hfront ▸ hend)
      rw [hlast c hend] at hclear
      cases hclear
  · intro hbehind
    obtain ⟨⟨slashes,htrim,hslashes⟩,hnoSlash⟩ := cut_trimmedPath t
    cases slashes with
    | nil =>
      rw [List.append_nil] at htrim
      refine ⟨fun hempty => ?_,htrim ▸ trimmed_trim _,hnoSlash⟩
      rw [hempty] at htrim
      rw [isBlankText_iff.mpr htrim] at ht
      cases ht
    | cons c rest =>
      obtain ⟨rfl,hrest⟩ := List.forall_mem_cons.mp hslashes
      -- the character before the slashes shows that there is one and that it is no blank
      obtain ⟨e,he,hclear⟩ : ∃ e, (trimmedPath t).toList.getLast? = some e ∧ isBlank e = false := by
        by_contra hnone
        refine hbehind ⟨_,rest,htrim,hrest,fun e he => ?_⟩
        by_contra hfalse
        exact hnone ⟨e,he,Bool.eq_false_iff.mpr hfalse⟩
      refine ⟨?filled,⟨?begins,fun b hb => ?ends⟩,hnoSlash⟩
      case filled =>
        intro hempty
        rw [hempty] at he
        cases he
      case begins =>
        intro b hb
        refine (trimmed_trim t.toList).begins b ?_
        rw [htrim, List.head?_append, hb, Option.some_or]
      case ends =>
        obtain rfl := Option.some.inj (he.symm.trans hb)
        exact hclear

/-- Nothing that is kept of blanks and slashes is usable. -/
theorem BlanksAndSlashes.not_usable (h : BlanksAndSlashes t) : ¬ Usable (trimmedPath t) := by
  intro husable
  obtain ⟨⟨slashes,htrim,-⟩,-⟩ := cut_trimmedPath t
  cases hend : (trimmedPath t).toList.getLast? with
  | none => exact husable.filled (String.toList_eq_nil_iff.mp (List.getLast?_eq_none_iff.mp hend))
  | some c =>
    have hkept : c ∈ trim t.toList := htrim ▸ List.mem_append_left _ (List.mem_of_getLast? hend)
    rcases h c (mem_of_mem_trim hkept) with hblank | rfl
    · rw [husable.trimmed.ends c hend] at hblank
      cases hblank
    · exact husable.noSlash hend

theorem not_slashesBehindBlank_of_isBlankText (ht : isBlankText t = true) :
    ¬ SlashesBehindBlank t := by
  rintro ⟨front,slashes,htrim,-,-⟩
  rw [isBlankText_iff.mp ht] at htrim
  exact List.append_ne_nil_of_right_ne_nil _ (List.cons_ne_nil _ _) htrim.symm

end

/-! ## Entries -/

section
variable {es : Entries} {name default t : String}

theorem textSetting_of_text (h : es.get? name = some (.text t)) :
    textSetting es name default = if isBlankText t then default else trimmedPath t := by
  simp only [textSetting, h]

theorem textSetting_of_forall_ne (h : ∀ t, es.get? name ≠ some (.text t)) :
    textSetting es name default = default := by
  rw [textSetting]
  split
  · next t ht => exact absurd ht (h t)
  · rfl

theorem readFrom_textSetting (hdefault : Usable default) :
    ReadFrom (es.get? name) default (textSetting es name default) := by
  by_cases htext : ∃ t, es.get? name = some (.text t)
  · obtain ⟨t,ht⟩ := htext
    -- what is said of all texts under the name is said of this one
    have hall : ∀ P : String → Prop, (∀ u, es.get? name = some (.text u) → P u) ↔ P t := by
      simp [ht]
    rw [textSetting_of_text ht]
    cases hblank : isBlankText t with
    | true =>
      have hbehind := not_slashesBehindBlank_of_isBlankText hblank
      rw [if_pos rfl]
      refine ⟨fun _ => rfl,(hall _).mpr fun hfalse => ?_,?_,fun _ => ?_⟩
      · rw [hblank] at hfalse
        cases hfalse
      · rw [hall]
        exact iff_of_true hdefault hbehind
      · rw [hall]
        exact iff_of_true rfl hbehind
    | false =>
      have husable := usable_trimmedPath_iff hblank
      rw [if_neg Bool.false_ne_true]
      refine ⟨fun hkept => ?_,(hall _).mpr fun _ => cut_trimmedPath t,?_,fun hidle => ?_⟩
      · rw [hall, hblank] at hkept
        cases hkept
      · rw [hall, husable]
      · rw [hall] at hidle ⊢
        -- the default is usable, and what is kept of this text is not
        have hnot := hidle.not_usable
        exact iff_of_false (fun h => hnot (h ▸ hdefault)) (husable.not.mp hnot)
  · have hnone : ∀ t, es.get? name ≠ some (.text t) := not_exists.mp htext
    rw [textSetting_of_forall_ne hnone]
    refine ⟨fun _ => rfl,fun t ht => absurd ht (hnone t),?_,fun _ => ?_⟩
    · exact iff_of_true hdefault fun t ht => absurd ht (hnone t)
    · exact iff_of_true rfl fun t ht => absurd ht (hnone t)

theorem truthSetting_eq_true_iff :
    truthSetting es name false = true ↔ es.get? name = some (.bool true) := by
  rw [truthSetting]
  split
  · next b hb => simp [hb]
  · next hb => exact iff_of_false Bool.false_ne_true (hb true)

theorem text_ofEntries (es : Entries) (key : TextKey) :
    (ofEntries es).text key = textSetting es key.name key.default := by
  cases key <;> rfl

theorem TextKey.usable_default (key : TextKey) : Usable key.default := by
  have htrim : trim key.default.toList = key.default.toList := by cases key <;> decide
  cases key <;> exact ⟨by decide,trimmed_of_trim_eq htrim,by decide⟩

end

/-! ## Files -/

section
variable {content : Option (List UInt8)} {s : Settings}

theorem eq_ofEntries_mapping (h : ofContent content = .ok s) : s = ofEntries (mapping content) := by
  cases setBy_of_ofContent h with
  | absent => rfl
  | malformed hload =>
    rw [mapping, hload]
    rfl
  | notMapping hload hentries =>
    simp only [mapping, hload, Value.entries, hentries]
    rfl
  | mapping hload hentries =>
    simp only [mapping, hload, Value.entries, hentries, Option.getD_some]

/-- A setting is decided by the value under its own name, and a text is usable unless the value is a
text with slashes behind a blank or behind nothing. -/
theorem readAlone_of_ofContent (h : ofContent content = .ok s) : ReadAlone content s := by
  obtain rfl := eq_ofEntries_mapping h
  refine ⟨fun key => ?texts,truthSetting_eq_true_iff,fun content' s' h' key hsame => ?sameText,
    fun content' s' h' hsame => ?sameStrict⟩
  case texts =>
    rw [text_ofEntries]
    exact readFrom_textSetting key.usable_default
  case sameText =>
    rw [eq_ofEntries_mapping h', text_ofEntries, text_ofEntries]
    exact textSetting_congr (φ := .exact) _ (congrArg _ hsame)
  case sameStrict =>
    rw [eq_ofEntries_mapping h']
    exact truthSetting_congr (φ := .exact) _ (congrArg _ hsame)

/-- A path that ends in slashes, a blank one, a key that is no text and a truth value. -/
theorem readAlone_of_ofContent_directories :
    let content := some (encodeUtf8
      "matrix_path: ' docs/dcm.yaml// '\nrules_dir: '  '\nmeta_attribute: 7\nstrict: true\n")
    let s : Settings := { matrixPath := "docs/dcm.yaml", strict := true }
    ofContent content = .ok s ∧ ReadAlone content s := by
  intro content s
  have hread : ofContent content = .ok s := by decide +kernel
  exact ⟨hread,readAlone_of_ofContent hread⟩

/-- Slashes alone leave no path, and slashes behind a blank leave a folder that ends in one. -/
theorem ofContent_slashes :
    (∃ s, ofContent (some (encodeUtf8 "matrix_path: /\n")) = .ok s ∧ s.matrixPath = "") ∧
    (∃ s, ofContent (some (encodeUtf8 "rules_dir: 'docs /'\n")) = .ok s ∧
      s.rulesDir = "docs ") ∧
    ¬ ∀ content s, ofContent content = .ok s → ∀ key, Usable (s.text key) := by
  have hnothing : ofContent (some (encodeUtf8 "matrix_path: /\n")) = .ok { matrixPath := "" } := by
    decide +kernel
  have hblank : ofContent (some (encodeUtf8 "rules_dir: 'docs /'\n")) =
      .ok { rulesDir := "docs " } := by
    decide +kernel
  exact ⟨⟨_,hnothing,rfl⟩,⟨_,hblank,rfl⟩,fun h => (h _ _ hnothing .matrixPath).filled rfl⟩

end

end Traceability.Settings
