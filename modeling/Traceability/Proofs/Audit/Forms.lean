import Traceability.Audit.Format
import Traceability.Proofs.Number.Decimal
import Traceability.Proofs.Text.Search

/-! # Forms of dates and ids

The forms are grammars: a date is three runs of digits with hyphens between them, an id is a lead with
a run of digits or with two segments. What the checks accept is more than these forms with the ten
ASCII digits. A digit may be of any script, and one line end may follow. A text has the form exactly
when it is accepted and is plain, that is, none of the two is in it.
-/
namespace Traceability
open Number Text

namespace Format

def DateForm (digit : Char → Bool) (cs : List Char) : Prop :=
  ∃ year month day, cs = year ++ '-' :: (month ++ '-' :: day) ∧
    year.length = 4 ∧ month.length = 2 ∧ day.length = 2 ∧
    ∀ c ∈ year ++ month ++ day, digit c = true

def NumberedForm (lead : String) (digit : Char → Bool) (cs : List Char) : Prop :=
  ∃ number, cs = lead.toList ++ number ∧ 3 ≤ number.length ∧ ∀ c ∈ number, digit c = true

/-- An ASCII capital followed by one or more ASCII letters or digits. -/
def SegmentForm (cs : List Char) : Prop :=
  ∃ c rest, cs = c :: rest ∧ c.isUpper = true ∧ rest ≠ [] ∧ ∀ d ∈ rest, d.isAlphanum = true

/-- The lead `VE` and two segments with hyphens between them. -/
def ElementForm (cs : List Char) : Prop :=
  ∃ entity action, cs = "VE-".toList ++ entity ++ '-' :: action ∧
    SegmentForm entity ∧ SegmentForm action

/-- The form, alone or with one line end behind it. -/
def AtLineEnd (form : List Char → Prop) (cs : List Char) : Prop :=
  form cs ∨ ∃ body, cs = body ++ ['\n'] ∧ form body

/-- No line end is at the end of the text, and every decimal digit in it is an ASCII digit. -/
structure Plain (cs : List Char) : Prop where
  noLineEnd : cs.getLast? ≠ some '\n'
  ascii : ∀ c ∈ cs, isDecimal c = true → c.isDigit = true

/-! ## Characters -/

theorem isCapital_eq_isUpper (c : Char) : isCapital c = c.isUpper := by
  show _ = decide (c.val ≥ 65 ∧ c.val ≤ 90)
  simp [isCapital, UInt32.le_iff_toNat_le]

theorem isAsciiDigit_eq_isDigit (c : Char) : isAsciiDigit c = c.isDigit := by
  simp [isAsciiDigit, Char.isDigit, UInt32.le_iff_toNat_le]

theorem isAlphanumeric_eq_isAlphanum (c : Char) : isAlphanumeric c = c.isAlphanum := by
  show _ = (c.isUpper || (decide (c.val ≥ 97) && decide (c.val ≤ 122)) || c.isDigit)
  simp [isAlphanumeric, isCapital_eq_isUpper, isAsciiDigit_eq_isDigit, UInt32.le_iff_toNat_le]

theorem isDecimal_of_isDigit {c : Char} (h : c.isDigit = true) : isDecimal c = true :=
  isDecimal_of_isAsciiDigit ((isAsciiDigit_eq_isDigit c).trans h)

def InLine (c : Char) : Prop := c.toNat < 128 ∧ c ≠ '\n'

theorem inLine_of_isAlphanum {c : Char} (h : c.isAlphanum = true) : InLine c := by
  rw [← isAlphanumeric_eq_isAlphanum, isAlphanumeric, isCapital, isAsciiDigit] at h
  simp only [Bool.or_eq_true, Bool.and_eq_true, decide_eq_true_eq] at h
  refine ⟨by omega,?_⟩
  rintro rfl
  revert h
  decide

theorem inLine_of_isDigit {c : Char} (h : c.isDigit = true) : InLine c :=
  inLine_of_isAlphanum (by rw [← isAlphanumeric_eq_isAlphanum, isAlphanumeric,
    isAsciiDigit_eq_isDigit, h, Bool.or_true])

theorem plain_of_inLine {cs : List Char} (h : ∀ c ∈ cs, InLine c) : Plain cs := by
  refine ⟨fun hend => (h _ (List.mem_of_getLast? hend)).2 rfl,fun c hc hdecimal => ?_⟩
  obtain ⟨v,hv⟩ := Option.isSome_iff_exists.mp hdecimal
  obtain ⟨first,hmem,hfirst,hlast,-⟩ := exists_zero_of_decimalValue? hv
  have hscripts : ∀ first ∈ decimalZeros, first = 48 ∨ 128 ≤ first := by decide
  have hlow := (h c hc).1
  have hzero := hscripts first hmem
  rw [← isAsciiDigit_eq_isDigit, isAsciiDigit, Bool.and_eq_true, decide_eq_true_eq,
    decide_eq_true_eq]
  omega

/-! ## Line ends -/

section
variable {form : List Char → Prop} {cs : List Char}

theorem atLineEnd_iff (h : ∀ cs, form cs → '\n' ∉ cs) :
    AtLineEnd form cs ↔ form (dropFinalNewline cs) := by
  constructor
  · rintro (hform | ⟨body,rfl,hform⟩)
    · rwa [dropFinalNewline_of_notMem (h cs hform)]
    · rwa [(dropFinalNewline_eq_iff (h body hform)).mpr (.inr rfl)]
  · intro hform
    rcases (dropFinalNewline_eq_iff (h _ hform)).mp rfl with heq | heq
    · exact .inl (heq ▸ hform)
    · exact .inr ⟨_,heq,hform⟩

theorem Plain.form_of_atLineEnd (hplain : Plain cs) (h : AtLineEnd form cs) : form cs := by
  rcases h with hform | ⟨body,rfl,-⟩
  · exact hform
  · exact absurd List.getLast?_concat hplain.noLineEnd

end

/-! ## Dates -/

section
variable {p q : Char → Bool} {cs : List Char}

theorem DateForm.imp (h : DateForm p cs) (hpq : ∀ c ∈ cs, p c = true → q c = true) :
    DateForm q cs := by
  obtain ⟨year,month,day,rfl,hyear,hmonth,hday,hall⟩ := h
  refine ⟨year,month,day,rfl,hyear,hmonth,hday,fun c hc => hpq c ?_ (hall c hc)⟩
  simp only [List.mem_append, List.mem_cons] at hc ⊢
  tauto

theorem DateForm.eq_or_of_mem (h : DateForm p cs) {c : Char} (hc : c ∈ cs) :
    c = '-' ∨ p c = true := by
  obtain ⟨year,month,day,rfl,-,-,-,hall⟩ := h
  have hcases : c = '-' ∨ c ∈ year ++ month ++ day := by
    simp only [List.mem_append, List.mem_cons] at hc ⊢
    tauto
  exact hcases.imp_right (hall c)

theorem digits_iff {count : ℕ} : digits count cs = true ↔
    cs.length = count ∧ ∀ c ∈ cs, isDecimal c = true := by
  rw [digits, Bool.and_eq_true, beq_iff_eq, List.all_eq_true]

theorem isDate_iff {s : String} :
    isDate s = true ↔ AtLineEnd (DateForm isDecimal) s.toList := by
  have hline : ∀ cs, DateForm isDecimal cs → '\n' ∉ cs := by
    intro cs hform hin
    exact absurd (hform.eq_or_of_mem hin) (by decide)
  rw [atLineEnd_iff hline, isDate]
  constructor
  · intro h
    split at h
    · next year month day hsplit =>
      rw [Bool.and_eq_true, Bool.and_eq_true, digits_iff, digits_iff, digits_iff] at h
      obtain ⟨⟨⟨hyear,hyears⟩,hmonth,hmonths⟩,hday,hdays⟩ := h
      refine ⟨year,month,day,((splitAt_eq_iff (by simp)).mp hsplit).1,hyear,hmonth,hday,?_⟩
      exact List.forall_mem_append.mpr ⟨List.forall_mem_append.mpr ⟨hyears,hmonths⟩,hdays⟩
    · cases h
  · rintro ⟨year,month,day,heq,hyear,hmonth,hday,hall⟩
    obtain ⟨hfront,hdays⟩ := List.forall_mem_append.mp hall
    obtain ⟨hyears,hmonths⟩ := List.forall_mem_append.mp hfront
    have hapart : ∀ piece : List Char, (∀ c ∈ piece, isDecimal c = true) → '-' ∉ piece :=
      fun piece hpiece hin => absurd (hpiece _ hin) (by decide)
    have hsplit : splitAt '-' (dropFinalNewline s.toList) = [year,month,day] :=
      (splitAt_eq_iff (by simp)).mpr ⟨heq,List.forall_mem_cons.mpr ⟨hapart _ hyears,
        List.forall_mem_cons.mpr ⟨hapart _ hmonths,List.forall_mem_singleton.mpr (hapart _ hdays)⟩⟩⟩
    rw [hsplit]
    simp only [Bool.and_eq_true, digits_iff]
    exact ⟨⟨⟨hyear,hyears⟩,hmonth,hmonths⟩,hday,hdays⟩

/-- The dates in ASCII digits are the plain ones among those accepted. -/
theorem dateForm_iff : DateForm Char.isDigit cs ↔
    AtLineEnd (DateForm isDecimal) cs ∧ Plain cs := by
  constructor
  · intro h
    refine ⟨.inl (h.imp fun c _ => isDecimal_of_isDigit),plain_of_inLine fun c hc => ?_⟩
    rcases h.eq_or_of_mem hc with rfl | hdigit
    · exact ⟨by decide,by decide⟩
    · exact inLine_of_isDigit hdigit
  · rintro ⟨haccepted,hplain⟩
    exact (hplain.form_of_atLineEnd haccepted).imp hplain.ascii

end

/-! ## Numbered ids -/

section
variable {p q : Char → Bool} {lead : String} {cs : List Char}

theorem NumberedForm.imp (h : NumberedForm lead p cs)
    (hpq : ∀ c ∈ cs, p c = true → q c = true) : NumberedForm lead q cs := by
  obtain ⟨number,rfl,hlength,hall⟩ := h
  exact ⟨number,rfl,hlength,fun c hc => hpq c (List.mem_append_right _ hc) (hall c hc)⟩

theorem NumberedForm.mem_or_of_mem (h : NumberedForm lead p cs) {c : Char} (hc : c ∈ cs) :
    c ∈ lead.toList ∨ p c = true := by
  obtain ⟨number,rfl,-,hall⟩ := h
  exact (List.mem_append.mp hc).imp_right (hall c)

theorem isNumbered_iff (hlead : ∀ c ∈ lead.toList, InLine c) {s : String} :
    isNumbered lead.toList s = true ↔ AtLineEnd (NumberedForm lead isDecimal) s.toList := by
  have hline : ∀ cs, NumberedForm lead isDecimal cs → '\n' ∉ cs := by
    intro cs hform hin
    rcases hform.mem_or_of_mem hin with hmem | hdecimal
    · exact (hlead _ hmem).2 rfl
    · exact absurd hdecimal (by decide)
  rw [atLineEnd_iff hline, isNumbered]
  constructor
  · intro h
    split at h
    · next number hnumber =>
      rw [Bool.and_eq_true, decide_eq_true_eq, List.all_eq_true] at h
      exact ⟨number,after?_eq_some_iff.mp hnumber,h⟩
    · cases h
  · rintro ⟨number,heq,h⟩
    rw [heq, after?_append, Bool.and_eq_true, decide_eq_true_eq, List.all_eq_true]
    exact h

/-- The ids with ASCII digits are the plain ones among those accepted. -/
theorem numberedForm_iff (hlead : ∀ c ∈ lead.toList, InLine c) :
    NumberedForm lead Char.isDigit cs ↔
      AtLineEnd (NumberedForm lead isDecimal) cs ∧ Plain cs := by
  constructor
  · intro h
    refine ⟨.inl (h.imp fun c _ => isDecimal_of_isDigit),plain_of_inLine fun c hc => ?_⟩
    exact (h.mem_or_of_mem hc).elim (hlead c) inLine_of_isDigit
  · rintro ⟨haccepted,hplain⟩
    exact (hplain.form_of_atLineEnd haccepted).imp hplain.ascii

end

/-! ## Ids of visual elements -/

section
variable {cs : List Char}

theorem isSegment_iff : isSegment cs = true ↔ SegmentForm cs := by
  rcases cs with - | ⟨c,- | ⟨d,rest⟩⟩
  · simp [isSegment, SegmentForm]
  · simp [isSegment, SegmentForm]
  · simp [isSegment, SegmentForm, isCapital_eq_isUpper, isAlphanumeric_eq_isAlphanum, and_assoc]

theorem SegmentForm.isAlphanum_of_mem (h : SegmentForm cs) {c : Char} (hc : c ∈ cs) :
    c.isAlphanum = true := by
  obtain ⟨first,rest,rfl,hupper,-,hrest⟩ := h
  rcases List.mem_cons.mp hc with rfl | hc
  · rw [← isAlphanumeric_eq_isAlphanum, isAlphanumeric, isCapital_eq_isUpper, hupper, Bool.true_or,
      Bool.true_or]
  · exact hrest c hc

theorem ElementForm.inLine_of_mem (h : ElementForm cs) {c : Char} (hc : c ∈ cs) : InLine c := by
  obtain ⟨entity,action,rfl,hentity,haction⟩ := h
  rcases List.mem_append.mp hc with hfront | hback
  · rcases List.mem_append.mp hfront with hlead | hin
    · have hall : ∀ c ∈ "VE-".toList, InLine c := by simp [InLine]
      exact hall c hlead
    · exact inLine_of_isAlphanum (hentity.isAlphanum_of_mem hin)
  · rcases List.mem_cons.mp hback with rfl | hin
    · exact ⟨by decide,by decide⟩
    · exact inLine_of_isAlphanum (haction.isAlphanum_of_mem hin)

theorem isVisualElementId_iff {s : String} :
    isVisualElementId s = true ↔ AtLineEnd ElementForm s.toList := by
  have hline : ∀ cs, ElementForm cs → '\n' ∉ cs := fun cs hform hin =>
    (hform.inLine_of_mem hin).2 rfl
  rw [atLineEnd_iff hline, isVisualElementId]
  constructor
  · intro h
    split at h
    · next lead entity action hsplit =>
      rw [Bool.and_eq_true, Bool.and_eq_true, beq_iff_eq, isSegment_iff, isSegment_iff] at h
      obtain ⟨⟨rfl,hentity⟩,haction⟩ := h
      exact ⟨entity,action,((splitAt_eq_iff (by simp)).mp hsplit).1,hentity,haction⟩
    · cases h
  · rintro ⟨entity,action,heq,hentity,haction⟩
    have hapart : ∀ piece, SegmentForm piece → '-' ∉ piece := fun piece hpiece hin =>
      absurd (hpiece.isAlphanum_of_mem hin) (by decide)
    have hsplit : splitAt '-' (dropFinalNewline s.toList) = [['V','E'],entity,action] :=
      (splitAt_eq_iff (by simp)).mpr ⟨heq,List.forall_mem_cons.mpr ⟨by decide,
        List.forall_mem_cons.mpr ⟨hapart _ hentity,
          List.forall_mem_singleton.mpr (hapart _ haction)⟩⟩⟩
    rw [hsplit]
    simp only [Bool.and_eq_true, isSegment_iff]
    exact ⟨⟨rfl,hentity⟩,haction⟩

/-- The ids of visual elements are the plain ones among those accepted. -/
theorem elementForm_iff : ElementForm cs ↔ AtLineEnd ElementForm cs ∧ Plain cs :=
  ⟨fun h => ⟨.inl h,plain_of_inLine fun _ => h.inLine_of_mem⟩,
    fun ⟨haccepted,hplain⟩ => hplain.form_of_atLineEnd haccepted⟩

end

end Format

/-! ## Kinds of texts -/

inductive Formatted
  | date
  | useCaseId
  | decisionId
  | elementId

namespace Formatted
open Format

def accepts : Formatted → String → Bool
  | date => isDate
  | useCaseId => isUseCaseId
  | decisionId => isDecisionId
  | elementId => isVisualElementId

def form : Formatted → List Char → Prop
  | date => DateForm Char.isDigit
  | useCaseId => NumberedForm "UC-" Char.isDigit
  | decisionId => NumberedForm "ADR-" Char.isDigit
  | elementId => ElementForm

def accepted : Formatted → List Char → Prop
  | date => AtLineEnd (DateForm isDecimal)
  | useCaseId => AtLineEnd (NumberedForm "UC-" isDecimal)
  | decisionId => AtLineEnd (NumberedForm "ADR-" isDecimal)
  | elementId => AtLineEnd ElementForm

theorem inLine_lead {lead : String} (h : lead = "UC-" ∨ lead = "ADR-") :
    ∀ c ∈ lead.toList, InLine c := by
  rcases h with rfl | rfl <;> simp [InLine]

theorem accepts_iff (kind : Formatted) {s : String} :
    kind.accepts s = true ↔ kind.accepted s.toList := by
  cases kind with
  | date => exact isDate_iff
  | useCaseId => exact isNumbered_iff (inLine_lead (.inl rfl))
  | decisionId => exact isNumbered_iff (inLine_lead (.inr rfl))
  | elementId => exact isVisualElementId_iff

/-- A text has the form exactly when it is accepted and plain. -/
theorem form_iff (kind : Formatted) {cs : List Char} :
    kind.form cs ↔ kind.accepted cs ∧ Plain cs := by
  cases kind with
  | date => exact dateForm_iff
  | useCaseId => exact numberedForm_iff (inLine_lead (.inl rfl))
  | decisionId => exact numberedForm_iff (inLine_lead (.inr rfl))
  | elementId => exact elementForm_iff

end Formatted

end Traceability
