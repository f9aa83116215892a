import Mathlib.Data.Nat.Notation
import Mathlib.Tactic.Common
import Traceability.Proofs.Text.Search
import Traceability.Proofs.Text.Utf8
import Traceability.Yaml.Printer

/-! # The characters of a written document

Whatever has to be escaped is escaped: nothing else is put on a page than characters that may stand
in a document as they are. So a written document holds no carriage return and no half of a pair; it
has an encoding, and what is read from its file is the text that was written.
-/
namespace Traceability.Yaml
open Text Number

/-- No character has to be escaped. -/
def Clear (cs : List Char) : Prop := ∀ c ∈ cs, isSpecial c = false

instance (cs : List Char) : Decidable (Clear cs) :=
  List.decidableBAll (fun c => isSpecial c = false) cs

namespace Clear
variable {as bs cs : List Char}

theorem append (ha : Clear as) (hb : Clear bs) : Clear (as ++ bs) :=
  List.forall_mem_append.mpr ⟨ha,hb⟩

theorem cons {c : Char} (hc : isSpecial c = false) (h : Clear cs) : Clear (c :: cs) :=
  List.forall_mem_cons.mpr ⟨hc,h⟩

theorem replicate (n : ℕ) : Clear (List.replicate n ' ') := by
  intro c hc
  rw [List.eq_of_mem_replicate hc]
  rfl

theorem reverse (h : Clear cs) : Clear cs.reverse :=
  fun c hc => h c (List.mem_reverse.mp hc)

end Clear

/-! ## The page -/

namespace Page

def IsClear (p : Page) : Prop := Clear p.written

variable {p : Page}

theorem IsClear.put (hp : p.IsClear) {cs : List Char} (hcs : Clear cs) : (p.put cs).IsClear :=
  hcs.reverse.append hp

theorem IsClear.endLine (hp : p.IsClear) {c : Char} (hc : isSpecial c = false) :
    (p.endLine c).IsClear :=
  hp.cons hc

theorem IsClear.indentTo (hp : p.IsClear) (indent : ℕ) : (p.indentTo indent).IsClear := by
  have hq : (if !p.inMargin || indent < p.column || (p.column == indent && !p.behindBlank)
      then p.endLine '\n' else p).IsClear := by
    split
    · exact hp.endLine rfl
    · exact hp
  rw [Page.indentTo]
  simp only
  generalize (if !p.inMargin || indent < p.column || (p.column == indent && !p.behindBlank)
    then p.endLine '\n' else p) = q at hq
  split
  · exact hq.put (.replicate _)
  · exact hq

theorem IsClear.sign (hp : p.IsClear) {cs : List Char} (hcs : Clear cs)
    (needsBlank opensItem : Bool) : (p.sign cs needsBlank opensItem).IsClear := by
  refine hp.put ?_
  split
  · exact hcs
  · exact hcs.cons rfl

theorem IsClear.pastMargin (hp : p.IsClear) : p.pastMargin.IsClear := hp

end Page

/-! ## Pieces of a text -/

def Piece.chars : Piece → List Char
  | .word cs => cs
  | .blanks n => List.replicate n ' '
  | .breaks cs => cs

theorem flatMap_consPiece (c : Char) (pieces : List Piece) :
    (consPiece c pieces).flatMap Piece.chars = c :: pieces.flatMap Piece.chars := by
  unfold consPiece
  split_ifs with hblank hend
  · subst hblank
    split <;> simp [Piece.chars, List.replicate_succ]
  · split <;> simp [Piece.chars]
  · split <;> simp [Piece.chars]

/-- A text is made of its pieces. -/
theorem flatMap_piecesOf (cs : List Char) : (piecesOf cs).flatMap Piece.chars = cs := by
  rw [piecesOf]
  induction cs with
  | nil => rfl
  | cons c cs ih => rw [List.foldr_cons, flatMap_consPiece, ih]

theorem clear_of_mem_piecesOf {cs : List Char} (h : Clear cs) :
    ∀ piece ∈ piecesOf cs, Clear piece.chars := by
  intro piece hpiece c hc
  refine h c ?_
  rw [← flatMap_piecesOf cs]
  exact List.mem_flatMap.mpr ⟨piece,hpiece,hc⟩

/-! ## Scalars without escapes -/

section
variable {p : Page} {pieces : List Piece}

theorem isClear_putBlanks (hp : p.IsClear) (count indent : ℕ) (mayFold : Bool) :
    (putBlanks p count indent mayFold).IsClear := by
  rw [putBlanks]
  split
  · exact hp.indentTo indent
  · exact hp.put (.replicate count)

theorem isClear_putPlain (hp : p.IsClear) (hpieces : ∀ piece ∈ pieces, Clear piece.chars)
    (split : Bool) (indent : ℕ) : (putPlain split indent p pieces).IsClear := by
  induction pieces generalizing p with
  | nil => exact hp
  | cons piece pieces ih =>
    obtain ⟨hpiece,hrest⟩ := List.forall_mem_cons.mp hpieces
    cases piece with
    | word cs => exact ih (hp.put hpiece) hrest
    | breaks cs => exact ih (hp.put hpiece) hrest
    | blanks n =>
      have hq := isClear_putBlanks hp n indent split
      rw [putPlain]
      refine ih ?_ hrest
      split
      · exact hq.pastMargin
      · exact hq

theorem isClear_writePlain (hp : p.IsClear) {cs : List Char} (hcs : Clear cs) (split : Bool)
    (indent : ℕ) : (writePlain split indent p cs).IsClear := by
  refine isClear_putPlain ?_ (clear_of_mem_piecesOf hcs) split indent
  split
  · exact hp
  · exact hp.put (.replicate 1)

theorem isClear_foldl_endLine (hp : p.IsClear) {cs : List Char} (hcs : Clear cs) :
    (cs.foldl Page.endLine p).IsClear := by
  induction cs generalizing p with
  | nil => exact hp
  | cons c cs ih =>
    obtain ⟨hc,hrest⟩ := List.forall_mem_cons.mp hcs
    exact ih (hp.endLine hc) hrest

theorem isClear_putBreaks (hp : p.IsClear) {cs : List Char} (hcs : Clear cs) (indent : ℕ) :
    (putBreaks p indent cs).IsClear := by
  refine Page.IsClear.indentTo (isClear_foldl_endLine ?_ hcs) indent
  split
  · exact hp.endLine rfl
  · exact hp

theorem isClear_putSingleQuoted (hp : p.IsClear) (hpieces : ∀ piece ∈ pieces, Clear piece.chars)
    (split : Bool) (indent : ℕ) (first : Bool) :
    (putSingleQuoted split indent p first pieces).IsClear := by
  induction pieces generalizing p first with
  | nil => exact hp
  | cons piece pieces ih =>
    obtain ⟨hpiece,hrest⟩ := List.forall_mem_cons.mp hpieces
    cases piece with
    | blanks n => exact ih (isClear_putBlanks hp n indent _) hrest false
    | breaks cs => exact ih (isClear_putBreaks hp hpiece indent) hrest false
    | word cs =>
      refine ih (hp.put fun c hc => ?_) hrest false
      obtain ⟨d,hd,hcd⟩ := List.mem_flatMap.mp hc
      have hmem : c = d := by
        split at hcd <;> simpa using hcd
      exact hmem ▸ hpiece d hd

theorem isClear_writeSingleQuoted (hp : p.IsClear) {cs : List Char} (hcs : Clear cs) (split : Bool)
    (indent : ℕ) : (writeSingleQuoted split indent p cs).IsClear := by
  have hquote : Clear ['\x27'] := by decide
  exact Page.IsClear.sign (isClear_putSingleQuoted (hp.sign hquote true false)
    (clear_of_mem_piecesOf hcs) split indent true) hquote false false

/-! ## Scalars with escapes -/

theorem isSpecial_of_isEscaped_eq_false {c : Char} (h : isEscaped c = false) :
    isSpecial c = false := by
  simp only [isEscaped, Bool.or_eq_false_iff, Bool.not_eq_false', Bool.or_eq_true, Bool.and_eq_true,
    decide_eq_true_eq, beq_eq_false_iff_ne] at h
  simp only [isSpecial, Bool.not_eq_false', Bool.or_eq_true, Bool.and_eq_true, decide_eq_true_eq,
    bne_iff_ne, beq_iff_eq]
  omega

theorem exists_digitChar_of_mem_toDigits {base n : ℕ} (hbase : 1 < base) {c : Char}
    (h : c ∈ Nat.toDigits base n) : ∃ d < base, c = Nat.digitChar d := by
  induction n using Nat.strong_induction_on with
  | _ n ih =>
    by_cases hn : n < base
    · rw [Nat.toDigits_of_lt_base hn, List.mem_singleton] at h
      exact ⟨n,hn,h⟩
    · rw [Nat.toDigits_of_base_le hbase (Nat.not_lt.mp hn), List.mem_append,
        List.mem_singleton] at h
      rcases h with h | h
      · exact ih (n / base) (Nat.div_lt_self (by omega) hbase) h
      · exact ⟨n % base,Nat.mod_lt n (by omega),h⟩

theorem clear_padded (width n : ℕ) : Clear (padded width n).toList := by
  have hdigits : ∀ d < 10, isSpecial (Nat.digitChar d) = false := by decide
  intro c hc
  rw [padded, String.toList_ofList, List.mem_append] at hc
  rcases hc with hc | hc
  · rw [List.eq_of_mem_replicate hc]
    rfl
  · obtain ⟨d,hd,rfl⟩ := exists_digitChar_of_mem_toDigits (by decide) hc
    exact hdigits d hd

theorem clear_upperHex (width n : ℕ) : Clear (upperHex width n) := by
  have hdigits : ∀ d < 16, isSpecial (Nat.digitChar d).toUpper = false := by decide
  intro c hc
  obtain ⟨digit,hdigit,rfl⟩ := List.mem_map.mp hc
  rw [hexPadded, List.mem_append] at hdigit
  rcases hdigit with hdigit | hdigit
  · rw [List.eq_of_mem_replicate hdigit]
    rfl
  · obtain ⟨d,hd,rfl⟩ := exists_digitChar_of_mem_toDigits (by decide) hdigit
    exact hdigits d hd

theorem clear_escapeOf (c : Char) : Clear (escapeOf c) := by
  have hletters : letterEscapes.all (fun entry => decide (Clear ['\\', entry.2])) = true := by
    decide
  unfold escapeOf
  split
  · next d hd =>
    exact of_decide_eq_true (List.all_eq_true.mp hletters (c,d) (mem_of_lookup_eq_some hd))
  · dsimp only
    split_ifs
    · exact ((clear_upperHex 2 _).cons rfl).cons rfl
    · exact ((clear_upperHex 4 _).cons rfl).cons rfl
    · exact ((clear_upperHex 8 _).cons rfl).cons rfl

theorem isClear_foldQuoted (hp : p.IsClear) (indent : ℕ) (next : Option Char) :
    (foldQuoted p indent next).IsClear := by
  have hslash : Clear ['\\'] := by decide
  have hfold := ((hp.put hslash).indentTo indent).pastMargin
  rw [foldQuoted]
  split
  · exact hfold.put hslash
  · exact hfold

theorem isClear_putDoubleQuoted (hp : p.IsClear) (split : Bool) (indent : ℕ)
    (first behindEscape : Bool) (cs : List Char) :
    (putDoubleQuoted split indent p first behindEscape cs).IsClear := by
  induction cs generalizing p first behindEscape with
  | nil => exact hp
  | cons c cs ih =>
    rw [putDoubleQuoted]
    split
    · refine ih ?_ false true
      have hq := hp.put (clear_escapeOf c)
      split
      · exact isClear_foldQuoted hq indent _
      · exact hq
    · next hc =>
      have hclear : Clear [c] :=
        Clear.cons (isSpecial_of_isEscaped_eq_false (Bool.not_eq_true _ ▸ hc)) (by simp [Clear])
      refine ih (Page.IsClear.put ?_ hclear) false false
      split
      · exact isClear_foldQuoted hp indent _
      · exact hp

theorem isClear_writeDoubleQuoted (hp : p.IsClear) (split : Bool) (indent : ℕ) (cs : List Char) :
    (writeDoubleQuoted split indent p cs).IsClear := by
  have hquote : Clear ['\x22'] := by decide
  exact (isClear_putDoubleQuoted (hp.sign hquote true false) split indent true false cs).sign hquote
    false false

/-! ## Scalars in blocks -/

theorem isClear_writeLiteral (hp : p.IsClear) {cs : List Char} (hcs : Clear cs) (indent : ℕ) :
    (writeLiteral indent p cs).IsClear := by
  have hlines : ∀ l ∈ (splitAt '\n' cs).filter fun l => !l.isEmpty, Clear l :=
    fun l hl c hc => hcs c (subset_of_mem_splitAt (List.mem_of_mem_filter hl) hc)
  have hsign : Clear ['|'] := by decide
  have hstart := (hp.sign hsign true false).endLine (c := '\n') rfl
  rw [writeLiteral]
  generalize (splitAt '\n' cs).filter (fun l => !l.isEmpty) = ls at hlines
  generalize (p.sign ['|'] true false).endLine '\n' = q at hstart
  induction ls generalizing q with
  | nil => exact hstart
  | cons l ls ih =>
    obtain ⟨hl,hrest⟩ := List.forall_mem_cons.mp hlines
    exact ih hrest _ (((hstart.indentTo indent).put hl).endLine rfl)

end

/-! ## Scalars -/

theorem clear_of_needsEscapes_eq_false {cs : List Char} (h : needsEscapes cs = false) :
    Clear cs := by
  rw [needsEscapes, Bool.or_eq_false_iff, List.any_eq_false] at h
  exact fun c hc => Bool.not_eq_true _ ▸ h.1 c hc

/-- Only double quotes are put around a text in which something has to be escaped. -/
theorem clear_of_styleOf {tag text : String} {asKey preferBlock : Bool}
    (h : styleOf tag text asKey preferBlock ≠ .doubleQuoted) : Clear text.toList := by
  apply clear_of_needsEscapes_eq_false
  by_contra hneeds
  rw [Bool.not_eq_false] at hneeds
  simp [styleOf, allowsBlock, allowsPlain, allowsSingleQuotes, hneeds] at h

theorem clear_formName (s : Scalar) : Clear (formOf s).name.toList := by
  have hnames : ∀ name ∈ ["!!null", "!!bool", "!!int", "!!float", "!!str", "!!binary",
      "!!timestamp"], Clear name.toList := by decide
  exact hnames _ (by cases s <;> simp [formOf])

theorem isClear_writeScalar {p : Page} (hp : p.IsClear) (indent : ℕ) (asKey : Bool) (s : Scalar) :
    (writeScalar p indent asKey s).IsClear := by
  rw [writeScalar]
  have hq := hp.sign (clear_formName s) true false
  have hstart : ∀ implied : Bool,
      (if implied then p else p.sign (formOf s).name.toList true false).IsClear := by
    intro implied
    cases implied with
    | true => exact hp
    | false => exact hq
  cases hstyle : styleOf (formOf s).tag (formOf s).text asKey (formOf s).preferBlock with
  | doubleQuoted => exact isClear_writeDoubleQuoted (hstart _) _ _ _
  | plain => exact isClear_writePlain (hstart _) (clear_of_styleOf (by rw [hstyle]; decide)) _ _
  | singleQuoted =>
    exact isClear_writeSingleQuoted (hstart _) (clear_of_styleOf (by rw [hstyle]; decide)) _ _
  | literal => exact isClear_writeLiteral (hstart _) (clear_of_styleOf (by rw [hstyle]; decide)) _

/-! ## Values -/

namespace Draft

def IsClear (d : Draft) : Prop := d.page.IsClear

variable {d : Draft}

theorem clear_anchorName (number : ℕ) : Clear (anchorName number) :=
  ((clear_padded 3 number).cons rfl).cons rfl

theorem IsClear.mark (hd : d.IsClear) (label : Label) : (d.mark label).1.IsClear := by
  rw [Draft.mark]
  split
  · exact hd
  · next number _ =>
    have hname := clear_anchorName number
    split
    · exact Page.IsClear.sign hd (hname.cons rfl) true false
    · exact Page.IsClear.sign hd (hname.cons rfl) true false

theorem IsClear.scalar (hd : d.IsClear) (indent : ℕ) (asKey : Bool) (s : Scalar) :
    (d.scalar indent asKey s).IsClear := by
  rw [Draft.scalar]
  split
  · exact isClear_writeScalar hd indent asKey s
  · next l _ =>
    have hmark := hd.mark l
    dsimp only
    split
    · exact isClear_writeScalar hmark indent asKey s
    · exact hmark

theorem IsClear.beginItem (hd : d.IsClear) (indent : ℕ) : (d.beginItem indent).IsClear :=
  Page.IsClear.sign (Page.IsClear.indentTo hd indent) (by decide) true true

theorem IsClear.beginEntry (hd : d.IsClear) (indent : ℕ) (k : Scalar) :
    (d.beginEntry indent k).IsClear := by
  have hcolon : Clear [':'] := by decide
  have hmark : Clear ['?'] := by decide
  have hstart : (d.onPage fun p => p.indentTo indent).IsClear := Page.IsClear.indentTo hd indent
  rw [Draft.beginEntry]
  dsimp only
  split
  · exact Page.IsClear.sign (hstart.scalar (indent + 2) true k) hcolon false false
  · have hopen : ((d.onPage fun p => p.indentTo indent).onPage
        fun p => p.sign ['?'] true true).IsClear := Page.IsClear.sign hstart hmark true true
    exact Page.IsClear.sign (Page.IsClear.indentTo (hopen.scalar (indent + 2) false k) indent) hcolon
      true true

theorem IsClear.members (hd : d.IsClear) (indent : ℕ) (ms : List Scalar) :
    (d.members indent ms).IsClear := by
  rw [Draft.members]
  induction ms generalizing d with
  | nil => exact hd
  | cons m ms ih => exact ih ((hd.beginEntry indent m).scalar (indent + 2) false .null)

theorem IsClear.emptyMapping (hd : d.IsClear) : d.emptyMapping.IsClear :=
  Page.IsClear.sign hd (by decide) true false

mutual

theorem IsClear.value {d : Draft} (hd : d.IsClear) (indent : ℕ) (underKey : Bool) :
    ∀ v : Value, (d.value indent underKey v).IsClear
  | .scalar s => hd.scalar (indent + 2) false s
  | .list its => by
    rw [Draft.value]
    split
    · exact Page.IsClear.sign hd (by decide) true false
    · exact IsClear.items hd (d.itemIndent indent underKey) its
  | .pair a b => by
    rw [Draft.value]
    exact IsClear.value (IsClear.beginItem (IsClear.value (hd.beginItem _) _ false a) _) _ false b
  | .map es => by
    rw [Draft.value]
    split
    · exact hd.emptyMapping
    · exact IsClear.entries hd (indent + 2) es
  | .set ms => by
    have hset : (d.onPage fun p => p.sign ['!', '!', 's', 'e', 't'] true false).IsClear :=
      Page.IsClear.sign hd (by decide) true false
    rw [Draft.value]
    split
    · exact hset.emptyMapping
    · exact hset.members (indent + 2) ms
  | .shared l v => by
    rw [Draft.value]
    dsimp only
    split
    · exact IsClear.value (hd.mark l) indent underKey v
    · exact hd.mark l
  | .loop l v => by
    rw [Draft.value]
    dsimp only
    split
    · exact IsClear.value (hd.mark l) indent underKey v
    · exact hd.mark l
  | .again l => hd.mark l

theorem IsClear.items {d : Draft} (hd : d.IsClear) (indent : ℕ) :
    ∀ vs : List Value, (d.items indent vs).IsClear
  | [] => hd
  | v :: vs => IsClear.items (IsClear.value (hd.beginItem indent) indent false v) indent vs

theorem IsClear.entries {d : Draft} (hd : d.IsClear) (indent : ℕ) :
    ∀ es : List (Scalar × Value), (d.entries indent es).IsClear
  | [] => hd
  | (k,v) :: es => IsClear.entries (IsClear.value (hd.beginEntry indent k) indent true v) indent es

end

end Draft

/-! ## Documents -/

/-- Nothing in a written document has to be escaped. -/
theorem clear_dump {es : Entries} {text : String} (h : dump es = .ok text) : Clear text.toList := by
  have hblank : ∀ numbers, Draft.IsClear { numbers := numbers } := by
    simp [Draft.IsClear, Page.IsClear, Clear]
  unfold dump at h
  dsimp only at h
  split at h
  · cases h
  · split at h
    · cases h
      decide
    · cases h
      rw [Page.text, String.toList_ofList]
      refine Clear.reverse (Page.IsClear.indentTo ?_ 0)
      exact Draft.IsClear.entries (hblank _) 0 es

/-- The text of a written document is read from its file as it was written. -/
theorem universalLines_dump {es : Entries} {text : String} (h : dump es = .ok text) :
    universalLines text.toList = text.toList :=
  universalLines_eq_self fun hm => absurd (clear_dump h _ hm) (by decide)

end Traceability.Yaml
