import Mathlib.Data.List.DropRight
import Mathlib.Tactic.Common
import Traceability.Text.Blank

/-! # Trimmed texts

Trimming leaves a text that neither begins nor ends with a blank, and it leaves such a text as it is.
-/
namespace Traceability.Text

section
variable {test : Char → Bool} {front back : List Char}

theorem dropTrailingWhere_append (h : ∃ c ∈ back, test c = false) :
    dropTrailingWhere test (front ++ back) = front ++ dropTrailingWhere test back := by
  obtain ⟨c,hc,htest⟩ := h
  have hleft : (back.reverse.dropWhile test).isEmpty = false := by
    rw [Bool.eq_false_iff]
    intro hempty
    have hall := List.dropWhile_eq_nil_iff.mp (List.isEmpty_iff.mp hempty)
    rw [hall c (List.mem_reverse.mpr hc)] at htest
    cases htest
  rw [dropTrailingWhere, List.reverse_append, List.dropWhile_append, hleft, if_neg Bool.false_ne_true,
    List.reverse_append, List.reverse_reverse, dropTrailingWhere]

theorem dropTrailingWhere_eq_nil_iff {cs : List Char} :
    dropTrailingWhere test cs = [] ↔ ∀ c ∈ cs, test c = true :=
  List.rdropWhile_eq_nil_iff

theorem prefix_dropTrailingWhere (test : Char → Bool) (cs : List Char) :
    dropTrailingWhere test cs <+: cs :=
  List.rdropWhile_prefix test cs

theorem getLast?_dropTrailingWhere {cs : List Char} {c : Char}
    (h : (dropTrailingWhere test cs).getLast? = some c) : test c = false := by
  rw [dropTrailingWhere, List.getLast?_reverse] at h
  have hhead := List.head?_dropWhile_not test cs.reverse
  rw [h] at hhead
  exact hhead

/-- What is left is what the characters that pass the test follow, if it does not end in one. -/
theorem dropTrailingWhere_eq_iff {cs : List Char} : dropTrailingWhere test cs = front ↔
    (∃ back, cs = front ++ back ∧ ∀ c ∈ back, test c = true) ∧
      ∀ c, front.getLast? = some c → test c = false := by
  constructor
  · rintro rfl
    refine ⟨⟨(cs.reverse.takeWhile test).reverse,?_,?_⟩,fun c => getLast?_dropTrailingWhere⟩
    · rw [dropTrailingWhere, ← List.reverse_append, List.takeWhile_append_dropWhile,
        List.reverse_reverse]
    · exact fun c hc => List.mem_takeWhile_imp (List.mem_reverse.mp hc)
  · rintro ⟨⟨back,rfl,hback⟩,hends⟩
    have hdropped : dropTrailingWhere test (front ++ back) = dropTrailingWhere test front := by
      rw [dropTrailingWhere, List.reverse_append, List.dropWhile_append_of_pos fun c hc =>
        hback c (List.mem_reverse.mp hc), dropTrailingWhere]
    rw [hdropped]
    refine List.rdropWhile_eq_self_iff.mpr fun hne => ?_
    exact Bool.eq_false_iff.mp (hends _ (List.getLast?_eq_some_getLast hne))

end

/-- The text neither begins nor ends with a blank. -/
structure Trimmed (cs : List Char) : Prop where
  begins : ∀ c, cs.head? = some c → isBlank c = false
  ends : ∀ c, cs.getLast? = some c → isBlank c = false

theorem trimStart_cons {c : Char} (hc : isBlank c = false) (cs : List Char) :
    trimStart (c :: cs) = c :: cs :=
  List.dropWhile_cons_of_neg (Bool.eq_false_iff.mp hc)

theorem trimmed_trim (cs : List Char) : Trimmed (trim cs) := by
  refine ⟨?begins,fun c => getLast?_dropTrailingWhere⟩
  intro c hc
  obtain ⟨rest,hrest⟩ := prefix_dropTrailingWhere isBlank (trimStart cs)
  have hhead : (trimStart cs).head? = some c := by
    rw [← hrest, List.head?_append, ← trimEnd, ← trim, hc, Option.some_or]
  have hfirst := List.head?_dropWhile_not isBlank cs
  rw [← trimStart, hhead] at hfirst
  exact hfirst

theorem Trimmed.trim_eq {cs : List Char} (h : Trimmed cs) : trim cs = cs := by
  cases cs with
  | nil => rfl
  | cons c cs =>
    rw [trim, trimStart_cons (h.begins c rfl)]
    exact dropTrailingWhere_eq_iff.mpr ⟨⟨[],(List.append_nil _).symm,nofun⟩,h.ends⟩

theorem trimmed_of_trim_eq {cs : List Char} (h : trim cs = cs) : Trimmed cs := h ▸ trimmed_trim cs

@[simp] theorem trim_trim (cs : List Char) : trim (trim cs) = trim cs := (trimmed_trim cs).trim_eq

theorem trim_eq_nil_iff {cs : List Char} : trim cs = [] ↔ ∀ c ∈ cs, isBlank c = true := by
  rw [trim, trimEnd, dropTrailingWhere_eq_nil_iff]
  constructor
  · intro h c hc
    rw [← List.takeWhile_append_dropWhile (p := isBlank) (l := cs), List.mem_append] at hc
    exact hc.elim List.mem_takeWhile_imp (h c)
  · exact fun h c hc => h c ((List.dropWhile_suffix isBlank).subset hc)

theorem mem_of_mem_trim {c : Char} {cs : List Char} (h : c ∈ trim cs) : c ∈ cs :=
  (List.dropWhile_suffix isBlank).subset ((prefix_dropTrailingWhere isBlank _).subset h)

theorem isBlankText_iff {s : String} : isBlankText s = true ↔ trim s.toList = [] := by
  rw [isBlankText, List.all_eq_true, trim_eq_nil_iff]

/-- Blanks at the end do not matter once a text is trimmed. -/
theorem trim_trimEnd (cs : List Char) : trim (trimEnd cs) = trim cs := by
  cases hcs : trimStart cs with
  | nil =>
    have hall : ∀ c ∈ cs, isBlank c = true := List.dropWhile_eq_nil_iff.mp hcs
    rw [trimEnd, dropTrailingWhere_eq_nil_iff.mpr hall, trim_eq_nil_iff.mpr hall]
    rfl
  | cons c rest =>
    have hblank : isBlank c = false := by
      have hfirst := List.head?_dropWhile_not isBlank cs
      rw [← trimStart, hcs] at hfirst
      exact hfirst
    have hfront : ∀ b ∈ cs.takeWhile isBlank, isBlank b = true := fun b => List.mem_takeWhile_imp
    have hcut : cs = cs.takeWhile isBlank ++ c :: rest := by
      rw [← hcs, trimStart, List.takeWhile_append_dropWhile]
    have htrim : trim cs = trimEnd (c :: rest) := by rw [trim, hcs]
    calc trim (trimEnd cs)
      _ = trim (cs.takeWhile isBlank ++ trim cs) := by
        rw [htrim]
        conv_lhs => rw [hcut]
        rw [trimEnd, trimEnd, dropTrailingWhere_append ⟨c,List.mem_cons_self,hblank⟩]
      _ = trim (trim cs) := by
        rw [trim, trimStart, List.dropWhile_append_of_pos hfront]
        rfl
      _ = trim cs := trim_trim cs

theorem trim_concat {b : Char} (hb : isBlank b = true) (cs : List Char) :
    trim (cs ++ [b]) = trim cs := by
  have hend : trimEnd (cs ++ [b]) = trimEnd cs := List.rdropWhile_concat_pos isBlank cs b hb
  rw [← trim_trimEnd, hend, trim_trimEnd]

/-- A text that begins with no blank keeps its front when something that is not blank follows. -/
theorem trim_append_cons {front back : List Char} {c : Char}
    (hfront : ∃ b, front.head? = some b ∧ isBlank b = false)
    (hback : trim back ≠ []) : trim (front ++ c :: back) = front ++ c :: trimEnd back := by
  obtain ⟨b,hb,hblank⟩ := hfront
  obtain ⟨rest,rfl⟩ := List.head?_eq_some_iff.mp hb
  have hends : ∃ e ∈ back, isBlank e = false := by
    by_contra hnone
    refine hback (trim_eq_nil_iff.mpr fun e he => ?_)
    by_contra hfalse
    exact hnone ⟨e,he,Bool.eq_false_iff.mpr hfalse⟩
  have hcut : b :: rest ++ c :: back = (b :: rest ++ [c]) ++ back := by simp
  rw [trim, List.cons_append, trimStart_cons hblank, ← List.cons_append, hcut, trimEnd,
    dropTrailingWhere_append hends]
  simp [trimEnd]

end Traceability.Text
