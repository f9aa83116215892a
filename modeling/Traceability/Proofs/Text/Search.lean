import Mathlib.Data.List.Infix
import Traceability.Text.Search

/-! # Leads, occurrences and lines as relations on lists

Cutting off a lead, searching and cutting into lines are restated with the list library's prefix,
infix and splitting operations, and their laws are taken from there.
-/
namespace Traceability.Text

theorem after?_eq_some_iff {lead cs rest : List Char} :
    after? lead cs = some rest ↔ cs = lead ++ rest := by
  induction lead generalizing cs with
  | nil => simp [after?, eq_comm]
  | cons l lead ih =>
    cases cs with
    | nil => simp [after?]
    | cons c cs =>
      by_cases h : l = c
      · simp [after?, h, ih]
      · simp [after?, h, Ne.symm h]

@[simp] theorem after?_append (lead rest : List Char) : after? lead (lead ++ rest) = some rest :=
  after?_eq_some_iff.mpr rfl

theorem after?_eq_none_iff {lead cs : List Char} : after? lead cs = none ↔ ¬ lead <+: cs := by
  rw [Option.eq_none_iff_forall_ne_some]
  constructor
  · rintro h ⟨rest,rfl⟩
    exact h rest (after?_append lead rest)
  · intro h rest hr
    exact h ⟨rest,(after?_eq_some_iff.mp hr).symm⟩

theorem occursIn_iff {needle cs : List Char} : occursIn needle cs = true ↔ needle <:+: cs := by
  induction cs with
  | nil => simp [occursIn]
  | cons c cs ih =>
    rw [occursIn, Bool.or_eq_true, ih, List.isPrefixOf_iff_prefix, List.infix_cons_iff]

theorem occursIn_eq_false_iff {needle cs : List Char} :
    occursIn needle cs = false ↔ ¬ needle <:+: cs := by
  rw [← occursIn_iff, Bool.not_eq_true]

/-- A lead without the character in the middle does not reach beyond it. -/
theorem prefix_of_prefix_append_cons {lead cs rest : List Char} {c : Char} (hc : c ∉ lead)
    (h : lead <+: cs ++ c :: rest) : lead <+: cs := by
  rcases List.prefix_or_prefix_of_prefix h (List.prefix_append cs (c :: rest)) with h' | h'
  · exact h'
  · obtain ⟨more,rfl⟩ := h'
    cases more with
    | nil => simp
    | cons d more =>
      have hd := (List.prefix_append_right_inj cs).mp h
      rw [List.cons_prefix_cons] at hd
      exact absurd (by simp [hd.1]) hc

/-! ## Lines -/

theorem splitAt_eq_splitOn (separator : Char) (cs : List Char) :
    splitAt separator cs = cs.splitOn separator := by
  induction cs with
  | nil => rfl
  | cons c cs ih =>
    rw [splitAt, List.splitOn_cons_eq_if_modifyHead, ← ih]
    by_cases h : c = separator
    · simp [h]
    · have hne := splitAt_ne_nil separator cs
      cases hs : splitAt separator cs with
      | nil => exact absurd hs hne
      | cons piece pieces => simp [h]

theorem joinWith_eq_intercalate (separator : Char) (pieces : List (List Char)) :
    joinWith separator pieces = [separator].intercalate pieces := by
  induction pieces with
  | nil => rfl
  | cons piece pieces ih =>
    cases pieces with
    | nil => simp [joinWith]
    | cons next pieces => simp [joinWith, ih]

theorem splitAt_joinWith {separator : Char} {pieces : List (List Char)} (hne : pieces ≠ [])
    (h : ∀ piece ∈ pieces, separator ∉ piece) :
    splitAt separator (joinWith separator pieces) = pieces := by
  rw [joinWith_eq_intercalate, splitAt_eq_splitOn]
  exact List.splitOn_intercalate separator h hne

theorem subset_joinWith_of_mem {separator : Char} {pieces : List (List Char)} {piece : List Char}
    (h : piece ∈ pieces) : piece ⊆ joinWith separator pieces := by
  rw [joinWith_eq_intercalate]
  induction pieces with
  | nil => simp at h
  | cons first pieces ih =>
    cases pieces with
    | nil => simp_all
    | cons next pieces =>
      rw [List.intercalate_cons_cons, List.append_assoc]
      rcases List.mem_cons.mp h with rfl | h
      · exact List.subset_append_left ..
      · exact List.Subset.trans (ih h)
          (List.Subset.trans (List.subset_append_right ..) (List.subset_append_right ..))

theorem subset_of_mem_splitAt {separator : Char} {cs piece : List Char}
    (h : piece ∈ splitAt separator cs) : piece ⊆ cs := by
  have hsub : piece ⊆ joinWith separator (splitAt separator cs) := subset_joinWith_of_mem h
  rwa [joinWith_splitAt] at hsub

theorem separator_notMem_of_mem_splitAt {separator : Char} {cs piece : List Char}
    (h : piece ∈ splitAt separator cs) : separator ∉ piece := by
  induction cs generalizing piece with
  | nil => simp_all [splitAt]
  | cons c cs ih =>
    rw [splitAt] at h
    by_cases hc : c = separator
    · rw [if_pos hc] at h
      rcases List.mem_cons.mp h with rfl | h
      · simp
      · exact ih h
    · rw [if_neg hc] at h
      cases hs : splitAt separator cs with
      | nil => exact absurd hs (splitAt_ne_nil separator cs)
      | cons first pieces =>
        rw [hs] at h ih
        rcases List.mem_cons.mp h with rfl | h
        · have hf := ih (List.mem_cons_self ..)
          simp [Ne.symm hc, hf]
        · exact ih (List.mem_cons_of_mem _ h)

/-- The pieces are those without the separator that the text joins. -/
theorem splitAt_eq_iff {separator : Char} {cs : List Char} {pieces : List (List Char)}
    (hne : pieces ≠ []) : splitAt separator cs = pieces ↔
      cs = joinWith separator pieces ∧ ∀ piece ∈ pieces, separator ∉ piece := by
  constructor
  · rintro rfl
    exact ⟨(joinWith_splitAt separator cs).symm,fun piece => separator_notMem_of_mem_splitAt⟩
  · rintro ⟨rfl,h⟩
    exact splitAt_joinWith hne h

theorem lines_unlines {ls : List (List Char)} (hne : ls ≠ []) (h : ∀ l ∈ ls, '\n' ∉ l) :
    lines (unlines ls) = ls := by
  rw [lines, unlines, String.toList_ofList, splitAt_joinWith hne h]

/-- A line may be replaced by any text without a line end, and no other line notices. -/
theorem lines_unlines_set (s : String) (i : ℕ) {l : List Char} (hl : '\n' ∉ l) :
    lines (unlines ((lines s).set i l)) = (lines s).set i l := by
  apply lines_unlines
  · simp [lines, splitAt_ne_nil]
  · intro piece hp
    rcases List.mem_or_eq_of_mem_set hp with hp | rfl
    · exact separator_notMem_of_mem_splitAt hp
    · exact hl

/-- What stands before and behind a piece does not depend on the piece. -/
theorem exists_joinWith_set (separator : Char) {pieces : List (List Char)} {i : ℕ}
    (hi : i < pieces.length) : ∃ front back, ∀ piece,
      joinWith separator (pieces.set i piece) = front ++ piece ++ back := by
  induction pieces generalizing i with
  | nil => simp at hi
  | cons first rest ih =>
    cases i with
    | zero =>
      cases rest with
      | nil => exact ⟨[],[],by simp [joinWith]⟩
      | cons next rest => exact ⟨[],separator :: joinWith separator (next :: rest),by simp [joinWith]⟩
    | succ i =>
      obtain ⟨front,back,h⟩ := ih (by simpa using hi)
      refine ⟨first ++ separator :: front,back,?_⟩
      intro piece
      have hne : rest.set i piece ≠ [] := by
        intro hn
        simp_all
      cases hs : rest.set i piece with
      | nil => exact absurd hs hne
      | cons next pieces => rw [List.set_cons_succ, hs, joinWith, ← hs, h piece] <;> simp

/-! ## Cutting at the first separator -/

theorem cutAt_append_cons {separator : Char} {front : List Char} (h : separator ∉ front)
    (back : List Char) : cutAt separator (front ++ separator :: back) = (front,back) := by
  induction front with
  | nil => simp [cutAt]
  | cons c front ih =>
    simp only [List.mem_cons, not_or] at h
    rw [List.cons_append, cutAt, if_neg (Ne.symm h.1), ih h.2]

/-- The first separator shows where to cut. -/
theorem append_cons_inj {separator : Char} {front other back rest : List Char}
    (hfront : separator ∉ front) (hother : separator ∉ other)
    (h : front ++ separator :: back = other ++ separator :: rest) : front = other ∧ back = rest := by
  have hcut := congrArg (cutAt separator) h
  rw [cutAt_append_cons hfront, cutAt_append_cons hother] at hcut
  exact Prod.mk.inj hcut

theorem cutAt_of_notMem {separator : Char} {cs : List Char} (h : separator ∉ cs) :
    cutAt separator cs = (cs,[]) := by
  induction cs with
  | nil => rfl
  | cons c cs ih =>
    simp only [List.mem_cons, not_or] at h
    rw [cutAt, if_neg (Ne.symm h.1), ih h.2]

theorem cutAt_snd_subset (separator : Char) (cs : List Char) : (cutAt separator cs).2 ⊆ cs := by
  induction cs with
  | nil => simp [cutAt]
  | cons c cs ih =>
    rw [cutAt]
    split
    · exact List.subset_cons_self c cs
    · exact List.Subset.trans ih (List.subset_cons_self c cs)

/-! ## A line end at the end -/

theorem dropFinalNewline_eq_iff {cs digits : List Char} (h : '\n' ∉ digits) :
    dropFinalNewline cs = digits ↔ cs = digits ∨ cs = digits ++ ['\n'] := by
  rw [dropFinalNewline]
  by_cases hl : cs.getLast? = some '\n'
  · rw [if_pos hl]
    obtain ⟨front,rfl⟩ := List.getLast?_eq_some_iff.mp hl
    rw [List.dropLast_concat]
    constructor
    · rintro rfl
      exact Or.inr rfl
    · rintro (rfl | he)
      · simp at h
      · exact List.append_cancel_right he
  · rw [if_neg hl]
    constructor
    · exact Or.inl
    · rintro (rfl | rfl)
      · rfl
      · simp at hl

theorem dropFinalNewline_of_notMem {cs : List Char} (h : '\n' ∉ cs) : dropFinalNewline cs = cs :=
  (dropFinalNewline_eq_iff h).mpr (.inl rfl)

/-! ## Tables -/

theorem mem_of_lookup_eq_some {α β : Type} [BEq α] [LawfulBEq α] {table : List (α × β)} {a : α}
    {b : β} (h : table.lookup a = some b) : (a,b) ∈ table := by
  obtain ⟨front,back,rfl,-⟩ := List.lookup_eq_some_iff.mp h
  exact List.mem_append_right _ List.mem_cons_self

end Traceability.Text
