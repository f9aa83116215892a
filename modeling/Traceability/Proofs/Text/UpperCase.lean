import Mathlib.Data.Nat.Notation
import Mathlib.Tactic.Common
import Traceability.Proofs.Text.Search
import Traceability.Proofs.Text.Trimming
import Traceability.Text.UpperCase

/-! # Upper case twice

No image of a run of case pairs belongs to a run, and no character of an expansion has another
upper-case form. So the upper-case form of a text is its own upper-case form. Blanks are their own
upper-case forms and belong to no other one, so a text and its upper-case form have the same blanks.
-/
namespace Traceability.Text

def CaseRun.meets (r s : CaseRun) : Bool :=
  Nat.ble s.first (r.image + (r.last - r.first)) && Nat.ble r.image s.last &&
    !(s.stride == 2 && (r.stride == 2 || r.first == r.last) && (r.image + s.first) % 2 == 1)

theorem upperRuns_apart : upperRuns.any (fun r => upperRuns.any r.meets) = false := by
  decide +kernel

def CaseRun.holds (r : CaseRun) (n : ℕ) : Bool :=
  Nat.ble r.first n && Nat.ble n r.last && !(r.stride == 2 && (n + r.first) % 2 == 1)

theorem upperExpansions_apart_runs :
    upperExpansions.any (fun e => e.2.any fun n => upperRuns.any (·.holds n)) = false := by
  decide +kernel

theorem upperExpansions_apart :
    upperExpansions.any (fun e => e.2.any fun n => upperExpansions.any fun f => Nat.beq f.1 n) =
      false := by
  decide +kernel

theorem upperRuns_apart_expansions :
    upperRuns.any (fun r => upperExpansions.any fun e =>
      Nat.ble r.image e.1 && Nat.ble e.1 (r.image + (r.last - r.first))) = false := by
  decide +kernel

def IsFixed (n : ℕ) : Prop :=
  upperExpansions.lookup n = none ∧ upperRuns.findSome? (·.image? n) = none

theorem image?_eq_none_of_not_holds {r : CaseRun} {n : ℕ} (h : r.holds n = false) :
    r.image? n = none := by
  rw [CaseRun.image?, if_neg]
  simp only [Bool.and_eq_true, decide_eq_true_eq, beq_iff_eq, not_and]
  rintro ⟨hlow,hhigh⟩
  simp only [CaseRun.holds, Nat.ble_eq_true_of_le hlow, Nat.ble_eq_true_of_le hhigh, Bool.true_and,
    Bool.not_eq_false', Bool.and_eq_true, beq_iff_eq] at h
  rw [h.1]
  omega

theorem isFixed_of_mem_upperExpansions {e : ℕ × List ℕ} (he : e ∈ upperExpansions) {n : ℕ}
    (hn : n ∈ e.2) : IsFixed n := by
  have hruns := upperExpansions_apart_runs
  have hexpansions := upperExpansions_apart
  simp only [List.any_eq_false, Bool.not_eq_true] at hruns hexpansions
  constructor
  · rw [List.lookup_eq_none_iff]
    intro f hf
    rw [bne_iff_ne]
    exact Ne.symm (Nat.ne_of_beq_eq_false (hexpansions e he n hn f hf))
  · rw [List.findSome?_eq_none_iff]
    exact fun r hr => image?_eq_none_of_not_holds (hruns e he n hn r hr)

theorem image?_spec_range {r : CaseRun} {n m : ℕ} (h : r.image? n = some m) :
    r.image ≤ m ∧ m ≤ r.image + (r.last - r.first) ∧ (r.first = r.last → m = r.image) ∧
      (r.stride = 2 → m % 2 = r.image % 2) := by
  simp only [CaseRun.image?, Option.ite_none_right_eq_some, Bool.and_eq_true, decide_eq_true_eq,
    beq_iff_eq, Option.some.injEq] at h
  obtain ⟨⟨⟨hfirst,hlast⟩,hstride⟩,rfl⟩ := h
  refine ⟨by omega,by omega,by omega,?_⟩
  intro hs
  rw [hs] at hstride
  omega

theorem image?_eq_none_of_not_meets {r s : CaseRun} (h : r.meets s = false) {n m : ℕ}
    (himage : r.image? n = some m) : s.image? m = none := by
  obtain ⟨hlow,hhigh,hsingle,hparity⟩ := image?_spec_range himage
  apply image?_eq_none_of_not_holds
  rw [← Bool.not_eq_true]
  intro hholds
  simp only [CaseRun.holds, Bool.and_eq_true, Nat.ble_eq, Bool.not_eq_true'] at hholds
  obtain ⟨⟨hfirst,hlast⟩,hodd⟩ := hholds
  simp only [CaseRun.meets, Nat.ble_eq_true_of_le (Nat.le_trans hfirst hhigh),
    Nat.ble_eq_true_of_le (Nat.le_trans hlow hlast), Bool.true_and, Bool.not_eq_false', Bool.and_eq_true,
    Bool.or_eq_true, beq_iff_eq] at h
  obtain ⟨⟨hs,hr⟩,himageOdd⟩ := h
  have hm : m % 2 = r.image % 2 := by
    rcases hr with hr | hr
    · exact hparity hr
    · rw [hsingle hr]
  have hsum : (m + s.first) % 2 = 1 := by omega
  simp [hs, hsum] at hodd

theorem isFixed_of_image? {r : CaseRun} (hr : r ∈ upperRuns) {n m : ℕ} (h : r.image? n = some m) :
    IsFixed m := by
  have hruns := upperRuns_apart
  have hexpansions := upperRuns_apart_expansions
  simp only [List.any_eq_false, Bool.not_eq_true] at hruns hexpansions
  obtain ⟨hlow,hhigh,-,-⟩ := image?_spec_range h
  constructor
  · rw [List.lookup_eq_none_iff]
    intro e he
    rw [bne_iff_ne]
    rintro rfl
    have hout := hexpansions r hr e he
    simp [Nat.ble_eq_true_of_le hlow, Nat.ble_eq_true_of_le hhigh] at hout
  · rw [List.findSome?_eq_none_iff]
    exact fun s hs => image?_eq_none_of_not_meets (hruns r hr s hs) h

theorem upperChar_of_isFixed {c : Char} (h : IsFixed c.toNat) : upperChar c = [c] := by
  rw [upperChar, h.1, h.2]
  rfl

theorem upperChar_ofNat {n : ℕ} (h : IsFixed n) : upperChar (Char.ofNat n) = [Char.ofNat n] := by
  by_cases hv : n.isValidChar
  · apply upperChar_of_isFixed
    rw [Char.ofNat, dif_pos hv]
    exact h
  · rw [Char.ofNat, dif_neg hv]
    rfl

/-- A character expands, is paired with another one, or stays as it is. -/
inductive UpperForm (c : Char) : List Char → Prop
  | expanded {image : List ℕ} : (c.toNat,image) ∈ upperExpansions →
      UpperForm c (image.map Char.ofNat)
  | paired {r : CaseRun} {n : ℕ} : r ∈ upperRuns → r.image? c.toNat = some n →
      UpperForm c [Char.ofNat n]
  | fixed : IsFixed c.toNat → UpperForm c [c]

theorem upperForm_upperChar (c : Char) : UpperForm c (upperChar c) := by
  rw [upperChar]
  cases he : upperExpansions.lookup c.toNat with
  | some image => exact .expanded (mem_of_lookup_eq_some he)
  | none =>
    cases hr : upperRuns.findSome? (·.image? c.toNat) with
    | some n =>
      obtain ⟨r,hrun,himage⟩ := List.exists_of_findSome?_eq_some hr
      exact .paired hrun himage
    | none => exact .fixed ⟨he,hr⟩

/-- Each character of an upper-case form is its own upper-case form. -/
theorem upperChar_of_mem_upperChar {c d : Char} (h : d ∈ upperChar c) : upperChar d = [d] := by
  have hform := upperForm_upperChar c
  generalize upperChar c = image at h hform
  cases hform with
  | expanded he =>
    obtain ⟨n,hn,rfl⟩ := List.mem_map.mp h
    exact upperChar_ofNat (isFixed_of_mem_upperExpansions he hn)
  | paired hr himage =>
    obtain rfl := List.mem_singleton.mp h
    exact upperChar_ofNat (isFixed_of_image? hr himage)
  | fixed hc =>
    obtain rfl := List.mem_singleton.mp h
    exact upperChar_of_isFixed hc

theorem upper_of_fixed {cs : List Char} (h : ∀ c ∈ cs, upperChar c = [c]) : upper cs = cs := by
  induction cs with
  | nil => rfl
  | cons c cs ih =>
    rw [upper, List.flatMap_cons, h c List.mem_cons_self]
    exact congrArg (c :: ·) (ih fun d hd => h d (List.mem_cons_of_mem c hd))

theorem upper_upper (cs : List Char) : upper (upper cs) = upper cs := by
  apply upper_of_fixed
  intro d hd
  obtain ⟨c,-,hc⟩ := List.mem_flatMap.mp hd
  exact upperChar_of_mem_upperChar hc

theorem upperCase_upperCase (s : String) : upperCase (upperCase s) = upperCase s := by
  rw [upperCase, upperCase, String.toList_ofList, upper_upper]

/-! ## Blanks -/

/-- No blank has another upper-case form or is in one, and no upper-case form is empty. -/
theorem upper_apart_blanks :
    (∀ r ∈ upperRuns, ∀ b ∈ blankRanges, (r.last < b.1 ∨ b.2 < r.first) ∧
      (r.image + (r.last - r.first) < b.1 ∨ b.2 < r.image)) ∧
    ∀ e ∈ upperExpansions, e.2 ≠ [] ∧ ∀ b ∈ blankRanges,
      (e.1 < b.1 ∨ b.2 < e.1) ∧ ∀ n ∈ e.2, n < b.1 ∨ b.2 < n := by
  decide +kernel

theorem isBlank_ofNat_eq_false {n : ℕ} (h : ∀ b ∈ blankRanges, n < b.1 ∨ b.2 < n) :
    isBlank (Char.ofNat n) = false := by
  by_cases hv : n.isValidChar
  · rw [← Bool.not_eq_true, isBlank, Ranges.contains_iff]
    rintro ⟨b,hb,hlow,hhigh⟩
    rw [Char.ofNat, dif_pos hv] at hlow hhigh
    rcases h b hb with hout | hout
    · exact absurd hlow (Nat.not_le_of_lt hout)
    · exact absurd hhigh (Nat.not_le_of_lt hout)
  · rw [Char.ofNat, dif_neg hv]
    decide

/-- A blank is its own upper-case form. -/
theorem upperChar_of_isBlank {c : Char} (h : isBlank c = true) : upperChar c = [c] := by
  obtain ⟨b,hb,hlow,hhigh⟩ := (Ranges.contains_iff blankRanges c).mp h
  apply upperChar_of_isFixed
  constructor
  · rw [List.lookup_eq_none_iff]
    intro e he
    have hout := ((upper_apart_blanks.2 e he).2 b hb).1
    rw [bne_iff_ne]
    omega
  · rw [List.findSome?_eq_none_iff]
    intro r hr
    have hout := (upper_apart_blanks.1 r hr b hb).1
    rw [CaseRun.image?, if_neg]
    simp only [Bool.and_eq_true, decide_eq_true_eq]
    omega

/-- A blank is part of no other upper-case form. -/
theorem eq_of_mem_upperChar_of_isBlank {c b : Char} (h : b ∈ upperChar c) (hb : isBlank b = true) :
    b = c := by
  have hform := upperForm_upperChar c
  generalize upperChar c = image at h hform
  cases hform with
  | expanded he =>
    obtain ⟨n,hn,rfl⟩ := List.mem_map.mp h
    rw [isBlank_ofNat_eq_false fun r hr => ((upper_apart_blanks.2 _ he).2 r hr).2 n hn] at hb
    cases hb
  | paired hrun himage =>
    obtain rfl := List.mem_singleton.mp h
    obtain ⟨hlow,hhigh,-,-⟩ := image?_spec_range himage
    rw [isBlank_ofNat_eq_false] at hb
    · cases hb
    · intro r hr
      have hrange := (upper_apart_blanks.1 _ hrun r hr).2
      omega
  | fixed => exact List.mem_singleton.mp h

theorem upperChar_ne_nil (c : Char) : upperChar c ≠ [] := by
  have hform := upperForm_upperChar c
  generalize upperChar c = image at hform
  cases hform with
  | expanded he => simpa using (upper_apart_blanks.2 _ he).1
  | paired => exact List.cons_ne_nil _ _
  | fixed => exact List.cons_ne_nil _ _

/-- A text and its upper-case form have the same blanks. -/
theorem mem_upper_iff_of_isBlank {b : Char} (hb : isBlank b = true) {cs : List Char} :
    b ∈ upper cs ↔ b ∈ cs := by
  rw [upper, List.mem_flatMap]
  constructor
  · rintro ⟨c,hc,hmem⟩
    exact eq_of_mem_upperChar_of_isBlank hmem hb ▸ hc
  · intro h
    refine ⟨b,h,?_⟩
    rw [upperChar_of_isBlank hb]
    exact List.mem_singleton_self b

theorem isBlank_of_mem_upperChar {c d : Char} (hc : isBlank c = false) (h : d ∈ upperChar c) :
    isBlank d = false := by
  rw [← Bool.not_eq_true]
  intro hd
  rw [eq_of_mem_upperChar_of_isBlank h hd, hc] at hd
  cases hd

theorem exists_head?_upper {cs : List Char} (h : ∃ c, cs.head? = some c ∧ isBlank c = false) :
    ∃ c, (upper cs).head? = some c ∧ isBlank c = false := by
  obtain ⟨c,hc,hblank⟩ := h
  obtain ⟨rest,rfl⟩ := List.head?_eq_some_iff.mp hc
  obtain ⟨d,ds,hd⟩ := List.exists_cons_of_ne_nil (upperChar_ne_nil c)
  refine ⟨d,?_,isBlank_of_mem_upperChar hblank (hd ▸ List.mem_cons_self)⟩
  rw [upper, List.flatMap_cons, hd]
  rfl

theorem exists_getLast?_upper {cs : List Char} (h : ∃ c, cs.getLast? = some c ∧ isBlank c = false) :
    ∃ c, (upper cs).getLast? = some c ∧ isBlank c = false := by
  obtain ⟨c,hc,hblank⟩ := h
  obtain ⟨front,rfl⟩ := List.getLast?_eq_some_iff.mp hc
  have hlast := List.getLast?_eq_some_getLast (upperChar_ne_nil c)
  refine ⟨(upperChar c).getLast (upperChar_ne_nil c),?_,
    isBlank_of_mem_upperChar hblank (List.getLast_mem _)⟩
  rw [upper_append, upper, upper, List.flatMap_singleton, List.getLast?_append, hlast,
    Option.some_or]

theorem Trimmed.upper {cs : List Char} (h : Trimmed cs) : Trimmed (upper cs) := by
  cases cs with
  | nil => exact h
  | cons c rest =>
    have hlast := List.getLast?_eq_some_getLast (List.cons_ne_nil c rest)
    have hbegins : ∃ b, (c :: rest).head? = some b ∧ isBlank b = false := ⟨c,rfl,h.begins c rfl⟩
    obtain ⟨d,hd,hdblank⟩ := exists_head?_upper hbegins
    obtain ⟨e,he,heblank⟩ := exists_getLast?_upper ⟨_,hlast,h.ends _ hlast⟩
    refine ⟨fun b hb => ?_,fun b hb => ?_⟩
    · rw [hd] at hb
      exact Option.some.inj hb ▸ hdblank
    · rw [he] at hb
      exact Option.some.inj hb ▸ heblank

end Traceability.Text
