import Traceability.Proofs.FirstUses
import Traceability.Proofs.Value.Entries

/-! # Keys

Two scalars are one key when they stand for the same thing: the integer that they equal, another
number, a day, a time or the scalar itself. A number that is undefined stands for its own label, and
without one it is the same as nothing, itself included. What is put under keys is found under them,
and a new key comes last.
-/
namespace Traceability
open Number

inductive KeyForm
  | whole (n : Int)
  | number (x : Binary64)
  | undefined (label : Label)
  | day (d : Date)
  | time (zoned : Bool) (microseconds : Int)
  | other (s : Scalar)

/-- The time of a moment, which is that of the common zone if it has a zone. -/
def Moment.keyForm (m : Moment) : KeyForm :=
  .time m.offset.isSome (m.ticks - m.offset.getD 0 * 1000000)

namespace Scalar

def fractionForm? : Scalar → Option KeyForm
  | .float x label => if x = .nan then label.map .undefined else some (.number x)
  | .date d _ => some (.day d)
  | .moment m _ => some m.keyForm
  | s => some (.other s)

def keyForm? (s : Scalar) : Option KeyForm :=
  match s.wholeNumber? with
  | some n => some (.whole n)
  | none => s.fractionForm?

end Scalar

theorem toInt?_zero (negative : Bool) (exponent : Int) :
    (Binary64.finite negative 0 exponent).toInt? = some 0 := by
  cases exponent <;> simp [Binary64.toInt?, Binary64.ratio, Binary64.truncated]

theorem equals_iff_of_toInt?_eq_none {x y : Binary64} (hx : x.toInt? = none) :
    x.equals y = true ↔ x = y ∧ x ≠ .nan := by
  cases x with
  | nan => simp [Binary64.equals]
  | infinite s => cases y <;> simp [Binary64.equals]
  | finite s m e =>
    have hm : m ≠ 0 := by
      rintro rfl
      rw [toInt?_zero] at hx
      cases hx
    cases y <;> simp [Binary64.equals, hm, and_assoc]

theorem sameTime_iff_keyForm (a b : Moment) : a.sameTime b = true ↔ a.keyForm = b.keyForm := by
  rw [Moment.sameTime, Moment.keyForm, Moment.keyForm]
  cases a.offset <;> cases b.offset <;> simp

namespace Scalar

theorem fractionForm?_ne_whole (s : Scalar) (n : Int) : s.fractionForm? ≠ some (.whole n) := by
  cases s <;> simp [fractionForm?, Moment.keyForm]
  split <;> simp

theorem same_float_iff {x y : Binary64} (hx : x.toInt? = none) (hy : y.toInt? = none)
    (l k : Option Label) : (Scalar.float x l).same (.float y k) = true ↔
      (Scalar.float x l).fractionForm?.isSome = true ∧
        (Scalar.float x l).fractionForm? = (Scalar.float y k).fractionForm? := by
  simp only [same, wholeNumber?, hx, hy, Bool.or_eq_true, equals_iff_of_toInt?_eq_none hx,
    fractionForm?]
  by_cases hxn : x = .nan
  · by_cases hyn : y = .nan
    · cases l <;> cases k <;> simp [hxn, hyn]
    · cases l <;> simp [hxn, hyn, Ne.symm hyn]
  · by_cases hyn : y = .nan
    · cases k <;> simp [hxn, hyn]
    · simp [hxn, hyn]

/-- Two scalars are the same if they stand for the same thing. -/
theorem same_iff {a b : Scalar} :
    a.same b = true ↔ a.keyForm?.isSome = true ∧ a.keyForm? = b.keyForm? := by
  cases ha : a.wholeNumber? with
  | some m =>
    cases hb : b.wholeNumber? with
    | some n => simp [same, keyForm?, ha, hb]
    | none => simpa [same, keyForm?, ha, hb] using (b.fractionForm?_ne_whole m).symm
  | none =>
    cases hb : b.wholeNumber? with
    | some n => simpa [same, keyForm?, ha, hb] using fun _ => a.fractionForm?_ne_whole n
    | none =>
      simp only [keyForm?, ha, hb]
      cases a with
      | float x l =>
        cases b with
        | float y k => exact same_float_iff ha hb l k
        | _ =>
          by_cases hx : x = .nan <;>
            simp_all [same, wholeNumber?, fractionForm?, Moment.keyForm]
      | bool => cases ha
      | int => cases ha
      | _ =>
        cases b with
        | float y k =>
          by_cases hy : y = .nan <;> cases k <;>
            simp_all [same, wholeNumber?, fractionForm?, Moment.keyForm]
        | _ => simp [same, wholeNumber?, fractionForm?, sameTime_iff_keyForm, Moment.keyForm]

theorem same_comm (a b : Scalar) : a.same b = b.same a := by
  rw [Bool.eq_iff_iff, same_iff, same_iff]
  constructor
  · rintro ⟨hsome,heq⟩
    exact ⟨heq ▸ hsome,heq.symm⟩
  · rintro ⟨hsome,heq⟩
    exact ⟨heq ▸ hsome,heq.symm⟩

/-- Scalars that are the same are the same as the same scalars. -/
theorem same_congr_left {a b : Scalar} (h : a.same b = true) (c : Scalar) : a.same c = b.same c := by
  have heq := (same_iff.mp h).2
  rw [Bool.eq_iff_iff, same_iff, same_iff, heq]

theorem same_congr_right {a b : Scalar} (h : a.same b = true) (c : Scalar) : c.same a = c.same b := by
  rw [same_comm c a, same_comm c b, same_congr_left h]

end Scalar

namespace Entries

theorem at?_cons (k : Scalar) (v : Value) (es : Entries) (key : Scalar) :
    Entries.at? ((k,v) :: es) key = if k.same key then some v else es.at? key := by
  rw [at?, List.find?_cons]
  cases k.same key <;> rfl

theorem at?_congr {a b : Scalar} (h : a.same b = true) (es : Entries) : es.at? a = es.at? b := by
  rw [at?, at?]
  congr 2
  funext entry
  exact Scalar.same_congr_right h entry.1

theorem at?_eq_none_iff {es : Entries} {key : Scalar} :
    es.at? key = none ↔ ∀ k ∈ es.map Prod.fst, k.same key = false := by
  simp [at?]

theorem exists_key_of_at? {es : Entries} {key : Scalar} {v : Value} (h : es.at? key = some v) :
    ∃ k ∈ es.map Prod.fst, k.same key = true := by
  by_contra hnone
  rw [at?_eq_none_iff.mpr fun k hk => Bool.eq_false_iff.mpr fun hs => hnone ⟨k,hk,hs⟩] at h
  cases h

/-- Every key has one entry. -/
def OneEach (es : Entries) : Prop := es.Pairwise fun first later => first.1.same later.1 = false

instance (es : Entries) : Decidable es.OneEach := inferInstanceAs (Decidable (List.Pairwise _ es))

theorem oneEach_cons {k : Scalar} {v : Value} {es : Entries} :
    OneEach ((k,v) :: es) ↔ es.at? k = none ∧ es.OneEach := by
  rw [OneEach, List.pairwise_cons, at?_eq_none_iff, List.forall_mem_map]
  simp only [Scalar.same_comm k]
  rfl

theorem OneEach.eraseDupsBy_keys {es : Entries} (h : es.OneEach) :
    (es.map Prod.fst).eraseDupsBy Scalar.same = es.map Prod.fst := by
  refine eraseDupsBy_of_pairwise (List.pairwise_map.mpr (List.Pairwise.imp ?_ h))
  intro first later hdiff
  rwa [Scalar.same_comm]

/-! ## Putting values under keys -/

theorem put_cons (key : Scalar) (v : Value) (k : Scalar) (w : Value) (es : Entries) :
    Entries.put key v ((k,w) :: es) =
      if k.same key then (k,v) :: es else (k,w) :: es.put key v := rfl

theorem at?_put (key : Scalar) (v : Value) (es : Entries) (other : Scalar) :
    (es.put key v).at? other = if key.same other then some v else es.at? other := by
  induction es with
  | nil => exact at?_cons key v [] other
  | cons entry es ih =>
    obtain ⟨k,w⟩ := entry
    rw [put_cons]
    split
    · next hsame =>
      rw [at?_cons, at?_cons, Scalar.same_congr_left hsame]
      split <;> rfl
    · next hdiff =>
      rw [at?_cons, at?_cons, ih]
      by_cases hk : k.same other = true
      · have hkey : ¬key.same other = true := by
          intro hother
          exact hdiff ((Scalar.same_congr_right hother k).trans hk)
        rw [if_pos hk, if_neg hkey, if_pos hk]
      · rw [if_neg hk, if_neg hk]

theorem keys_put (key : Scalar) (v : Value) (es : Entries) :
    (es.put key v).map Prod.fst =
      if (es.map Prod.fst).any key.same then es.map Prod.fst else es.map Prod.fst ++ [key] := by
  induction es with
  | nil => rfl
  | cons entry es ih =>
    obtain ⟨k,w⟩ := entry
    rw [put_cons, List.map_cons, List.any_cons, Scalar.same_comm k key]
    cases key.same k with
    | true => rfl
    | false =>
      simp only [Bool.false_eq_true, if_false, List.map_cons, ih, Bool.false_or]
      split <;> rfl

theorem mem_keys_put {k : Scalar} {es : Entries} (h : k ∈ es.map Prod.fst) (key : Scalar)
    (v : Value) : k ∈ (es.put key v).map Prod.fst := by
  rw [keys_put]
  split
  · exact h
  · exact List.mem_append_left _ h

theorem at?_foldl_put {more : Entries} (hmore : more.OneEach) (es : Entries) (key : Scalar) :
    Entries.at? (more.foldl (fun entries entry => entries.put entry.1 entry.2) es) key =
      (more.at? key).or (es.at? key) := by
  induction more generalizing es with
  | nil => rfl
  | cons entry more ih =>
    obtain ⟨k,v⟩ := entry
    obtain ⟨hk,hrest⟩ := oneEach_cons.mp hmore
    rw [List.foldl_cons, ih hrest, at?_put, at?_cons]
    split
    · next hsame =>
      rw [← at?_congr hsame, hk]
      rfl
    · rfl

/-- New keys come in the order of their first uses, and of the entries that are put those may be
left out whose keys are present. -/
theorem keys_foldl_put {wanted : Scalar × Value → Bool} {more es : Entries} {keys : List Scalar}
    (hes : es.map Prod.fst = keys.eraseDupsBy Scalar.same)
    (hmore : ∀ entry ∈ more, wanted entry = false → ∃ k ∈ es.map Prod.fst, entry.1.same k = true) :
    ((more.filter wanted).foldl (fun entries entry => Entries.put entry.1 entry.2 entries) es).map
        Prod.fst = (keys ++ more.map Prod.fst).eraseDupsBy Scalar.same := by
  induction more generalizing es keys with
  | nil =>
    rw [List.map_nil, List.append_nil, ← hes]
    rfl
  | cons entry more ih =>
    obtain ⟨k,v⟩ := entry
    obtain ⟨hentry,hrest⟩ := List.forall_mem_cons.mp hmore
    have hkeys : (keys ++ [k]).eraseDupsBy Scalar.same =
        if (es.map Prod.fst).any k.same then es.map Prod.fst else es.map Prod.fst ++ [k] := by
      rw [eraseDupsBy_concat, ← hes]
    rw [List.map_cons, List.append_cons]
    cases hw : wanted (k,v) with
    | true =>
      rw [List.filter_cons_of_pos hw, List.foldl_cons]
      refine ih (by rw [keys_put, hkeys]) ?_
      intro entry hentry hunwanted
      obtain ⟨old,hold,hsame⟩ := hrest entry hentry hunwanted
      exact ⟨old,mem_keys_put hold k v,hsame⟩
    | false =>
      rw [List.filter_cons_of_neg (by rw [hw]; exact Bool.false_ne_true)]
      refine ih ?_ hrest
      rw [hkeys, if_pos]
      exact List.any_eq_true.mpr (hentry hw)

end Entries
end Traceability
