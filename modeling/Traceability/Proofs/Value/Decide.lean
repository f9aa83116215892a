import Traceability.Value.Basic

/-! # Equality of values is decidable -/
namespace Traceability

mutual

def Value.equals : Value → Value → Bool
  | .scalar a, .scalar b => a == b
  | .list as, .list bs => itemsEqual as bs
  | .pair a b, .pair c d => a.equals c && b.equals d
  | .map as, .map bs => entriesEqual as bs
  | .set as, .set bs => as == bs
  | .shared l v, .shared k w => l == k && v.equals w
  | .loop l v, .loop k w => l == k && v.equals w
  | .again l, .again k => l == k
  | _, _ => false

def itemsEqual : List Value → List Value → Bool
  | [], [] => true
  | v :: vs, w :: ws => v.equals w && itemsEqual vs ws
  | _, _ => false

def entriesEqual : List (Scalar × Value) → List (Scalar × Value) → Bool
  | [], [] => true
  | (k, v) :: as, (l, w) :: bs => k == l && v.equals w && entriesEqual as bs
  | _, _ => false

end

mutual

theorem Value.equals_iff : ∀ v w : Value, v.equals w = true ↔ v = w
  | .scalar a, w => by cases w <;> simp [Value.equals]
  | .list as, w => by cases w <;> simp [Value.equals, itemsEqual_iff as]
  | .pair a b, w => by cases w <;> simp [Value.equals, a.equals_iff, b.equals_iff]
  | .map as, w => by cases w <;> simp [Value.equals, entriesEqual_iff as]
  | .set as, w => by cases w <;> simp [Value.equals]
  | .shared l v, w => by cases w <;> simp [Value.equals, v.equals_iff]
  | .loop l v, w => by cases w <;> simp [Value.equals, v.equals_iff]
  | .again l, w => by cases w <;> simp [Value.equals]

theorem itemsEqual_iff : ∀ vs ws : List Value, itemsEqual vs ws = true ↔ vs = ws
  | [], ws => by cases ws <;> simp [itemsEqual]
  | v :: vs, ws => by cases ws <;> simp [itemsEqual, v.equals_iff, itemsEqual_iff vs]

theorem entriesEqual_iff : ∀ as bs : List (Scalar × Value), entriesEqual as bs = true ↔ as = bs
  | [], bs => by cases bs <;> simp [entriesEqual]
  | (k, v) :: as, bs => by
    cases bs <;> simp [entriesEqual, v.equals_iff, entriesEqual_iff as, Prod.ext_iff]

end

instance : DecidableEq Value := fun v w => decidable_of_iff _ (v.equals_iff w)

end Traceability
