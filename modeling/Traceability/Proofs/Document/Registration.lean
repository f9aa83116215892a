import Traceability.Document.Registry
import Traceability.Proofs.Number.Decimal
import Traceability.Proofs.Text.Search

/-! # Runs of registrations

The id that a use case gets has a number above every number in use, so it is new whatever the other
ids look like, and the ids that are given out one after the other increase. A use case that brings
its own id is refused exactly when another one has it. The limit on the length of integers is told
apart from that: only a new id can meet it, and then nothing is registered.
-/
namespace Traceability.Document
open Number Text

/-! ## Numbers of ids -/

def idNumber? (id : String) : Option ℕ := (useCaseNumber? id).map decimalNumber

/-- The ids that have a number: digits of any scripts, and perhaps one line end behind them. -/
theorem useCaseNumber?_eq_some_iff {id : String} {digits : List Char} :
    useCaseNumber? id = some digits ↔
      digits ≠ [] ∧ (∀ c ∈ digits, isDecimal c = true) ∧
        (id.toList = ['U', 'C', '-'] ++ digits ∨
          id.toList = ['U', 'C', '-'] ++ (digits ++ ['\n'])) := by
  have hnewline : (∀ c ∈ digits, isDecimal c = true) → '\n' ∉ digits :=
    fun hall hm => absurd (hall _ hm) (by decide)
  rw [useCaseNumber?]
  cases ha : after? ['U', 'C', '-'] id.toList with
  | none =>
    rw [after?_eq_none_iff] at ha
    constructor
    · intro hn
      simp at hn
    · rintro ⟨-,-,he | he⟩
      · exact absurd ⟨_,he.symm⟩ ha
      · exact absurd ⟨_,he.symm⟩ ha
  | some rest =>
    rw [after?_eq_some_iff] at ha
    rw [ha]
    simp only [List.append_cancel_left_eq]
    constructor
    · intro h
      by_cases hd : (!(dropFinalNewline rest).isEmpty && (dropFinalNewline rest).all isDecimal) = true
      · rw [if_pos hd, Option.some.injEq] at h
        subst h
        simp only [Bool.and_eq_true, Bool.not_eq_true', List.isEmpty_eq_false_iff,
          List.all_eq_true] at hd
        exact ⟨hd.1,hd.2,(dropFinalNewline_eq_iff (hnewline hd.2)).mp rfl⟩
      · simp [hd] at h
    · rintro ⟨hne,hall,he⟩
      have hd := (dropFinalNewline_eq_iff (hnewline hall)).mpr he
      have hall' : digits.all isDecimal = true := List.all_eq_true.mpr hall
      simp [hd, hne, hall']

def numerals (d : Document) : List (List Char) :=
  d.allUseCases.filterMap fun u => u.id.bind useCaseNumber?

theorem mem_numerals_iff {d : Document} {digits : List Char} :
    digits ∈ d.numerals ↔
      ∃ u ∈ d.allUseCases, ∃ id, u.id = some id ∧ useCaseNumber? id = some digits := by
  simp [numerals, Option.bind_eq_some_iff]

/-- An id in use has too many digits to be read, or is followed by a number with too many digits to
be written. -/
def AtDigitLimit (d : Document) : Prop :=
  ∃ digits ∈ d.numerals,
    maxDigits < digits.length ∨ writableBound ≤ decimalNumber digits + 1

theorem isDecimal_of_mem_numerals {d : Document} {digits : List Char} (h : digits ∈ d.numerals) :
    digits ≠ [] ∧ ∀ c ∈ digits, isDecimal c = true := by
  obtain ⟨u,-,id,-,hn⟩ := mem_numerals_iff.mp h
  obtain ⟨hne,hall,-⟩ := useCaseNumber?_eq_some_iff.mp hn
  exact ⟨hne,hall⟩

theorem useCaseNumbers_eq (d : Document) :
    d.useCaseNumbers = d.numerals.mapM fun digits => readInteger 10 (String.ofList digits) := rfl

theorem mapM_readInteger_of_short {numerals : List (List Char)}
    (hall : ∀ digits ∈ numerals, digits ≠ [] ∧ ∀ c ∈ digits, isDecimal c = true)
    (h : ∀ digits ∈ numerals, digits.length ≤ maxDigits) :
    numerals.mapM (fun digits => readInteger 10 (String.ofList digits)) =
      .ok (numerals.map fun digits => (decimalNumber digits : ℤ)) := by
  induction numerals with
  | nil => rfl
  | cons digits numerals ih =>
    obtain ⟨⟨hne,hdec⟩,hall⟩ := List.forall_mem_cons.mp hall
    obtain ⟨hlen,h⟩ := List.forall_mem_cons.mp h
    rw [List.mapM_cons, readInteger_ten_of_isDecimal hne hdec, if_neg (Nat.not_lt.mpr hlen),
      ih hall h]
    rfl

theorem mapM_readInteger_of_long {numerals : List (List Char)} {digits : List Char}
    (hall : ∀ digits ∈ numerals, digits ≠ [] ∧ ∀ c ∈ digits, isDecimal c = true)
    (hmem : digits ∈ numerals) (hlong : maxDigits < digits.length) :
    ∃ e, numerals.mapM (fun digits => readInteger 10 (String.ofList digits)) = .error e := by
  induction numerals with
  | nil => simp at hmem
  | cons first numerals ih =>
    obtain ⟨⟨hne,hdec⟩,hall⟩ := List.forall_mem_cons.mp hall
    rw [List.mapM_cons, readInteger_ten_of_isDecimal hne hdec]
    by_cases hfirst : maxDigits < first.length
    · exact ⟨_,by rw [if_pos hfirst]; rfl⟩
    · have hmem : digits ∈ numerals := by
        rcases List.mem_cons.mp hmem with rfl | hmem
        · exact absurd hlong hfirst
        · exact hmem
      obtain ⟨e,he⟩ := ih hall hmem
      exact ⟨e,by rw [if_neg hfirst, he]; rfl⟩

theorem foldl_max_natCast (ns : List ℕ) (m : ℕ) :
    (ns.map Nat.cast).foldl max (m : ℤ) = (ns.foldl max m : ℕ) := by
  induction ns generalizing m with
  | nil => rfl
  | cons n ns ih =>
    have hmax : max (m : ℤ) (n : ℤ) = (max m n : ℕ) := by omega
    rw [List.map_cons, List.foldl_cons, List.foldl_cons, hmax, ih]

theorem foldl_max_lt_iff {ns : List ℕ} {m bound : ℕ} :
    ns.foldl max m < bound ↔ m < bound ∧ ∀ n ∈ ns, n < bound := by
  induction ns generalizing m with
  | nil => simp
  | cons n ns ih =>
    rw [List.foldl_cons, ih, Nat.max_lt, List.forall_mem_cons, and_assoc]

def nextNumber (d : Document) : ℕ := (d.numerals.map decimalNumber).foldl max 0 + 1

theorem lt_nextNumber {d : Document} {digits : List Char} (h : digits ∈ d.numerals) :
    decimalNumber digits < d.nextNumber :=
  (foldl_max_lt_iff.mp (Nat.lt_succ_self _)).2 _ (List.mem_map_of_mem h)

theorem isWritable_natCast (n : ℕ) : isWritable n = true ↔ n < writableBound := by
  simp [isWritable]

theorem one_lt_writableBound : 1 < writableBound := by
  have hdigits : maxDigits ≠ 0 := by decide
  unfold writableBound
  -- the power stays unevaluated
  generalize maxDigits = k at hdigits
  exact Nat.one_lt_pow hdigits (by decide)

theorem nextNumber_lt_writableBound_iff {d : Document} :
    d.nextNumber < writableBound ↔
      ∀ digits ∈ d.numerals, decimalNumber digits + 1 < writableBound := by
  have hone := one_lt_writableBound
  rw [nextNumber, ← Nat.lt_sub_iff_add_lt, foldl_max_lt_iff, List.forall_mem_map]
  simp only [Nat.lt_sub_iff_add_lt, Nat.zero_add]
  exact and_iff_right hone

theorem useCaseNumbers_of_short {d : Document}
    (h : ∀ digits ∈ d.numerals, digits.length ≤ maxDigits) :
    d.useCaseNumbers = .ok ((d.numerals.map decimalNumber).map Nat.cast) := by
  rw [useCaseNumbers_eq, mapM_readInteger_of_short (fun _ => isDecimal_of_mem_numerals) h,
    List.map_map]
  rfl

theorem foldl_max_numerals (d : Document) :
    ((d.numerals.map decimalNumber).map Nat.cast).foldl max (0 : ℤ) + 1 = (d.nextNumber : ℤ) := by
  have hfold := foldl_max_natCast (d.numerals.map decimalNumber) 0
  rw [nextNumber, Int.natCast_add, ← hfold]
  rfl

theorem nextUseCaseId_of_not_atDigitLimit {d : Document} (h : ¬ AtDigitLimit d) :
    d.nextUseCaseId = .ok ("UC-" ++ padded 3 d.nextNumber) := by
  simp only [AtDigitLimit, not_exists, not_and, not_or, Nat.not_lt, Nat.not_le] at h
  have hlt := nextNumber_lt_writableBound_iff.mpr fun digits hd => (h digits hd).2
  show d.useCaseNumbers.bind _ = _
  rw [useCaseNumbers_of_short fun digits hd => (h digits hd).1]
  simp only [Except.bind, foldl_max_numerals, isWritable_natCast, if_pos hlt, Int.toNat_natCast]
  rfl

theorem nextUseCaseId_of_atDigitLimit {d : Document} (h : AtDigitLimit d) :
    ∃ e, d.nextUseCaseId = .error e := by
  by_cases hlong : ∃ digits ∈ d.numerals, maxDigits < digits.length
  · obtain ⟨digits,hmem,hlong⟩ := hlong
    obtain ⟨e,he⟩ := mapM_readInteger_of_long (fun _ => isDecimal_of_mem_numerals) hmem hlong
    refine ⟨e,?_⟩
    show d.useCaseNumbers.bind _ = _
    rw [useCaseNumbers_eq, he]
    rfl
  · have hshort : ∀ digits ∈ d.numerals, digits.length ≤ maxDigits := by
      intro digits hd
      by_contra hlt
      exact hlong ⟨digits,hd,Nat.lt_of_not_le hlt⟩
    obtain ⟨digits,hd,hbound⟩ := h
    have hlarge : ¬ d.nextNumber < writableBound := by
      intro hlt
      have hall := nextNumber_lt_writableBound_iff.mp hlt digits hd
      have hlen := hshort digits hd
      omega
    refine ⟨.tooLarge,?_⟩
    show d.useCaseNumbers.bind _ = _
    rw [useCaseNumbers_of_short hshort]
    simp only [Except.bind, foldl_max_numerals, isWritable_natCast, if_neg hlarge]
    rfl

theorem nextUseCaseId_cases (d : Document) :
    (AtDigitLimit d ∧ ∃ e, d.nextUseCaseId = .error e) ∨
      (¬ AtDigitLimit d ∧ d.nextUseCaseId = .ok ("UC-" ++ padded 3 d.nextNumber)) := by
  by_cases h : AtDigitLimit d
  · exact Or.inl ⟨h,nextUseCaseId_of_atDigitLimit h⟩
  · exact Or.inr ⟨h,nextUseCaseId_of_not_atDigitLimit h⟩

/-! ## New ids -/

/-- A new id: at least three digits behind `UC-`, and a number above all numbers in use. -/
structure IsNewId (d : Document) (id : String) : Prop where
  written : ∃ digits, 3 ≤ digits.length ∧ (∀ c ∈ digits, isAsciiDigit c = true) ∧
    id.toList = ['U', 'C', '-'] ++ digits
  unused : ∀ u ∈ d.allUseCases, u.id ≠ some id
  above : ∃ n, idNumber? id = some n ∧
    ∀ u ∈ d.allUseCases, ∀ other m, u.id = some other → idNumber? other = some m → m < n

theorem toList_newId (n : ℕ) : ("UC-" ++ padded 3 n).toList = ['U', 'C', '-'] ++ (padded 3 n).toList :=
  String.toList_append ..

theorem idNumber?_newId (n : ℕ) : idNumber? ("UC-" ++ padded 3 n) = some n := by
  have hne : (padded 3 n).toList ≠ [] := by
    intro hn
    have hlen := le_length_padded 3 n
    simp [hn] at hlen
  have hdec : ∀ c ∈ (padded 3 n).toList, isDecimal c = true := fun c hc =>
    isDecimal_of_isAsciiDigit (isAsciiDigit_of_mem_padded hc)
  have hnumber := useCaseNumber?_eq_some_iff.mpr ⟨hne,hdec,Or.inl (toList_newId n)⟩
  rw [idNumber?, hnumber, Option.map_some, decimalNumber_padded]

theorem isNewId_nextNumber (d : Document) : IsNewId d ("UC-" ++ padded 3 d.nextNumber) := by
  have above : ∀ u ∈ d.allUseCases, ∀ other m, u.id = some other → idNumber? other = some m →
      m < d.nextNumber := by
    intro u hu other m hid hm
    obtain ⟨digits,hd,rfl⟩ := Option.map_eq_some_iff.mp hm
    exact lt_nextNumber (mem_numerals_iff.mpr ⟨u,hu,other,hid,hd⟩)
  refine ⟨?_,?_,_,idNumber?_newId _,above⟩
  · exact ⟨_,le_length_padded 3 _,fun c hc => isAsciiDigit_of_mem_padded hc,toList_newId _⟩
  · intro u hu hid
    exact Nat.lt_irrefl _ (above u hu _ _ hid (idNumber?_newId _))

/-! ## One registration -/

/-- The document behind a registration; a refused one leaves it as it is. -/
def afterRegistering (d : Document) (u : UseCase) : Document :=
  match d.register u with
  | .ok (e, _) => e
  | .error _ => d

def Taken (d : Document) (id : String) : Prop := ∃ u ∈ d.allUseCases, u.id = some id

structure RegistersOne (d : Document) (u : UseCase) : Prop where
  taken : ∀ id, d.register u = .error (.taken id) ↔ u.id = some id ∧ id ≠ "" ∧ d.Taken id
  limit : (∃ e, d.register u = .error (.number e)) ↔ u.id = none ∧ d.AtDigitLimit
  refused : ∀ e, d.register u = .error e → d.afterRegistering u = d
  added : ∀ e v, d.register u = .ok (e, v) → d.afterRegistering u = e ∧
    e = { d with useCases := some (d.active ++ [v]) } ∧
    (∀ id, u.id = some id → v = u) ∧
    (u.id = none → ∃ id, v = { u with id := some id } ∧ d.IsNewId id)
  found : ∀ e v id, d.register u = .ok (e, v) → v.id = some id → id ≠ "" →
    e.findUseCase (some id) = some v ∧
      ∀ other, other ≠ some id → e.findUseCase other = d.findUseCase other

theorem refuses_iff {d : Document} {id : String} :
    (id != "" && d.allUseCases.any (fun other => other.id == some id)) = true ↔
      id ≠ "" ∧ d.Taken id := by
  simp [Taken]

/-- What becomes of the id of a use case that is to be registered. -/
inductive Assigns (d : Document) (u : UseCase) : Except RegistryError UseCase → Prop
  | taken (id : String) : u.id = some id → id ≠ "" → d.Taken id → Assigns d u (.error (.taken id))
  | own (id : String) : u.id = some id → ¬ (id ≠ "" ∧ d.Taken id) → Assigns d u (.ok u)
  | limit (e : IntegerError) : u.id = none → d.AtDigitLimit → Assigns d u (.error (.number e))
  | new : u.id = none → ¬ d.AtDigitLimit →
      Assigns d u (.ok { u with id := some ("UC-" ++ padded 3 d.nextNumber) })

theorem assigns_assignId (d : Document) (u : UseCase) : Assigns d u (d.assignId u) := by
  cases hid : u.id with
  | none =>
    rcases nextUseCaseId_cases d with ⟨hlimit,e,he⟩ | ⟨hlimit,hok⟩
    · simp only [assignId, hid, he]
      exact .limit e hid hlimit
    · simp only [assignId, hid, hok]
      exact .new hid hlimit
  | some id =>
    simp only [assignId, hid]
    by_cases h : id ≠ "" ∧ d.Taken id
    · rw [if_pos (refuses_iff.mpr h)]
      exact .taken id hid h.1 h.2
    · rw [if_neg fun hr => h (refuses_iff.mp hr)]
      exact .own id hid h

theorem register_eq_error_iff {d : Document} {u : UseCase} {e : RegistryError} :
    d.register u = .error e ↔ d.assignId u = .error e := by
  rw [register]
  cases d.assignId u <;> simp [Except.map]

theorem register_eq_ok_iff {d e : Document} {u v : UseCase} :
    d.register u = .ok (e, v) ↔
      d.assignId u = .ok v ∧ e = { d with useCases := some (d.active ++ [v]) } := by
  rw [register]
  cases d.assignId u with
  | error e => simp [Except.map]
  | ok w =>
    simp only [Except.map, Except.ok.injEq, Prod.mk.injEq]
    constructor
    · rintro ⟨rfl,rfl⟩
      exact ⟨rfl,rfl⟩
    · rintro ⟨rfl,rfl⟩
      exact ⟨rfl,rfl⟩

/-- The use cases with a new one behind the active ones. -/
theorem allUseCases_append (d : Document) (v : UseCase) :
    ({ d with useCases := some (d.active ++ [v]) } : Document).allUseCases =
      d.active ++ (v :: d.deprecated) := by
  simp [allUseCases, active]

theorem not_taken_of_assignId {d : Document} {u v : UseCase} {id : String}
    (h : d.assignId u = .ok v) (hid : v.id = some id) (hne : id ≠ "") : ¬ d.Taken id := by
  have ha := assigns_assignId d u
  rw [h] at ha
  cases ha with
  | own own hown hfree =>
    obtain rfl : own = id := Option.some.inj (hown.symm.trans hid)
    exact fun htaken => hfree ⟨hne,htaken⟩
  | new hnone hlimit =>
    rintro ⟨w,hw,hwid⟩
    rw [← hid] at hwid
    exact (isNewId_nextNumber d).unused w hw hwid

theorem findUseCase_append_self {d : Document} {v : UseCase} {id : String} (hid : v.id = some id)
    (hfree : ¬ d.Taken id) :
    ({ d with useCases := some (d.active ++ [v]) } : Document).findUseCase (some id) = some v := by
  have hactive : ∀ w ∈ d.active, ¬ (w.id == some id) = true := by
    intro w hw he
    exact hfree ⟨w,List.mem_append_left _ hw,by simpa using he⟩
  rw [findUseCase, allUseCases_append, List.find?_append, List.find?_eq_none.mpr hactive,
    Option.none_or, List.find?_cons_of_pos (by simp [hid])]

theorem findUseCase_append_other {d : Document} {v : UseCase} {id : Option String}
    (hid : v.id ≠ id) :
    ({ d with useCases := some (d.active ++ [v]) } : Document).findUseCase id = d.findUseCase id := by
  rw [findUseCase, allUseCases_append, List.find?_append, List.find?_cons_of_neg (by simp [hid]),
    findUseCase, allUseCases, List.find?_append]

theorem register_eq_taken_iff {d : Document} {u : UseCase} {id : String} :
    d.register u = .error (.taken id) ↔ u.id = some id ∧ id ≠ "" ∧ d.Taken id := by
  have ha := assigns_assignId d u
  rw [register_eq_error_iff]
  generalize d.assignId u = assigned at ha
  constructor
  · rintro rfl
    cases ha with
    | taken _ hid hne htaken => exact ⟨hid,hne,htaken⟩
  · rintro ⟨hid,hne,htaken⟩
    cases ha with
    | taken own hown _ _ => rw [Option.some.inj (hown.symm.trans hid)]
    | own own hown hfree =>
      obtain rfl : own = id := Option.some.inj (hown.symm.trans hid)
      exact absurd ⟨hne,htaken⟩ hfree
    | limit _ hnone _ => simp [hid] at hnone
    | new hnone _ => simp [hid] at hnone

theorem exists_register_eq_number_iff {d : Document} {u : UseCase} :
    (∃ e, d.register u = .error (.number e)) ↔ u.id = none ∧ d.AtDigitLimit := by
  have ha := assigns_assignId d u
  simp only [register_eq_error_iff]
  generalize d.assignId u = assigned at ha
  constructor
  · rintro ⟨e,rfl⟩
    cases ha with
    | limit _ hnone hlimit => exact ⟨hnone,hlimit⟩
  · rintro ⟨hnone,hlimit⟩
    cases ha with
    | taken _ hid _ _ => simp [hid] at hnone
    | own _ hid _ => simp [hid] at hnone
    | limit e _ _ => exact ⟨e,rfl⟩
    | new _ hfree => exact absurd hlimit hfree

/-- A use case that brings its own id is registered as it is, and any other one under a new id. -/
theorem assignId_eq_ok {d : Document} {u v : UseCase} (h : d.assignId u = .ok v) :
    (∀ id, u.id = some id → v = u) ∧
      (u.id = none → ∃ id, v = { u with id := some id } ∧ d.IsNewId id) := by
  have ha := assigns_assignId d u
  rw [h] at ha
  cases ha with
  | own _ hid _ =>
    refine ⟨fun _ _ => rfl,fun hnone => ?_⟩
    simp [hid] at hnone
  | new hnone _ =>
    refine ⟨fun id hid => ?_,fun _ => ⟨_,rfl,isNewId_nextNumber d⟩⟩
    simp [hid] at hnone

theorem registersOne (d : Document) (u : UseCase) : RegistersOne d u := by
  refine ⟨fun _ => register_eq_taken_iff,exists_register_eq_number_iff,?_,?_,?_⟩
  · intro e h
    rw [afterRegistering, h]
  · intro e v h
    obtain ⟨hv,he⟩ := register_eq_ok_iff.mp h
    exact ⟨by rw [afterRegistering, h],he,assignId_eq_ok hv⟩
  · intro e v id h hid hne
    obtain ⟨hv,rfl⟩ := register_eq_ok_iff.mp h
    refine ⟨findUseCase_append_self hid (not_taken_of_assignId hv hid hne),?_⟩
    intro other hother
    exact findUseCase_append_other (by rw [hid]; exact hother.symm)

/-! ## Runs -/

def afterAll (d : Document) (us : List UseCase) : Document := us.foldl afterRegistering d

def newIds : Document → List UseCase → List String
  | _, [] => []
  | d, u :: us =>
    match u.id, d.register u with
    | none, .ok (_, v) => v.id.toList ++ newIds (d.afterRegistering u) us
    | _, _ => newIds (d.afterRegistering u) us

def holders (d : Document) (id : String) : ℕ := d.allUseCases.countP (·.id == some id)

/-- What a run of registrations does. -/
structure RegistersAll (d : Document) (us : List UseCase) : Prop where
  each : ∀ before u after, us = before ++ u :: after → RegistersOne (d.afterAll before) u
  increasing : (newIds d us).Pairwise fun a b =>
    ∃ m n, idNumber? a = some m ∧ idNumber? b = some n ∧ m < n
  distinct : ∀ id, id ≠ "" → d.holders id ≤ 1 → (d.afterAll us).holders id ≤ 1

/-- A registration leaves the use cases that are there, and one more may stand between the active
and the deprecated ones. -/
theorem allUseCases_afterRegistering (d : Document) (u : UseCase) :
    d.afterRegistering u = d ∨ ∃ v, d.assignId u = .ok v ∧
      (d.afterRegistering u).allUseCases = d.active ++ (v :: d.deprecated) := by
  cases h : d.register u with
  | error e => exact Or.inl ((registersOne d u).refused e h)
  | ok p =>
    obtain ⟨e,v⟩ := p
    obtain ⟨hafter,he,-⟩ := (registersOne d u).added e v h
    exact Or.inr ⟨v,(register_eq_ok_iff.mp h).1,by rw [hafter, he, allUseCases_append]⟩

theorem mem_allUseCases_afterRegistering {d : Document} {u w : UseCase} (h : w ∈ d.allUseCases) :
    w ∈ (d.afterRegistering u).allUseCases := by
  rcases allUseCases_afterRegistering d u with he | ⟨v,-,he⟩
  · rwa [he]
  · rw [he]
    rw [allUseCases] at h
    simp only [List.mem_append, List.mem_cons] at h ⊢
    tauto

theorem holders_afterRegistering {d : Document} {u : UseCase} {id : String} (hne : id ≠ "")
    (h : d.holders id ≤ 1) : (d.afterRegistering u).holders id ≤ 1 := by
  rcases allUseCases_afterRegistering d u with he | ⟨v,hv,he⟩
  · rwa [he]
  · rw [holders, he, List.countP_append, List.countP_cons]
    rw [holders, allUseCases, List.countP_append] at h
    by_cases hid : v.id = some id
    · have hfree := not_taken_of_assignId hv hid hne
      have hnone : d.allUseCases.countP (·.id == some id) = 0 := by
        rw [List.countP_eq_zero]
        intro w hw hwid
        exact hfree ⟨w,hw,by simpa using hwid⟩
      rw [allUseCases, List.countP_append] at hnone
      simp only [hid, beq_self_eq_true, if_true]
      omega
    · simpa [hid] using h

/-- Every id that a run gives out has a number above the numbers that were in use before the run; the
induction is on the run, with the document before it generalized. -/
theorem lt_of_mem_newIds {d : Document} {us : List UseCase} {id : String} (h : id ∈ newIds d us) :
    ∃ n, idNumber? id = some n ∧
      ∀ w ∈ d.allUseCases, ∀ other m, w.id = some other → idNumber? other = some m → m < n := by
  induction us generalizing d with
  | nil => simp [newIds] at h
  | cons u us ih =>
    have later : id ∈ newIds (d.afterRegistering u) us → ∃ n, idNumber? id = some n ∧
        ∀ w ∈ d.allUseCases, ∀ other m, w.id = some other → idNumber? other = some m → m < n := by
      intro hl
      obtain ⟨n,hn,hall⟩ := ih hl
      exact ⟨n,hn,fun w hw => hall w (mem_allUseCases_afterRegistering hw)⟩
    rw [newIds] at h
    split at h
    · next e v hnone hreg =>
      obtain ⟨-,-,-,hnew⟩ := (registersOne d u).added e v hreg
      obtain ⟨new,rfl,hisNew⟩ := hnew hnone
      rcases List.mem_append.mp h with h | h
      · obtain rfl : id = new := by simpa using h
        exact hisNew.above
      · exact later h
    · exact later h

theorem pairwise_newIds (d : Document) (us : List UseCase) :
    (newIds d us).Pairwise fun a b =>
      ∃ m n, idNumber? a = some m ∧ idNumber? b = some n ∧ m < n := by
  induction us generalizing d with
  | nil => exact .nil
  | cons u us ih =>
    rw [newIds]
    split
    · next e v hnone hreg =>
      obtain ⟨hafter,he,-,hnew⟩ := (registersOne d u).added e v hreg
      obtain ⟨new,rfl,hisNew⟩ := hnew hnone
      obtain ⟨m,hm,-⟩ := hisNew.above
      refine List.pairwise_cons.mpr ⟨?_,ih _⟩
      intro later hlater
      obtain ⟨n,hn,hall⟩ := lt_of_mem_newIds hlater
      refine ⟨m,n,hm,hn,hall { u with id := some new } ?_ new m rfl hm⟩
      rw [hafter, he, allUseCases_append]
      simp
    · exact ih _

theorem holders_afterAll {d : Document} {us : List UseCase} {id : String} (hne : id ≠ "")
    (h : d.holders id ≤ 1) : (d.afterAll us).holders id ≤ 1 := by
  induction us generalizing d with
  | nil => exact h
  | cons u us ih => exact ih (holders_afterRegistering hne h)

/-- Along any run of registrations each step does what one registration does, the ids given out
increase, and no id that had at most one holder gets a second one. -/
theorem registersAll (d : Document) (us : List UseCase) : RegistersAll d us :=
  ⟨fun before u _ _ => registersOne (d.afterAll before) u,pairwise_newIds d us,
    fun _ hne h => holders_afterAll hne h⟩

end Traceability.Document
