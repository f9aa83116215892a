import Mathlib.Data.List.Basic
import Mathlib.Tactic.Common
import Traceability.Proofs.Text.Utf8
import Traceability.Text.Intake

/-! # Reading in blocks is reading at once

Bytes that are a text are read as that text, wherever they are cut into portions. The bytes of a
character that is cut wait for the next portion, and a carriage return in front of a cut waits for
the line feed that may follow.
-/
namespace Traceability.Text

/-! ## Cuts within a character -/

/-- Exactly the missing bytes are read. Anything may stand behind them, and fewer of them are the
end of data. -/
theorem readContinuation_cut {least greatest missing code done code' : ℕ} {bytes rest : List UInt8}
    (h : readContinuation least greatest missing code done bytes = .ok (code',rest)) :
    ∃ front, bytes = front ++ rest ∧ front.length = missing ∧
      (∀ tail, readContinuation least greatest missing code done (front ++ tail) =
        .ok (code',tail)) ∧
      ∀ start more, front = start ++ more → more ≠ [] → ∃ n,
        readContinuation least greatest missing code done start = .error (n,.unexpectedEnd) := by
  induction missing generalizing least greatest code done bytes with
  | zero =>
    obtain ⟨rfl,rfl⟩ := Prod.mk.inj (Except.ok.inj h)
    refine ⟨[],rfl,rfl,fun _ => rfl,fun start more hsplit hmore => ?_⟩
    exact absurd (List.append_eq_nil_iff.mp hsplit.symm).2 hmore
  | succ missing ih =>
    cases bytes with
    | nil => cases h
    | cons b bytes =>
      rw [readContinuation] at h
      split_ifs at h with hb
      obtain ⟨front,rfl,hlen,hany,hcut⟩ := ih h
      refine ⟨b :: front,rfl,by rw [List.length_cons, hlen],fun tail => ?_,
        fun start more hsplit hmore => ?_⟩
      · rw [List.cons_append, readContinuation, if_pos hb, hany]
      · cases start with
        | nil => exact ⟨done,rfl⟩
        | cons b' start =>
          obtain ⟨rfl,hfront⟩ := List.cons.inj hsplit
          rw [readContinuation, if_pos hb]
          exact hcut start more hfront hmore

theorem two_le_of_sequenceForm? {first least greatest length : ℕ}
    (h : sequenceForm? first = some (least,greatest,length)) : 2 ≤ length := by
  rw [sequenceForm?] at h
  split_ifs at h <;> simp only [Option.some.injEq, Prod.mk.injEq] at h <;> omega

/-- A character has bytes of its own. Anything may stand behind them, and fewer of them are the end
of data. -/
theorem decodeChar_cut {first : UInt8} {c : Char} {length : ℕ} {bytes rest : List UInt8}
    (h : decodeChar first bytes = .ok (c,length,rest)) :
    ∃ front, bytes = front ++ rest ∧ length = front.length + 1 ∧
      (∀ tail, decodeChar first (front ++ tail) = .ok (c,length,tail)) ∧
      ∀ start more, front = start ++ more → more ≠ [] → ∃ n,
        decodeChar first start = .error (n,.unexpectedEnd) := by
  rw [decodeChar] at h
  split_ifs at h with hshort
  · obtain ⟨rfl,hrest⟩ := Prod.mk.inj (Except.ok.inj h)
    obtain ⟨rfl,rfl⟩ := Prod.mk.inj hrest
    refine ⟨[],rfl,rfl,fun tail => ?_,fun start more hsplit hmore => ?_⟩
    · rw [decodeChar, if_pos hshort]
      rfl
    · exact absurd (List.append_eq_nil_iff.mp hsplit.symm).2 hmore
  · cases hform : sequenceForm? first.toNat with
    | none =>
      rw [hform] at h
      cases h
    | some form =>
      obtain ⟨least,greatest,n⟩ := form
      simp only [hform] at h
      cases hread : readContinuation least greatest (n - 1) (leadBits n first.toNat) 1 bytes with
      | error e =>
        rw [hread] at h
        cases h
      | ok p =>
        obtain ⟨code,rest'⟩ := p
        rw [hread] at h
        obtain ⟨rfl,hrest⟩ := Prod.mk.inj (Except.ok.inj h)
        obtain ⟨rfl,rfl⟩ := Prod.mk.inj hrest
        obtain ⟨front,hbytes,hlen,hany,hcut⟩ := readContinuation_cut hread
        have htwo := two_le_of_sequenceForm? hform
        refine ⟨front,hbytes,by omega,fun tail => ?_,fun start more hsplit hmore => ?_⟩
        · simp only [decodeChar, if_neg hshort, hform, hany]
          rfl
        · obtain ⟨k,hk⟩ := hcut start more hsplit hmore
          refine ⟨k,?_⟩
          simp only [decodeChar, if_neg hshort, hform, hk]
          rfl

/-! ## Cuts within a text -/

/-- The bytes are those of the characters. -/
inductive Decodes : List UInt8 → List Char → Prop
  | nil : Decodes [] []
  | cons {first : UInt8} {bytes rest : List UInt8} {c : Char} {length : ℕ} {cs : List Char} :
    decodeChar first bytes = .ok (c,length,rest) → Decodes rest cs →
      Decodes (first :: bytes) (c :: cs)

theorem length_le_of_decodeChar {first : UInt8} {c : Char} {length : ℕ} {bytes rest : List UInt8}
    (h : decodeChar first bytes = .ok (c,length,rest)) : rest.length ≤ bytes.length := by
  obtain ⟨front,rfl,-⟩ := decodeChar_cut h
  rw [List.length_append]
  omega

theorem decodeFrom_eq_ok_iff {fuel position : ℕ} {bytes : List UInt8} {cs : List Char}
    (hfuel : bytes.length ≤ fuel) :
    decodeFrom fuel position bytes = .ok cs ↔ Decodes bytes cs := by
  constructor
  · intro h
    induction fuel generalizing position bytes cs with
    | zero =>
      obtain rfl := List.length_eq_zero_iff.mp (Nat.le_zero.mp hfuel)
      obtain rfl := Except.ok.inj h
      exact .nil
    | succ fuel ih =>
      cases bytes with
      | nil =>
        obtain rfl := Except.ok.inj h
        exact .nil
      | cons b bytes =>
        simp only [decodeFrom] at h
        split at h
        · cases h
        · next c length rest hchar =>
          have hrest := length_le_of_decodeChar hchar
          rw [List.length_cons] at hfuel
          cases htail : decodeFrom fuel (position + length) rest with
          | error e =>
            rw [htail] at h
            cases h
          | ok tail =>
            rw [htail] at h
            obtain rfl := Except.ok.inj h
            exact .cons hchar (ih (by omega) htail)
  · intro h
    induction h generalizing fuel position with
    | nil => cases fuel <;> rfl
    | @cons b bytes rest c length cs hchar _ ih =>
      cases fuel with
      | zero => simp at hfuel
      | succ fuel =>
        have hrest := length_le_of_decodeChar hchar
        rw [List.length_cons] at hfuel
        have htail : decodeFrom fuel (position + length) rest = .ok cs := ih (by omega)
        simp only [decodeFrom, hchar, htail]
        rfl

theorem decodeUtf8_eq_ok_iff {bytes : List UInt8} {cs : List Char} :
    decodeUtf8 bytes = .ok cs ↔ Decodes bytes cs :=
  decodeFrom_eq_ok_iff (Nat.le_refl _)

theorem Decodes.length_le {bytes : List UInt8} {cs : List Char} (h : Decodes bytes cs) :
    cs.length ≤ bytes.length := by
  induction h with
  | nil => exact Nat.le_refl _
  | cons hchar _ ih =>
    have hrest := length_le_of_decodeChar hchar
    rw [List.length_cons, List.length_cons]
    omega

theorem Decodes.eq_nil {cs : List Char} (h : Decodes [] cs) : cs = [] := by
  cases h
  rfl

/-- What comes first is whole in front of a cut, or the cut is within it. -/
theorem whole_or_cut {own rest front back : List UInt8} (h : front ++ back = own ++ rest) :
    (∃ more, front = own ++ more ∧ rest = more ++ back) ∨ ∃ more, own = front ++ more ∧ more ≠ [] := by
  rcases List.append_eq_append_iff.mp h with ⟨more,hown,hback⟩ | ⟨more,hfront,hrest⟩
  · cases more with
    | nil =>
      rw [List.append_nil] at hown
      exact .inl ⟨[],by rw [List.append_nil, hown],hback.symm⟩
    | cons b more => exact .inr ⟨b :: more,hown,List.cons_ne_nil b more⟩
  · exact .inl ⟨more,hfront,hrest⟩

/-- Bytes of a text up to a cut are a text, or they end within a character, whose bytes are read
with those behind the cut. -/
theorem decodeFrom_cut {front back : List UInt8} {cs : List Char} (h : Decodes (front ++ back) cs)
    {fuel position : ℕ} (hfuel : front.length ≤ fuel) :
    (∃ cs₁ cs₂, Decodes front cs₁ ∧ Decodes back cs₂ ∧ cs = cs₁ ++ cs₂) ∨
      ∃ e n cs₁ cs₂, decodeFrom fuel position front = .error e ∧ e.reason = .unexpectedEnd ∧
        e.position = position + n ∧ Decodes (front.take n) cs₁ ∧
        Decodes (front.drop n ++ back) cs₂ ∧ cs = cs₁ ++ cs₂ := by
  generalize hbytes : front ++ back = bytes at h
  induction h generalizing front fuel position with
  | nil =>
    obtain ⟨rfl,rfl⟩ := List.append_eq_nil_iff.mp hbytes
    exact .inl ⟨[],[],.nil,.nil,rfl⟩
  | @cons first bytes rest c length cs hchar htail ih =>
    cases front with
    | nil =>
      obtain rfl : back = first :: bytes := hbytes
      exact .inl ⟨[],c :: cs,.nil,.cons hchar htail,rfl⟩
    | cons b front =>
      obtain ⟨rfl,hsplit⟩ : b = first ∧ front ++ back = bytes := List.cons.inj hbytes
      cases fuel with
      | zero => simp at hfuel
      | succ fuel =>
        obtain ⟨own,rfl,hlength,hany,hcut⟩ := decodeChar_cut hchar
        rw [List.length_cons] at hfuel
        rcases whole_or_cut hsplit with ⟨more,rfl,rfl⟩ | ⟨more,hmore,hne⟩
        · rw [List.length_append] at hfuel
          have hmore : more.length ≤ fuel := by omega
          rcases @ih more fuel (position + length) hmore rfl with
            ⟨cs₁,cs₂,hfront,hback,rfl⟩ | ⟨e,n,cs₁,cs₂,he,hreason,hposition,hfront,hback,rfl⟩
          · exact .inl ⟨c :: cs₁,cs₂,.cons (hany more) hfront,hback,rfl⟩
          · refine .inr ⟨e,length + n,c :: cs₁,cs₂,?_,hreason,by omega,?_,?_,rfl⟩
            · simp only [decodeFrom, hany, he]
              rfl
            · have htake : (b :: (own ++ more)).take (length + n) = b :: (own ++ more.take n) := by
                rw [hlength, Nat.add_right_comm, List.take_succ_cons, List.take_length_add_append]
              rw [htake]
              exact .cons (hany _) hfront
            · have hdrop : (b :: (own ++ more)).drop (length + n) = more.drop n := by
                rw [hlength, Nat.add_right_comm, List.drop_succ_cons, List.drop_length_add_append]
              rwa [hdrop]
        · obtain ⟨k,hk⟩ := hcut front more hmore hne
          refine .inr ⟨⟨position,k,b.toNat,.unexpectedEnd⟩,0,[],c :: cs,?_,rfl,rfl,.nil,?_,rfl⟩
          · simp only [decodeFrom, hk]
          · rw [List.drop_zero, List.cons_append, hsplit]
            exact .cons hchar htail

theorem decodePortion_of_decodes {bytes : List UInt8} {cs : List Char} (h : Decodes bytes cs)
    (last : Bool) : decodePortion last bytes = .ok (cs,[]) := by
  rw [decodePortion, decodeUtf8_eq_ok_iff.mpr h]

/-- Of a portion that is not the last one, some characters are read, and the bytes behind them
wait. -/
theorem decodePortion_cut {portion back : List UInt8} {cs : List Char}
    (h : Decodes (portion ++ back) cs) : ∃ cs₁ pending cs₂,
      decodePortion false portion = .ok (cs₁,pending) ∧ Decodes (pending ++ back) cs₂ ∧
        cs = cs₁ ++ cs₂ := by
  rcases @decodeFrom_cut portion back cs h portion.length 0 (Nat.le_refl _) with
    ⟨cs₁,cs₂,hfront,hback,rfl⟩ | ⟨e,n,cs₁,cs₂,he,hreason,hposition,hfront,hback,rfl⟩
  · exact ⟨cs₁,[],cs₂,decodePortion_of_decodes hfront false,hback,rfl⟩
  · rw [Nat.zero_add] at hposition
    refine ⟨cs₁,portion.drop n,cs₂,?_,hback,rfl⟩
    have hdecode : decodeUtf8 portion = .error e := he
    simp only [decodePortion, hdecode, hreason, hposition, decodeUtf8_eq_ok_iff.mpr hfront]
    rfl

/-! ## Line ends -/

theorem universalLines_return {cs : List Char} (h : cs.head? ≠ some '\n') :
    universalLines ('\r' :: cs) = '\n' :: universalLines cs := by
  cases cs with
  | nil => rfl
  | cons c cs =>
    rw [universalLines]
    intro rest hrest
    exact h (congrArg List.head? hrest)

/-- Line ends are read on both sides of a cut that is not within one of them. -/
theorem universalLines_append {front back : List Char}
    (h : front.getLast? = some '\r' → back.head? ≠ some '\n') :
    universalLines (front ++ back) = universalLines front ++ universalLines back := by
  fun_induction universalLines front with
  | case1 => rfl
  | case2 cs ih =>
    rw [List.cons_append, List.cons_append, universalLines, List.cons_append,
      ih fun hl => h (List.mem_getLast?_cons (List.mem_getLast?_cons hl))]
  | case3 cs hcs ih =>
    have hhead : (cs ++ back).head? ≠ some '\n' := by
      cases cs with
      | nil => exact h rfl
      | cons c cs =>
        intro hc
        obtain rfl := Option.some.inj hc
        exact hcs cs rfl
    rw [List.cons_append, universalLines_return hhead, List.cons_append,
      ih fun hl => h (List.mem_getLast?_cons hl)]
  | case4 c cs hfeed hreturn ih =>
    rw [List.cons_append, universalLines, List.cons_append,
      ih fun hl => h (List.mem_getLast?_cons hl)]
    · exact fun _ hc => absurd hc hreturn
    · exact hreturn

theorem length_universalLines_le (cs : List Char) : (universalLines cs).length ≤ cs.length := by
  fun_induction universalLines cs with
  | case1 => exact Nat.le_refl _
  | case2 => simp only [List.length_cons]; omega
  | case3 => simp only [List.length_cons]; omega
  | case4 => simp only [List.length_cons]; omega

/-! ## Portions and blocks -/

namespace Intake
variable {i : Intake} {cs : List Char}

def waiting (i : Intake) : List Char := if i.returnPending then ['\r'] else []

/-- The characters are those that are ready, and those that become of what waits and of the bytes
that are left. -/
def Holds (i : Intake) (cs : List Char) : Prop :=
  ∃ rest, Decodes (i.pending ++ i.bytes) rest ∧ cs = i.ready ++ universalLines (i.waiting ++ rest)

theorem Holds.eq_ready (h : i.Holds cs) (hdone : i.isDone = true) : cs = i.ready := by
  obtain ⟨rest,hrest,rfl⟩ := h
  simp only [isDone, Bool.and_eq_true, List.isEmpty_iff, Bool.not_eq_true'] at hdone
  obtain ⟨⟨hbytes,hpending⟩,hreturn⟩ := hdone
  rw [hbytes, hpending] at hrest
  obtain rfl := hrest.eq_nil
  rw [waiting, hreturn]
  exact List.append_nil _

theorem nextPortion_pos (i : Intake) (missing : ℕ) : 0 < i.nextPortion missing :=
  Nat.lt_of_lt_of_le (by decide) (Nat.le_max_left portionSize _)

/-- A return that waits is put in front of the characters that are made. -/
theorem waiting_append (i : Intake) (cs : List Char) :
    (if i.returnPending then '\r' :: cs else cs) = i.waiting ++ cs := by
  rw [waiting]
  split <;> rfl

/-- The last portion is empty: what waits is read. -/
theorem take_of_nil (h : i.Holds cs) (hbytes : i.bytes = []) (missing : ℕ) :
    ∃ j, i.take missing = .ok j ∧ j.Holds cs ∧ j.isDone = true := by
  obtain ⟨rest,hrest,rfl⟩ := h
  rw [hbytes] at hrest
  refine ⟨⟨[],[],false,i.ready ++ universalLines (i.waiting ++ rest),0,
    (universalLines (i.waiting ++ rest)).length⟩,?_,⟨[],.nil,?_⟩,rfl⟩
  · rw [take, hbytes]
    simp only [List.take_nil, List.isEmpty_nil, decodePortion_of_decodes hrest, bind, Except.bind,
      Bool.not_true, Bool.and_false, Bool.not_false, Bool.and_true, Bool.or_false,
      Bool.false_eq_true, if_false, waiting_append]
    rfl
  · exact (List.append_nil _).symm

/-- A step of the reading: characters that were made stand behind a carriage return that waited, and
one at their end waits. -/
theorem universalLines_step {front : List Char} (hfront : front ≠ []) (back : List Char) :
    universalLines (front ++ back) =
      universalLines (if front.getLast? == some '\r' then front.dropLast else front) ++
        universalLines ((if front.getLast? == some '\r' then ['\r'] else []) ++ back) := by
  by_cases hl : front.getLast? = some '\r'
  · have hsplit : front = front.dropLast ++ ['\r'] := by
      obtain ⟨start,rfl⟩ := List.getLast?_eq_some_iff.mp hl
      rw [List.dropLast_concat]
    simp only [hl, beq_self_eq_true, if_true]
    conv_lhs => rw [hsplit, List.append_assoc]
    exact universalLines_append fun _ => by simp
  · simp only [beq_eq_false_iff_ne.mpr hl, Bool.false_eq_true, if_false, List.nil_append]
    exact universalLines_append fun h => absurd h hl

/-- Any other portion takes bytes away. -/
theorem take_of_ne_nil (h : i.Holds cs) (hbytes : i.bytes ≠ []) (missing : ℕ) :
    ∃ j, i.take missing = .ok j ∧ j.Holds cs ∧ j.bytes.length < i.bytes.length := by
  obtain ⟨rest,hrest,rfl⟩ := h
  generalize hportion : i.bytes.take (i.nextPortion missing) = portion
  have hne : portion ≠ [] := by
    rw [← hportion]
    simp [hbytes, Nat.ne_of_gt (i.nextPortion_pos missing)]
  have hlast : portion.isEmpty = false := by simpa using hne
  have hsplit : portion ++ i.bytes.drop portion.length = i.bytes :=
    List.prefix_iff_eq_append.mp (hportion ▸ List.take_prefix ..)
  have hfewer : (i.bytes.drop portion.length).length < i.bytes.length := by
    rw [List.length_drop]
    have h₁ := List.length_pos_iff.mpr hbytes
    have h₂ := List.length_pos_iff.mpr hne
    omega
  rw [← hsplit, ← List.append_assoc] at hrest
  obtain ⟨made,pending,later,hmade,hlater,rfl⟩ := decodePortion_cut hrest
  cases made with
  | nil =>
    -- the portion is within a character, and the return waits on
    refine ⟨⟨i.bytes.drop portion.length,pending,i.returnPending,i.ready ++ [],portion.length,0⟩,
      ?_,⟨later,hlater,?_⟩,hfewer⟩
    · simp only [take, hportion, hlast, hmade, bind, Except.bind, List.isEmpty_nil, Bool.not_false,
        Bool.and_true, Bool.not_true, Bool.and_false, Bool.false_eq_true, if_false,
        List.getLast?_nil]
      rfl
    · rw [List.append_nil]
      rfl
  | cons c made =>
    have hstep := universalLines_step (by simp : i.waiting ++ c :: made ≠ []) later
    generalize hfront : i.waiting ++ c :: made = front at hstep
    let ended := if front.getLast? == some '\r' then front.dropLast else front
    refine ⟨⟨i.bytes.drop portion.length,pending,front.getLast? == some '\r',
      i.ready ++ universalLines ended,portion.length,(universalLines ended).length⟩,
      ?_,⟨later,hlater,?_⟩,hfewer⟩
    · simp only [take, hportion, hlast, hmade, bind, Except.bind, List.isEmpty_cons, Bool.not_false,
        Bool.and_true, waiting_append, hfront, Bool.and_false, Bool.or_false]
      rfl
    · rw [← List.append_assoc, hfront, hstep, ← List.append_assoc]
      rfl

/-- Filling stops with a block or with nothing left, and loses nothing. -/
theorem fill_of_holds (h : i.Holds cs) {fuel : ℕ}
    (hfuel : i.isDone = true ∨ i.bytes.length < fuel) :
    ∃ j, i.fill fuel = .ok j ∧ j.Holds cs ∧ (j.isDone = true ∨ blockSize ≤ j.ready.length) := by
  induction fuel generalizing i with
  | zero => exact ⟨i,rfl,h,.inl (hfuel.resolve_right (Nat.not_lt_zero _))⟩
  | succ fuel ih =>
    by_cases hstop : blockSize ≤ i.ready.length ∨ i.isDone = true
    · refine ⟨i,?_,h,hstop.symm⟩
      rw [fill, if_pos (by simpa using hstop)]
    · have hbytes := hfuel.resolve_left fun hdone => hstop (.inr hdone)
      obtain ⟨j,hj,hholds,hless⟩ : ∃ j, i.take (blockSize - i.ready.length) = .ok j ∧ j.Holds cs ∧
          (j.isDone = true ∨ j.bytes.length < fuel) := by
        by_cases hnil : i.bytes = []
        · obtain ⟨j,hj,hholds,hdone⟩ := take_of_nil h hnil (blockSize - i.ready.length)
          exact ⟨j,hj,hholds,.inl hdone⟩
        · obtain ⟨j,hj,hholds,hless⟩ := take_of_ne_nil h hnil (blockSize - i.ready.length)
          exact ⟨j,hj,hholds,.inr (by omega)⟩
      rw [fill, if_neg (by simpa using hstop)]
      simp only [hj, bind, Except.bind]
      exact ih hholds hless

/-- The blocks are the characters. -/
theorem blocks_of_holds (h : i.Holds cs) {fuel : ℕ} (hfuel : cs.length < fuel) :
    i.blocks fuel = (cs,none) := by
  induction fuel generalizing i cs with
  | zero => exact absurd hfuel (Nat.not_lt_zero _)
  | succ fuel ih =>
    have henough : i.bytes.length < i.bytes.length + 2 := by omega
    obtain ⟨j,hj,hholds,hstop⟩ := fill_of_holds h (.inr henough)
    simp only [blocks, hj]
    cases hready : j.ready with
    | nil =>
      have hdone : j.isDone = true := hstop.resolve_right (by simp [hready, blockSize])
      rw [hholds.eq_ready hdone, hready]
      rfl
    | cons c ready =>
      obtain ⟨rest,hrest,rfl⟩ := hholds
      have hlater : ({ j with ready := (c :: ready).drop blockSize } : Intake).Holds
          ((c :: ready).drop blockSize ++ universalLines (j.waiting ++ rest)) := ⟨rest,hrest,rfl⟩
      have hshorter : ((c :: ready).drop blockSize ++
          universalLines (j.waiting ++ rest)).length < fuel := by
        rw [hready] at hfuel
        simp only [List.length_append, List.length_drop, List.length_cons, blockSize] at hfuel ⊢
        omega
      rw [List.isEmpty_cons, if_neg (by decide), ih hlater hshorter, ← List.append_assoc,
        List.take_append_drop, hready]

end Intake

/-- Bytes of a text are read in blocks as that text, with its line ends. -/
theorem readBlocks_of_decodeUtf8 {bytes : List UInt8} {cs : List Char}
    (h : decodeUtf8 bytes = .ok cs) : readBlocks bytes = (universalLines cs,none) := by
  have hdecodes := decodeUtf8_eq_ok_iff.mp h
  have hholds : ({ bytes := bytes } : Intake).Holds (universalLines cs) := ⟨cs,hdecodes,rfl⟩
  have hfuel : (universalLines cs).length < bytes.length + 2 := by
    have hlines := length_universalLines_le cs
    have hlen := hdecodes.length_le
    omega
  rw [readBlocks, Intake.blocks_of_holds hholds hfuel]
  rfl

end Traceability.Text
