import Mathlib.Data.List.TakeWhile
import Mathlib.Tactic.Common
import Traceability.Command.Run
import Traceability.Proofs.Text.Utf8

/-! # What is printed of a message

A message loses its terminal sequences where the output is no terminal, and nothing else. Halves of
pairs are no part of such a sequence, so a message with one of them is printed nowhere.
-/
namespace Traceability
open Text Command

namespace Command
variable {terminal : Terminal} {cs : List Char}

theorem withoutSequencesFrom_subset (skip : ℕ) (cs : List Char) :
    withoutSequencesFrom skip cs ⊆ cs := by
  fun_induction withoutSequencesFrom skip cs with
  | case1 => exact List.Subset.refl _
  | case2 c cs k ih => exact List.subset_cons_of_subset _ ih
  | case3 rest n hn ih => exact List.subset_cons_of_subset _ ih
  | case4 rest hn ih => exact List.cons_subset_cons _ ih
  | case5 c cs hc ih => exact List.cons_subset_cons _ ih

theorem isHalf_of_isBetween {first last c : Char} (hlast : last.toNat < firstHalfChar)
    (h : isBetween first last c = true) : isHalf c = false := by
  simp only [isBetween, Bool.and_eq_true, decide_eq_true_eq] at h
  exact isHalf_of_lt (Nat.lt_of_le_of_lt h.2 hlast)

theorem isHalf_of_mem_takeWhile (first : Char) {last : Char} (hlast : last.toNat < firstHalfChar)
    (cs : List Char) : ∀ c ∈ cs.takeWhile (isBetween first last), isHalf c = false :=
  fun _ hc => isHalf_of_isBetween hlast (List.mem_takeWhile_imp hc)

/-- A terminal sequence holds no half of a pair. -/
theorem isHalf_of_mem_sequence {n : ℕ} (h : sequenceEnd? cs = some n) :
    ∀ c ∈ cs.take n, isHalf c = false := by
  have hparameters := isHalf_of_mem_takeWhile '0' (by decide : '?'.toNat < firstHalfChar) cs
  have hsplit := List.prefix_iff_eq_append.mp (List.takeWhile_prefix (isBetween '0' '?') (l := cs))
  simp only [sequenceEnd?] at h
  split_ifs at h with hend
  obtain rfl := Option.some.inj h
  generalize cs.takeWhile (isBetween '0' '?') = parameters at *
  generalize cs.drop parameters.length = rest at *
  have hbetween := isHalf_of_mem_takeWhile ' ' (by decide : '/'.toNat < firstHalfChar) rest
  have hrest := List.prefix_iff_eq_append.mp (List.takeWhile_prefix (isBetween ' ' '/') (l := rest))
  generalize rest.takeWhile (isBetween ' ' '/') = between at *
  generalize rest.drop between.length = final at *
  cases final with
  | nil => cases hend
  | cons f final =>
    have hf : isHalf f = false :=
      isHalf_of_isBetween (by decide : '~'.toNat < firstHalfChar) hend
    have htake : (parameters ++ (between ++ f :: final)).take
        (parameters.length + between.length + 1) = parameters ++ (between ++ [f]) := by
      rw [Nat.add_assoc, List.take_length_add_append, List.take_length_add_append,
        List.take_succ_cons, List.take_zero]
    rw [← hsplit, ← hrest, htake]
    simp only [List.forall_mem_append, List.forall_mem_singleton]
    exact ⟨hparameters,hbetween,hf⟩

/-- What is taken out of a message with its terminal sequences is no half of a pair. -/
theorem mem_withoutSequencesFrom {skip : ℕ} {c : Char} (hhalf : isHalf c = true)
    (hskip : ∀ d ∈ cs.take skip, isHalf d = false) (hc : c ∈ cs) :
    c ∈ withoutSequencesFrom skip cs := by
  have hne : ∀ d, isHalf d = false → c ≠ d := by
    rintro d hd rfl
    exact absurd hhalf (by rw [hd]; decide)
  fun_induction withoutSequencesFrom skip cs with
  | case1 => cases hc
  | case2 d cs k ih =>
    obtain ⟨hd,hrest⟩ := List.forall_mem_cons.mp hskip
    exact ih hrest ((List.mem_cons.mp hc).resolve_left (hne d hd))
  | case3 rest n hn ih =>
    refine ih ?_ ((List.mem_cons.mp hc).resolve_left (hne _ (by decide)))
    exact List.forall_mem_cons.mpr ⟨by decide,isHalf_of_mem_sequence hn⟩
  | case4 rest hn ih =>
    rcases List.mem_cons.mp hc with rfl | hc
    · exact List.mem_cons_self
    · exact List.mem_cons_of_mem _ (ih (by simp) hc)
  | case5 d cs hd ih =>
    rcases List.mem_cons.mp hc with rfl | hc
    · exact List.mem_cons_self
    · exact List.mem_cons_of_mem _ (ih (by simp) hc)

/-- Halves of pairs stay in a message that is shown. -/
theorem holdsHalf_messageText (terminal : Terminal) (message : String) :
    holdsHalf (messageText terminal message).toList = holdsHalf message.toList := by
  rw [messageText]
  split
  · rfl
  · rw [String.toList_ofList, Bool.eq_iff_iff, holdsHalf, holdsHalf, List.any_eq_true,
      List.any_eq_true]
    constructor
    · rintro ⟨c,hc,hhalf⟩
      exact ⟨c,withoutSequencesFrom_subset 0 _ hc,hhalf⟩
    · rintro ⟨c,hc,hhalf⟩
      exact ⟨c,mem_withoutSequencesFrom hhalf (by simp) hc,hhalf⟩

/-! ## Pieces -/

def Print.content : Print → String
  | message text => text
  | layout text => text

def Print.shown (terminal : Terminal) : Print → String
  | message text => messageText terminal text
  | layout text => text

/-- All pieces can be encoded. -/
def Printable (prints : List Print) : Prop := ∀ p ∈ prints, holdsHalf p.content.toList = false

instance : DecidablePred Printable := fun prints =>
  List.decidableBAll (fun p : Print => holdsHalf p.content.toList = false) prints

theorem printable_cons {p : Print} {ps : List Print} :
    Printable (p :: ps) ↔ holdsHalf p.content.toList = false ∧ Printable ps := List.forall_mem_cons

theorem Print.holdsHalf_shown (terminal : Terminal) (p : Print) :
    holdsHalf (p.shown terminal).toList = holdsHalf p.content.toList := by
  cases p with
  | message text => exact holdsHalf_messageText terminal text
  | layout text => rfl

theorem Print.text?_of_holdsHalf_eq_false {p : Print} (h : holdsHalf p.content.toList = false) :
    p.text? terminal = .ok (p.shown terminal) := by
  rw [← p.holdsHalf_shown terminal] at h
  have hfree := encodingError?_of_holdsHalf_eq_false h
  cases p with
  | message text =>
    rw [shown] at hfree
    simp only [text?, hfree, shown]
  | layout text =>
    rw [shown] at hfree
    simp only [text?, hfree, shown]

theorem Print.exists_text?_of_holdsHalf (terminal : Terminal) {p : Print}
    (h : holdsHalf p.content.toList = true) :
    ∃ e, p.text? terminal = .error e := by
  rw [← p.holdsHalf_shown terminal] at h
  obtain ⟨e,he⟩ := Option.isSome_iff_exists.mp (isSome_encodingError?_of_holdsHalf h)
  cases p with
  | message text =>
    rw [shown] at he
    exact ⟨e,by simp only [text?, he]⟩
  | layout text =>
    rw [shown] at he
    simp only [text?, he, Except.error.injEq, exists_eq']

variable {prints : List Print}

theorem deliver_of_printable (h : Printable prints) :
    deliver terminal prints = (String.join (prints.map (Print.shown terminal)), none) := by
  induction prints with
  | nil => rfl
  | cons p ps ih =>
    obtain ⟨hp,hps⟩ := printable_cons.mp h
    simp only [deliver, Print.text?_of_holdsHalf_eq_false hp, ih hps, List.map_cons,
      String.join_cons]

theorem exists_deliver_of_not_printable (terminal : Terminal) (h : ¬ Printable prints) :
    ∃ output e, deliver terminal prints = (output, some e) := by
  induction prints with
  | nil => exact absurd (List.forall_mem_nil _) h
  | cons p ps ih =>
    cases hp : holdsHalf p.content.toList with
    | true =>
      obtain ⟨e,he⟩ := Print.exists_text?_of_holdsHalf terminal hp
      exact ⟨"",e,by simp only [deliver, he]⟩
    | false =>
      obtain ⟨output,e,hdeliver⟩ := ih fun hps => h (printable_cons.mpr ⟨hp,hps⟩)
      refine ⟨p.shown terminal ++ output,e,?_⟩
      simp only [deliver, Print.text?_of_holdsHalf_eq_false hp, hdeliver]

/-- A text without the character that begins terminal sequences stays as it is. -/
theorem withoutSequencesFrom_eq_self (h : '\x1b' ∉ cs) : withoutSequencesFrom 0 cs = cs := by
  induction cs with
  | nil => rfl
  | cons c cs ih =>
    obtain ⟨hc,hcs⟩ := not_or.mp (List.mem_cons.not.mp h)
    rw [withoutSequencesFrom, ih hcs]
    rintro rest rfl
    exact absurd rfl hc

theorem messageText_eq_self {message : String} (h : '\x1b' ∉ message.toList) :
    messageText terminal message = message := by
  rw [messageText, withoutSequencesFrom_eq_self h, String.ofList_toList, ite_self]

end Command

namespace CommandEnd
variable {terminal : Terminal} {prints : List Print}

theorem printing_of_printable (h : Printable prints) (status : ℕ) :
    printing terminal prints status =
      { status := status, output := String.join (prints.map (Print.shown terminal)) } := by
  simp only [printing, deliver_of_printable h]

/-- The status of an end by a fault is that of a negative answer. -/
theorem exists_printing_of_not_printable (terminal : Terminal) (h : ¬ Printable prints)
    (status : ℕ) :
    ∃ output e, printing terminal prints status =
      { status := 1, output := output, fault := some (.encoding e) } := by
  obtain ⟨output,e,hdeliver⟩ := exists_deliver_of_not_printable terminal h
  exact ⟨output,e,by simp only [printing, hdeliver, broken]⟩

theorem status_printing_eq_zero_iff {status : ℕ} :
    (printing terminal prints status).status = 0 ↔ status = 0 ∧ Printable prints := by
  by_cases h : Printable prints
  · simp [printing_of_printable h, h]
  · obtain ⟨output,e,he⟩ := exists_printing_of_not_printable terminal h status
    simp [he, h]

/-- A message without halves of pairs is printed, and the command succeeds. -/
theorem saying_of_holdsHalf_eq_false (terminal : Terminal) {message : String}
    (h : holdsHalf message.toList = false) :
    saying terminal message = { output := messageText terminal message } := by
  have hprintable : Printable [.message message] := printable_cons.mpr ⟨h,List.forall_mem_nil _⟩
  rw [saying, printing_of_printable hprintable]
  simp [Print.shown]

/-- A message with half of a pair is not printed, and the command fails. -/
theorem status_saying_of_holdsHalf (terminal : Terminal) {message : String}
    (h : holdsHalf message.toList = true) : (saying terminal message).status = 1 := by
  have hprintable : ¬ Printable [.message message] := fun hp =>
    Bool.false_ne_true ((printable_cons.mp hp).1.symm.trans h)
  obtain ⟨output,e,he⟩ := exists_printing_of_not_printable terminal hprintable 0
  rw [saying, he]

end CommandEnd

end Traceability
