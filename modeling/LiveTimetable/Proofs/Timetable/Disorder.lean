import LiveTimetable.Timetable.Passage
import Mathlib.Data.List.Chain
import Mathlib.Order.Basic

/-!
# Where times run backwards

The check of the times along a trip stops at the first passage that is out of order with itself or
with the one in front of it. What it tells is the least such position (`firstDisorder?_eq_some_iff`),
and it tells none where each passage is in order and so are each two neighbours
(`firstDisorder?_eq_none_iff_inOrder`).
-/

namespace LiveTimetable.Passage

/-- Times run backwards at a position: the passage ends before it starts, or it starts before the one
in front of it has ended. -/
def RunsBackAt (ps : List Passage) (i : Nat) : Prop :=
  ∃ p, ps[i]? = some p ∧ (p.departure < p.arrival ∨
    ∃ j q, i = j + 1 ∧ ps[j]? = some q ∧ p.arrival < q.departure)

/-- No passage ends before it starts, and none starts before the one in front of it has ended. -/
def InOrder (ps : List Passage) : Prop :=
  (∀ p ∈ ps, p.arrival ≤ p.departure) ∧ ps.IsChain fun p q => p.departure ≤ q.arrival

variable {since : Seconds} {p : Passage} {ps : List Passage} {i : Nat}

/-- The same where something ends in front of the first passage. -/
def RunsBackSince (since : Seconds) (ps : List Passage) (i : Nat) : Prop :=
  ∃ p time, ps[i]? = some p ∧ (since :: ps.map (·.departure))[i]? = some time ∧
    (p.arrival < time ∨ p.departure < p.arrival)

theorem runsBackSince_zero (ps : List Passage) :
    RunsBackSince since (p :: ps) 0 ↔ p.arrival < since ∨ p.departure < p.arrival := by
  simp [RunsBackSince]

theorem runsBackSince_succ :
    RunsBackSince since (p :: ps) (i + 1) ↔ RunsBackSince p.departure ps i := by
  simp [RunsBackSince]

/-- The recursion is on the passages, with what ends in front of them carried along. -/
theorem disorderSince?_eq_some_iff :
    disorderSince? since ps = some i ↔
      RunsBackSince since ps i ∧ ∀ j < i, ¬ RunsBackSince since ps j := by
  induction ps generalizing since i with
  | nil => simp [disorderSince?, RunsBackSince]
  | cons p rest ih =>
    unfold disorderSince?
    split
    next here =>
      rw [← runsBackSince_zero rest] at here
      cases i with
      | zero => simp [here]
      | succ i =>
        rw [Nat.forall_lt_succ_left]
        simp [here]
    next here =>
      rw [← runsBackSince_zero rest] at here
      cases i with
      | zero => simp [here]
      | succ i =>
        rw [Nat.forall_lt_succ_left]
        simp [here, runsBackSince_succ, ih]

/-- No time is earlier than the least one, so the first passage is compared with itself alone. -/
theorem runsBackSince_least : RunsBackSince Seconds.least ps i ↔ RunsBackAt ps i := by
  have least : ∀ time : Seconds, ¬ time < Seconds.least := fun time => Int.not_lt.mpr time.held.1
  cases i with
  | zero => simp [RunsBackSince, RunsBackAt, least]
  | succ j =>
    simp only [RunsBackSince, RunsBackAt, List.getElem?_cons_succ, List.getElem?_map,
      Option.map_eq_some_iff, Nat.add_right_cancel_iff]
    constructor
    · rintro ⟨p, _, hp, ⟨q, hq, rfl⟩, back | back⟩
      · exact ⟨p, hp, Or.inr ⟨j, q, rfl, hq, back⟩⟩
      · exact ⟨p, hp, Or.inl back⟩
    · rintro ⟨p, hp, back | ⟨_, q, rfl, hq, back⟩⟩
      · have inside : j < ps.length := by
          have := (List.getElem?_eq_some_iff.mp hp).1
          omega
        exact ⟨p, _, hp, ⟨_, List.getElem?_eq_getElem inside, rfl⟩, Or.inr back⟩
      · exact ⟨p, _, hp, ⟨q, hq, rfl⟩, Or.inl back⟩

/-- **The check tells the least position at which times run backwards.** -/
theorem firstDisorder?_eq_some_iff :
    firstDisorder? ps = some i ↔ RunsBackAt ps i ∧ ∀ j < i, ¬ RunsBackAt ps j := by
  simp only [firstDisorder?, disorderSince?_eq_some_iff, runsBackSince_least]

theorem inOrder_cons : InOrder (p :: ps) ↔
    p.arrival ≤ p.departure ∧ (∀ q ∈ ps.head?, p.departure ≤ q.arrival) ∧ InOrder ps := by
  simp only [InOrder, List.forall_mem_cons, List.isChain_cons]
  constructor
  · rintro ⟨⟨own, inside⟩, next, chain⟩
    exact ⟨own, next, inside, chain⟩
  · rintro ⟨own, next, inside, chain⟩
    exact ⟨⟨own, inside⟩, next, chain⟩

theorem disorderSince?_eq_none_iff_inOrder :
    disorderSince? since ps = none ↔ (∀ p ∈ ps.head?, since ≤ p.arrival) ∧ InOrder ps := by
  have le : ∀ {a b : Seconds}, ¬ a < b ↔ b ≤ a := Int.not_lt
  induction ps generalizing since with
  | nil => simp [disorderSince?, InOrder]
  | cons p rest ih =>
    unfold disorderSince?
    split
    next back =>
      simp only [reduceCtorEq, false_iff, inOrder_cons, List.head?_cons, Option.mem_some_iff,
        forall_eq']
      rintro ⟨first, own, -⟩
      exact back.elim (le.mpr first) (le.mpr own)
    next forward =>
      obtain ⟨first, own⟩ := not_or.mp forward
      simp [ih, inOrder_cons, le.mp first, le.mp own]

theorem firstDisorder?_eq_none_iff_inOrder : firstDisorder? ps = none ↔ InOrder ps := by
  rw [firstDisorder?, disorderSince?_eq_none_iff_inOrder, and_iff_right]
  exact fun p _ => p.arrival.held.1

end LiveTimetable.Passage
