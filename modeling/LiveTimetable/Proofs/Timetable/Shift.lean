import LiveTimetable.Proofs.Lists
import LiveTimetable.Timetable.Passage

/-!
# A delay from a stop on

A vehicle that is late from some stop on passes all later ones with one delay, which may differ
between arrival and departure. Whether times still run forward is decided among the delayed
passages alone (`firstDisorder?_append_iff`): each needs a wait that the two sides of the delay
leave over, and so does each way from one stop to a later one.
-/

namespace LiveTimetable.Passage

/-- The time spent at the stop. -/
def wait (p : Passage) : Int := p.departure.val - p.arrival.val

/-- The passages with the same delay, member by member. -/
def Shifted (d : Delay) (ps qs : List Passage) : Prop :=
  List.Forall₂ (fun p q => q.delayFrom p = d) ps qs

variable {front later shifted : List Passage} {p q : Passage} {d : Delay}

theorem delayFrom_eq_iff : q.delayFrom p = d ↔
    q.arrival.val = p.arrival.val + d.arrival ∧ q.departure.val = p.departure.val + d.departure := by
  obtain ⟨onArrival, onDeparture⟩ := d
  simp only [delayFrom, Delay.mk.injEq]
  omega

@[simp] theorem delayFrom_self (p : Passage) : p.delayFrom p = .none := by
  rw [delayFrom_eq_iff]
  exact ⟨(Int.add_zero _).symm, (Int.add_zero _).symm⟩

/-- Times do not run backwards: the same for the passages of other things, position by position. -/
theorem firstDisorder?_map_eq_none_iff {α : Type} {f : α → Passage} {as : List α} :
    firstDisorder? (as.map f) = none ↔
      (∀ (i : Nat) (a : α), as[i]? = some a → (f a).arrival.val ≤ (f a).departure.val) ∧
        ∀ (i j : Nat) (a b : α), i < j → as[i]? = some a → as[j]? = some b →
          (f a).departure.val ≤ (f b).arrival.val := by
  rw [firstDisorder?_eq_none_iff_pairwise, List.forall_mem_map, List.pairwise_map,
    List.forall_mem_iff_getElem, List.pairwise_iff_getElem]
  simp only [List.getElem?_eq_some_iff]
  constructor
  · intro h
    refine ⟨fun i a ha => ?_, fun i j a b hij ha hb => ?_⟩
    · obtain ⟨hi, rfl⟩ := ha
      exact h.1 i hi
    · obtain ⟨hi, rfl⟩ := ha
      obtain ⟨hj, rfl⟩ := hb
      exact h.2 i j hi hj hij
  · intro h
    exact ⟨fun i hi => h.1 i _ ⟨hi, rfl⟩, fun i j hi hj hij => h.2 i j _ _ hij ⟨hi, rfl⟩ ⟨hj, rfl⟩⟩

/-- **Times run forward behind a delay** exactly when they do among the delayed passages. -/
theorem firstDisorder?_append_iff (inOrder : firstDisorder? (front ++ later) = none)
    (moved : Shifted d later shifted) (late : 0 ≤ d.arrival) :
    firstDisorder? (front ++ shifted) = none ↔
      (∀ p ∈ later, p.arrival.val + d.arrival ≤ p.departure.val + d.departure) ∧
        later.Pairwise fun p q => p.departure.val + d.departure ≤ q.arrival.val + d.arrival := by
  have hle : ∀ {a b : Seconds}, (a ≤ b) = (a.val ≤ b.val) := rfl
  rw [firstDisorder?_eq_none_iff_pairwise, List.pairwise_append] at inOrder ⊢
  obtain ⟨inside, frontOrder, -, across⟩ := inOrder
  rw [List.forall_mem_append] at inside ⊢
  have each : (∀ p ∈ later, p.arrival.val + d.arrival ≤ p.departure.val + d.departure) ↔
      ∀ q ∈ shifted, q.arrival ≤ q.departure := by
    refine Lists.forall_mem_iff_of_forall₂ (fun p q hpq => ?_) moved
    obtain ⟨ha, hd⟩ := delayFrom_eq_iff.mp hpq
    rw [hle, ha, hd]
  have between : (later.Pairwise fun p q =>
        p.departure.val + d.departure ≤ q.arrival.val + d.arrival) ↔
      shifted.Pairwise fun p q => p.departure ≤ q.arrival := by
    refine Lists.pairwise_iff_of_forall₂ (fun p q p' q' hpq hpq' => ?_) moved
    rw [hle, (delayFrom_eq_iff.mp hpq).2, (delayFrom_eq_iff.mp hpq').1]
  -- a delayed passage is no earlier than it was, so what lies in front of it still does
  have acrossShifted : ∀ x ∈ front, ∀ q ∈ shifted, x.departure ≤ q.arrival := by
    intro x hx
    refine (Lists.forall_mem_iff_of_forall₂ (P := fun p => x.departure.val ≤ p.arrival.val + d.arrival)
      (fun p q hpq => ?_) moved).mp fun p hp => ?_
    · rw [hle, (delayFrom_eq_iff.mp hpq).1]
    · have := across x hx p hp
      rw [hle] at this
      omega
  rw [each, between]
  exact ⟨fun h => ⟨h.1.2, h.2.2.1⟩, fun h => ⟨⟨inside.1, h.1⟩, frontOrder, h.2, acrossShifted⟩⟩

end LiveTimetable.Passage
