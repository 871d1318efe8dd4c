import LiveTimetable.Seconds

/-!
# Passages

A passage is the pair of times at which a vehicle arrives at a stop and leaves it again; a delay is
the pair of differences between two passages. Along a trip times may not run backwards:
`firstDisorder?` tells where they first do.

Main statement: there is no such place exactly when every time is followed by none that is earlier
(`firstDisorder?_eq_none_iff`, and passage by passage `firstDisorder?_eq_none_iff_pairwise`).
-/

namespace LiveTimetable

structure Passage where
  arrival : Seconds
  departure : Seconds
deriving DecidableEq, Repr

structure Delay where
  arrival : Int
  departure : Int
deriving DecidableEq, Repr

namespace Delay

def none : Delay := ⟨0, 0⟩

/-- The same delay on arrival and departure. -/
def both (seconds : Int) : Delay := ⟨seconds, seconds⟩

def Held (d : Delay) : Prop := Seconds.Held d.arrival ∧ Seconds.Held d.departure

instance (d : Delay) : Decidable d.Held := inferInstanceAs (Decidable (_ ∧ _))

/-- Each side no later than `seconds`. -/
def atMost (d : Delay) (seconds : Int) : Delay := ⟨min d.arrival seconds, min d.departure seconds⟩

end Delay

namespace Passage

/-- How much later a passage is than the scheduled one. -/
def delayFrom (p scheduled : Passage) : Delay :=
  ⟨p.arrival.val - scheduled.arrival.val, p.departure.val - scheduled.departure.val⟩

/-- The passage with a delay added, if both times are held. -/
def delayed? (p : Passage) (d : Delay) : Option Passage := do
  return ⟨← p.arrival.later? d.arrival, ← p.departure.later? d.departure⟩

/-- A passage is delayed to the one that lies behind it by just that delay. -/
theorem delayed?_eq_some_iff {p q : Passage} {d : Delay} :
    p.delayed? d = some q ↔ q.delayFrom p = d := by
  obtain ⟨arrival, departure⟩ := q
  obtain ⟨onArrival, onDeparture⟩ := d
  have chain : p.delayed? ⟨onArrival, onDeparture⟩ = some ⟨arrival, departure⟩ ↔
      p.arrival.later? onArrival = some arrival ∧ p.departure.later? onDeparture = some departure := by
    cases ha : p.arrival.later? onArrival with
    | none => simp [delayed?, ha]
    | some a =>
      cases hd : p.departure.later? onDeparture with
      | none => simp [delayed?, ha, hd]
      | some d => simp [delayed?, ha, hd]
  rw [chain, Seconds.later?_eq_some_iff, Seconds.later?_eq_some_iff]
  simp only [delayFrom, Delay.mk.injEq]
  omega

/-- The first passage that starts before `since`, or ends before it starts, or starts before the
one in front of it has ended. -/
def disorderSince? (since : Seconds) : List Passage → Option Nat
  | [] => none
  | p :: rest =>
    if p.arrival < since ∨ p.departure < p.arrival then some 0
    else (disorderSince? p.departure rest).map (· + 1)

/-- Where the times of a trip first run backwards. -/
def firstDisorder? (ps : List Passage) : Option Nat := disorderSince? Seconds.least ps

/-- The times of a trip in the order in which they come. -/
def times (ps : List Passage) : List Int := ps.flatMap fun p => [p.arrival.val, p.departure.val]

theorem disorderSince?_eq_none_iff {since : Seconds} {ps : List Passage} :
    disorderSince? since ps = none ↔ (since.val :: times ps).Pairwise (· ≤ ·) := by
  induction ps generalizing since with
  | nil => simp [disorderSince?, times]
  | cons p rest ih =>
    have hle : ∀ {a b : Seconds}, (a < b) = (a.val < b.val) := rfl
    simp only [disorderSince?, hle]
    have hcons : times (p :: rest) = p.arrival.val :: p.departure.val :: times rest := rfl
    rw [hcons]
    split
    · next h =>
      refine ⟨fun e => by simp at e, fun e => ?_⟩
      simp only [List.pairwise_cons, List.mem_cons, forall_eq_or_imp] at e
      omega
    · next h =>
      simp only [Option.map_eq_none_iff, ih, List.pairwise_cons, List.mem_cons,
        forall_eq_or_imp]
      constructor
      · rintro ⟨h1, h2⟩
        refine ⟨⟨by omega, by omega, fun t ht => ?_⟩, ⟨by omega, fun t ht => ?_⟩, h1, h2⟩
        all_goals
          have := h1 t ht
          omega
      · rintro ⟨-, -, h1, h2⟩
        exact ⟨h1, h2⟩

theorem firstDisorder?_eq_none_iff {ps : List Passage} :
    firstDisorder? ps = none ↔ (times ps).Pairwise (· ≤ ·) := by
  rw [firstDisorder?, disorderSince?_eq_none_iff, List.pairwise_cons, and_iff_right]
  intro t ht
  simp only [times, List.mem_flatMap, List.mem_cons, List.not_mem_nil, or_false] at ht
  obtain ⟨p, -, rfl | rfl⟩ := ht
  · exact p.arrival.held.1
  · exact p.departure.held.1

/-- Times do not run backwards exactly when no passage ends before it starts and none starts
before an earlier one has ended. -/
theorem firstDisorder?_eq_none_iff_pairwise {ps : List Passage} :
    firstDisorder? ps = none ↔
      (∀ p ∈ ps, p.arrival ≤ p.departure) ∧ ps.Pairwise fun p q => p.departure ≤ q.arrival := by
  have hle : ∀ {a b : Seconds}, (a ≤ b) = (a.val ≤ b.val) := rfl
  rw [firstDisorder?_eq_none_iff, times, List.pairwise_flatMap]
  constructor
  · rintro ⟨inside, between⟩
    refine ⟨fun p hp => by simpa [hle] using inside p hp, between.imp fun h => ?_⟩
    exact h _ (by simp) _ (by simp)
  · rintro ⟨inside, between⟩
    refine ⟨fun p hp => by simpa [hle] using inside p hp, between.imp_of_mem ?_⟩
    intro p q hp hq hpq x hx y hy
    have h1 := inside p hp
    have h2 := inside q hq
    simp only [hle] at h1 h2 hpq
    simp only [List.mem_cons, List.not_mem_nil, or_false] at hx hy
    rcases hx with rfl | rfl <;> rcases hy with rfl | rfl <;> omega

end Passage

end LiveTimetable
