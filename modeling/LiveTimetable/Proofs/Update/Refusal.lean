import LiveTimetable.Proofs.Update.Soundness

/-!
# Why a journey is refused

Of all errors that an update may name, a journey of a sound record meets four. A call may leave its
stop blank, the pass may come to a time that is not held, the record that it makes may hold a delay
that is not held, or its times may run backwards (`Timetable.RefusesJourney`). They are looked for
in this order, so times are compared only where all of them are held. A journey that cancels its
trip meets none of the four: its calls are not read.

Main statement: `Timetable.afterJourney_eq_rejected_iff`.
-/

namespace LiveTimetable

/-! ## Checks that fail -/

namespace TripRecord

variable {r : TripRecord} {e : UpdateError}

theorem checkDelays_eq_error_iff :
    r.checkDelays = .error e ↔
      ∃ position, r.firstDelayNotHeld? = some position ∧ e = .timeOutOfRange r.tripId position := by
  unfold checkDelays
  split
  next position h => simp [h, eq_comm]
  next h => simp [h]

theorem checkOrder_eq_error_iff {line : String} :
    r.checkOrder line = .error e ↔
      ∃ position, r.firstDisorder? = some position ∧
        e = .nonIncreasingTimes r.tripId line position := by
  unfold checkOrder
  split
  next position h => simp [h, eq_comm]
  next h => simp [h]

end TripRecord

theorem Matching.ofJourney_eq_error_iff (pattern : Pattern) {journey : Journey}
    (lookup : StopLookup) {e : UpdateError} :
    ofJourney pattern journey lookup = .error e ↔
      ∃ call, journey.firstBlankRef? = some call ∧ e = .missingStopRef journey.tripRef call := by
  unfold ofJourney
  split
  next call h => simp [h, eq_comm]
  next h => simp [h]

namespace Timetable

variable {t : Timetable} {current : TripRecord} {journey : Journey} {lookup : StopLookup}
  {zone : Zone} {e : UpdateError}

theorem revision_eq_error_iff :
    Revision.ofJourney t journey lookup = .error e ↔
      ∃ call, journey.firstBlankRef? = some call ∧ e = .missingStopRef journey.tripRef call := by
  rw [← Matching.ofJourney_eq_error_iff t.pattern lookup]
  simp only [Revision.ofJourney, Outcome.bind_eq_error]
  constructor
  · intro h
    rcases h with h | ⟨_, -, h⟩
    · exact h
    · cases h
  · exact .inl

/-! ## Journeys that run -/

/-- The record that a journey makes before it is checked, or where the pass cannot go on. -/
def draft (t : Timetable) (current : TripRecord) (journey : Journey) (lookup : StopLookup)
    (zone : Zone) : Except (Nat × Propagation.Obstacle) TripRecord :=
  (Propagation.pass ⟨zone, t.firstDeparture, journey⟩ 0 .initial
    (Propagation.slots t (t.matching journey lookup) current)).map
      (⟨t.tripId, t.serviceCode, t.stateAfter journey lookup, ·⟩)

/-- **The reasons for which a journey that runs gives no record**, each with what it is told as. -/
inductive RefusesJourney (t : Timetable) (current : TripRecord) (journey : Journey)
    (lookup : StopLookup) (zone : Zone) : UpdateError → Prop
  | blankRef {call : Nat} (blank : journey.firstBlankRef? = some call) :
    RefusesJourney t current journey lookup zone (.missingStopRef journey.tripRef call)
  | noTime {position : Nat} (named : journey.firstBlankRef? = none)
      (stuck : t.draft current journey lookup zone = .error (position, .outOfRange)) :
    RefusesJourney t current journey lookup zone (.timeOutOfRange t.tripId position)
  | noDelay {draft : TripRecord} {position : Nat} (named : journey.firstBlankRef? = none)
      (made : t.draft current journey lookup zone = .ok draft)
      (first : draft.firstDelayNotHeld? = some position) :
    RefusesJourney t current journey lookup zone (.timeOutOfRange t.tripId position)
  | disorder {draft : TripRecord} {position : Nat} (named : journey.firstBlankRef? = none)
      (made : t.draft current journey lookup zone = .ok draft)
      (held : ∀ s ∈ draft.stops, s.delay.Held) (first : draft.firstDisorder? = some position) :
    RefusesJourney t current journey lookup zone
      (.nonIncreasingTimes t.tripId (t.lineName journey.line) position)

/-- A journey that runs is the draft with its checks, once every call names a stop. -/
theorem propagate_of_named (named : journey.firstBlankRef? = none) :
    t.propagate current journey lookup zone =
      (do
        let draft ← (t.draft current journey lookup zone).mapError fun
          | (position, .outOfRange) => .rejected (.timeOutOfRange t.tripId position)
          | (_, .offCalendar) => .offCalendar
        let draft ← draft.checkDelays.mapError .rejected
        (draft.checkOrder (t.lineName journey.line)).mapError .rejected) := by
  have revision : Revision.ofJourney t journey lookup = .ok _ :=
    revision_eq_ok_iff.mpr ⟨named, rfl⟩
  unfold propagate draft
  rw [revision]
  simp only [Except.mapError, bind, Except.bind, state_of_revision]
  cases Propagation.pass ⟨zone, t.firstDeparture, journey⟩ 0 .initial
      (Propagation.slots t (t.matching journey lookup) current) with
  | error stuck => rfl
  | ok stops => rfl

theorem tripId_of_draft {r : TripRecord} (made : t.draft current journey lookup zone = .ok r) :
    r.tripId = t.tripId := by
  obtain ⟨stops, -, rfl⟩ := Outcome.map_eq_ok.mp made
  rfl

theorem propagate_eq_rejected_iff :
    t.propagate current journey lookup zone = .error (.rejected e) ↔
      t.RefusesJourney current journey lookup zone e := by
  cases blank : journey.firstBlankRef? with
  | some call =>
    have refused : t.propagate current journey lookup zone =
        .error (.rejected (.missingStopRef journey.tripRef call)) := by
      unfold propagate
      rw [revision_eq_error_iff.mpr ⟨call, blank, rfl⟩]
      rfl
    rw [refused]
    constructor
    · intro h
      cases h
      exact .blankRef blank
    · intro h
      cases h with
      | blankRef first =>
        cases blank.symm.trans first
        rfl
      | noTime named => cases blank.symm.trans named
      | noDelay named => cases blank.symm.trans named
      | disorder named => cases blank.symm.trans named
  | none =>
    rw [propagate_of_named blank]
    simp only [Outcome.bind_eq_error, Outcome.mapError_eq_error, Outcome.mapError_eq_ok,
      TripRecord.checkDelays_eq_error_iff, TripRecord.checkDelays_eq_ok_iff,
      TripRecord.checkOrder_eq_error_iff]
    constructor
    · intro h
      rcases h with ⟨⟨position, obstacle⟩, stuck, h⟩ | ⟨draft, made, h⟩
      · cases obstacle with
        | outOfRange =>
          cases h
          exact .noTime blank stuck
        | offCalendar => cases h
      · rcases h with ⟨_, ⟨position, first, rfl⟩, h⟩ | ⟨_, ⟨held, rfl⟩, _, ⟨position, first, rfl⟩, h⟩
        · cases h
          rw [tripId_of_draft made]
          exact .noDelay blank made first
        · cases h
          rw [tripId_of_draft made]
          exact .disorder blank made held first
    · intro h
      cases h with
      | blankRef first => cases blank.symm.trans first
      | noTime _ stuck => exact .inl ⟨_, stuck, rfl⟩
      | noDelay _ made first =>
        exact .inr ⟨_, made, .inl ⟨_, ⟨_, first, rfl⟩, by rw [tripId_of_draft made]⟩⟩
      | disorder _ made held first =>
        exact .inr ⟨_, made, .inr ⟨_, ⟨held, rfl⟩, _, ⟨_, first, rfl⟩, by
          rw [tripId_of_draft made]⟩⟩

/-! ## All journeys -/

/-- **Why a journey of a sound record is refused**: it runs, and it meets one of the four reasons.
That the record is of another trip, or has too many stops or too few, is never one. -/
theorem afterJourney_eq_rejected_iff (sound : t.Sound current) (own : journey.tripRef = t.tripId) :
    t.afterJourney current journey lookup zone = .error (.rejected e) ↔
      ¬ journey.isCancellation ∧ t.RefusesJourney current journey lookup zone e := by
  have checked : t.checkRecord current = .ok () :=
    checkRecord_eq_ok_iff.mpr ⟨sound.tripId, sound.length_stops⟩
  rw [← propagate_eq_rejected_iff]
  unfold afterJourney
  rw [checked]
  simp only [Except.mapError, bind, Except.bind]
  rw [if_neg (not_not.mpr own)]
  split
  next canceled =>
    constructor
    · intro h
      cases h
    · intro h
      exact absurd canceled h.1
  next runs => exact (and_iff_right runs).symm

end Timetable

end LiveTimetable
