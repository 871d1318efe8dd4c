import LiveTimetable.Proofs.Update.Pass

/-!
# What a journey makes of a record

A journey is taken up in a fixed order: the record is checked, a cancelled trip is not read any
further, calls are laid along the stops, the pass is made and its result is checked. The lemmas
here say what had to hold at each of these if a record came out (`afterJourney_eq_ok_iff`,
`propagate_eq_ok_iff`); proofs about journeys start from them.
-/

namespace LiveTimetable

/-! ## Checks of a record -/

namespace TripRecord

theorem firstDelayNotHeld?_eq_none_iff {r : TripRecord} :
    r.firstDelayNotHeld? = none ↔ ∀ s ∈ r.stops, s.delay.Held := by
  simp [firstDelayNotHeld?, List.findIdx?_eq_none_iff]

theorem checkDelays_eq_ok_iff {r r' : TripRecord} :
    r.checkDelays = .ok r' ↔ (∀ s ∈ r.stops, s.delay.Held) ∧ r' = r := by
  rw [← firstDelayNotHeld?_eq_none_iff]
  unfold checkDelays
  split
  next h => simp [h]
  next h => simp [h, eq_comm]

theorem checkOrder_eq_ok_iff {r r' : TripRecord} {line : String} :
    r.checkOrder line = .ok r' ↔ r.firstDisorder? = none ∧ r' = r := by
  unfold checkOrder
  split
  next h => simp [h]
  next h => simp [h, eq_comm]

end TripRecord

/-! ## Matchings -/

namespace Matching

theorem ofJourney_eq_ok_iff {pattern : Pattern} {journey : Journey} {lookup : StopLookup}
    {m : Matching} :
    ofJourney pattern journey lookup = .ok m ↔ journey.firstBlankRef? = none ∧
      m = along lookup pattern journey.recorded.zipIdx journey.estimated.zipIdx := by
  unfold ofJourney
  split
  next h => simp [h]
  next h => simp [h, eq_comm]

end Matching

namespace Timetable

/-- The matching of a trip with a journey none of whose calls leaves its stop blank. -/
def matching (t : Timetable) (journey : Journey) (lookup : StopLookup) : Matching :=
  Matching.along lookup t.pattern journey.recorded.zipIdx journey.estimated.zipIdx

/-- The pattern that a journey makes of the one of its trip. -/
def revised (t : Timetable) (journey : Journey) (lookup : StopLookup) : Pattern :=
  List.zipWith Visit.after t.pattern (t.matching journey lookup)

/-- The state of a record that a journey has made. -/
def stateAfter (t : Timetable) (journey : Journey) (lookup : StopLookup) : RealTimeState :=
  if (t.revised journey lookup).sameService t.pattern then .updated else .modified

theorem length_pattern (t : Timetable) : t.pattern.length = t.visits.length := by
  simp [pattern]

@[simp] theorem length_matching (t : Timetable) (journey : Journey) (lookup : StopLookup) :
    (t.matching journey lookup).length = t.visits.length := by
  rw [matching, Matching.length_along, length_pattern]

variable {t : Timetable} {current r : TripRecord} {journey : Journey} {lookup : StopLookup}
  {zone : Zone}

/-- What is matched is a position of the trip. -/
theorem lt_of_matching {position : Nat} {found : Option Match}
    (h : (t.matching journey lookup)[position]? = some found) : position < t.visits.length := by
  rw [← length_matching t journey lookup]
  exact (List.getElem?_eq_some_iff.mp h).1

theorem revision_eq_ok_iff {revision : Revision} :
    Revision.ofJourney t journey lookup = .ok revision ↔ journey.firstBlankRef? = none ∧
      revision = ⟨t.revised journey lookup, t.matching journey lookup⟩ := by
  simp only [Revision.ofJourney, Outcome.bind_eq_ok, Matching.ofJourney_eq_ok_iff]
  constructor
  · intro h
    obtain ⟨_, ⟨hblank, rfl⟩, hret⟩ := h
    cases hret
    exact ⟨hblank, rfl⟩
  · intro h
    obtain ⟨hblank, rfl⟩ := h
    exact ⟨_, ⟨hblank, rfl⟩, rfl⟩

/-- The state that the revision of a journey makes of a record. -/
theorem state_of_revision (t : Timetable) (journey : Journey) (lookup : StopLookup) :
    (if (Revision.mk (t.revised journey lookup) (t.matching journey lookup)).isModified t
      then RealTimeState.modified else .updated) = t.stateAfter journey lookup := by
  unfold Revision.isModified stateAfter
  split <;> simp_all

/-- **A journey that runs gives a record** just when every call names a stop, the pass meets no
obstacle, all delays are held and times do not run backwards. -/
theorem propagate_eq_ok_iff :
    t.propagate current journey lookup zone = .ok r ↔ journey.firstBlankRef? = none ∧
      ∃ stops, Propagation.pass ⟨zone, t.firstDeparture, journey⟩ 0 .initial
          (Propagation.slots t (t.matching journey lookup) current) = .ok stops ∧
        r = ⟨t.tripId, t.serviceCode, t.stateAfter journey lookup, stops⟩ ∧
        (∀ s ∈ r.stops, s.delay.Held) ∧ r.firstDisorder? = none := by
  simp only [propagate, Outcome.bind_eq_ok, Outcome.mapError_eq_ok, revision_eq_ok_iff,
    TripRecord.checkDelays_eq_ok_iff, TripRecord.checkOrder_eq_ok_iff]
  have state := state_of_revision t journey lookup
  constructor
  · intro h
    obtain ⟨_, ⟨hblank, rfl⟩, stops, hpass, _, ⟨hheld, rfl⟩, horder, rfl⟩ := h
    rw [state] at horder ⊢
    exact ⟨hblank, stops, hpass, rfl, hheld, horder⟩
  · intro h
    obtain ⟨hblank, stops, hpass, rfl, hheld, horder⟩ := h
    refine ⟨_, ⟨hblank, rfl⟩, stops, hpass, _, ⟨hheld, rfl⟩, ?_, ?_⟩
    · rw [state]
      exact horder
    · rw [state]

/-- A journey leaves the calendar only where the pass does. -/
theorem pass_of_propagate_offCalendar
    (h : t.propagate current journey lookup zone = .error .offCalendar) :
    ∃ i, Propagation.pass ⟨zone, t.firstDeparture, journey⟩ 0 .initial
      (Propagation.slots t (t.matching journey lookup) current) = .error (i, .offCalendar) := by
  simp only [propagate, Outcome.bind_eq_error, Outcome.mapError_eq_error, Outcome.mapError_eq_ok,
    revision_eq_ok_iff] at h
  rcases h with ⟨_, -, h⟩ | ⟨_, ⟨-, rfl⟩, ⟨⟨i, obstacle⟩, hpass, h⟩ | ⟨_, -, ⟨_, -, h⟩ | ⟨_, -, _, -, h⟩⟩⟩
  · cases h
  · cases obstacle with
    | outOfRange => cases h
    | offCalendar => exact ⟨i, hpass⟩
  · cases h
  · cases h

/-- Each stop of the record is made of its slot. -/
theorem stop_of_propagate (h : t.propagate current journey lookup zone = .ok r) {i : Nat}
    {stop : StopRecord} (hi : r.stops[i]? = some stop) :
    ∃ v found old, t.visits[i]? = some v ∧ (t.matching journey lookup)[i]? = some found ∧
      current.stops[i]? = some old ∧
      stop = Propagation.stopOf ⟨zone, t.firstDeparture, journey⟩ ⟨v, found, old.delay⟩
        stop.passage := by
  obtain ⟨-, stops, hpass, rfl, -⟩ := propagate_eq_ok_iff.mp h
  obtain ⟨slot, hslot, hstop⟩ := Propagation.stop_of_pass hpass hi
  obtain ⟨v, found, old, hv, hfound, hold, rfl⟩ := Propagation.slots_getElem?_eq_some_iff.mp hslot
  exact ⟨v, found, old, hv, hfound, hold, hstop⟩

/-- **What a journey makes of a record of its trip**: the record marked as canceled, or the one
that the pass gives. -/
theorem afterJourney_eq_ok_iff :
    t.afterJourney current journey lookup zone = .ok r ↔
      (current.tripId = t.tripId ∧ current.stops.length = t.visits.length) ∧
        journey.tripRef = t.tripId ∧
        (journey.isCancellation ∧ r = current.cancel ∨
          ¬ journey.isCancellation ∧ t.propagate current journey lookup zone = .ok r) := by
  simp only [afterJourney, Outcome.bind_eq_ok, Outcome.mapError_eq_ok]
  constructor
  · intro h
    obtain ⟨⟨⟩, hcheck, hrest⟩ := h
    refine ⟨checkRecord_eq_ok_iff.mp hcheck, ?_⟩
    split at hrest
    next => cases hrest
    next href =>
      refine ⟨not_not.mp href, ?_⟩
      split at hrest
      next hcancel =>
        cases hrest
        exact Or.inl ⟨hcancel, rfl⟩
      next hcancel => exact Or.inr ⟨hcancel, hrest⟩
  · intro h
    obtain ⟨hcheck, href, hrest⟩ := h
    refine ⟨(), checkRecord_eq_ok_iff.mpr hcheck, ?_⟩
    rw [if_neg (not_not.mpr href)]
    rcases hrest with ⟨hcancel, rfl⟩ | ⟨hcancel, hrest⟩
    · rw [if_pos hcancel]
      rfl
    · rw [if_neg hcancel]
      exact hrest

/-- What is made of a journey that runs are the stops of the pass. -/
theorem pass_of_afterJourney (made : t.afterJourney current journey lookup zone = .ok r)
    (runs : ¬ journey.isCancellation) :
    current.stops.length = t.visits.length ∧
      ∃ stops, Propagation.pass ⟨zone, t.firstDeparture, journey⟩ 0 .initial
          (Propagation.slots t (t.matching journey lookup) current) = .ok stops ∧
        r = ⟨t.tripId, t.serviceCode, t.stateAfter journey lookup, stops⟩ := by
  obtain ⟨⟨-, length⟩, -, ⟨canceled, -⟩ | ⟨-, run⟩⟩ := afterJourney_eq_ok_iff.mp made
  · exact absurd canceled runs
  · obtain ⟨-, stops, pass, same, -⟩ := propagate_eq_ok_iff.mp run
    exact ⟨length, stops, pass, same⟩

/-- The checks in front of the pass leave the calendar alone. -/
theorem pass_of_afterJourney_offCalendar
    (h : t.afterJourney current journey lookup zone = .error .offCalendar) :
    ∃ i, Propagation.pass ⟨zone, t.firstDeparture, journey⟩ 0 .initial
      (Propagation.slots t (t.matching journey lookup) current) = .error (i, .offCalendar) := by
  simp only [afterJourney, Outcome.bind_eq_error, Outcome.mapError_eq_error] at h
  rcases h with ⟨_, -, h⟩ | ⟨_, -, h⟩
  · cases h
  · split at h
    next => cases h
    next =>
      split at h
      next => cases h
      next => exact pass_of_propagate_offCalendar h

/-- A journey is refused if it gives no record and does not leave the calendar. -/
theorem rejected_of_afterJourney (none : ∀ r, t.afterJourney current journey lookup zone ≠ .ok r)
    (onCalendar : ∀ i, Propagation.pass ⟨zone, t.firstDeparture, journey⟩ 0 .initial
      (Propagation.slots t (t.matching journey lookup) current) ≠ .error (i, .offCalendar)) :
    ∃ e, t.afterJourney current journey lookup zone = .error (.rejected e) := by
  cases h : t.afterJourney current journey lookup zone with
  | ok r => exact absurd h (none r)
  | error failure =>
    cases failure with
    | rejected e => exact ⟨e, rfl⟩
    | offCalendar =>
      obtain ⟨i, hi⟩ := pass_of_afterJourney_offCalendar h
      exact absurd hi (onCalendar i)

end Timetable

end LiveTimetable
