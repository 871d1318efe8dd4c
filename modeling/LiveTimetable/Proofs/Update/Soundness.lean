import LiveTimetable.Proofs.Lists
import LiveTimetable.Proofs.Store.Run
import LiveTimetable.Proofs.Update.Report

/-!
# Sound records

A record is sound when it is a version of its trip that times can be read from: it has the trip's
stops with their scheduled passages, every delay is held, and times do not run backwards. Each of
the three ways to make a record keeps this, for a reason of its own: a journey checks the record
it makes, a report checks the order only and gives no delay that was not held, and a cancellation
changes no stop.

Main statement: `Timetable.sound_afterMessage`, and with it that the state of a record made by a
message is never the scheduled one (`Timetable.live_afterMessage`).
-/

namespace LiveTimetable

/-- The states of a record that a message has made. -/
def RealTimeState.Live (s : RealTimeState) : Prop := s = updated ∨ s = modified ∨ s = canceled

namespace Timetable

/-- **The record is a sound version of the trip.** -/
structure Sound (t : Timetable) (r : TripRecord) : Prop where
  tripId : r.tripId = t.tripId
  serviceCode : r.serviceCode = t.serviceCode
  scheduled : r.stops.map (·.scheduled) = t.visits.map (·.passage)
  held : ∀ s ∈ r.stops, s.delay.Held
  inOrder : r.firstDisorder? = none

variable {t : Timetable} {r current : TripRecord} {journey : Journey} {report : VehicleReport}
  {lookup : StopLookup} {zone : Zone}

theorem Sound.length_stops (h : t.Sound r) : r.stops.length = t.visits.length := by
  have := congrArg List.length h.scheduled
  simpa using this

/-- The timetable's own record is sound: every delay in it is zero. -/
theorem sound_record (t : Timetable) : t.Sound t.record where
  tripId := rfl
  serviceCode := rfl
  scheduled := by simp [record, StopRecord.ofTimetable]
  held s hs := by
    obtain ⟨v, -, rfl⟩ := List.mem_map.mp hs
    simp [StopRecord.ofTimetable, StopRecord.delay, Passage.delayFrom, Delay.Held, Seconds.Held]
  inOrder := by
    have := t.inOrder
    simpa [TripRecord.firstDisorder?, record, StopRecord.ofTimetable, Function.comp_def] using this

theorem Sound.cancel (h : t.Sound current) : t.Sound current.cancel :=
  ⟨h.tripId, h.serviceCode, h.scheduled, h.held, h.inOrder⟩

/-- A slot for each stop, with its scheduled visit. -/
theorem scheduled_slots {m : Matching} (hm : m.length = t.visits.length)
    (hcurrent : current.stops.length = t.visits.length) :
    (Propagation.slots t m current).map (·.scheduled) = t.visits := by
  have hlength : t.visits.length ≤ (m.zip current.stops).length := by
    simp [hm, hcurrent]
  rw [Propagation.slots, List.map_map]
  exact List.map_fst_zip hlength

/-- Stop by stop, the pass leaves the scheduled passage of the trip. -/
theorem scheduled_of_pass {setting : Propagation.Setting} {position : Nat}
    {carry : Propagation.Carry} {stops : List StopRecord}
    (hcurrent : current.stops.length = t.visits.length)
    (hpass : Propagation.pass setting position carry
      (Propagation.slots t (t.matching journey lookup) current) = .ok stops) :
    stops.map (·.scheduled) = t.visits.map (·.passage) := by
  rw [← scheduled_slots (length_matching t journey lookup) hcurrent, List.map_map,
    Lists.map_eq_map_iff_forall₂]
  refine (Propagation.pass_stops hpass).flip.imp fun stop slot hstop => ?_
  rw [hstop, Propagation.stopOf_scheduled]
  rfl

theorem sound_propagate (hcurrent : current.stops.length = t.visits.length)
    (h : t.propagate current journey lookup zone = .ok r) : t.Sound r := by
  obtain ⟨-, stops, hpass, rfl, held, inOrder⟩ := propagate_eq_ok_iff.mp h
  exact ⟨rfl, rfl, scheduled_of_pass hcurrent hpass, held, inOrder⟩

theorem sound_afterJourney (h : t.Sound current)
    (made : t.afterJourney current journey lookup zone = .ok r) : t.Sound r := by
  obtain ⟨⟨-, hlength⟩, -, ⟨-, rfl⟩ | ⟨-, hrun⟩⟩ := afterJourney_eq_ok_iff.mp made
  · exact h.cancel
  · exact sound_propagate hlength hrun

/-- A report does not check delays, and need not: none that it gives is larger than one that was
held, or else it is the one reported. -/
theorem sound_afterReport (h : t.Sound current)
    (made : t.afterReport current report lookup = .ok r) : t.Sound r := by
  obtain ⟨-, anchor, -, stops, hstops, inOrder, rfl⟩ := afterReport_eq_ok_iff.mp made
  obtain ⟨hsame, hdelay⟩ := VehicleReport.stops_of_withDelays VehicleReport.length_delays hstops
  refine ⟨h.tripId, h.serviceCode, ?_, ?_, inOrder⟩
  · rw [← h.scheduled, Lists.map_eq_map_iff_forall₂]
    exact hsame.flip.imp fun s' s hs => by rw [hs]
  · intro s hs
    have hmem : s.delay ∈ stops.map (·.delay) := List.mem_map_of_mem hs
    rw [hdelay] at hmem
    exact VehicleReport.held_of_mem_delays report.delaySeconds.held h.held hmem

/-! ## Messages -/

variable {schedule : Schedule} {m : Message}

/-- **Every message keeps records sound.** -/
theorem sound_afterMessage (h : t.Sound current)
    (made : t.afterMessage schedule current m = .ok r) : t.Sound r := by
  cases m with
  | journey date journey => exact sound_afterJourney h made
  | report date report => exact sound_afterReport h (Outcome.mapError_eq_ok.mp made)

/-- **No message leaves the state of a record scheduled.** -/
theorem live_afterMessage (made : t.afterMessage schedule current m = .ok r) : r.state.Live := by
  cases m with
  | journey date journey =>
    obtain ⟨-, -, ⟨-, rfl⟩ | ⟨-, hrun⟩⟩ := afterJourney_eq_ok_iff.mp made
    · exact Or.inr (Or.inr rfl)
    · obtain ⟨-, stops, -, rfl, -⟩ := propagate_eq_ok_iff.mp hrun
      simp only [stateAfter]
      split
      · exact Or.inl rfl
      · exact Or.inr (Or.inl rfl)
  | report date report =>
    obtain ⟨-, anchor, -, stops, -, -, rfl⟩ := afterReport_eq_ok_iff.mp (Outcome.mapError_eq_ok.mp made)
    simp only
    split
    · exact Or.inr (Or.inl rfl)
    · exact Or.inl rfl

end Timetable

end LiveTimetable
