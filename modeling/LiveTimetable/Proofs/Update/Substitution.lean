import LiveTimetable.Proofs.Timetable.Schedule
import LiveTimetable.Proofs.Update.Matching
import LiveTimetable.Proofs.Update.Soundness

/-!
# Where a record calls

A journey may move a visit to another platform. Whatever messages a trip was given, the stop in
its record stands for the scheduled one at the same position: it is that stop, or a stop that the
schedule knows in the same station (`Timetable.servesStops_afterMessage`). A journey decides this
anew from the timetable, so moves do not add up: a visit never drifts from station to station.
-/

namespace LiveTimetable

/-- A call leaves a visit where it was, or moves it to the substitute of its match. -/
theorem Visit.stop_after (v : Visit) (found : Option Match) :
    (v.after found).stop = (found.bind (·.serving.substitute?)).getD v.stop := by
  have served : ∀ serving, (v.servedBy serving).stop = serving.substitute?.getD v.stop := by
    intro serving
    cases serving <;> rfl
  cases found with
  | none => rfl
  | some found =>
    obtain ⟨call, serving⟩ := found
    rw [Option.bind_some, ← served]
    cases call with
    | recorded index call =>
      simp only [after, revised, afterRecorded]
      split <;> rfl
    | estimated index call =>
      simp only [after, revised, afterEstimated]
      split <;> rfl

namespace Timetable

/-- **Every stop of the record stands for the scheduled one.** -/
def ServesStops (t : Timetable) (lookup : StopLookup) (r : TripRecord) : Prop :=
  ∀ (i : Nat) (stop : StopRecord), r.stops[i]? = some stop →
    ∃ v, t.visits[i]? = some v ∧ stop.visit.stop.StandsFor v.visit.stop lookup

variable {t : Timetable} {r current : TripRecord} {schedule : Schedule} {m : Message}
  {lookup : StopLookup}

theorem servesStops_record (t : Timetable) (lookup : StopLookup) : t.ServesStops lookup t.record := by
  intro i stop hi
  simp only [record, List.getElem?_map, Option.map_eq_some_iff] at hi
  obtain ⟨v, hv, rfl⟩ := hi
  exact ⟨v, hv, Stop.standsFor_self ..⟩

/-- The stop that a matching leaves at a position. -/
theorem standsFor_after (ids : ∀ {id stop}, lookup id = some stop → stop.id = id)
    {journey : Journey} {i : Nat} {v : TimedVisit} {found : Option Match}
    (hv : t.visits[i]? = some v) (hfound : (t.matching journey lookup)[i]? = some found) :
    (v.visit.after found).stop.StandsFor v.visit.stop lookup := by
  rw [Visit.stop_after]
  cases found with
  | none => exact Stop.standsFor_self ..
  | some m =>
    obtain ⟨visit, hvisit, hserves⟩ := Matching.serves_along hfound
    rw [pattern, List.getElem?_map, hv] at hvisit
    cases hvisit
    unfold Match.Serves at hserves
    cases hserving : m.serving with
    | itself =>
      simp only [Option.bind_some, hserving]
      exact Stop.standsFor_self ..
    | substitute other =>
      rw [hserving] at hserves
      simp only [Option.bind_some, hserving]
      exact Stop.standsFor_of_serving ids hserves

theorem servesStops_propagate (ids : ∀ {id stop}, lookup id = some stop → stop.id = id)
    {journey : Journey} {zone : Zone} (h : t.propagate current journey lookup zone = .ok r) :
    t.ServesStops lookup r := by
  intro i stop hi
  obtain ⟨v, found, old, hv, hfound, -, hstop⟩ := stop_of_propagate h hi
  refine ⟨v, hv, ?_⟩
  rw [hstop, Propagation.stopOf_visit]
  exact standsFor_after ids hv hfound

/-- **No message moves a visit out of its station.** -/
theorem servesStops_afterMessage (coherent : schedule.Coherent)
    (h : t.ServesStops schedule.stop? current)
    (made : t.afterMessage schedule current m = .ok r) : t.ServesStops schedule.stop? r := by
  cases m with
  | journey date journey =>
    obtain ⟨-, -, ⟨-, rfl⟩ | ⟨-, hrun⟩⟩ := afterJourney_eq_ok_iff.mp made
    · exact h
    · exact servesStops_propagate coherent.stop_id hrun
  | report date report =>
    intro i stop hi
    obtain ⟨old, hold, hstop⟩ := stop_of_afterReport (Outcome.mapError_eq_ok.mp made) hi
    obtain ⟨v, hv, hstands⟩ := h i old hold
    exact ⟨v, hv, by rw [hstop]; exact hstands⟩

end Timetable

end LiveTimetable
