import LiveTimetable.Proofs.Update.Journey
import LiveTimetable.Update.Anchor

/-!
# What a vehicle report makes of a record

A report gives each stop a delay and nothing else. The lemmas here say which delays these are
(`held_of_mem_delays`) and what a record looks like that came out of a report
(`afterReport_eq_ok_iff`): its stops are those of the record before, each with its new passage.
-/

namespace LiveTimetable

namespace VehicleReport

variable {anchor : String} {delay : Int} {lookup : StopLookup} {stops : List StopRecord}

@[simp] theorem length_delays : (delays anchor delay lookup stops).length = stops.length := by
  induction stops with
  | nil => rfl
  | cons s rest ih =>
    unfold delays
    split
    · simp
    · simp [ih]

/-- The smaller of two held delays is held. -/
theorem held_atMost {d : Delay} (hd : d.Held) (hdelay : Seconds.Held delay) :
    (d.atMost delay).Held := by
  simp only [Delay.Held, Delay.atMost, Seconds.Held] at *
  omega

/-- A report of a held delay gives no stop a delay that is not held. -/
theorem held_of_mem_delays (hdelay : Seconds.Held delay) (hstops : ∀ s ∈ stops, s.delay.Held)
    {d : Delay} (hd : d ∈ delays anchor delay lookup stops) : d.Held := by
  induction stops with
  | nil => cases hd
  | cons s rest ih =>
    unfold delays at hd
    split at hd
    next =>
      obtain ⟨_, -, rfl⟩ := List.mem_map.mp hd
      exact ⟨hdelay, hdelay⟩
    next =>
      rcases List.mem_cons.mp hd with rfl | hd
      · exact held_atMost (hstops s List.mem_cons_self) hdelay
      · exact ih (fun s hs => hstops s (List.mem_cons_of_mem _ hs)) hd

theorem withDelays_eq_ok_iff {given : List (StopRecord × Delay)} :
    withDelays given = .ok stops ↔
      List.Forall₂ (fun g s => g.1.withDelay? g.2 = some s) given stops := by
  induction given generalizing stops with
  | nil => simp [withDelays, eq_comm]
  | cons g rest ih =>
    obtain ⟨s, d⟩ := g
    simp only [withDelays, List.forall₂_cons_left_iff]
    cases hs : s.withDelay? d with
    | none => simp
    | some s' =>
      simp only [Outcome.mapError_eq_ok, Outcome.map_eq_ok, ih, Option.some.injEq]
      constructor
      · intro h
        obtain ⟨tail, htail, rfl⟩ := h
        exact ⟨s', tail, rfl, htail, rfl⟩
      · intro h
        obtain ⟨_, tail, rfl, htail, rfl⟩ := h
        exact ⟨tail, htail, rfl⟩

/-- **Stops with new delays** are the stops that they were, each with just the delay given. -/
theorem stops_of_withDelays {delays : List Delay} {stops' : List StopRecord}
    (hlength : delays.length = stops.length) (h : withDelays (stops.zip delays) = .ok stops') :
    List.Forall₂ (fun s s' => s' = { s with passage := s'.passage }) stops stops' ∧
      stops'.map (·.delay) = delays := by
  rw [withDelays_eq_ok_iff] at h
  induction stops generalizing delays stops' with
  | nil =>
    cases List.length_eq_zero_iff.mp hlength
    cases h
    exact ⟨.nil, rfl⟩
  | cons s rest ih =>
    cases delays with
    | nil => cases hlength
    | cons d ds =>
      cases h with
      | cons hs hrest =>
        obtain ⟨hsame, hdelay⟩ := StopRecord.withDelay?_eq_some_iff.mp hs
        obtain ⟨hsames, hdelays⟩ := ih (Nat.succ.inj hlength) hrest
        exact ⟨.cons hsame hsames, by rw [List.map_cons, hdelay, hdelays]⟩

/-- Stops that differ in their passages alone are those with the new delays. -/
theorem withDelays_of_stops {stops' : List StopRecord}
    (same : List.Forall₂ (fun s s' => s' = { s with passage := s'.passage }) stops stops') :
    withDelays (stops.zip (stops'.map (·.delay))) = .ok stops' := by
  rw [withDelays_eq_ok_iff]
  induction same with
  | nil => exact .nil
  | cons hs _ ih => exact .cons (StopRecord.withDelay?_eq_some_iff.mpr ⟨hs, rfl⟩) ih

end VehicleReport

namespace Timetable

variable {t : Timetable} {current r : TripRecord} {report : VehicleReport} {lookup : StopLookup}

/-- **What a report makes of a record of its trip**: the same record with new passages, taken up
again if it was canceled. -/
theorem afterReport_eq_ok_iff :
    t.afterReport current report lookup = .ok r ↔
      (current.tripId = t.tripId ∧ current.stops.length = t.visits.length) ∧
        ∃ anchor, report.anchor? = some anchor ∧ ∃ stops,
          VehicleReport.withDelays (current.stops.zip
            (VehicleReport.delays anchor report.delaySeconds.val lookup current.stops)) = .ok stops ∧
          ({ current with stops } : TripRecord).firstDisorder? = none ∧
          r = { current with
            stops := stops
            state := if current.state = .modified then .modified else .updated } := by
  simp only [afterReport, Outcome.bind_eq_ok]
  constructor
  · intro h
    obtain ⟨⟨⟩, hcheck, hrest⟩ := h
    refine ⟨checkRecord_eq_ok_iff.mp hcheck, ?_⟩
    split at hrest
    next => cases hrest
    next anchor hanchor =>
      simp only [Outcome.bind_eq_ok, Outcome.mapError_eq_ok,
        TripRecord.checkOrder_eq_ok_iff] at hrest
      obtain ⟨stops, hstops, _, ⟨horder, rfl⟩, hret⟩ := hrest
      cases hret
      exact ⟨anchor, hanchor, stops, hstops, horder, rfl⟩
  · intro h
    obtain ⟨hcheck, anchor, hanchor, stops, hstops, horder, rfl⟩ := h
    refine ⟨(), checkRecord_eq_ok_iff.mpr hcheck, ?_⟩
    simp only [hanchor, Outcome.bind_eq_ok, Outcome.mapError_eq_ok, TripRecord.checkOrder_eq_ok_iff]
    exact ⟨stops, hstops, _, ⟨horder, rfl⟩, rfl⟩

/-- Each stop of the record is the one before with a passage of its own. -/
theorem stop_of_afterReport (h : t.afterReport current report lookup = .ok r) {i : Nat}
    {stop : StopRecord} (hi : r.stops[i]? = some stop) :
    ∃ old, current.stops[i]? = some old ∧ stop = { old with passage := stop.passage } := by
  obtain ⟨-, anchor, -, stops, hstops, -, rfl⟩ := afterReport_eq_ok_iff.mp h
  have hsame := (VehicleReport.stops_of_withDelays VehicleReport.length_delays hstops).1
  obtain ⟨hlt, rfl⟩ := List.getElem?_eq_some_iff.mp hi
  have hold : i < current.stops.length := by rwa [hsame.length_eq]
  exact ⟨current.stops[i], List.getElem?_eq_getElem hold, hsame.get hold hlt⟩

end Timetable

end LiveTimetable
