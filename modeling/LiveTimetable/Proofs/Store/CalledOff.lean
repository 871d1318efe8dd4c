import LiveTimetable.Proofs.Store.Board

/-!
# Visits that are called off

A feed may cancel a trip, a call of it, or only the departure of a call. A board that leaves out what
is off then shows no departure there, at whatever stop it is asked for: `Store.departures_calledOff`.
A cancelled trip is off by its state, a cancelled call by its flag and its rules, and a cancelled
departure by the rule for getting on.

A cancelled departure is a status, and an activity that the same call reports for its departure
counts for more: where passengers are told to get on, or that they may not, the visit is as the
activity says and stays on the board. So a cancelled departure alone does not keep a visit off it
(`Store.departures_calledOff_readmitted`).
-/

namespace LiveTimetable

/-- The departure is cancelled by its status, and no activity says otherwise. -/
def EstimatedCall.departureOff (c : EstimatedCall) : Bool :=
  c.departureCancelled && c.departureActivity.all (· = .passedThrough)

/-- The call says that nobody gets on: it is cancelled, or its departure is. -/
def MatchedCall.callsOff : MatchedCall → Bool
  | recorded _ call => call.isCancelled
  | estimated _ call => call.isCancelled || call.departureOff

/-! ## Rules for getting on -/

/-- What an activity leaves of a side that is cancelled. -/
theorem Visit.ruleAfter_cancelled (rule : BoardingRule) (activity : Option Activity) :
    ruleAfter rule true activity =
      match activity with
      | some .allowed => .scheduled
      | some .refused => .notOffered
      | _ => .cancelled := by
  cases activity with
  | none => rfl
  | some a => cases a <;> rfl

/-- Nobody gets on where the call that a visit was matched with has called it off. -/
theorem Visit.pickup_of_callsOff (v : Visit) {found : Match} (off : found.call.callsOff) :
    (v.revised found).pickup = .cancelled := by
  obtain ⟨call, serving⟩ := found
  cases call with
  | recorded index call =>
    have cancelled : call.isCancelled := off
    simp [revised, afterRecorded, cancelled, cancel]
  | estimated index call =>
    by_cases cancelled : call.isCancelled
    · simp [revised, afterEstimated, cancelled, cancel]
    · have status : call.departureOff := by simpa [MatchedCall.callsOff, cancelled] using off
      simp only [EstimatedCall.departureOff, Bool.and_eq_true] at status
      simp only [revised, afterEstimated, cancelled, Bool.false_eq_true, if_false, status.1,
        ruleAfter_cancelled]
      cases activity : call.departureActivity with
      | none => rfl
      | some a =>
        rw [activity] at status
        simp only [Option.all_some, decide_eq_true_eq] at status
        rw [status.2]

/-- **A cancelled departure stays open to what its activity says**, unless the call is cancelled. -/
theorem Visit.pickup_of_outweighed (v : Visit) {index : Nat} {call : EstimatedCall}
    {serving : Serving} (status : call.departureCancelled)
    (on : ¬ (MatchedCall.estimated index call).callsOff) :
    (v.revised ⟨.estimated index call, serving⟩).pickup ≠ .cancelled := by
  simp only [MatchedCall.callsOff, EstimatedCall.departureOff, status, Bool.true_and,
    Bool.or_eq_true, not_or, Bool.not_eq_true] at on
  obtain ⟨runs, activity⟩ := on
  simp only [revised, afterEstimated, runs, Bool.false_eq_true, if_false, status,
    ruleAfter_cancelled]
  cases h : call.departureActivity with
  | none => simp [h] at activity
  | some a => cases a <;> simp_all

/-! ## Boards -/

/-- The query that leaves out what is off, and nothing else. -/
def BoardQuery.running : BoardQuery := ⟨false, false, none⟩

/-- What is off is not shown, unless it is asked for. -/
theorem BoardQuery.not_shows_of_isOff {q : BoardQuery} (running : ¬ q.includeCancelled)
    {state : RealTimeState} {stop : StopRecord} (off : stop.isOff state) :
    ¬ q.shows state stop := by
  simp [shows, running, off]

namespace Store

variable {schedule : Schedule} {writes : List Write} {date : Date} {journey : Journey} {s : Store}
  {r : TripRecord} {t : Timetable}

/-- A row of a trip tells of the record that a message has just published for it. -/
theorem stop_of_row {m : Message} {before : Store} (taken : before.apply m = .ok (s, r))
    {stopId : String} {row : Departure} (tells : row.Tells s stopId) (own : row.key = m.key) :
    row.state = r.state ∧ r.stops[row.position]? = some row.stop := by
  obtain ⟨r', inEffect, state, stop⟩ := tells.record
  rw [own, inEffect?_of_apply taken] at inEffect
  cases inEffect
  exact ⟨state, stop⟩

end Store

namespace Timetable

variable {t : Timetable} {current r : TripRecord} {journey : Journey} {lookup : StopLookup}
  {zone : Zone} {position : Nat} {stop : StopRecord} {found : Match}

/-- A visit that its call has called off is off in the record, whatever the timetable says. -/
theorem isOff_of_propagate (made : t.propagate current journey lookup zone = .ok r)
    (hstop : r.stops[position]? = some stop)
    (hfound : (t.matching journey lookup)[position]? = some (some found))
    (off : found.call.callsOff) (state : RealTimeState) : stop.isOff state := by
  obtain ⟨v, found', old, -, hfound', -, hmade⟩ := stop_of_propagate made hstop
  cases hfound.symm.trans hfound'
  have pickup : stop.visit.pickup = .cancelled := by
    rw [hmade, Propagation.stopOf_visit]
    exact v.visit.pickup_of_callsOff off
  simp [StopRecord.isOff, pickup]

/-- A visit whose departure status is outweighed is not off. -/
theorem not_isOff_of_propagate {index : Nat} {call : EstimatedCall} {serving : Serving}
    (made : t.propagate current journey lookup zone = .ok r)
    (hstop : r.stops[position]? = some stop)
    (hfound : (t.matching journey lookup)[position]? =
      some (some ⟨.estimated index call, serving⟩))
    (status : call.departureCancelled) (on : ¬ (MatchedCall.estimated index call).callsOff) :
    ¬ stop.isOff r.state := by
  obtain ⟨v, found', old, -, hfound', -, hmade⟩ := stop_of_propagate made hstop
  cases hfound.symm.trans hfound'
  have state : r.state ≠ .canceled := by
    obtain ⟨-, stops, -, rfl, -⟩ := propagate_eq_ok_iff.mp made
    simp only [stateAfter]
    split <;> simp
  have pickup : stop.visit.pickup ≠ .cancelled := by
    rw [hmade, Propagation.stopOf_visit]
    exact v.visit.pickup_of_outweighed status on
  have flag : stop.cancelled = false := by
    rw [hmade]
    simp only [MatchedCall.callsOff, Bool.or_eq_true, not_or, Bool.not_eq_true] at on
    exact on.1
  simp [StopRecord.isOff, state, pickup, flag]

end Timetable

namespace Store

variable {schedule : Schedule} {writes : List Write} {date : Date} {journey : Journey} {s : Store}
  {r : TripRecord} {t : Timetable}

/-- A row for the trip of a journey, where what is off is left out, is for a visit that the journey
has not called off. -/
theorem not_callsOff_of_row (trip : schedule.trip? journey.tripRef = some t)
    (taken : ((empty schedule).run writes).applyJourney date journey = .ok (s, r)) {stopId : String}
    {q : BoardQuery} {rows : List Departure} {row : Departure} (running : ¬ q.includeCancelled)
    (hrows : s.departures stopId date q = .ok rows) (hrow : row ∈ rows)
    (own : row.key.tripId = journey.tripRef) :
    ¬ journey.isCancellation ∧
      ∀ found, (t.matching journey schedule.stop?)[row.position]? = some (some found) →
        ¬ found.call.callsOff := by
  obtain ⟨current, -, made⟩ := made_of_applyJourney trip taken
  obtain ⟨onDate, tells, shown⟩ := tells_of_mem_departures hrows hrow
  have key : row.key = ⟨journey.tripRef, date⟩ := by rw [← own, ← onDate]
  obtain ⟨state, hstop⟩ := stop_of_row (m := .journey date journey) taken tells key
  rcases made with ⟨-, rfl⟩ | ⟨runs, made⟩
  · -- the trip is off at every stop
    have off : row.stop.isOff row.state := by simp [StopRecord.isOff, state, TripRecord.cancel]
    exact absurd shown (BoardQuery.not_shows_of_isOff running off)
  · refine ⟨runs, fun found hfound off => ?_⟩
    exact BoardQuery.not_shows_of_isOff running
      (Timetable.isOff_of_propagate made hstop hfound off _) shown

/-- A visit whose departure status is outweighed is on the board of its stop. -/
theorem exists_row_of_outweighed (coherent : schedule.Coherent)
    (trip : schedule.trip? journey.tripRef = some t)
    (taken : ((empty schedule).run writes).applyJourney date journey = .ok (s, r))
    (runs : ¬ journey.isCancellation) {position index : Nat} {call : EstimatedCall}
    {serving : Serving}
    (hfound : (t.matching journey schedule.stop?)[position]? =
      some (some ⟨.estimated index call, serving⟩))
    (status : call.departureCancelled) (on : ¬ (MatchedCall.estimated index call).callsOff) :
    ∃ stop, r.stops[position]? = some stop ∧
      ∀ rows, s.departures stop.visit.stop.id date .running = .ok rows →
        ∃ row ∈ rows, row.key = ⟨journey.tripRef, date⟩ ∧ row.position = position := by
  obtain ⟨current, sound, made⟩ := made_of_applyJourney trip taken
  have made := (made.resolve_left fun canceled => runs canceled.1).2
  have length := (Timetable.sound_propagate sound.length_stops made).length_stops
  obtain ⟨hposition, -⟩ := List.getElem?_eq_some_iff.mp hfound
  rw [Timetable.length_matching, ← length] at hposition
  have hstop := List.getElem?_eq_getElem hposition
  refine ⟨_, hstop, fun rows hrows => ?_⟩
  have shown : BoardQuery.running.shows r.state r.stops[position] := by
    have := Timetable.not_isOff_of_propagate made hstop hfound status on
    simpa [BoardQuery.shows, BoardQuery.running] using this
  obtain ⟨row, hrow, key, at_position, -⟩ := exists_row_of_departures rfl hrows
    (mem_candidates_of_apply (m := .journey date journey) coherent taken hstop)
    (inEffect?_of_apply (m := .journey date journey) taken) hstop rfl shown
  exact ⟨row, hrow, key, at_position⟩

/-- **What a journey has called off is on no board that leaves out what is off**: no visit of a trip
that it cancels, and no visit whose call is cancelled, or whose departure is by a status that no
activity outweighs. Where one does, the visit is on the board of its stop. -/
theorem departures_calledOff (trip : schedule.trip? journey.tripRef = some t)
    (taken : ((empty schedule).run writes).applyJourney date journey = .ok (s, r)) :
    (∀ stopId q rows, ¬ q.includeCancelled → s.departures stopId date q = .ok rows →
      ∀ row ∈ rows, row.key.tripId = journey.tripRef →
        ¬ journey.isCancellation ∧
          ∀ found, (t.matching journey schedule.stop?)[row.position]? = some (some found) →
            ¬ found.call.callsOff) ∧
    (date.Inner → ∀ stopId q, ∃ rows, s.departures stopId date q = .ok rows) ∧
    ∀ (position index : Nat) (call : EstimatedCall) (serving : Serving),
      schedule.Coherent → ¬ journey.isCancellation →
      (t.matching journey schedule.stop?)[position]? =
        some (some ⟨.estimated index call, serving⟩) →
      call.departureCancelled → ¬ (MatchedCall.estimated index call).callsOff →
      ∃ stop, r.stops[position]? = some stop ∧
        ∀ rows, s.departures stop.visit.stop.id date .running = .ok rows →
          ∃ row ∈ rows, row.key = ⟨journey.tripRef, date⟩ ∧ row.position = position := by
  refine ⟨fun stopId q rows running hrows row hrow own => ?_, fun inner stopId q => ?_,
    fun position index call serving coherent runs hfound status on => ?_⟩
  · exact not_callsOff_of_row trip taken running hrows hrow own
  · exact departures_of_inner s stopId q inner
  · exact exists_row_of_outweighed coherent trip taken runs hfound status on

end Store

/-! ## A platform that is closed -/

namespace Sample

/-- A call that the vehicle was to have made. -/
def skipped : RecordedCall := ⟨"A", some true, ⟨none, clock 8 0⟩, ⟨none, none⟩, ⟨none, none⟩⟩

/-- A call whose departure is cancelled, with an activity that may say otherwise. -/
def closedAt (stop : String) (departure : Option Instant) (activity : Option Activity) :
    EstimatedCall :=
  ⟨stop, none, none, ⟨none, departure⟩, ⟨none, none⟩, none, some .cancelled, none, activity, []⟩

/-- The trip skips its first stop, lets nobody get on at the next, and at the last says both that its
departure is cancelled and that passengers get on. -/
def closing : Journey where
  tripRef := "t"
  line := none
  cancellation := none
  inaccuracy := none
  recorded := [skipped]
  estimated := [closedAt "B1" (clock 8 6) none, closedAt "C" (clock 8 11) (some .allowed)]

end Sample

namespace Store

/-- The trip is on the board of its last stop only. -/
theorem departures_calledOff_closing :
    ∃ s r a b c, Sample.schedule.trip? "t" = some Sample.timetable ∧
      ((empty Sample.schedule).run []).applyJourney Sample.date Sample.closing = .ok (s, r) ∧
      s.departures "A" Sample.date .running = .ok a ∧
      (∀ row ∈ a, row.key.tripId = "t" → row.position ≠ 0) ∧
      s.departures "B1" Sample.date .running = .ok b ∧
      (∀ row ∈ b, row.key.tripId = "t" → row.position ≠ 1) ∧
      s.departures "C" Sample.date .running = .ok c ∧
      ∃ row ∈ c, row.key = ⟨"t", Sample.date⟩ ∧ row.position = 2 := by
  have trip : Sample.schedule.trip? "t" = some Sample.timetable := (Option.some_get _).symm
  have coherent := Schedule.ofFile_coherent (show Schedule.ofFile Sample.feed .utc =
    .ok Sample.schedule by rfl)
  obtain ⟨⟨s, r⟩, taken⟩ : ∃ result, ((empty Sample.schedule).run []).applyJourney
      Sample.date Sample.closing = .ok result := ⟨_, rfl⟩
  obtain ⟨off, found, on⟩ := departures_calledOff trip taken
  have board := found (by decide)
  obtain ⟨a, ha⟩ := board "A" .running
  obtain ⟨b, hb⟩ := board "B1" .running
  obtain ⟨c, hc⟩ := board "C" .running
  refine ⟨s, r, a, b, c, trip, taken, ha, ?_, hb, ?_, hc, ?_⟩
  · intro row hrow own first
    refine (off "A" .running a (by decide) ha row hrow own).2
      ⟨.recorded 0 Sample.skipped, .itself⟩ ?_ (by decide)
    rw [first]
    decide
  · intro row hrow own second
    refine (off "B1" .running b (by decide) hb row hrow own).2
      ⟨.estimated 0 (Sample.closedAt "B1" (Sample.clock 8 6) none), .itself⟩ ?_ (by decide)
    rw [second]
    decide
  · obtain ⟨stop, hstop, rows⟩ := on 2 1
      (Sample.closedAt "C" (Sample.clock 8 11) (some .allowed)) .itself coherent (by decide)
      (by decide) (by decide) (by decide)
    have here : stop.visit.stop.id = "C" := by
      have last : (r.stops[2]?).map (·.visit.stop.id) = some "C" := by
        cases taken
        decide
      rw [hstop] at last
      exact Option.some.inj last
    rw [here] at rows
    exact rows c hc

/-- **A cancelled departure can stay on the board**: an activity of the same call lets passengers get
on, and its trip is shown at the stop. -/
theorem departures_calledOff_readmitted :
    ¬ ∀ (file : ScheduleFile) (zone : Zone) (schedule : Schedule) (writes : List Write) (date : Date)
      (journey : Journey) (s : Store) (r : TripRecord) (t : Timetable) (found : Match)
      (stopId : String) (q : BoardQuery) (rows : List Departure) (row : Departure),
      Schedule.ofFile file zone = .ok schedule →
      schedule.trip? journey.tripRef = some t →
      ((empty schedule).run writes).applyJourney date journey = .ok (s, r) →
      (t.matching journey schedule.stop?)[row.position]? = some (some found) →
      (found.call.isCancelled ∨ ∃ index call, found.call = .estimated index call ∧
        call.departureCancelled) →
      ¬ q.includeCancelled → s.departures stopId date q = .ok rows → row ∈ rows →
      row.key.tripId ≠ journey.tripRef := by
  intro claim
  have built : Schedule.ofFile Sample.feed .utc = .ok Sample.schedule := by rfl
  have trip : Sample.schedule.trip? "t" = some Sample.timetable := (Option.some_get _).symm
  obtain ⟨⟨s, r⟩, taken⟩ : ∃ result, ((empty Sample.schedule).run []).applyJourney
      Sample.date Sample.closing = .ok result := ⟨_, rfl⟩
  have hfound : (Sample.timetable.matching Sample.closing Sample.schedule.stop?)[2]? = some (some
      ⟨.estimated 1 (Sample.closedAt "C" (Sample.clock 8 11) (some .allowed)), .itself⟩) := by decide
  obtain ⟨stop, -, listed⟩ := exists_row_of_outweighed (Schedule.ofFile_coherent built) trip taken
    (by decide) hfound (by decide) (by decide)
  obtain ⟨rows, hrows⟩ := departures_of_inner s stop.visit.stop.id .running
    (show Sample.date.Inner by decide)
  obtain ⟨row, hrow, own, last⟩ := listed rows hrows
  rw [← last] at hfound
  exact claim _ _ _ _ _ _ s r _ _ _ .running rows row built trip taken hfound
    (.inr ⟨_, _, rfl, by decide⟩) (by decide) hrows hrow (by rw [own])

end Store

end LiveTimetable
