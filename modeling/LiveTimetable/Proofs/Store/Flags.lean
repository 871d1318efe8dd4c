import LiveTimetable.Proofs.Store.Published

/-!
# Flags and rules of a stop

Three flags of a stop say what is known of the call there: that the vehicle was observed, that the
call is cancelled, that its prediction is not vouched for. A journey that runs sets them anew, each
from the call that the stop was matched with (`StopRecord.FlagsTold`), and clears them at stops
without a call. The same call revises the rules of the visit. A report and a cancellation of the
trip keep flags and rules as they are.

So what a flag says and what the rules say never part (`StopRecord.FlagsAgree`): nobody gets on or
off where the call is cancelled, and what was observed is not a prediction. Main statement:
`Store.flags_told`, for every record in effect after any run.
-/

namespace LiveTimetable

/-- What a call says of its own cancellation. -/
def MatchedCall.cancellation? : MatchedCall → Option Bool
  | recorded _ call => call.cancellation
  | estimated _ call => call.cancellation

namespace StopRecord

/-- **The flags tell of the call** that a stop was matched with in a journey, and nothing where it
was matched with none. -/
structure FlagsTold (stop : StopRecord) (journey : Journey) (found : Option Match) : Prop where
  /-- A call that was made, with a time that was observed. -/
  recorded : stop.recorded ↔ ∃ index call serving,
    found = some ⟨.recorded index call, serving⟩ ∧
      (call.actual.arrival.isSome ∨ call.actual.departure.isSome)
  /-- A call yet to be made, where the journey or the call is said to be inaccurate. -/
  inaccurate : stop.inaccurate ↔ ∃ index call serving,
    found = some ⟨.estimated index call, serving⟩ ∧
      (journey.inaccuracy = some true ∨ call.inaccuracy = some true)
  cancelled : stop.cancelled ↔ ∃ call serving,
    found = some ⟨call, serving⟩ ∧ call.cancellation? = some true

/-- **The flags agree with the rules** of the visit, and with one another. -/
structure FlagsAgree (stop : StopRecord) : Prop where
  closed : stop.cancelled → stop.visit.pickup = .cancelled ∧ stop.visit.dropOff = .cancelled
  apart : ¬ (stop.recorded ∧ stop.inaccurate)

/-- Without flags there is nothing to agree on. -/
theorem flagsAgree_ofTimetable (visit : Visit) (passage : Passage) :
    (ofTimetable visit passage).FlagsAgree where
  closed cancelled := by cases cancelled
  apart h := by cases h.1

end StopRecord

/-! ## One stop -/

theorem RecordedCall.wasObserved_iff {call : RecordedCall} :
    call.wasObserved ↔ call.actual.arrival.isSome ∨ call.actual.departure.isSome := by
  unfold wasObserved CallTimes.either
  cases call.actual.departure with
  | none => simp
  | some t => simp

/-- A call is cancelled just when it says so. -/
theorem MatchedCall.isCancelled_iff {call : MatchedCall} :
    call.isCancelled ↔ call.cancellation? = some true := by
  cases call <;> exact Option.getD_eq_iff.trans (by simp [cancellation?])

/-- A visit whose call is cancelled is closed for getting on and off, whatever else the call says. -/
theorem Visit.closed_of_isCancelled (v : Visit) {found : Match} (cancelled : found.call.isCancelled) :
    (v.revised found).pickup = .cancelled ∧ (v.revised found).dropOff = .cancelled := by
  obtain ⟨call, serving⟩ := found
  cases call with
  | recorded index call =>
    have cancelled : call.isCancelled := cancelled
    simp [revised, afterRecorded, cancelled, cancel]
  | estimated index call =>
    have cancelled : call.isCancelled := cancelled
    simp [revised, afterEstimated, cancelled, cancel]

namespace Propagation

variable (s : Setting) (slot : Slot) (passage : Passage)

/-- **The pass sets the flags of a stop by its call.** -/
theorem flagsTold_stopOf : (stopOf s slot passage).FlagsTold s.journey slot.found := by
  unfold stopOf
  cases slot.found with
  | none => constructor <;> simp [StopRecord.ofTimetable]
  | some found =>
    obtain ⟨call, serving⟩ := found
    have cancelled := call.isCancelled_iff
    cases call with
    | recorded index call =>
      constructor
      · simp [stopWith, RecordedCall.wasObserved_iff]
      · simp [stopWith]
      · simpa [stopWith] using cancelled
    | estimated index call =>
      constructor
      · simp [stopWith]
      · simp [stopWith, Journey.isInaccurate, EstimatedCall.isInaccurate, Option.getD_eq_iff]
      · simpa [stopWith] using cancelled

/-- The flags and the rules that the pass gives a stop agree, since both are those of one call. -/
theorem flagsAgree_stopOf : (stopOf s slot passage).FlagsAgree := by
  have told := flagsTold_stopOf s slot passage
  constructor
  · intro cancelled
    obtain ⟨call, serving, matched, off⟩ := told.cancelled.mp cancelled
    rw [stopOf_visit, matched]
    exact slot.scheduled.visit.closed_of_isCancelled (MatchedCall.isCancelled_iff.mpr off)
  · rintro ⟨recorded, inaccurate⟩
    obtain ⟨_, _, _, made, -⟩ := told.recorded.mp recorded
    obtain ⟨_, _, _, predicted, -⟩ := told.inaccurate.mp inaccurate
    cases made.symm.trans predicted

end Propagation

/-! ## One update -/

namespace Timetable

variable {t : Timetable} {current r : TripRecord} {journey : Journey} {lookup : StopLookup}
  {zone : Zone} {schedule : Schedule} {m : Message}

/-- A journey that runs leaves no flag of the record before. -/
theorem flagsTold_propagate (made : t.propagate current journey lookup zone = .ok r) {position : Nat}
    {stop : StopRecord} (hstop : r.stops[position]? = some stop) :
    ∃ found, (t.matching journey lookup)[position]? = some found ∧ stop.FlagsTold journey found := by
  obtain ⟨v, found, old, -, hfound, -, hmade⟩ := stop_of_propagate made hstop
  refine ⟨found, hfound, ?_⟩
  rw [hmade]
  exact Propagation.flagsTold_stopOf ..

/-- **Every message keeps flags and rules in agreement**: a journey makes both, and the other two
kinds of update change neither. -/
theorem flagsAgree_afterMessage (agree : ∀ stop ∈ current.stops, stop.FlagsAgree)
    (made : t.afterMessage schedule current m = .ok r) : ∀ stop ∈ r.stops, stop.FlagsAgree := by
  intro stop hstop
  obtain ⟨position, hstop⟩ := List.getElem?_of_mem hstop
  cases m with
  | journey date journey =>
    obtain ⟨-, -, ⟨-, rfl⟩ | ⟨-, hrun⟩⟩ := afterJourney_eq_ok_iff.mp made
    · exact agree stop (List.mem_of_getElem? hstop)
    · obtain ⟨_, _, _, -, -, -, hmade⟩ := stop_of_propagate hrun hstop
      rw [hmade]
      exact Propagation.flagsAgree_stopOf ..
  | report date report =>
    obtain ⟨old, hold, hmade⟩ := stop_of_afterReport (Outcome.mapError_eq_ok.mp made) hstop
    obtain ⟨closed, apart⟩ := agree old (List.mem_of_getElem? hold)
    rw [hmade]
    exact ⟨closed, apart⟩

end Timetable

/-! ## Runs -/

namespace Store

variable {schedule : Schedule} {writes : List Write}

/-- **Flags and rules agree in every record in effect**, after every run. -/
theorem flagsAgree_run {key : TripKey} {r : TripRecord}
    (held : ((empty schedule).run writes).inEffect? key = some r) :
    ∀ stop ∈ r.stops, stop.FlagsAgree := by
  have scheduled : ∀ t : Timetable, ∀ stop ∈ t.record.stops, stop.FlagsAgree := by
    intro t stop hstop
    obtain ⟨v, -, rfl⟩ := List.mem_map.mp hstop
    exact StopRecord.flagsAgree_ofTimetable v.visit v.passage
  obtain ⟨-, -, agree⟩ := inEffect?_run scheduled
    (fun _ _ _ _ agree made => Timetable.flagsAgree_afterMessage agree made) held
  exact agree

/-- **What the flags of a record say.** A journey that runs sets them at each stop by the call that
the stop was matched with. And in every record in effect, after whatever run, a stop that is marked
as cancelled is closed for getting on and off, and none is marked both as observed and as
inaccurately predicted. -/
theorem flags_told (schedule : Schedule) (writes : List Write) :
    (∀ (date : Date) (journey : Journey) (s : Store) (r : TripRecord),
      ((empty schedule).run writes).applyJourney date journey = .ok (s, r) →
      ¬ journey.isCancellation →
      ∃ t, schedule.trip? journey.tripRef = some t ∧ r.stops.length = t.visits.length ∧
        s.inEffect? ⟨journey.tripRef, date⟩ = some r ∧
        ∀ (position : Nat) (stop : StopRecord), r.stops[position]? = some stop →
          ∃ found, (t.matching journey schedule.stop?)[position]? = some found ∧
            stop.FlagsTold journey found) ∧
      ∀ (key : TripKey) (r : TripRecord),
        ((empty schedule).run writes).inEffect? key = some r → ∀ stop ∈ r.stops, stop.FlagsAgree := by
  refine ⟨fun date journey s r taken runs => ?_, fun key r held => flagsAgree_run held⟩
  have known : ((empty schedule).run writes).schedule = schedule := run_schedule ..
  cases trip : schedule.trip? journey.tripRef with
  | none =>
    have refused := apply_of_unknown (m := .journey date journey) (by rw [known]; exact trip)
    cases refused.symm.trans taken
  | some t =>
    obtain ⟨current, sound, made⟩ := made_of_applyJourney trip taken
    have hrun := (made.resolve_left fun canceled => runs canceled.1).2
    refine ⟨t, rfl, (Timetable.sound_propagate sound.length_stops hrun).length_stops, ?_,
      fun position stop hstop => Timetable.flagsTold_propagate hrun hstop⟩
    obtain ⟨-, rfl⟩ := (apply_eq_ok_iff (m := .journey date journey)).mp taken
    simp [inEffect?, Message.key]

end Store

/-! ## A call made, a call dropped and a guess -/

namespace Sample

/-- The vehicle has left the first stop, skips the second, and may or may not keep its time at the
last one. -/
def skipping : Journey where
  tripRef := "t"
  line := none
  cancellation := none
  inaccuracy := none
  recorded := [⟨"A", none, ⟨none, clock 8 0⟩, ⟨none, none⟩, ⟨none, clock 8 1⟩⟩]
  estimated :=
    [⟨"B2", some true, none, ⟨none, clock 8 6⟩, ⟨none, none⟩, none, none, none, none, []⟩,
     ⟨"C", none, some true, ⟨none, clock 8 11⟩, ⟨none, none⟩, none, none, none, none, []⟩]

end Sample

namespace Store

/-- The journey sets one flag at each stop, and they are the same after a report, with the second
stop closed. -/
theorem flags_told_skipping :
    ∃ s r r', ((empty Sample.schedule).run []).applyJourney Sample.date Sample.skipping = .ok (s, r) ∧
      ¬ Sample.skipping.isCancellation ∧
      r.stops.map (fun stop => (stop.recorded, stop.cancelled, stop.inaccurate)) =
        [(true, false, false), (false, true, false), (false, false, true)] ∧
      (∀ stop, r.stops[0]? = some stop → ∃ found,
        (Sample.timetable.matching Sample.skipping Sample.schedule.stop?)[0]? = some found ∧
          stop.FlagsTold Sample.skipping found) ∧
      ((empty Sample.schedule).run [.message (.journey Sample.date Sample.skipping),
        .message (.report Sample.date Sample.report)]).inEffect? ⟨"t", Sample.date⟩ = some r' ∧
      r'.stops.map (·.cancelled) = [false, true, false] ∧
      ∀ stop, r'.stops[1]? = some stop → stop.cancelled → stop.visit.pickup = .cancelled := by
  have trip : Sample.schedule.trip? "t" = some Sample.timetable := (Option.some_get _).symm
  have made : (((empty Sample.schedule).run []).applyJourney Sample.date Sample.skipping).toOption.map
      (fun result => result.2.stops.map fun stop => (stop.recorded, stop.cancelled, stop.inaccurate)) =
      some [(true, false, false), (false, true, false), (false, false, true)] := by decide
  have later : (((empty Sample.schedule).run [.message (.journey Sample.date Sample.skipping),
      .message (.report Sample.date Sample.report)]).inEffect? ⟨"t", Sample.date⟩).map
        (·.stops.map (·.cancelled)) = some [false, true, false] := by decide
  obtain ⟨⟨s, r⟩, taken⟩ : ∃ result, ((empty Sample.schedule).run []).applyJourney
      Sample.date Sample.skipping = .ok result := ⟨_, rfl⟩
  rw [taken] at made
  obtain ⟨r', held, cancelled⟩ := Option.map_eq_some_iff.mp later
  obtain ⟨t, known, -, -, told⟩ :=
    (flags_told Sample.schedule []).1 Sample.date Sample.skipping s r taken (by decide)
  cases trip.symm.trans known
  refine ⟨s, r, r', taken, by decide, Option.some.inj made, told 0, held, cancelled, ?_⟩
  intro stop hstop off
  have agree := (flags_told Sample.schedule _).2 _ r' held stop (List.mem_of_getElem? hstop)
  exact (agree.closed off).1

end Store

end LiveTimetable
