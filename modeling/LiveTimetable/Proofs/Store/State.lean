import LiveTimetable.Proofs.Store.Published

/-!
# What the state of a record says

A record that is not canceled is updated or modified, and modified is to say that the trip calls at
other stops than its timetable, or under other rules. A journey that runs sees to it: it makes the
pattern and the state together. A report keeps the pattern and the state modified, so it keeps what
the state says. A cancellation keeps the pattern alone, and a report that takes the trip up again
marks it as updated, whatever its pattern.

Which of the two it is thus depends on the journey last taken up for the trip and date
(`Store.lastJourney?`). Main statement: `Store.published_state`. That a record is modified just where
its pattern differs does not always hold (`Store.published_state_resumed`).
-/

namespace LiveTimetable

/-- The journey that a message is. -/
def Message.journey? : Message → Option Journey
  | .journey _ j => some j
  | .report .. => none

/-! ## One update -/

namespace Timetable

variable {t : Timetable} {current r : TripRecord} {journey : Journey} {report : VehicleReport}
  {lookup : StopLookup} {zone : Zone} {schedule : Schedule} {m : Message}

/-- A journey that runs gives its record the pattern that it has revised. -/
theorem pattern_of_propagate (length : current.stops.length = t.visits.length)
    (h : t.propagate current journey lookup zone = .ok r) : r.pattern = t.revised journey lookup := by
  have lengths : r.pattern.length = (t.revised journey lookup).length := by
    simp [TripRecord.pattern, revised, (sound_propagate length h).length_stops, length_pattern]
  refine List.ext_getElem lengths fun i hi hi' => ?_
  have hstops : i < r.stops.length := by simpa [TripRecord.pattern] using hi
  obtain ⟨v, found, old, hv, hfound, -, hstop⟩ :=
    stop_of_propagate h (List.getElem?_eq_getElem hstops)
  have visit : r.stops[i].visit = v.visit.after found := by
    rw [hstop, Propagation.stopOf_visit]
  obtain ⟨hvisits, rfl⟩ := List.getElem?_eq_some_iff.mp hv
  obtain ⟨hmatching, rfl⟩ := List.getElem?_eq_some_iff.mp hfound
  simpa [TripRecord.pattern, revised, pattern] using visit

/-- A report leaves the pattern as it is. -/
theorem pattern_of_afterReport (h : t.afterReport current report lookup = .ok r) :
    r.pattern = current.pattern := by
  obtain ⟨-, anchor, -, stops, hstops, -, rfl⟩ := afterReport_eq_ok_iff.mp h
  have same := (VehicleReport.stops_of_withDelays VehicleReport.length_delays hstops).1
  exact Lists.map_eq_map_iff_forall₂.mpr (same.flip.imp fun s' s hs => by rw [hs])

/-- **The state of a record says whether its pattern differs**, unless the journey last taken up
has canceled the trip. -/
def StateTold (t : Timetable) (canceled : Bool) (r : TripRecord) : Prop :=
  if canceled then r.state = .canceled ∨ r.state = .updated
  else r.state = if r.pattern.sameService t.pattern then .updated else .modified

/-- A report keeps what the state says. -/
theorem stateTold_afterReport {canceled : Bool}
    (told : current = t.record ∧ canceled = false ∨ t.StateTold canceled current)
    (made : t.afterReport current report lookup = .ok r) : t.StateTold canceled r := by
  have pattern := pattern_of_afterReport made
  have state : r.state = if current.state = .modified then .modified else .updated := by
    obtain ⟨-, anchor, -, stops, -, -, rfl⟩ := afterReport_eq_ok_iff.mp made
    rfl
  unfold StateTold at told ⊢
  rw [pattern, state]
  rcases told with ⟨rfl, rfl⟩ | told
  · rw [pattern_record, Pattern.sameService_self]
    rfl
  · cases canceled with
    | true => rcases told with h | h <;> simp [h]
    | false =>
      rw [if_neg Bool.false_ne_true] at told ⊢
      rw [told]
      split <;> simp

theorem stateTold_afterJourney (length : current.stops.length = t.visits.length)
    (made : t.afterJourney current journey lookup zone = .ok r) :
    t.StateTold journey.isCancellation r := by
  obtain ⟨-, -, ⟨cancels, rfl⟩ | ⟨runs, hrun⟩⟩ := afterJourney_eq_ok_iff.mp made
  · rw [StateTold, if_pos cancels]
    exact .inl rfl
  · have pattern := pattern_of_propagate length hrun
    obtain ⟨-, stops, -, rfl, -⟩ := propagate_eq_ok_iff.mp hrun
    rw [StateTold, if_neg runs, pattern]
    rfl

/-- **Every message keeps what the state says**, and a journey decides it anew. -/
theorem stateTold_afterMessage {last : Option Journey} (sound : t.Sound current)
    (told : current = t.record ∧ last = none ∨ t.StateTold (last.any (·.isCancellation)) current)
    (made : t.afterMessage schedule current m = .ok r) :
    t.StateTold ((m.journey? <|> last).any (·.isCancellation)) r := by
  cases m with
  | journey date journey => exact stateTold_afterJourney sound.length_stops made
  | report date report =>
    refine stateTold_afterReport ?_ (Outcome.mapError_eq_ok.mp made)
    rcases told with ⟨h, rfl⟩ | told
    · exact .inl ⟨h, rfl⟩
    · exact .inr told

end Timetable

/-! ## Runs -/

namespace Store

/-- The journey last taken up for a key, after one more write. It goes when the record goes. -/
def journeyAfter (s : Store) (key : TripKey) (last : Option Journey) : Write → Option Journey
  | .purge before => if before ≤ key.date then last else none
  | .message m =>
    match s.apply m with
    | .ok _ => if m.key = key then m.journey? <|> last else last
    | .error _ => last

/-- The journey last taken up for a key in a run, or before it. -/
def lastJourney? (s : Store) (key : TripKey) (last : Option Journey) : List Write → Option Journey
  | [] => last
  | w :: rest => (s.after w).lastJourney? key (s.journeyAfter key last w) rest

/-- What a store holds for a key agrees with the journey last taken up. -/
structure StateAgrees (s : Store) (schedule : Schedule) (key : TripKey) (last : Option Journey) :
    Prop where
  schedule_eq : s.schedule = schedule
  fresh : s.published? key = none → last = none
  told : ∀ r, s.published? key = some r → ∃ t, schedule.trip? key.tripId = some t ∧ t.Sound r ∧
    t.StateTold (last.any (·.isCancellation)) r

variable {s : Store} {schedule : Schedule} {key : TripKey} {last : Option Journey}

theorem StateAgrees.empty (schedule : Schedule) (key : TripKey) :
    (Store.empty schedule).StateAgrees schedule key none :=
  ⟨rfl, fun _ => rfl, by simp⟩

/-- What a message makes of what it read says in its state what it should. -/
theorem StateAgrees.told_successor {m : Message} {r : TripRecord}
    (h : s.StateAgrees schedule m.key last)
    (made : s.schedule.successor m (s.published? m.key) = .ok r) :
    ∃ t, schedule.trip? m.key.tripId = some t ∧ t.Sound r ∧
      t.StateTold ((m.journey? <|> last).any (·.isCancellation)) r := by
  obtain ⟨rfl, fresh, told⟩ := h
  unfold Schedule.successor at made
  cases trip : s.schedule.trip? m.key.tripId with
  | none => simp [trip] at made
  | some t =>
    rw [trip] at made
    refine ⟨t, rfl, ?_⟩
    cases read : s.published? m.key with
    | none =>
      rw [read] at made
      exact ⟨Timetable.sound_afterMessage t.sound_record made,
        Timetable.stateTold_afterMessage t.sound_record (.inl ⟨rfl, fresh read⟩) made⟩
    | some current =>
      obtain ⟨t', trip', sound, state⟩ := told current read
      cases trip.symm.trans trip'
      rw [read] at made
      exact ⟨Timetable.sound_afterMessage sound made,
        Timetable.stateTold_afterMessage sound (.inr state) made⟩

/-- **One write keeps the agreement.** -/
theorem StateAgrees.after (h : s.StateAgrees schedule key last) (w : Write) :
    (s.after w).StateAgrees schedule key (s.journeyAfter key last w) := by
  cases w with
  | purge before =>
    obtain ⟨rfl, fresh, told⟩ := h
    by_cases kept : before ≤ key.date
    · refine ⟨rfl, ?_, ?_⟩ <;> simpa [Store.after, journeyAfter, published?_purge, kept]
    · refine ⟨rfl, ?_, ?_⟩ <;> simp [Store.after, journeyAfter, published?_purge, kept]
  | message m =>
    cases taken : s.apply m with
    | error e => simpa [Store.after, journeyAfter, taken] using h
    | ok result =>
      obtain ⟨s', r⟩ := result
      obtain ⟨made, rfl⟩ := apply_eq_ok_iff.mp taken
      by_cases own : m.key = key
      · subst own
        have told := h.told_successor made
        refine ⟨(after_schedule s _).trans h.schedule_eq, ?_, ?_⟩
        · simp [Store.after, taken]
        · simpa [Store.after, journeyAfter, taken] using told
      · obtain ⟨rfl, fresh, told⟩ := h
        have other : key ≠ m.key := Ne.symm own
        refine ⟨after_schedule s _, ?_, ?_⟩ <;> simpa [Store.after, journeyAfter, taken, own, other]

/-- **A run keeps the agreement**, with the journey last taken up in it. -/
theorem StateAgrees.run (h : s.StateAgrees schedule key last) (writes : List Write) :
    (s.run writes).StateAgrees schedule key (s.lastJourney? key last writes) := by
  induction writes generalizing s last with
  | nil => exact h
  | cons w rest ih => exact ih (h.after w)

/-- **What the state of a published record says**: modified, that its pattern differs from the
timetable's and that the journey last taken up has not canceled the trip. -/
theorem published_state {writes : List Write} {r : TripRecord}
    (held : ((empty schedule).run writes).published? key = some r) (runs : ¬ r.isCanceled) :
    ∃ t, schedule.trip? key.tripId = some t ∧
      (r.state = .modified ↔ ¬ r.pattern.sameService t.pattern ∧
        ¬ ((empty schedule).lastJourney? key none writes).any (·.isCancellation)) ∧
      (r.state ≠ .modified → r.state = .updated) := by
  obtain ⟨t, trip, -, told⟩ := ((StateAgrees.empty schedule key).run writes).told r held
  refine ⟨t, trip, ?_⟩
  unfold Timetable.StateTold at told
  split at told
  next canceled =>
    have state : r.state = .updated := told.resolve_left (by simpa [TripRecord.isCanceled] using runs)
    simp [state, canceled]
  next runs => by_cases same : r.pattern.sameService t.pattern <;> simp [told, same, runs]

end Store

namespace Sample

/-- The trip of the feed, canceled. -/
def canceled : Journey := { late with cancellation := some true, estimated := [] }

/-- A trip that has moved to another platform is canceled, and then reported on the road. -/
def resumed : List Write :=
  [.message (.journey date late), .message (.journey date canceled), .message (.report date report)]

end Sample

namespace Store

theorem published_state_moved :
    ∃ r t, ((empty Sample.schedule).run Sample.writes).published? ⟨"t", Sample.date⟩ = some r ∧
      Sample.schedule.trip? "t" = some t ∧ ¬ r.isCanceled ∧ r.state = .modified ∧
      ¬ r.pattern.sameService t.pattern := by
  have found : (((empty Sample.schedule).run Sample.writes).published?
      ⟨"t", Sample.date⟩).map (·.state) = some .modified := by decide
  obtain ⟨r, held, state⟩ := Option.map_eq_some_iff.mp found
  have runs : ¬ r.isCanceled := by simp [TripRecord.isCanceled, state]
  obtain ⟨t, trip, modified, -⟩ := published_state held runs
  exact ⟨r, t, held, trip, runs, state, (modified.mp state).1⟩

/-- **A report hides that a trip has moved** once the trip was canceled: the record is marked as
updated, with a pattern that is not the timetable's. -/
theorem published_state_resumed :
    ¬ ∀ (file : ScheduleFile) (zone : Zone) (schedule : Schedule) (writes : List Write)
      (key : TripKey) (r : TripRecord) (t : Timetable),
      Schedule.ofFile file zone = .ok schedule → schedule.trip? key.tripId = some t →
      ((empty schedule).run writes).published? key = some r → ¬ r.isCanceled →
      (r.state = .modified ↔ ¬ r.pattern.sameService t.pattern) := by
  intro claim
  have built : Schedule.ofFile Sample.feed .utc = .ok Sample.schedule := by rfl
  have found : ((((empty Sample.schedule).run Sample.resumed).published? ⟨"t", Sample.date⟩).bind
      fun r => (Sample.schedule.trip? "t").map fun t => (r.state, r.pattern.sameService t.pattern)) =
      some (.updated, false) := by decide
  obtain ⟨r, held, found⟩ := Option.bind_eq_some_iff.mp found
  obtain ⟨t, trip, found⟩ := Option.map_eq_some_iff.mp found
  obtain ⟨state, moved⟩ := Prod.mk.inj found
  have modified := (claim _ _ _ _ _ r t built trip held (by simp [TripRecord.isCanceled, state])).mpr
    (by simp [moved])
  cases state.symm.trans modified

end Store

end LiveTimetable
