import LiveTimetable.Proofs.Store.Published

/-!
# News that comes twice

A feed may deliver a message more than once. The second delivery finds the record that the first
has made, and not the one that the first had found; but it makes the same record again
(`Store.apply_again`), whatever the message and whatever was published before.

What is read of the record in effect are delays. A journey copies them to stops where it has none
to carry (`Propagation.step_again`): a copied delay is read back as it was written, and all else
comes from the timetable and the journey. A report cuts delays down to its own, which cut down again
stay as they are (`VehicleReport.delays_again`).
-/

namespace LiveTimetable

/-! ## Tables -/

namespace Table

variable {κ α : Type} [DecidableEq κ]

theorem put_put (key : κ) (value : α) (es : List (κ × α)) :
    put key value (put key value es) = put key value es := by
  induction es with
  | nil => simp [put]
  | cons e rest ih =>
    obtain ⟨k, v⟩ := e
    by_cases h : k = key
    · simp [put, h]
    · simp [put, h, ih]

/-- An entry that is put twice is there as if put once. -/
@[simp] theorem insert_insert (t : Table κ α) (key : κ) (value : α) :
    (t.insert key value).insert key value = t.insert key value := by
  simp [insert, put_put]

end Table

/-! ## Journeys -/

namespace Propagation

variable {s : Setting} {first : Bool} {carry carry' : Carry} {slot : Slot} {stop : StopRecord}

/-- The slot with the delay of the stop that was made of it. -/
def Slot.on (slot : Slot) (stop : StopRecord) : Slot := { slot with delay := stop.delay }

/-- A delay that was copied is read back as it was written. -/
theorem UnmatchedPassage.again {passage : Passage} (h : UnmatchedPassage first carry slot passage)
    (written : stop.delay = passage.delayFrom slot.scheduled.passage) :
    UnmatchedPassage first carry (slot.on stop) passage := by
  simp only [UnmatchedPassage, Slot.on, written] at h ⊢
  split at h
  next passed =>
    rw [if_pos passed]
    exact h
  next served =>
    rw [if_neg served]
    split at h
    next uncarried => rw [if_pos uncarried]
    next carried =>
      rw [if_neg carried]
      exact h

/-- **A step makes of its own stop the same stop again**, and carries on the same. -/
theorem step_again (h : step s first carry slot = .ok (carry', stop)) :
    step s first carry (slot.on stop) = .ok (carry', stop) := by
  obtain ⟨scheduled, found, delay⟩ := slot
  cases found with
  | some found =>
    -- a stop with a call does not look at the record in effect
    exact h
  | none =>
    obtain ⟨passage, hpassage, hcarry, rfl⟩ := unmatchedStep_eq_ok_iff.mp h
    exact unmatchedStep_eq_ok_iff.mpr ⟨passage, hpassage.again rfl, hcarry, rfl⟩

theorem pass_again {position : Nat} {slots : List Slot} {stops : List StopRecord}
    (h : pass s position carry slots = .ok stops) :
    pass s position carry (List.zipWith Slot.on slots stops) = .ok stops := by
  induction slots generalizing position carry stops with
  | nil => exact h
  | cons slot rest ih =>
    obtain ⟨carry', stop, tail, hstep, htail, rfl⟩ := pass_cons_eq_ok_iff.mp h
    exact pass_cons_eq_ok_iff.mpr ⟨carry', stop, tail, step_again hstep, ih htail, rfl⟩

/-- The slots on a record are those on another one with its delays in their place. -/
theorem slots_on {t : Timetable} {m : Matching} {current r : TripRecord}
    (same : r.stops.length = current.stops.length) :
    slots t m r = List.zipWith Slot.on (slots t m current) r.stops := by
  unfold slots
  generalize t.visits = visits
  revert same
  generalize current.stops = olds
  generalize r.stops = news
  intro same
  induction visits generalizing m olds news with
  | nil => rfl
  | cons v visits ih =>
    cases m with
    | nil => rfl
    | cons found m =>
      cases olds with
      | nil =>
        cases List.length_eq_zero_iff.mp same
        rfl
      | cons old olds =>
        cases news with
        | nil => cases same
        | cons new news =>
          simp only [List.zip_cons_cons, List.map_cons, List.zipWith_cons_cons]
          rw [ih olds news (Nat.succ.inj same)]
          rfl

end Propagation

/-! ## Reports -/

namespace VehicleReport

variable {anchor : String} {delay : Int} {lookup : StopLookup} {stops stops' : List StopRecord}

/-- A delay that was cut down stays as it is. -/
theorem atMost_atMost (d : Delay) : (d.atMost delay).atMost delay = d.atMost delay := by
  simp [Delay.atMost]

/-- Stops that have the delays of a report are given the same ones again. -/
theorem delays_again
    (same : List.Forall₂ (fun s s' => s' = { s with passage := s'.passage }) stops stops')
    (delayed : stops'.map (·.delay) = delays anchor delay lookup stops) :
    delays anchor delay lookup stops' = delays anchor delay lookup stops := by
  induction same with
  | nil => rfl
  | @cons s s' rest rest' hs hrest ih =>
    have visit : s'.visit = s.visit := by rw [hs]
    unfold delays at delayed ⊢
    rw [visit]
    split at delayed
    next here =>
      rw [if_pos here, if_pos here, List.map_const', List.map_const', List.length_cons,
        List.length_cons, hrest.length_eq]
    next notHere =>
      obtain ⟨cut, tail⟩ := List.cons.inj delayed
      have kept : s'.delay.atMost delay = s.delay.atMost delay :=
        (congrArg (·.atMost delay) cut).trans (atMost_atMost s.delay)
      rw [if_neg notHere, if_neg notHere, kept, ih tail]

/-- Stops with the delays that they have are as they were. -/
theorem withDelays_own (stops : List StopRecord) :
    withDelays (stops.zip (stops.map (·.delay))) = .ok stops :=
  withDelays_of_stops (List.forall₂_same.mpr fun _ _ => rfl)

end VehicleReport

/-! ## One update -/

namespace Timetable

variable {t : Timetable} {current r : TripRecord} {journey : Journey} {report : VehicleReport}
  {lookup : StopLookup} {zone : Zone} {schedule : Schedule} {m : Message}

theorem propagate_again (length : current.stops.length = t.visits.length)
    (h : t.propagate current journey lookup zone = .ok r) :
    t.propagate r journey lookup zone = .ok r := by
  have same : r.stops.length = current.stops.length :=
    (sound_propagate length h).length_stops.trans length.symm
  obtain ⟨named, stops, hpass, made, held, inOrder⟩ := propagate_eq_ok_iff.mp h
  refine propagate_eq_ok_iff.mpr ⟨named, stops, ?_, made, held, inOrder⟩
  rw [Propagation.slots_on same, made]
  exact Propagation.pass_again hpass

theorem afterJourney_again (sound : t.Sound current)
    (made : t.afterJourney current journey lookup zone = .ok r) :
    t.afterJourney r journey lookup zone = .ok r := by
  have again := sound_afterJourney sound made
  obtain ⟨-, trip, hrest⟩ := afterJourney_eq_ok_iff.mp made
  refine afterJourney_eq_ok_iff.mpr ⟨⟨again.tripId, again.length_stops⟩, trip, ?_⟩
  rcases hrest with ⟨cancels, rfl⟩ | ⟨runs, hrun⟩
  · exact .inl ⟨cancels, rfl⟩
  · exact .inr ⟨runs, propagate_again sound.length_stops hrun⟩

theorem afterReport_again (sound : t.Sound current)
    (made : t.afterReport current report lookup = .ok r) :
    t.afterReport r report lookup = .ok r := by
  have again := sound_afterReport sound made
  obtain ⟨-, anchor, hanchor, stops, hstops, inOrder, rfl⟩ := afterReport_eq_ok_iff.mp made
  obtain ⟨same, delayed⟩ := VehicleReport.stops_of_withDelays VehicleReport.length_delays hstops
  refine afterReport_eq_ok_iff.mpr
    ⟨⟨again.tripId, again.length_stops⟩, anchor, hanchor, stops, ?_, inOrder, ?_⟩
  · show VehicleReport.withDelays (stops.zip (VehicleReport.delays _ _ _ stops)) = _
    rw [VehicleReport.delays_again same delayed, ← delayed]
    exact VehicleReport.withDelays_own stops
  · simp

/-- **A message makes of the record that it has made the same record again.** -/
theorem afterMessage_again (sound : t.Sound current)
    (made : t.afterMessage schedule current m = .ok r) : t.afterMessage schedule r m = .ok r := by
  cases m with
  | journey date journey => exact afterJourney_again sound made
  | report date report =>
    exact Outcome.mapError_eq_ok.mpr (afterReport_again sound (Outcome.mapError_eq_ok.mp made))

end Timetable

/-! ## The store -/

/-- The successor of a record is its own successor, if what was read in its place is sound. -/
theorem Schedule.successor_again {schedule : Schedule} {m : Message} {published : Option TripRecord}
    {r : TripRecord}
    (sound : ∀ t, schedule.trip? m.key.tripId = some t → t.Sound (published.getD t.record))
    (made : schedule.successor m published = .ok r) : schedule.successor m (some r) = .ok r := by
  unfold successor at made ⊢
  cases trip : schedule.trip? m.key.tripId with
  | none =>
    rw [trip] at made
    cases made
  | some t =>
    rw [trip] at made
    exact Timetable.afterMessage_again (sound t trip) made

namespace Store

@[simp] theorem schedule_withRecord (s : Store) (key : TripKey) (r : TripRecord) :
    (s.withRecord key r).schedule = s.schedule := rfl

@[simp] theorem withRecord_withRecord (s : Store) (key : TripKey) (r : TripRecord) :
    (s.withRecord key r).withRecord key r = s.withRecord key r := by
  simp [withRecord]

/-- **A message that was taken up is taken up again**, and publishes the record that is there: the
store stays as it is. -/
theorem apply_again {schedule : Schedule} {writes : List Write} {m : Message} {s : Store}
    {r : TripRecord} (taken : ((empty schedule).run writes).apply m = .ok (s, r)) :
    s.apply m = .ok (s, r) := by
  obtain ⟨made, rfl⟩ := apply_eq_ok_iff.mp taken
  have again := Schedule.successor_again (fun t trip => sound_read trip) made
  refine apply_eq_ok_iff.mpr ⟨?_, ?_⟩
  · rw [published?_withRecord, if_pos rfl, schedule_withRecord]
    exact again
  · rw [withRecord_withRecord]

end Store

/-! ## A call on time

The journey moves the trip back to its platform and says that it is on time there. That gives no
delay to carry, so the last stop keeps the one that a report has given it. -/

namespace Sample

def punctual : Journey where
  tripRef := "t"
  line := none
  cancellation := none
  inaccuracy := none
  recorded := []
  estimated := [⟨"B1", none, none, ⟨none, clock 8 6⟩, ⟨clock 8 5, clock 8 6⟩, none, none, none,
    none, []⟩]

end Sample

/-- The journey leaves a delay of a minute at the last stop, and so it does when it comes again. -/
theorem Store.apply_again_punctual :
    ∃ s r, ((empty Sample.schedule).run Sample.writes).apply
        (.journey Sample.date Sample.punctual) = .ok (s, r) ∧
      r.stops.map (·.delay) = [.none, .none, .both 60] ∧
      s.apply (.journey Sample.date Sample.punctual) = .ok (s, r) := by
  have made : (((empty Sample.schedule).run Sample.writes).apply
      (.journey Sample.date Sample.punctual)).map (·.2.stops.map (·.delay)) =
        .ok [.none, .none, .both 60] := by decide +kernel
  obtain ⟨⟨s, r⟩, taken, delays⟩ := Outcome.map_eq_ok.mp made
  exact ⟨s, r, taken, delays, apply_again taken⟩

end LiveTimetable
