import LiveTimetable.Proofs.Update.Between

/-!
# What a journey inherits from the record in effect

A journey that runs makes a record anew, out of the timetable and its own calls. The record in
effect lends it delays, and those only at stops for which the journey has no call. The pass does not
look at any other (`Propagation.pass_seen`): a stop with a call is the same whatever was there
before.

Main statement: `Timetable.afterJourney_inherits`. Two records of a trip that have the same delays
at the stops without a call lead to the same outcome, be it a record, a refusal or a calculation
that leaves the calendar. Platforms, closed stops, headsigns and flags of an earlier record, its
state and the delays at stops with a call leave no trace.
-/

namespace LiveTimetable

/-- The delay of a record at a position. -/
def TripRecord.delay? (r : TripRecord) (position : Nat) : Option Delay :=
  r.stops[position]?.map (·.delay)

namespace Propagation

/-- What the pass sees of a slot: where there is a call, no delay in effect. -/
def Slot.seen (slot : Slot) : Slot :=
  match slot.found with
  | some _ => { slot with delay := .none }
  | none => slot

theorem step_seen (s : Setting) (first : Bool) (carry : Carry) (slot : Slot) :
    step s first carry slot.seen = step s first carry slot := by
  obtain ⟨scheduled, found, delay⟩ := slot
  cases found with
  | none => rfl
  | some found => rfl

/-- **The pass sees no delay in effect at a stop with a call.** -/
theorem pass_seen (s : Setting) (position : Nat) (carry : Carry) (slots : List Slot) :
    pass s position carry (slots.map Slot.seen) = pass s position carry slots := by
  induction slots generalizing position carry with
  | nil => rfl
  | cons slot rest ih => simp only [List.map_cons, pass, step_seen, ih]

variable {t : Timetable} {m : Matching} {former latter : TripRecord}

/-- Records with the same delays at stops without a call give the pass the same slots to see. -/
theorem seen_slots (length : former.stops.length = latter.stops.length)
    (same : ∀ position, m[position]? = some none →
      former.delay? position = latter.delay? position) :
    (slots t m former).map Slot.seen = (slots t m latter).map Slot.seen := by
  apply List.ext_getElem
  · simp [slots, length]
  intro position inFormer inLatter
  simp only [slots, List.length_map, List.length_zip, Nat.lt_min] at inFormer inLatter
  obtain ⟨-, inMatching, inFormer⟩ := inFormer
  obtain ⟨-, -, inLatter⟩ := inLatter
  simp only [slots, List.getElem_map, List.getElem_zip]
  cases found : m[position] with
  | some call => rfl
  | none =>
    have bare : m[position]? = some none := List.getElem?_eq_some_iff.mpr ⟨inMatching, found⟩
    have delay : former.stops[position].delay = latter.stops[position].delay := by
      simpa [TripRecord.delay?, inFormer, inLatter] using same position bare
    rw [delay]

end Propagation

namespace Timetable

variable {t : Timetable} {journey : Journey} {lookup : StopLookup} {zone : Zone}
  {former latter : TripRecord}

/-- **A journey that runs inherits delays, and only at stops without a call.** -/
theorem propagate_inherits (length : former.stops.length = latter.stops.length)
    (same : ∀ matching, Matching.ofJourney t.pattern journey lookup = .ok matching →
      ∀ position, matching[position]? = some none →
        former.delay? position = latter.delay? position) :
    t.propagate former journey lookup zone = t.propagate latter journey lookup zone := by
  unfold propagate
  cases revised : Revision.ofJourney t journey lookup with
  | error e => rfl
  | ok revision =>
    obtain ⟨named, rfl⟩ := revision_eq_ok_iff.mp revised
    have seen := Propagation.seen_slots (t := t) length
      (same _ (Matching.ofJourney_eq_ok_iff.mpr ⟨named, rfl⟩))
    simp only [Except.mapError, bind, Except.bind]
    rw [← Propagation.pass_seen, ← Propagation.pass_seen _ _ _ (Propagation.slots t _ latter)]
    rw [matching, seen]

/-- **What a journey that runs comes to is told by the delays at stops without a call**, of all that
a record of the trip holds. -/
theorem afterJourney_inherits (runs : ¬ journey.isCancellation)
    (ownFormer : former.tripId = t.tripId) (ownLatter : latter.tripId = t.tripId)
    (lengthFormer : former.stops.length = t.visits.length)
    (lengthLatter : latter.stops.length = t.visits.length)
    (same : ∀ matching, Matching.ofJourney t.pattern journey lookup = .ok matching →
      ∀ position, matching[position]? = some none →
        former.delay? position = latter.delay? position) :
    t.afterJourney former journey lookup zone = t.afterJourney latter journey lookup zone := by
  have run : t.propagate former journey lookup zone = t.propagate latter journey lookup zone :=
    propagate_inherits (lengthFormer.trans lengthLatter.symm) same
  unfold afterJourney
  rw [checkRecord_eq_ok_iff.mpr ⟨ownFormer, lengthFormer⟩,
    checkRecord_eq_ok_iff.mpr ⟨ownLatter, lengthLatter⟩, if_neg runs, if_neg runs, run]

end Timetable

/-! ## A record that is much unlike another -/

namespace Sample

/-- The trip was called off half a minute late. All its stops are closed and flagged, and where the
vehicle is next heard of it was on time. -/
def upset : TripRecord :=
  { halfMinute with
    state := .canceled
    stops := halfMinute.stops.map fun s =>
      { s with
        visit := { s.visit.cancel with headsign := some "E" }
        passage := if s.visit.stop.id = "B" ∨ s.visit.stop.id = "D" then s.scheduled else s.passage
        recorded := true
        cancelled := true
        inaccurate := true } }

end Sample

/-- The two records share no stop and only the delays at the first, third and fourth one, but the
journey makes the same of both. -/
theorem Timetable.afterJourney_inherits_upset :
    ¬ Sample.recovering.isCancellation ∧
      (∀ stop ∈ Sample.upset.stops, stop ∉ Sample.halfMinute.stops) ∧
      Sample.upset.stops.map (·.delay) = [.both 30, .none, .both 30, .both 30, .none] ∧
      Sample.halfMinute.stops.map (·.delay) =
        [.both 30, .both 30, .both 30, .both 30, .both 30] ∧
      (Matching.ofJourney Sample.through.pattern Sample.recovering fun _ => none).map
        (·.map Option.isSome) = .ok [false, true, false, false, true] ∧
      Sample.recovered.isOk ∧
      Sample.through.afterJourney Sample.upset Sample.recovering (fun _ => none) .utc =
        Sample.recovered := by
  have runs : ¬ Sample.recovering.isCancellation := by decide
  refine ⟨runs, by decide, by decide, by decide, by decide, by decide +kernel, ?_⟩
  refine afterJourney_inherits runs rfl rfl rfl rfl fun matching made position bare => ?_
  obtain ⟨-, rfl⟩ := Matching.ofJourney_eq_ok_iff.mp made
  have inside : position < 5 := Timetable.lt_of_matching (t := Sample.through) bare
  -- at the second and the last stop there is a call
  have both : ∀ p < 5, (Sample.through.matching Sample.recovering fun _ => none)[p]? = some none →
      Sample.upset.delay? p = Sample.halfMinute.delay? p := by decide
  exact both position inside bare

end LiveTimetable
