import LiveTimetable.Proofs.Store.Board
import LiveTimetable.Proofs.Update.Gist

/-!
# Offsets do not count

An instant is written as a clock reading with an offset, and near midnight the reading may be of
another date than the one at home. The service day of a trip and its times there are computed from
the points alone.

Main statement: `Store.run_samePoints`. Journeys whose times are the same points, each written under
an offset of its own, make the same record or fail alike. News of such journeys leave the same store,
run for run, so no board shows which one was sent.
-/

namespace LiveTimetable

/-! ## Times that are the same points -/

structure CallTimes.SamePoints (a b : CallTimes) : Prop where
  arrival : Option.Rel Instant.SamePoint a.arrival b.arrival
  departure : Option.Rel Instant.SamePoint a.departure b.departure

/-- The calls differ in the offsets of their times at most. -/
structure RecordedCall.SamePoints (a b : RecordedCall) : Prop where
  others : b = { a with aimed := b.aimed, expected := b.expected, actual := b.actual }
  aimed : a.aimed.SamePoints b.aimed
  expected : a.expected.SamePoints b.expected
  actual : a.actual.SamePoints b.actual

/-- The calls differ in the offsets of their times at most. -/
structure EstimatedCall.SamePoints (a b : EstimatedCall) : Prop where
  others : b = { a with aimed := b.aimed, expected := b.expected }
  aimed : a.aimed.SamePoints b.aimed
  expected : a.expected.SamePoints b.expected

/-- **The journeys differ in the offsets of their times at most.** -/
structure Journey.SamePoints (a b : Journey) : Prop where
  others : b = { a with recorded := b.recorded, estimated := b.estimated }
  recorded : List.Forall₂ RecordedCall.SamePoints a.recorded b.recorded
  estimated : List.Forall₂ EstimatedCall.SamePoints a.estimated b.estimated

/-- The writes are news of one trip and date that differ in the offsets of their times at most, or
are the same. -/
inductive Write.SamePoints : Write → Write → Prop
  | journey {date : Date} {a b : Journey} (same : a.SamePoints b) :
    SamePoints (.message (.journey date a)) (.message (.journey date b))
  | same (w : Write) : SamePoints w w

/-! ## They have one gist -/

theorem Instant.map_inUtc_of_rel {a b : Option Instant} (same : Option.Rel SamePoint a b) :
    a.map inUtc = b.map inUtc := by
  cases same with
  | none => rfl
  | some point => exact congrArg some (inUtc_eq_iff.mpr point)

theorem CallTimes.SamePoints.inUtc_eq {a b : CallTimes} (same : a.SamePoints b) :
    a.inUtc = b.inUtc := by
  rw [inUtc, inUtc, Instant.map_inUtc_of_rel same.arrival, Instant.map_inUtc_of_rel same.departure]

theorem RecordedCall.SamePoints.gist_eq {a b : RecordedCall} (same : a.SamePoints b) :
    a.gist = b.gist := by
  rw [same.others]
  simp only [gist, same.aimed.inUtc_eq, same.expected.inUtc_eq, same.actual.inUtc_eq]

theorem EstimatedCall.SamePoints.gist_eq {a b : EstimatedCall} (same : a.SamePoints b) :
    a.gist = b.gist := by
  rw [same.others]
  simp only [gist, same.aimed.inUtc_eq, same.expected.inUtc_eq]

/-- An update reads no offset. -/
theorem Journey.SamePoints.gist_eq {a b : Journey} (same : a.SamePoints b) : a.gist = b.gist := by
  have recorded := Lists.map_eq_map_iff_forall₂.mpr
    (same.recorded.imp fun _ _ => RecordedCall.SamePoints.gist_eq)
  have estimated := Lists.map_eq_map_iff_forall₂.mpr
    (same.estimated.imp fun _ _ => EstimatedCall.SamePoints.gist_eq)
  rw [same.others]
  simp only [gist, recorded, estimated]

/-! ## Runs -/

namespace Store

theorem after_samePoints (s : Store) {w w' : Write} (same : w.SamePoints w') :
    s.after w' = s.after w := by
  cases same with
  | journey same => simp only [after, apply, applyJourney_of_gist s _ same.gist_eq]
  | same => rfl

/-- **Which offsets the times of journeys are written under does not show**, in a record, in an
error, or on a board after any run. -/
theorem run_samePoints :
    (∀ (t : Timetable) (current : TripRecord) (lookup : StopLookup) (zone : Zone) (a b : Journey),
      a.SamePoints b →
        t.afterJourney current b lookup zone = t.afterJourney current a lookup zone) ∧
      ∀ (s : Store) (writes writes' : List Write), List.Forall₂ Write.SamePoints writes writes' →
        s.run writes' = s.run writes ∧
          ∀ stopId date q,
            (s.run writes').departures stopId date q = (s.run writes).departures stopId date q := by
  constructor
  · intro t current lookup zone a b same
    exact t.afterJourney_of_gist current lookup zone same.gist_eq.symm
  · intro s writes writes' same
    have runs : s.run writes' = s.run writes := by
      induction same generalizing s with
      | nil => rfl
      | cons first _ ih =>
        show (s.after _).run _ = (s.after _).run _
        rw [after_samePoints s first, ih]
    exact ⟨runs, fun stopId date q => by rw [runs]⟩

end Store

namespace Sample

/-- A time of the day in UTC, as the clock shows it ten hours to the west: until ten in the morning
it is of the day before. -/
def clockWest (hour minute : Nat) : Option Instant :=
  Instant.of? (date.day * 86400 + (hour * 3600 + minute * 60 : Nat)) 0 (-36000)

/-- The late journey with its times as they are shown ten hours to the west. -/
def lateWest : Journey :=
  { late with
    estimated := [⟨"B2", none, none, ⟨none, clockWest 8 6⟩, ⟨clockWest 8 13, clockWest 8 14⟩, none,
      none, none, none, []⟩] }

end Sample

/-- The clock in the west shows the day before, and yet the record is that of the late journey. -/
theorem Store.run_samePoints_west :
    ∃ r, Sample.late.SamePoints Sample.lateWest ∧ Sample.lateWest ≠ Sample.late ∧
      Sample.timetable.afterJourney Sample.timetable.record Sample.lateWest Sample.schedule.stop?
        Sample.schedule.zone = .ok r ∧
      ((empty Sample.schedule).run [.message (.journey Sample.date Sample.lateWest)]).departures "B2"
          Sample.date .everything =
        ((empty Sample.schedule).run [.message (.journey Sample.date Sample.late)]).departures "B2"
          Sample.date .everything := by
  have same : Sample.late.SamePoints Sample.lateWest := by
    refine ⟨rfl, .nil, .cons ⟨rfl, ⟨.none, ?_⟩, ⟨?_, ?_⟩⟩ .nil⟩
    all_goals exact .some ⟨rfl, rfl⟩
  obtain ⟨r, made⟩ : ∃ r, Sample.timetable.afterJourney Sample.timetable.record Sample.late
    Sample.schedule.stop? Sample.schedule.zone = .ok r := ⟨_, rfl⟩
  refine ⟨r, same, by decide, ?_, ?_⟩
  · rw [run_samePoints.1 _ _ _ _ _ _ same, made]
  · exact (run_samePoints.2 _ _ _ (.cons (.journey same) .nil)).2 _ _ _

end LiveTimetable
