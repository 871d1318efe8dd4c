import LiveTimetable.Proofs.Store.Board
import LiveTimetable.Proofs.Update.ServiceDay

/-!
# Departures are shown when they were told

A feed tells departures as instants. The store keeps them as times of a service day that it works
out for itself, and a board turns these back into instants on the service date that it is asked
for. Where both take the same day, the board shows the instant that the feed has told
(`Store.serviceDay_agrees`). They do where the stop of the first call tells the date
(`TimedVisit.TellsDate`), and not otherwise: behind midnight a trip seems to belong to the next
day (`Store.serviceDay_agrees_not_overnight`).
-/

namespace LiveTimetable

/-- **The row shows a departure of a trip** at the instant that was told, cut to whole seconds. -/
structure Departure.ShowsTold (row : Departure) (key : TripKey) (position : Nat) (start : Int)
    (told : Instant) : Prop where
  key : row.key = key
  position : row.position = position
  instant : row.instant = some (start + told.secondsSince start)
  whole : told.nano = 0 → row.instant = some told.second

namespace Store

variable {schedule : Schedule} {writes : List Write} {date : Date} {start : Int} {t : Timetable}
  {journey : Journey} {s : Store} {r : TripRecord}

/-- A row that is at a time of the service day shows the instant of that time. -/
theorem showsTold_of_tells {stopId : String} {row : Departure} {told : Instant}
    (h : row.Tells s stopId) (day : Service.start row.key.date s.schedule.zone = .ok (some start))
    (time : row.time.val = told.secondsSince start) :
    row.ShowsTold row.key row.position start told := by
  obtain ⟨-, hinstant⟩ := (Service.instantAt_eq_ok_iff day).mp h.instant
  rw [time] at hinstant
  refine ⟨rfl, rfl, hinstant, fun whole => ?_⟩
  rw [hinstant, Instant.secondsSince_of_isAt ⟨rfl, whole⟩]
  congr 1
  omega

/-- **A board shows a departure as it was told**, once a journey that is aimed at the service date
of the board was taken up for it. -/
theorem showsTold_of_applyJourney (coherent : schedule.Coherent)
    (day : Service.start date schedule.zone = .ok (some start))
    (trip : schedule.trip? journey.tripRef = some t) (runs : ¬ journey.isCancellation)
    (aimed : t.AimedAt journey schedule.stop? date start schedule.zone)
    (taken : ((empty schedule).run writes).applyJourney date journey = .ok (s, r)) {i : Nat}
    {found : Match} (hfound : (t.matching journey schedule.stop?)[i]? = some (some found))
    {told : Instant} (htold : found.call.told? = some told) :
    ∃ stop, r.stops[i]? = some stop ∧ stop.passage.departure.val = told.secondsSince start ∧
      (date.Inner → ∃ rows, s.departures stop.visit.stop.id date .everything = .ok rows) ∧
      ∀ rows, s.departures stop.visit.stop.id date .everything = .ok rows →
        ∃ row ∈ rows, row.ShowsTold ⟨journey.tripRef, date⟩ i start told := by
  obtain ⟨current, sound, made⟩ := made_of_applyJourney trip taken
  have made := (made.resolve_left fun canceled => runs canceled.1).2
  obtain ⟨stop, hstop, time⟩ :=
    Timetable.departure_of_propagate sound.length_stops day aimed made hfound htold
  refine ⟨stop, hstop, time, departures_of_inner s _ .everything, fun rows hrows => ?_⟩
  -- the record is in effect, and the board looks at its trip
  have inEffect := inEffect?_of_apply (m := .journey date journey) taken
  have candidate := mem_candidates_of_apply (m := .journey date journey) coherent taken hstop
  have reached := run_append_of_apply (m := .journey date journey) taken
  have schedule_eq : s.schedule = schedule := by rw [← reached, run_schedule]; rfl
  obtain ⟨row, hrow, hkey, hposition, hrowStop, tells⟩ :=
    exists_row_of_departures rfl hrows candidate inEffect hstop rfl rfl
  have shown : row.ShowsTold row.key row.position start told := by
    refine showsTold_of_tells tells ?_ ?_
    · rw [hkey, schedule_eq]
      exact day
    · rw [Departure.time, hrowStop]
      exact time
  rw [hkey, hposition] at shown
  exact ⟨row, hrow, shown⟩

/-- **Writer and reader agree on the service day** of a call that is aimed at a scheduled departure
just where its visit tells the date. A journey whose first visit does so has its departures shown
as they were told. -/
theorem serviceDay_agrees {file : ScheduleFile} {zone : Zone}
    (built : Schedule.ofFile file zone = .ok schedule)
    (day : Service.start date schedule.zone = .ok (some start)) {tripId : String}
    (trip : schedule.trip? tripId = some t) :
    (∀ v ∈ t.visits, ∀ call : MatchedCall, call.AimedAt v date schedule.zone →
      (Propagation.serviceStart call.reference? t.firstDeparture schedule.zone = .ok (some start) ↔
        v.TellsDate t.firstDeparture date start schedule.zone)) ∧
    ∀ (writes : List Write) (journey : Journey) (s : Store) (r : TripRecord),
      journey.tripRef = tripId → ¬ journey.isCancellation →
      t.AimedAt journey schedule.stop? date start schedule.zone →
      ((empty schedule).run writes).applyJourney date journey = .ok (s, r) →
      ∀ (i : Nat) (found : Match) (told : Instant),
        (t.matching journey schedule.stop?)[i]? = some (some found) →
        found.call.told? = some told →
        ∃ stop, r.stops[i]? = some stop ∧
          stop.passage.departure.val = told.secondsSince start ∧
          (date.Inner → ∃ rows,
            s.departures stop.visit.stop.id date .everything = .ok rows) ∧
          ∀ rows, s.departures stop.visit.stop.id date .everything = .ok rows →
            ∃ row ∈ rows, row.ShowsTold ⟨tripId, date⟩ i start told := by
  refine ⟨fun v _ call aimed => Timetable.serviceStart_of_aimedAt day aimed _, ?_⟩
  rintro writes journey s r rfl runs aimed taken i found told hfound htold
  exact showsTold_of_applyJourney (Schedule.ofFile_coherent built) day trip runs aimed taken hfound
    htold

end Store

/-! ## A trip by day, and one over midnight -/

namespace Sample

/-- Midnight of the first of May 2024, when service starts that day. -/
def midnight : Int := date.day * 86400

/-- The call that the late journey makes. -/
def lateCall : EstimatedCall :=
  ⟨"B2", none, none, ⟨none, clock 8 6⟩, ⟨clock 8 13, clock 8 14⟩, none, none, none, none, []⟩

theorem start_date : Service.start date schedule.zone = .ok (some midnight) := by decide

/-- The late journey is aimed at its date: it makes one call, at the second stop. -/
theorem late_aimed : timetable.AimedAt late schedule.stop? date midnight schedule.zone := by
  have matching : timetable.matching late schedule.stop? =
      [none, some ⟨.estimated 0 lateCall, .substitute ⟨"B2", some "B"⟩⟩, none] := by decide
  have only : ∀ (i : Nat) (v : TimedVisit) (found : Match), timetable.visits[i]? = some v →
      (timetable.matching late schedule.stop?)[i]? = some (some found) →
      v.passage.departure.val = 8 * 3600 + 6 * 60 ∧ found.call = .estimated 0 lateCall := by
    intro i v found hv hfound
    rw [matching] at hfound
    match i with
    | 0 => cases hfound
    | 1 =>
      cases hv
      cases hfound
      exact ⟨by decide, rfl⟩
    | 2 => cases hfound
    | _ + 3 => cases hfound
  have zone : schedule.zone = .utc := by decide
  constructor
  · intro i v found hv hfound
    obtain ⟨departure, call⟩ := only i v found hv hfound
    have inside : Calendar.HasSecond (midnight + v.passage.departure.val) := by
      rw [departure]
      decide
    refine ⟨(clock 8 6).get (by decide), _, ?_,
      (Service.instantAt_eq_ok_iff start_date).mpr ⟨inside, rfl⟩, ?_⟩
    · rw [call]
      exact (Option.some_get _).symm
    · rw [departure]
      exact ⟨by decide, by decide⟩
  · intro i v found hv _ hfound
    obtain ⟨departure, -⟩ := only i v found hv hfound
    refine TimedVisit.tellsDate_of_sameDay (by decide) (by decide) ?_ ?_ (by decide)
    · rw [departure]
      decide
    · rw [zone]
      rfl

/-- A trip that leaves at half past eleven in the evening, and calls again an hour later. -/
def nightFeed : ScheduleFile where
  stops := [⟨"A", none⟩, ⟨"B", none⟩]
  trips := [⟨"n", 0, none,
    [⟨"A", "23:30:00", "23:30:00", .scheduled, .scheduled, none⟩,
     ⟨"B", "24:30:00", "24:30:00", .scheduled, .scheduled, none⟩]⟩]

def nightSchedule : Schedule := (Schedule.ofFile nightFeed .utc).toOption.getD (.empty .utc)

def night : Timetable := (nightSchedule.trip? "n").get (by decide)

/-- Its visit behind midnight. -/
def nightVisit : TimedVisit := night.visits.get ⟨1, by decide⟩

/-- The call at that visit, on time. -/
def nightCall : EstimatedCall :=
  ⟨"B", none, none, ⟨none, clock 24 30⟩, ⟨none, clock 24 30⟩, none, none, none, none, []⟩

end Sample

namespace Store

/-- The board of the platform that the trip was moved to shows its departure eight minutes late. -/
theorem serviceDay_agrees_late :
    ∃ s r stop rows row, Schedule.ofFile Sample.feed .utc = .ok Sample.schedule ∧
      ((empty Sample.schedule).run Sample.writes).applyJourney Sample.date Sample.late = .ok (s, r) ∧
      r.stops[1]? = some stop ∧ s.departures stop.visit.stop.id Sample.date .everything = .ok rows ∧
      row ∈ rows ∧ row.instant = some (Sample.midnight + (8 * 3600 + 14 * 60)) := by
  have built : Schedule.ofFile Sample.feed .utc = .ok Sample.schedule := by rfl
  have trip : Sample.schedule.trip? "t" = some Sample.timetable := (Option.some_get _).symm
  obtain ⟨⟨s, r⟩, taken⟩ : ∃ result, ((empty Sample.schedule).run Sample.writes).applyJourney
      Sample.date Sample.late = .ok result := ⟨_, rfl⟩
  have told : Sample.lateCall.expected.departure = some ((Sample.clock 8 14).get (by decide)) :=
    (Option.some_get _).symm
  obtain ⟨stop, hstop, -, found, shown⟩ := (serviceDay_agrees built Sample.start_date trip).2
    Sample.writes Sample.late s r rfl (by decide) Sample.late_aimed taken 1
    ⟨.estimated 0 Sample.lateCall, .substitute ⟨"B2", some "B"⟩⟩ _ (by decide) told
  obtain ⟨rows, hrows⟩ := found (by decide)
  obtain ⟨row, hrow, row_shown⟩ := shown rows hrows
  refine ⟨s, r, stop, rows, row, built, taken, hstop, hrows, hrow, ?_⟩
  rw [row_shown.whole (by decide)]
  decide

/-- **A call behind midnight is taken for the next service day**, where its trip has left before:
the day that comes out is not the one that the call was aimed at. -/
theorem serviceDay_agrees_not_overnight :
    ¬ ∀ (file : ScheduleFile) (zone : Zone) (schedule : Schedule) (date : Date) (start : Int)
      (tripId : String) (t : Timetable) (v : TimedVisit) (call : MatchedCall),
      Schedule.ofFile file zone = .ok schedule →
      Service.start date schedule.zone = .ok (some start) →
      schedule.trip? tripId = some t → v ∈ t.visits → call.AimedAt v date schedule.zone →
      Propagation.serviceStart call.reference? t.firstDeparture schedule.zone =
        .ok (some start) := by
  intro claim
  have built : Schedule.ofFile Sample.nightFeed .utc = .ok Sample.nightSchedule := by rfl
  have day : Service.start Sample.date Sample.nightSchedule.zone = .ok (some Sample.midnight) := by
    decide
  have trip : Sample.nightSchedule.trip? "n" = some Sample.night := (Option.some_get _).symm
  have aimed : (MatchedCall.estimated 0 Sample.nightCall).AimedAt Sample.nightVisit Sample.date
      Sample.nightSchedule.zone :=
    ⟨(Sample.clock 24 30).get (by decide), _, (Option.some_get _).symm,
      (Service.instantAt_eq_ok_iff day).mpr ⟨by decide, rfl⟩, by decide, by decide⟩
  have same := claim _ _ _ _ _ _ _ _ _ built day trip (List.getElem_mem (by decide)) aimed
  exact absurd same (by decide)

end Store

end LiveTimetable
