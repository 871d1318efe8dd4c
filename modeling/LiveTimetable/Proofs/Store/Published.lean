import LiveTimetable.Calendar.ZoneTable
import LiveTimetable.Proofs.Timetable.Schedule
import LiveTimetable.Proofs.Update.Soundness

/-!
# Published records

What a reader may rely on: whatever a store was handed, and in which order, each record that it
publishes is one of the trip it is published for, can be laid beside the timetable stop by stop,
and never runs backwards in time (`Store.published_admitted`).

The invariant is the soundness of one record (`Timetable.Sound`), and what carries it through a
run is that a message reads one record and writes one (`Store.published?_run`).

A record here is a list of stops, which has one length whatever is asked of a stop. Of records that
are kept in columns, where the lengths could differ, `ColumnStore.run_full` says that they do not.
-/

namespace LiveTimetable

/-- **A schedule admits a record under a key**, as one of the given trip. -/
structure Schedule.Admits (schedule : Schedule) (key : TripKey) (t : Timetable) (r : TripRecord) :
    Prop where
  trip : schedule.trip? key.tripId = some t
  tripId : r.tripId = key.tripId
  serviceCode : r.serviceCode = t.serviceCode
  /-- A stop of a record holds its visit, its passages and its flags, so all of these are as many
  as the trip has visits. -/
  length : r.stops.length = t.visits.length
  length_pattern : r.pattern.length = t.pattern.length
  scheduled : r.stops.map (·.scheduled) = t.visits.map (·.passage)
  arrival_le_departure : ∀ i (hi : i < r.stops.length),
    r.stops[i].passage.arrival ≤ r.stops[i].passage.departure
  departure_le_arrival : ∀ i j (hij : i < j) (hj : j < r.stops.length),
    r.stops[i].passage.departure ≤ r.stops[j].passage.arrival
  held : ∀ s ∈ r.stops, s.delay.Held
  live : r.state.Live

/-- A sound record of a trip of the schedule is admitted once a message has made it. -/
theorem Timetable.Sound.admits {schedule : Schedule} {key : TripKey} {t : Timetable} {r : TripRecord}
    (h : t.Sound r) (coherent : schedule.Coherent) (trip : schedule.trip? key.tripId = some t)
    (live : r.state.Live) : schedule.Admits key t r := by
  obtain ⟨inside, between⟩ := Passage.firstDisorder?_eq_none_iff_pairwise.mp h.inOrder
  rw [List.pairwise_map, List.pairwise_iff_getElem] at between
  refine
    { trip, live
      tripId := h.tripId.trans (coherent.trip_id trip)
      serviceCode := h.serviceCode
      length := h.length_stops
      length_pattern := by simp [TripRecord.pattern, Timetable.pattern, h.length_stops]
      scheduled := h.scheduled
      arrival_le_departure := fun i hi => ?_
      departure_le_arrival := fun i j hij hj => ?_
      held := h.held }
  · exact inside _ (List.mem_map_of_mem (List.getElem_mem hi))
  · exact between i j (Nat.lt_trans hij hj) hj hij

/-! ## A small feed

One trip over three stops, of which the second is a platform of a station with another one, and a
journey that calls at that other platform eight minutes late. -/

namespace Sample

def feed : ScheduleFile where
  stops := [⟨"A", none⟩, ⟨"B1", some "B"⟩, ⟨"B2", some "B"⟩, ⟨"C", none⟩]
  trips := [⟨"t", 0, none,
    [⟨"A", "08:00:00", "08:00:00", .scheduled, .scheduled, none⟩,
     ⟨"B1", "08:05:00", "08:06:00", .scheduled, .scheduled, none⟩,
     ⟨"C", "08:10:00", "08:11:00", .scheduled, .scheduled, none⟩]⟩]

def schedule : Schedule := (Schedule.ofFile feed .utc).toOption.getD (.empty .utc)

/-- The trip of the feed. -/
def timetable : Timetable := (schedule.trip? "t").get (by decide)

/-- The first of May 2024. -/
def date : Date := ⟨19844, by decide⟩

def tomorrow : Date := ⟨19845, by decide⟩

def clock (hour minute : Nat) : Option Instant :=
  Instant.of? (date.day * 86400 + (hour * 3600 + minute * 60 : Nat)) 0 0

def late : Journey where
  tripRef := "t"
  line := none
  cancellation := none
  inaccuracy := none
  recorded := []
  estimated := [⟨"B2", none, none, ⟨none, clock 8 6⟩, ⟨clock 8 13, clock 8 14⟩, none, none, none,
    none, []⟩]

def report : VehicleReport := ⟨"t", none, some ⟨some "C"⟩, Seconds.of? 60⟩

def writes : List Write :=
  [.message (.journey date late), .message (.report date report), .purge date]

end Sample

/-! ## What a store publishes -/

namespace Store

/-- A published record is sound and live, in every run over any schedule. -/
theorem published?_sound {schedule : Schedule} {writes : List Write} {key : TripKey} {r : TripRecord}
    (h : ((empty schedule).run writes).published? key = some r) :
    ∃ t, schedule.trip? key.tripId = some t ∧ t.Sound r ∧ r.state.Live := by
  refine published?_run (P := fun t r => t.Sound r ∧ r.state.Live) ?_ h
  intro t current m r _ hcurrent made
  have sound : t.Sound current := by
    rcases hcurrent with rfl | ⟨hsound, -⟩
    · exact t.sound_record
    · exact hsound
  exact ⟨Timetable.sound_afterMessage sound made, Timetable.live_afterMessage made⟩

/-- The record in effect is a sound one of its trip, in every run. -/
theorem inEffect?_sound {schedule : Schedule} {writes : List Write} {key : TripKey} {r : TripRecord}
    (h : ((empty schedule).run writes).inEffect? key = some r) :
    ∃ t, schedule.trip? key.tripId = some t ∧ t.Sound r :=
  inEffect?_run Timetable.sound_record
    (fun _ _ _ _ sound made => Timetable.sound_afterMessage sound made) h

/-- What a message reads is sound, in every run. -/
theorem sound_read {schedule : Schedule} {writes : List Write} {key : TripKey} {t : Timetable}
    (trip : ((empty schedule).run writes).schedule.trip? key.tripId = some t) :
    t.Sound ((((empty schedule).run writes).published? key).getD t.record) := by
  obtain ⟨_, known, sound⟩ := inEffect?_sound (inEffect?_of_trip trip)
  rw [run_schedule] at trip
  cases known.symm.trans trip
  exact sound

/-- **What a journey has made that was taken up**: of a sound record of its trip, the record marked as
canceled or the one that a pass gives. -/
theorem made_of_applyJourney {schedule : Schedule} {writes : List Write} {date : Date}
    {journey : Journey} {t : Timetable} {s : Store} {r : TripRecord}
    (trip : schedule.trip? journey.tripRef = some t)
    (taken : ((empty schedule).run writes).applyJourney date journey = .ok (s, r)) :
    ∃ current, t.Sound current ∧
      (journey.isCancellation ∧ r = current.cancel ∨
        ¬ journey.isCancellation ∧
          t.propagate current journey schedule.stop? schedule.zone = .ok r) := by
  obtain ⟨made, -⟩ := apply_eq_ok_iff (m := .journey date journey).mp taken
  have read : ((empty schedule).run writes).schedule.trip? journey.tripRef = some t := by
    rw [run_schedule]
    exact trip
  have sound : t.Sound ((((empty schedule).run writes).published?
      (Message.journey date journey).key).getD t.record) := sound_read read
  rw [run_schedule] at made
  simp only [Schedule.successor, Message.key, empty, trip] at made
  exact ⟨_, sound, (Timetable.afterJourney_eq_ok_iff.mp made).2.2⟩

/-- **Every record that a store holds is admitted by its schedule**, after every run of messages,
taken up or refused, and purges. -/
theorem published_admitted {file : ScheduleFile} {zone : Zone} {schedule : Schedule}
    (built : Schedule.ofFile file zone = .ok schedule) (writes : List Write) {key : TripKey}
    {r : TripRecord} (held : ((empty schedule).run writes).published? key = some r) :
    ∃ t, schedule.Admits key t r := by
  obtain ⟨t, trip, sound, live⟩ := published?_sound held
  exact ⟨t, sound.admits (Schedule.ofFile_coherent built) trip live⟩

/-- A journey moves the trip to another platform, and a report lowers its delay again. -/
theorem published_admitted_moved :
    ∃ r t, Schedule.ofFile Sample.feed .utc = .ok Sample.schedule ∧
      ((empty Sample.schedule).run Sample.writes).published? ⟨"t", Sample.date⟩ = some r ∧
      r.state = .modified ∧ Sample.schedule.Admits ⟨"t", Sample.date⟩ t r := by
  have built : Schedule.ofFile Sample.feed .utc = .ok Sample.schedule := by rfl
  have found : (((empty Sample.schedule).run Sample.writes).published?
      ⟨"t", Sample.date⟩).map (·.state) = some .modified := by decide
  obtain ⟨r, held, hstate⟩ := Option.map_eq_some_iff.mp found
  obtain ⟨t, ht⟩ := published_admitted built Sample.writes held
  exact ⟨r, t, built, held, hstate, ht⟩

end Store

end LiveTimetable
