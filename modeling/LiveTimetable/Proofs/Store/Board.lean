import LiveTimetable.Proofs.Store.Published
import LiveTimetable.Proofs.Store.Rows
import LiveTimetable.Proofs.Update.Substitution

/-!
# A board misses no visit

A board looks at few trips: those that the timetable brings to the stop or to another stop of its
station. That is enough. In any store that messages have led to, a stop in a record stands for the
scheduled one at its position (`Timetable.ServesStops`), and a coherent schedule finds the trip
under the scheduled stop and that stop under the station that it shares. So every visit that a
look at all trips would find is on the board, once, and nothing else is: `departures_board`.

The index of a station may list a stop that has left it. That costs a look at a trip that does not
call, and no row.
-/

namespace LiveTimetable

/-- The query that leaves nothing out. -/
def BoardQuery.everything : BoardQuery := ⟨false, true, none⟩

namespace Store

variable {s : Store} {stopId tripId : String} {date : Date} {position : Nat}

/-- **The trip calls at the stop**: in its record in effect the stop stands at the position. -/
def Calls (s : Store) (stopId : String) (date : Date) (tripId : String) (position : Nat) : Prop :=
  (s.schedule.trip? tripId).isSome ∧ ∃ r stop, s.inEffect? ⟨tripId, date⟩ = some r ∧
    r.stops[position]? = some stop ∧ stop.visit.stop.id = stopId

/-- **Rows that are the board of a stop on a date.** -/
structure Board (s : Store) (stopId : String) (date : Date) (rows : List Departure) : Prop where
  /-- No visit has two rows. -/
  once : (rows.map fun row => (row.key, row.position)).Nodup
  onDate : ∀ row ∈ rows, row.key.date = date
  /-- The visits with a row are those that a look at every trip finds. -/
  complete : ∀ tripId position,
    (∃ row ∈ rows, row.key = ⟨tripId, date⟩ ∧ row.position = position) ↔
      s.Calls stopId date tripId position
  tells : ∀ row ∈ rows, row.Tells s stopId
  /-- A departure is the scheduled one and its delay, which is held. -/
  delayed : ∀ row ∈ rows, row.stop.delay.Held ∧
    row.time.val = row.stop.scheduled.departure.val + row.stop.delay.departure

/-! ## The candidates -/

/-- The record in effect serves the stops of its trip, in every run over a coherent schedule. -/
theorem inEffect?_servesStops {schedule : Schedule} (coherent : schedule.Coherent)
    {writes : List Write} {key : TripKey} {r : TripRecord}
    (h : ((empty schedule).run writes).inEffect? key = some r) :
    ∃ t, schedule.trip? key.tripId = some t ∧ t.ServesStops schedule.stop? r :=
  inEffect?_run (P := fun t r => t.ServesStops schedule.stop? r)
    (fun t => t.servesStops_record schedule.stop?)
    (fun _ _ _ _ serves made => Timetable.servesStops_afterMessage coherent serves made) h

/-- A trip is a candidate when it visits the stop, or another one found under its station. -/
theorem mem_candidates_iff :
    tripId ∈ s.candidates stopId ↔ ∃ id, (id = stopId ∨ id ∈ s.schedule.stationSiblings stopId) ∧
      tripId ∈ s.schedule.tripsVisiting id := by
  rw [candidates, List.mem_eraseDups, List.mem_flatMap]
  simp only [List.mem_cons]

/-- The stops of a station are siblings. -/
theorem mem_stationSiblings {schedule : Schedule} (coherent : schedule.Coherent) {a b : Stop}
    (ha : schedule.stop? a.id = some a) (hb : schedule.stop? b.id = some b)
    (shared : b.sharesStation a) (apart : b.id ≠ a.id) :
    b.id ∈ schedule.stationSiblings a.id := by
  obtain ⟨station, hbstation, hastation⟩ := Stop.sharesStation_iff.mp shared
  exact Schedule.mem_stationSiblings_iff.mpr
    ⟨a, station, ha, hastation, coherent.inStation hb hbstation, apart⟩

/-- **A trip that calls at the stop is a candidate.** -/
theorem mem_candidates_of_calls {schedule : Schedule} (coherent : schedule.Coherent)
    {writes : List Write} (h : ((empty schedule).run writes).Calls stopId date tripId position) :
    tripId ∈ ((empty schedule).run writes).candidates stopId := by
  obtain ⟨-, r, stop, hr, hstop, rfl⟩ := h
  obtain ⟨t, ht, hserves⟩ := inEffect?_servesStops coherent hr
  obtain ⟨v, hv, hstands⟩ := hserves position stop hstop
  have hmem := List.mem_of_getElem? hv
  have visited := coherent.visited ht v hmem
  rw [mem_candidates_iff, run_schedule]
  rcases hstands with hsame | ⟨hknown, hshares⟩
  · rw [hsame]
    exact ⟨_, Or.inl rfl, visited⟩
  · -- the scheduled stop has the same id, or it is a sibling
    by_cases hid : v.visit.stop.id = stop.visit.stop.id
    · exact ⟨_, Or.inl hid, visited⟩
    · have known := coherent.known ht v hmem
      exact ⟨_, Or.inr (mem_stationSiblings coherent hknown known hshares hid), visited⟩

/-! ## After a message -/

section Taken

variable {schedule : Schedule} {writes : List Write} {m : Message} {s' : Store} {r : TripRecord}

/-- The record that a message has published is in effect. -/
theorem inEffect?_of_apply (taken : s.apply m = .ok (s', r)) : s'.inEffect? m.key = some r := by
  obtain ⟨-, rfl⟩ := apply_eq_ok_iff.mp taken
  rw [inEffect?, published?_withRecord, if_pos rfl]
  rfl

/-- **A message leaves its trip a candidate** for each stop that the trip then calls at. -/
theorem mem_candidates_of_apply (coherent : schedule.Coherent)
    (taken : ((empty schedule).run writes).apply m = .ok (s', r)) {stop : StopRecord}
    (hstop : r.stops[position]? = some stop) :
    m.key.tripId ∈ s'.candidates stop.visit.stop.id := by
  have inEffect := inEffect?_of_apply taken
  have reached := run_append_of_apply taken
  rw [← reached] at inEffect
  obtain ⟨t, trip, -⟩ := inEffect?_servesStops coherent inEffect
  have calls : ((empty schedule).run (writes ++ [.message m])).Calls stop.visit.stop.id m.key.date
      m.key.tripId position := by
    refine ⟨?_, r, stop, inEffect, hstop, rfl⟩
    rw [run_schedule]
    exact Option.isSome_of_eq_some trip
  rw [← reached]
  exact mem_candidates_of_calls coherent calls

end Taken

/-! ## The board -/

/-- A row that tells of a record tells of a call. -/
theorem calls_of_tells {row : Departure} (trips : ∀ key r, s.inEffect? key = some r →
      (s.schedule.trip? key.tripId).isSome) (h : row.Tells s stopId) :
    s.Calls stopId row.key.date row.key.tripId row.position := by
  obtain ⟨r, hr, -, hstop⟩ := h.record
  exact ⟨trips _ _ hr, r, row.stop, hr, hstop, h.here⟩

/-- A call on a date that has instants has a row that tells of it. -/
theorem tells_of_calls (inner : date.Inner) (h : s.Calls stopId date tripId position) :
    ∃ row : Departure, row.key = ⟨tripId, date⟩ ∧ row.position = position ∧
      row.Tells s stopId := by
  obtain ⟨-, r, stop, hr, hstop, hid⟩ := h
  obtain ⟨instant, hinstant⟩ :=
    Service.instantAt_of_inner inner s.schedule.zone stop.passage.departure
  exact ⟨⟨⟨tripId, date⟩, stopId, position, stop, r.state, instant⟩, rfl, rfl,
    ⟨rfl, ⟨r, hr, rfl, hstop⟩, hid, hinstant⟩⟩

/-- **The rows that are found are the board**, in every store that writes have led to. -/
theorem departures_board {file : ScheduleFile} {zone : Zone} {schedule : Schedule}
    (built : Schedule.ofFile file zone = .ok schedule) (writes : List Write) (stopId : String)
    {date : Date} (inner : date.Inner) :
    ∃ rows, ((empty schedule).run writes).departures stopId date .everything = .ok rows ∧
      ((empty schedule).run writes).Board stopId date rows := by
  have coherent := Schedule.ofFile_coherent built
  obtain ⟨rows, hrows⟩ := departures_of_inner ((empty schedule).run writes) stopId
    .everything inner
  have member : ∀ row, row ∈ rows ↔ _ := fun row => mem_departures_iff rfl hrows
  refine ⟨rows, hrows, nodup_departures rfl hrows, fun row h => ((member row).mp h).2.1, ?_,
    fun row h => ((member row).mp h).2.2.1, fun row h => ?_⟩
  · intro tripId position
    constructor
    · intro h
      obtain ⟨row, hrow, hkey, rfl⟩ := h
      have calls := calls_of_tells (fun key r hr => ?_) ((member row).mp hrow).2.2.1
      · rw [hkey] at calls
        exact calls
      · obtain ⟨t, ht, -⟩ := inEffect?_sound hr
        rw [run_schedule]
        show (schedule.trip? key.tripId).isSome
        rw [ht]
        rfl
    · intro calls
      obtain ⟨row, hkey, hposition, htells⟩ := tells_of_calls inner calls
      refine ⟨row, (member row).mpr ⟨?_, ?_, htells, rfl⟩, hkey, hposition⟩
      · rw [hkey]
        exact mem_candidates_of_calls coherent calls
      · rw [hkey]
  · obtain ⟨r, hr, -, hstop⟩ := ((member row).mp h).2.2.1.record
    obtain ⟨t, -, sound⟩ := inEffect?_sound hr
    have held := sound.held row.stop (List.mem_of_getElem? hstop)
    refine ⟨held, ?_⟩
    simp only [Departure.time, StopRecord.delay, Passage.delayFrom]
    omega

/-- The trip is on the board of the platform that it was moved to. -/
theorem departures_board_moved :
    ∃ rows, Schedule.ofFile Sample.feed .utc = .ok Sample.schedule ∧ Sample.date.Inner ∧
      ((empty Sample.schedule).run Sample.writes).departures "B2" Sample.date .everything =
        .ok rows ∧
      ((empty Sample.schedule).run Sample.writes).Board "B2" Sample.date rows ∧
      ∃ row ∈ rows, row.key = ⟨"t", Sample.date⟩ ∧ row.position = 1 := by
  have built : Schedule.ofFile Sample.feed .utc = .ok Sample.schedule := by rfl
  have inner : Sample.date.Inner := by decide
  obtain ⟨rows, hrows, board⟩ := departures_board built Sample.writes "B2" inner
  refine ⟨rows, built, inner, hrows, board, (board.complete "t" 1).mpr ?_⟩
  refine ⟨by decide, ?_⟩
  have found : ((((empty Sample.schedule).run Sample.writes).inEffect? ⟨"t", Sample.date⟩).bind
      fun r => r.stops[1]?).map (·.visit.stop.id) = some "B2" := by decide
  obtain ⟨stop, hstop, hid⟩ := Option.map_eq_some_iff.mp found
  obtain ⟨r, hr, hstop⟩ := Option.bind_eq_some_iff.mp hstop
  exact ⟨r, stop, hr, hstop, hid⟩

end Store

end LiveTimetable
