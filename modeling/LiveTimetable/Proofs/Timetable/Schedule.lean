import LiveTimetable.Proofs.Outcome
import LiveTimetable.Replay.ScheduleFile

/-!
# Schedules that hang together

A schedule keeps what it knows in several places: two tables and two indexes. `Schedule.Coherent`
says how far these agree in a schedule that was built of a file, where all stops come before the
first trip. It asks no more of the station index than that no stop is missing from it: the index
may still list a stop under a station that it has left.

Main statement: `ofFile_coherent`. It is kept by each of the two operations that the building is
made of.
-/

namespace LiveTimetable

/-! ## Indexes -/

namespace Index

/-- What an index holds after one value was added under many keys. -/
theorem mem_under_foldl_add {α : Type} {key : α → String} {value k v : String} {as : List α}
    {i : Index} :
    v ∈ (as.foldl (fun i a => i.add (key a) value) i).under k ↔
      v ∈ i.under k ∨ v = value ∧ ∃ a ∈ as, key a = k := by
  induction as generalizing i with
  | nil => simp
  | cons a rest ih =>
    rw [List.foldl_cons, ih, mem_under_add]
    simp only [List.mem_cons, exists_eq_or_imp]
    constructor
    · intro h
      rcases h with (h | ⟨rfl, rfl⟩) | ⟨rfl, h⟩
      · exact Or.inl h
      · exact Or.inr ⟨rfl, Or.inl rfl⟩
      · exact Or.inr ⟨rfl, Or.inr h⟩
    · intro h
      rcases h with h | ⟨rfl, rfl | h⟩
      · exact Or.inl (Or.inl h)
      · exact Or.inl (Or.inr ⟨rfl, rfl⟩)
      · exact Or.inr ⟨rfl, h⟩

end Index

namespace Schedule

/-- **The tables and indexes of a schedule agree.** -/
structure Coherent (s : Schedule) : Prop where
  stop_id : ∀ {id stop}, s.stop? id = some stop → stop.id = id
  inStation : ∀ {id stop station}, s.stop? id = some stop → stop.station = some station →
    id ∈ s.stations.under station
  trip_id : ∀ {id t}, s.trip? id = some t → t.tripId = id
  /-- A trip visits stops as the schedule knows them. -/
  known : ∀ {id t}, s.trip? id = some t → ∀ v ∈ t.visits, s.stop? v.visit.stop.id = some v.visit.stop
  visited : ∀ {id t}, s.trip? id = some t → ∀ v ∈ t.visits, id ∈ s.tripsVisiting v.visit.stop.id

variable {s s' : Schedule}

theorem contains_trips {id : String} : s.trips.contains id = (s.trip? id).isSome := rfl

theorem contains_stops {id : String} : s.stops.contains id = (s.stop? id).isSome := rfl

/-- The siblings of a stop are the others that the index lists under its station. -/
theorem mem_stationSiblings_iff {stopId id : String} :
    id ∈ s.stationSiblings stopId ↔ ∃ stop station, s.stop? stopId = some stop ∧
      stop.station = some station ∧ id ∈ s.stations.under station ∧ id ≠ stopId := by
  unfold stationSiblings
  split
  next own station known => simp [known]
  next alone =>
    simp only [List.not_mem_nil, false_iff, not_exists, not_and]
    rintro ⟨own, _⟩ station known rfl
    exact absurd known (alone own station)

/-! ## The two operations -/

theorem empty_coherent (zone : Zone) : (empty zone).Coherent where
  stop_id h := by cases h
  inStation h := by cases h
  trip_id h := by cases h
  known h := by cases h
  visited h := by cases h

theorem stop?_addStop (stop : Stop) (id : String) :
    (s.addStop stop).stop? id = if id = stop.id then some stop else s.stop? id :=
  Table.find?_insert ..

@[simp] theorem trip?_addStop (stop : Stop) (id : String) :
    (s.addStop stop).trip? id = s.trip? id := rfl

/-- Stops that are known under their ids still are with one more. -/
theorem stop_id_addStop {stop : Stop} (h : ∀ {id other}, s.stop? id = some other → other.id = id)
    {id : String} {other : Stop} (hid : (s.addStop stop).stop? id = some other) : other.id = id := by
  rw [stop?_addStop] at hid
  split at hid
  next heq =>
    cases hid
    exact heq.symm
  next => exact h hid

/-- A stop is listed under its station, and no stop is taken off a list. -/
theorem mem_stations_addStop {stop : Stop} {station id : String} :
    id ∈ (s.addStop stop).stations.under station ↔
      id ∈ s.stations.under station ∨ stop.station = some station ∧ id = stop.id := by
  unfold addStop
  cases h : stop.station with
  | none => simp
  | some own =>
    simp only [Index.mem_under_add, Option.some.injEq]
    constructor
    · intro h
      rcases h with h | ⟨rfl, rfl⟩
      · exact Or.inl h
      · exact Or.inr ⟨rfl, rfl⟩
    · intro h
      rcases h with h | ⟨rfl, rfl⟩
      · exact Or.inl h
      · exact Or.inr ⟨rfl, rfl⟩

/-- A stop added before the first trip keeps a schedule coherent. Behind a trip it need not: the
trip would still visit the stop that was there before. -/
theorem addStop_coherent (h : s.Coherent) (noTrips : ∀ id, s.trip? id = none) (stop : Stop) :
    (s.addStop stop).Coherent where
  stop_id := stop_id_addStop h.stop_id
  inStation {id other station} hid hstation := by
    rw [stop?_addStop] at hid
    rw [mem_stations_addStop]
    split at hid
    next heq =>
      cases hid
      exact Or.inr ⟨hstation, heq⟩
    next => exact Or.inl (h.inStation hid hstation)
  trip_id {id t} hid := by
    rw [trip?_addStop, noTrips] at hid
    cases hid
  known {id t} hid := by
    rw [trip?_addStop, noTrips] at hid
    cases hid
  visited {id t} hid := by
    rw [trip?_addStop, noTrips] at hid
    cases hid

/-- What was added, if a trip was added: nothing but the trip, under an id that was free. -/
theorem addTrip_eq_ok_iff {t : Timetable} :
    s.addTrip t = .ok s' ↔ s.trip? t.tripId = none ∧
      (∀ v ∈ t.visits, (s.stop? v.visit.stop.id).isSome) ∧
      s' = { s with
        trips := s.trips.insert t.tripId t
        visitors := t.visits.foldl (fun i v => i.add v.visit.stop.id t.tripId) s.visitors } := by
  unfold addTrip
  rw [contains_trips]
  split
  next hsome =>
    have := Option.isSome_iff_ne_none.mp hsome
    simp [this]
  next hnone =>
    simp only [Bool.not_eq_true, Option.isSome_eq_false_iff, Option.isNone_iff_eq_none] at hnone
    split
    next unknown hfind =>
      have hmem := List.mem_of_find?_eq_some hfind
      have hunknown := List.find?_some hfind
      simp only [contains_stops, Bool.not_eq_true', Bool.eq_false_iff] at hunknown
      simp only [reduceCtorEq, false_iff]
      exact fun ⟨_, hall, _⟩ => hunknown (hall unknown hmem)
    next hfind =>
      simp only [List.find?_eq_none, contains_stops, Bool.not_eq_true', Bool.not_eq_false] at hfind
      simp only [Except.ok.injEq]
      exact ⟨fun h => ⟨hnone, hfind, h.symm⟩, fun h => h.2.2.symm⟩

/-- Why a trip was not added: its id is held, or it is free and the first stop that is not known is
the one told. -/
theorem addTrip_eq_error_iff {t : Timetable} {e : TimetableError} :
    s.addTrip t = .error e ↔
      (s.trip? t.tripId).isSome ∧ e = .duplicateTrip t.tripId ∨
        s.trip? t.tripId = none ∧ ∃ v,
          t.visits.find? (fun v => (s.stop? v.visit.stop.id).isNone) = some v ∧
            e = .unknownStop t.tripId v.visit.stop.id := by
  have unknown : ∀ v : TimedVisit,
      (!s.stops.contains v.visit.stop.id) = (s.stop? v.visit.stop.id).isNone := by
    intro v
    rw [contains_stops, Option.not_isSome]
  unfold addTrip
  simp only [contains_trips, unknown]
  cases s.trip? t.tripId with
  | some other => simp [eq_comm]
  | none =>
    cases t.visits.find? fun v => (s.stop? v.visit.stop.id).isNone with
    | none => simp
    | some v => simp [eq_comm]

/-- The trips held behind an addition are those held before, and the one added. -/
theorem trip?_of_addTrip {t t' : Timetable} {id : String} (added : s.addTrip t = .ok s') :
    s'.trip? id = some t' ↔ id = t.tripId ∧ t' = t ∨ s.trip? id = some t' := by
  obtain ⟨free, -, rfl⟩ := addTrip_eq_ok_iff.mp added
  show Table.find? (s.trips.insert t.tripId t) id = some t' ↔ _
  rw [Table.find?_insert]
  split
  next heq => simp [heq, free, eq_comm]
  next hne => simp [hne, trip?]

theorem addTrip_coherent {t : Timetable} (h : s.Coherent)
    (known : ∀ v ∈ t.visits, ∀ stop, s.stop? v.visit.stop.id = some stop → stop = v.visit.stop)
    (added : s.addTrip t = .ok s') : s'.Coherent := by
  have trip {id : String} {t' : Timetable} (held : s'.trip? id = some t') :
      id = t.tripId ∧ t' = t ∨ s.trip? id = some t' := (trip?_of_addTrip added).mp held
  obtain ⟨-, hstops, rfl⟩ := addTrip_eq_ok_iff.mp added
  refine ⟨h.stop_id, h.inStation, fun hid => ?_, fun hid v hv => ?_, fun hid v hv => ?_⟩
  · rcases trip hid with ⟨rfl, rfl⟩ | hid
    · rfl
    · exact h.trip_id hid
  · rcases trip hid with ⟨rfl, rfl⟩ | hid
    · obtain ⟨stop, hstop⟩ := Option.isSome_iff_exists.mp (hstops v hv)
      rw [← known v hv stop hstop]
      exact known v hv stop hstop ▸ hstop
    · exact h.known hid v hv
  · refine Index.mem_under_foldl_add.mpr ?_
    rcases trip hid with ⟨rfl, rfl⟩ | hid
    · exact Or.inr ⟨rfl, v, hv, rfl⟩
    · exact Or.inl (h.visited hid v hv)

/-! ## Building -/

end Schedule

theorem Timetable.ofVisits_eq_ok_iff {tripId : String} {serviceCode : Int} {line : Option String}
    {visits : List TimedVisit} {t : Timetable} :
    ofVisits tripId serviceCode line visits = .ok t ↔
      visits = t.visits ∧ tripId = t.tripId ∧ serviceCode = t.serviceCode ∧ line = t.line := by
  obtain ⟨tripId', serviceCode', line', visits', nonempty, inOrder⟩ := t
  unfold ofVisits
  split
  next hnil =>
    simp only [reduceCtorEq, false_iff]
    intro h
    obtain ⟨rfl, -⟩ := h
    exact nonempty hnil
  next =>
    split
    next position hsome =>
      simp only [reduceCtorEq, false_iff]
      intro h
      obtain ⟨rfl, -⟩ := h
      rw [inOrder] at hsome
      cases hsome
    next =>
      simp only [Except.ok.injEq, Timetable.mk.injEq]
      constructor
      · intro h
        obtain ⟨rfl, rfl, rfl, rfl⟩ := h
        exact ⟨rfl, rfl, rfl, rfl⟩
      · intro h
        obtain ⟨rfl, rfl, rfl, rfl⟩ := h
        exact ⟨rfl, rfl, rfl, rfl⟩

/-- A visit is at the stop that its entry names, as it is known. -/
theorem StopTimeEntry.stop_of_visit {e : StopTimeEntry} {tripId : String} {lookup : StopLookup}
    {v : TimedVisit} (h : e.visit tripId lookup = .ok v) :
    v.visit.stop = (lookup e.stopId).getD ⟨e.stopId, none⟩ := by
  simp only [StopTimeEntry.visit, Outcome.bind_eq_ok] at h
  obtain ⟨_, -, _, -, hret⟩ := h
  cases hret
  rfl

theorem TripEntry.stop_of_timetable {e : TripEntry} {lookup : StopLookup} {t : Timetable}
    (h : e.timetable lookup = .ok t) {v : TimedVisit} (hv : v ∈ t.visits) :
    ∃ id, v.visit.stop = (lookup id).getD ⟨id, none⟩ := by
  simp only [TripEntry.timetable, Outcome.bind_eq_ok, Outcome.mapError_eq_ok,
    Outcome.mapM_eq_ok_iff, Timetable.ofVisits_eq_ok_iff] at h
  obtain ⟨visits, hvisits, rfl, -⟩ := h
  obtain ⟨i, hi, rfl⟩ := List.getElem_of_mem hv
  have hentry := hvisits.get (by rw [hvisits.length_eq]; exact hi) hi
  exact ⟨_, StopTimeEntry.stop_of_visit hentry⟩

namespace Schedule

variable {s s' : Schedule}

theorem addEntry_coherent {e : TripEntry} (h : s.Coherent) (added : s.addEntry e = .ok s') :
    s'.Coherent := by
  simp only [addEntry, Outcome.bind_eq_ok, Outcome.mapError_eq_ok] at added
  obtain ⟨t, ht, hadd⟩ := added
  refine addTrip_coherent h (fun v hv stop hstop => ?_) hadd
  obtain ⟨id, hid⟩ := TripEntry.stop_of_timetable ht hv
  cases hknown : s.stop? id with
  | none =>
    -- the trip would not have been added: its visit is at a stop that is not known
    rw [hid, hknown] at hstop
    rw [Option.getD_none, hknown] at hstop
    cases hstop
  | some other =>
    rw [hknown, Option.getD_some] at hid
    rw [hid, h.stop_id hknown, hknown] at hstop
    rw [hid]
    exact (Option.some.inj hstop).symm

/-- The stops of a file leave a schedule coherent and without trips. -/
theorem foldl_addStop_coherent (stops : List Stop) (h : s.Coherent)
    (noTrips : ∀ id, s.trip? id = none) :
    (stops.foldl addStop s).Coherent ∧ ∀ id, (stops.foldl addStop s).trip? id = none := by
  induction stops generalizing s with
  | nil => exact ⟨h, noTrips⟩
  | cons stop rest ih => exact ih (addStop_coherent h noTrips stop) noTrips

/-- **A schedule that was built of a file is coherent.** -/
theorem ofFile_coherent {file : ScheduleFile} {zone : Zone} (built : ofFile file zone = .ok s) :
    s.Coherent := by
  unfold ofFile at built
  have start := (foldl_addStop_coherent file.stops (empty_coherent zone) fun _ => rfl).1
  revert start built
  generalize file.stops.foldl addStop (empty zone) = s₀
  induction file.trips generalizing s₀ with
  | nil =>
    intro built start
    cases built
    exact start
  | cons e rest ih =>
    intro built start
    obtain ⟨s₁, he, hrest⟩ := Outcome.bind_eq_ok.mp built
    exact ih s₁ hrest (addEntry_coherent start he)

end Schedule

end LiveTimetable
