import LiveTimetable.Proofs.Timetable.Additions
import LiveTimetable.Proofs.Timetable.Disorder

/-!
# Schedules built of files

What a file has to be like to make a schedule, said of its entries alone: `ScheduleFile.Valid`. What
the schedule then holds, said entry by entry: `Schedule.Holds`. And what is told of a file that is
not valid: `ScheduleFile.FirstFault`, where `TripEntry.Fault` has one case for each thing that can
be wrong with a trip and each case rules out those in front of it.

Main statement: `Schedule.ofFile_outcome`. A trip is refused for what is wrong with it among the
trips that are held by then (`addEntry_eq_error_iff`), so all rests on what the trips in front of it
have built (`holds_of_entries`). A stop that no file has stands in for an unknown one only as long
as the trip is not added.
-/

namespace LiveTimetable

/-! ## What an entry tells -/

namespace StopTimeEntry

/-- The times of an entry as they are written, in the order in which they are read. -/
def times (st : StopTimeEntry) : List String := [st.arrival, st.departure]

/-- The times of an entry are those of a passage. -/
def Reads (st : StopTimeEntry) (p : Passage) : Prop :=
  Service.ofText? st.arrival = some p.arrival ∧ Service.ofText? st.departure = some p.departure

/-- **A visit is what an entry tells**, at the last stop of its id. -/
structure Gives (st : StopTimeEntry) (stops : List Stop) (v : TimedVisit) : Prop where
  times : st.Reads v.passage
  stop : Stop.last? stops st.stopId = some v.visit.stop
  pickup : v.visit.pickup = st.pickup
  dropOff : v.visit.dropOff = st.dropOff
  headsign : v.visit.headsign = st.headsign

variable {st : StopTimeEntry} {tripId : String} {lookup : StopLookup}

theorem timeOf_eq_ok_iff {value : String} {time : Seconds} :
    timeOf tripId value = .ok time ↔ Service.ofText? value = some time := by
  unfold timeOf
  split
  next h => simp [h]
  next h => simp [h]

theorem visit_eq_ok_iff {v : TimedVisit} :
    st.visit tripId lookup = .ok v ↔ st.Reads v.passage ∧
      v.visit = ⟨(lookup st.stopId).getD ⟨st.stopId, none⟩, st.pickup, st.dropOff, st.headsign⟩ := by
  obtain ⟨visit, arrival, departure⟩ := v
  simp only [StopTimeEntry.visit, Outcome.bind_eq_ok, timeOf_eq_ok_iff, Reads]
  constructor
  · rintro ⟨_, ha, _, hd, made⟩
    cases made
    exact ⟨⟨ha, hd⟩, rfl⟩
  · rintro ⟨⟨ha, hd⟩, rfl⟩
    exact ⟨arrival, ha, departure, hd, rfl⟩

/-- An entry fails at the first of its times that cannot be read. -/
theorem visit_eq_error_iff {err : ScheduleError} :
    st.visit tripId lookup = .error err ↔ ∃ text,
      st.times.find? (fun text => (Service.ofText? text).isNone) = some text ∧
        err = .invalidTime tripId text := by
  simp only [StopTimeEntry.visit, timeOf, times]
  cases ha : Service.ofText? st.arrival with
  | none => simp [bind, Except.bind, ha, eq_comm]
  | some arrival =>
    cases hd : Service.ofText? st.departure with
    | none => simp [bind, Except.bind, ha, hd, eq_comm]
    | some departure => simp [bind, Except.bind, ha, hd, pure, Except.pure]

end StopTimeEntry

namespace TripEntry

def times (e : TripEntry) : List String := e.stopTimes.flatMap (·.times)

/-- The times of the entry of a trip are those of passages. -/
def Reads (e : TripEntry) (ps : List Passage) : Prop :=
  List.Forall₂ StopTimeEntry.Reads e.stopTimes ps

/-- **A timetable is what the entry of a trip tells**, visit by visit. -/
structure Gives (e : TripEntry) (stops : List Stop) (t : Timetable) : Prop where
  tripId : t.tripId = e.tripId
  serviceCode : t.serviceCode = e.serviceCode
  line : t.line = e.line
  visits : List.Forall₂ (fun st v => st.Gives stops v) e.stopTimes t.visits

/-- **Nothing is wrong with the entry of a trip** by itself. -/
structure Sound (e : TripEntry) (stops : List Stop) : Prop where
  readable : ∀ text ∈ e.times, (Service.ofText? text).isSome
  called : e.stopTimes ≠ []
  inOrder : ∀ ps, e.Reads ps → Passage.InOrder ps
  known : ∀ st ∈ e.stopTimes, st.stopId ∈ stops.map (·.id)

/-- **What is wrong with the entry of a trip**, behind others with the given ids: the first that
applies. -/
inductive Fault (stops : List Stop) (earlier : List String) (e : TripEntry) : ScheduleError → Prop
  /-- The first of the times that cannot be read. -/
  | time {text : String}
      (first : e.times.find? (fun text => (Service.ofText? text).isNone) = some text) :
      Fault stops earlier e (.invalidTime e.tripId text)
  | empty (uncalled : e.stopTimes = []) : Fault stops earlier e (.timetable (.emptyTrip e.tripId))
  /-- The first position at which the times run backwards. -/
  | backwards {ps : List Passage} {i : Nat} (reads : e.Reads ps)
      (back : Passage.RunsBackAt ps i) (first : ∀ j < i, ¬ Passage.RunsBackAt ps j) :
      Fault stops earlier e (.timetable (.nonIncreasingSchedule e.tripId i))
  | duplicate {ps : List Passage} (reads : e.Reads ps) (called : e.stopTimes ≠ [])
      (inOrder : Passage.InOrder ps) (held : e.tripId ∈ earlier) :
      Fault stops earlier e (.timetable (.duplicateTrip e.tripId))
  /-- The first stop that the file does not have. -/
  | unknown {ps : List Passage} {stopId : String} (reads : e.Reads ps) (called : e.stopTimes ≠ [])
      (inOrder : Passage.InOrder ps) (free : e.tripId ∉ earlier)
      (first : (e.stopTimes.map (·.stopId)).find? (· ∉ stops.map (·.id)) = some stopId) :
      Fault stops earlier e (.timetable (.unknownStop e.tripId stopId))

variable {e : TripEntry} {lookup : StopLookup}

/-! ## Its timetable -/

/-- The visits that an entry asks for. -/
theorem visits_eq_ok_iff {sts : List StopTimeEntry} {tripId : String} {visits : List TimedVisit} :
    sts.mapM (·.visit tripId lookup) = .ok visits ↔
      List.Forall₂ (fun st v => st.Reads v.passage ∧
        v.visit = ⟨(lookup st.stopId).getD ⟨st.stopId, none⟩, st.pickup, st.dropOff, st.headsign⟩)
        sts visits := by
  simp only [Outcome.mapM_eq_ok_iff, StopTimeEntry.visit_eq_ok_iff]

theorem visits_eq_error_iff {sts : List StopTimeEntry} {tripId : String} {err : ScheduleError} :
    sts.mapM (·.visit tripId lookup) = .error err ↔ ∃ text,
      (sts.flatMap (·.times)).find? (fun text => (Service.ofText? text).isNone) = some text ∧
        err = .invalidTime tripId text := by
  induction sts with
  | nil =>
    constructor
    · intro h
      cases h
    · rintro ⟨_, h, -⟩
      cases h
  | cons st rest ih =>
    rw [List.mapM_cons, Outcome.bind_eq_error, List.flatMap_cons, List.find?_append]
    cases visited : st.visit tripId lookup with
    | error reason =>
      obtain ⟨text, first, rfl⟩ := StopTimeEntry.visit_eq_error_iff.mp visited
      simp [first, eq_comm]
    | ok v =>
      have readable : st.times.find? (fun text => (Service.ofText? text).isNone) = none := by
        cases first : st.times.find? (fun text => (Service.ofText? text).isNone) with
        | none => rfl
        | some text =>
          have failed : st.visit tripId lookup = .error (.invalidTime tripId text) :=
            StopTimeEntry.visit_eq_error_iff.mpr ⟨text, first, rfl⟩
          cases visited.symm.trans failed
      rw [readable, Option.none_or, ← ih]
      simp [Outcome.bind_eq_error, pure, Except.pure]

/-- Visits are found where all times can be read, and they pass as these tell. -/
theorem reads_iff_exists_visits (lookup : StopLookup) {ps : List Passage} :
    e.Reads ps ↔ ∃ visits,
      e.stopTimes.mapM (·.visit e.tripId lookup) = .ok visits ∧ visits.map (·.passage) = ps := by
  simp only [visits_eq_ok_iff, Reads]
  generalize e.stopTimes = sts
  constructor
  · intro reads
    induction reads with
    | nil => exact ⟨[], .nil, rfl⟩
    | cons h _ ih =>
      obtain ⟨visits, made, rfl⟩ := ih
      exact ⟨⟨_, _⟩ :: visits, .cons ⟨h, rfl⟩ made, rfl⟩
  · rintro ⟨visits, made, rfl⟩
    rw [List.forall₂_map_right_iff]
    exact made.imp fun _ _ h => h.1

theorem timetable_eq_ok_iff {t : Timetable} :
    e.timetable lookup = .ok t ↔ t.tripId = e.tripId ∧ t.serviceCode = e.serviceCode ∧
      t.line = e.line ∧ e.stopTimes.mapM (·.visit e.tripId lookup) = .ok t.visits := by
  simp only [timetable, Outcome.bind_eq_ok, Outcome.mapError_eq_ok, Timetable.ofVisits_eq_ok_iff]
  constructor
  · rintro ⟨_, made, rfl, tripId, serviceCode, line⟩
    exact ⟨tripId.symm, serviceCode.symm, line.symm, made⟩
  · rintro ⟨tripId, serviceCode, line, made⟩
    exact ⟨_, made, rfl, tripId.symm, serviceCode.symm, line.symm⟩

end TripEntry

theorem Timetable.ofVisits_eq_error_iff {tripId : String} {serviceCode : Int} {line : Option String}
    {visits : List TimedVisit} {err : TimetableError} :
    ofVisits tripId serviceCode line visits = .error err ↔
      visits = [] ∧ err = .emptyTrip tripId ∨ ∃ i,
        Passage.firstDisorder? (visits.map (·.passage)) = some i ∧
          err = .nonIncreasingSchedule tripId i := by
  unfold ofVisits
  split
  next none => simp [none, Passage.firstDisorder?, Passage.disorderSince?, eq_comm]
  next some =>
    split
    next i back => simp [some, back, eq_comm]
    next forward => simp [some, forward]

namespace TripEntry

variable {e : TripEntry} {lookup : StopLookup}

theorem timetable_eq_error_iff {err : ScheduleError} :
    e.timetable lookup = .error err ↔
      (∃ text, e.times.find? (fun text => (Service.ofText? text).isNone) = some text ∧
        err = .invalidTime e.tripId text) ∨
      (e.stopTimes = [] ∧ err = .timetable (.emptyTrip e.tripId)) ∨
      ∃ ps i, e.Reads ps ∧ Passage.firstDisorder? ps = some i ∧
        err = .timetable (.nonIncreasingSchedule e.tripId i) := by
  simp only [timetable, Outcome.bind_eq_error, visits_eq_error_iff, Outcome.mapError_eq_error,
    Timetable.ofVisits_eq_error_iff, reads_iff_exists_visits lookup]
  refine or_congr Iff.rfl ?_
  constructor
  · rintro ⟨visits, made, _, ⟨rfl, rfl⟩ | ⟨i, back, rfl⟩, rfl⟩
    · rw [visits_eq_ok_iff, List.forall₂_nil_right_iff] at made
      exact Or.inl ⟨made, rfl⟩
    · exact Or.inr ⟨_, i, ⟨visits, made, rfl⟩, back, rfl⟩
  · rintro (⟨uncalled, rfl⟩ | ⟨_, i, ⟨visits, made, rfl⟩, back, rfl⟩)
    · rw [uncalled]
      exact ⟨[], rfl, _, Or.inl ⟨rfl, rfl⟩, rfl⟩
    · exact ⟨visits, made, _, Or.inr ⟨i, back, rfl⟩, rfl⟩

/-- Where nothing is wrong with the times of an entry, it has a timetable. -/
theorem exists_timetable (lookup : StopLookup) {ps : List Passage} (reads : e.Reads ps)
    (called : e.stopTimes ≠ []) (inOrder : Passage.InOrder ps) : ∃ t, e.timetable lookup = .ok t := by
  obtain ⟨visits, made, rfl⟩ := (reads_iff_exists_visits lookup).mp reads
  refine ⟨⟨e.tripId, e.serviceCode, e.line, visits, ?_,
    Passage.firstDisorder?_eq_none_iff_inOrder.mpr inOrder⟩,
    timetable_eq_ok_iff.mpr ⟨rfl, rfl, rfl, made⟩⟩
  rintro rfl
  rw [visits_eq_ok_iff, List.forall₂_nil_right_iff] at made
  exact called made

/-- What has a timetable has times that can be read, for one stop at least, and in order. -/
theorem of_timetable {t : Timetable} (h : e.timetable lookup = .ok t) :
    e.Reads (t.visits.map (·.passage)) ∧ e.stopTimes ≠ [] ∧
      Passage.InOrder (t.visits.map (·.passage)) := by
  obtain ⟨-, -, -, made⟩ := timetable_eq_ok_iff.mp h
  refine ⟨(reads_iff_exists_visits lookup).mpr ⟨_, made, rfl⟩, fun uncalled => ?_,
    Passage.firstDisorder?_eq_none_iff_inOrder.mp t.inOrder⟩
  rw [uncalled, visits_eq_ok_iff, List.forall₂_nil_left_iff] at made
  exact t.nonempty made

/-- There is one way to read the times of an entry. -/
theorem Reads.unique {ps ps' : List Passage} (h : e.Reads ps) (h' : e.Reads ps') : ps = ps' := by
  refine List.right_unique_forall₂' ?_ h h'
  rintro st ⟨arrival, departure⟩ ⟨arrival', departure'⟩ ⟨ha, hd⟩ ⟨ha', hd'⟩
  cases ha.symm.trans ha'
  cases hd.symm.trans hd'
  rfl

theorem readable_of_reads {ps : List Passage} (reads : e.Reads ps) :
    ∀ text ∈ e.times, (Service.ofText? text).isSome := by
  intro text mem
  obtain ⟨st, hst, hown⟩ := List.mem_flatMap.mp mem
  obtain ⟨p, -, arrival, departure⟩ := Lists.exists_mem_of_forall₂ reads hst
  simp only [StopTimeEntry.times, List.mem_cons, List.not_mem_nil, or_false] at hown
  rcases hown with rfl | rfl
  · rw [arrival]
    rfl
  · rw [departure]
    rfl

end TripEntry

theorem Stop.isSome_last? {stops : List Stop} {id : String} :
    (last? stops id).isSome ↔ id ∈ stops.map (·.id) := by
  simp [last?, List.find?_isSome]

theorem Stop.id_of_last? {stops : List Stop} {id : String} {stop : Stop}
    (h : last? stops id = some stop) : stop.id = id := by
  simpa using List.find?_some h

namespace Schedule

/-- **A schedule holds what a file tells**: its stops, each as the file has it last, and its trips. -/
structure Holds (s : Schedule) (file : ScheduleFile) : Prop where
  stops : ∀ id, s.stop? id = Stop.last? file.stops id
  trips : ∀ e ∈ file.trips, ∃ t, s.trip? e.tripId = some t ∧ e.Gives file.stops t
  only : ∀ id t, s.trip? id = some t → ∃ e ∈ file.trips, e.tripId = id ∧ e.Gives file.stops t

variable {s s' : Schedule} {stops : List Stop} {front : List TripEntry} {e : TripEntry}

theorem Holds.trip?_isSome_iff (h : s.Holds ⟨stops, front⟩) {id : String} :
    (s.trip? id).isSome ↔ id ∈ front.map (·.tripId) := by
  rw [Option.isSome_iff_exists, List.mem_map]
  constructor
  · rintro ⟨t, held⟩
    obtain ⟨e, he, own, -⟩ := h.only id t held
    exact ⟨e, he, own⟩
  · rintro ⟨e, he, rfl⟩
    obtain ⟨t, held, -⟩ := h.trips e he
    exact ⟨t, held⟩

theorem Holds.trip?_eq_none_iff (h : s.Holds ⟨stops, front⟩) {id : String} :
    s.trip? id = none ↔ id ∉ front.map (·.tripId) := by
  rw [← h.trip?_isSome_iff, Option.not_isSome_iff_eq_none]

/-- The visits of a trip are at the stops that its entry names. -/
theorem Holds.stopIds (h : s.Holds ⟨stops, front⟩) {t : Timetable}
    (made : e.timetable s.stop? = .ok t) :
    t.visits.map (·.visit.stop.id) = e.stopTimes.map (·.stopId) := by
  obtain ⟨-, -, -, visits⟩ := TripEntry.timetable_eq_ok_iff.mp made
  rw [TripEntry.visits_eq_ok_iff] at visits
  refine (Lists.map_eq_map_iff_forall₂.mpr (visits.imp fun st v asked => ?_)).symm
  rw [asked.2]
  cases known : s.stop? st.stopId with
  | none => rfl
  | some stop => exact (Stop.id_of_last? ((h.stops _).symm.trans known)).symm

/-- The first stop that a schedule does not know is the first that the file does not have. -/
theorem Holds.firstUnknown_iff (h : s.Holds ⟨stops, front⟩) {t : Timetable}
    (made : e.timetable s.stop? = .ok t) {err : TimetableError} :
    (∃ v, t.visits.find? (fun v => (s.stop? v.visit.stop.id).isNone) = some v ∧
      err = .unknownStop t.tripId v.visit.stop.id) ↔
    ∃ stopId, (e.stopTimes.map (·.stopId)).find? (· ∉ stops.map (·.id)) = some stopId ∧
      err = .unknownStop e.tripId stopId := by
  have unknown : ∀ id, (s.stop? id).isNone = decide (id ∉ stops.map (·.id)) := by
    intro id
    rw [h.stops, Bool.eq_iff_iff, decide_eq_true_eq, ← Stop.isSome_last?]
    simp
  rw [← h.stopIds made, List.find?_map, (TripEntry.timetable_eq_ok_iff.mp made).1]
  simp only [Option.map_eq_some_iff, unknown, Function.comp_def]
  constructor
  · rintro ⟨v, first, rfl⟩
    exact ⟨_, ⟨v, first, rfl⟩, rfl⟩
  · rintro ⟨_, ⟨v, first, rfl⟩, rfl⟩
    exact ⟨v, first, rfl⟩

/-- **An entry is refused for what is wrong with it** behind the entries whose trips are held. -/
theorem addEntry_eq_error_iff (h : s.Holds ⟨stops, front⟩) {err : ScheduleError} :
    s.addEntry e = .error err ↔ e.Fault stops (front.map (·.tripId)) err := by
  simp only [addEntry, Outcome.bind_eq_error, TripEntry.timetable_eq_error_iff,
    Outcome.mapError_eq_error, addTrip_eq_error_iff, h.trip?_isSome_iff,
    h.trip?_eq_none_iff]
  constructor
  · rintro ((⟨text, first, rfl⟩ | ⟨uncalled, rfl⟩ | ⟨ps, i, reads, back, rfl⟩) |
      ⟨t, made, _, ⟨held, rfl⟩ | ⟨free, unknown⟩, rfl⟩)
    · exact .time first
    · exact .empty uncalled
    · obtain ⟨back, first⟩ := Passage.firstDisorder?_eq_some_iff.mp back
      exact .backwards reads back first
    · obtain ⟨reads, called, inOrder⟩ := TripEntry.of_timetable made
      rw [(TripEntry.timetable_eq_ok_iff.mp made).1] at held ⊢
      exact .duplicate reads called inOrder held
    · obtain ⟨reads, called, inOrder⟩ := TripEntry.of_timetable made
      obtain ⟨stopId, first, rfl⟩ := (h.firstUnknown_iff made).mp unknown
      rw [(TripEntry.timetable_eq_ok_iff.mp made).1] at free
      exact .unknown reads called inOrder free first
  · intro fault
    cases fault with
    | time first => exact Or.inl (Or.inl ⟨_, first, rfl⟩)
    | empty uncalled => exact Or.inl (Or.inr (Or.inl ⟨uncalled, rfl⟩))
    | backwards reads back first =>
      have told := Passage.firstDisorder?_eq_some_iff.mpr ⟨back, first⟩
      exact Or.inl (Or.inr (Or.inr ⟨_, _, reads, told, rfl⟩))
    | duplicate reads called inOrder held =>
      obtain ⟨t, made⟩ := TripEntry.exists_timetable s.stop? reads called inOrder
      have own := (TripEntry.timetable_eq_ok_iff.mp made).1
      exact Or.inr ⟨t, made, _, Or.inl ⟨own ▸ held, rfl⟩, by rw [own]⟩
    | unknown reads called inOrder free first =>
      obtain ⟨t, made⟩ := TripEntry.exists_timetable s.stop? reads called inOrder
      have own := (TripEntry.timetable_eq_ok_iff.mp made).1
      have unknown := (h.firstUnknown_iff made).mpr ⟨_, first, rfl⟩
      exact Or.inr ⟨t, made, _, Or.inr ⟨own ▸ free, unknown⟩, rfl⟩

/-- An entry with nothing wrong is not refused, and one that is not refused has nothing wrong. -/
theorem exists_addEntry_iff (h : s.Holds ⟨stops, front⟩) :
    (∃ s', s.addEntry e = .ok s') ↔ e.Sound stops ∧ e.tripId ∉ front.map (·.tripId) := by
  constructor
  · rintro ⟨s', added⟩
    simp only [addEntry, Outcome.bind_eq_ok, Outcome.mapError_eq_ok] at added
    obtain ⟨t, made, added⟩ := added
    obtain ⟨free, known, -⟩ := addTrip_eq_ok_iff.mp added
    obtain ⟨reads, called, inOrder⟩ := TripEntry.of_timetable made
    rw [(TripEntry.timetable_eq_ok_iff.mp made).1, h.trip?_eq_none_iff] at free
    refine ⟨⟨TripEntry.readable_of_reads reads, called, ?_, fun st hst => ?_⟩, free⟩
    · exact fun ps reads' => reads.unique reads' ▸ inOrder
    · have named : st.stopId ∈ t.visits.map (·.visit.stop.id) := by
        rw [h.stopIds made]
        exact List.mem_map_of_mem hst
      obtain ⟨v, hv, own⟩ := List.mem_map.mp named
      rw [← own, ← Stop.isSome_last?, ← h.stops]
      exact known v hv
  · rintro ⟨sound, free⟩
    cases added : s.addEntry e with
    | ok s' => exact ⟨s', rfl⟩
    | error err =>
      cases (addEntry_eq_error_iff h).mp added with
      | time first =>
        have readable := sound.readable _ (List.mem_of_find?_eq_some first)
        have unread := List.find?_some first
        rw [Option.isNone_iff_eq_none.mp unread] at readable
        cases readable
      | empty uncalled => exact absurd uncalled sound.called
      | backwards reads back first =>
        have told := Passage.firstDisorder?_eq_some_iff.mpr ⟨back, first⟩
        rw [Passage.firstDisorder?_eq_none_iff_inOrder.mpr (sound.inOrder _ reads)] at told
        cases told
      | duplicate reads called inOrder held => exact absurd held free
      | unknown reads called inOrder _ first =>
        obtain ⟨st, hst, rfl⟩ := List.mem_map.mp (List.mem_of_find?_eq_some first)
        have unknown := List.find?_some first
        exact absurd (sound.known st hst) (of_decide_eq_true unknown)

/-- A schedule that takes up one more entry holds what it held, and the trip of the entry. -/
theorem Holds.addEntry (h : s.Holds ⟨stops, front⟩) (added : s.addEntry e = .ok s') :
    s'.Holds ⟨stops, front ++ [e]⟩ := by
  have known := ((exists_addEntry_iff h).mp ⟨s', added⟩).1.known
  simp only [Schedule.addEntry, Outcome.bind_eq_ok, Outcome.mapError_eq_ok] at added
  obtain ⟨t, made, added⟩ := added
  have own := (TripEntry.timetable_eq_ok_iff.mp made).1
  have same : s'.stop? = s.stop? := by
    obtain ⟨-, -, rfl⟩ := addTrip_eq_ok_iff.mp added
    rfl
  have gives : e.Gives stops t := by
    obtain ⟨tripId, serviceCode, line, visits⟩ := TripEntry.timetable_eq_ok_iff.mp made
    rw [TripEntry.visits_eq_ok_iff] at visits
    refine ⟨tripId, serviceCode, line, ?_⟩
    refine ((List.forall₂_and_left _ _).mpr ⟨known, visits⟩).imp ?_
    rintro st v ⟨hst, reads, asked⟩
    obtain ⟨stop, last⟩ := Option.isSome_iff_exists.mp (Stop.isSome_last?.mpr hst)
    rw [h.stops, last, Option.getD_some] at asked
    exact ⟨reads, by rw [asked, last], by rw [asked], by rw [asked], by rw [asked]⟩
  refine ⟨fun id => by rw [same, h.stops], fun e' he => ?_, fun id t' held => ?_⟩
  · rcases List.mem_append.mp he with he | he
    · obtain ⟨t', held, gives'⟩ := h.trips e' he
      exact ⟨t', (trip?_of_addTrip added).mpr (Or.inr held), gives'⟩
    · cases List.mem_singleton.mp he
      exact ⟨t, (trip?_of_addTrip added).mpr (Or.inl ⟨own.symm, rfl⟩), gives⟩
  · rcases (trip?_of_addTrip added).mp held with ⟨rfl, rfl⟩ | held
    · exact ⟨e, List.mem_append_right _ (List.mem_singleton_self e), own.symm, gives⟩
    · obtain ⟨e', he, rest⟩ := h.only id t' held
      exact ⟨e', List.mem_append_left _ he, rest⟩

end Schedule

/-! ## The file -/

namespace ScheduleFile

/-- **A file is valid** when nothing is wrong with any of its trips and no two have one id. -/
structure Valid (file : ScheduleFile) : Prop where
  sound : ∀ e ∈ file.trips, e.Sound file.stops
  apart : (file.trips.map (·.tripId)).Nodup

/-- **What is wrong with a file first**: the fault of a trip behind others that make a valid file. -/
def FirstFault (file : ScheduleFile) (err : ScheduleError) : Prop :=
  ∃ front e back, file.trips = front ++ e :: back ∧ Valid ⟨file.stops, front⟩ ∧
    e.Fault file.stops (front.map (·.tripId)) err

variable {stops : List Stop} {front : List TripEntry} {e : TripEntry}

theorem valid_concat : Valid ⟨stops, front ++ [e]⟩ ↔
    Valid ⟨stops, front⟩ ∧ e.Sound stops ∧ e.tripId ∉ front.map (·.tripId) := by
  have apart : ((front ++ [e]).map (·.tripId)).Nodup ↔
      e.tripId ∉ front.map (·.tripId) ∧ (front.map (·.tripId)).Nodup := by
    rw [List.map_append, List.map_singleton, ← List.concat_eq_append, List.nodup_concat]
  constructor
  · rintro ⟨sound, nodup⟩
    obtain ⟨free, nodup⟩ := apart.mp nodup
    exact ⟨⟨fun e' he => sound e' (List.mem_append_left _ he), nodup⟩,
      sound e (List.mem_append_right _ (List.mem_singleton_self e)), free⟩
  · rintro ⟨⟨sound, nodup⟩, own, free⟩
    refine ⟨fun e' he => ?_, apart.mpr ⟨free, nodup⟩⟩
    rcases List.mem_append.mp he with he | he
    · exact sound e' he
    · cases List.mem_singleton.mp he
      exact own

end ScheduleFile

namespace Schedule

variable {s s₀ : Schedule} {stops : List Stop} {entries : List TripEntry}

/-- The entries taken up make a valid file, and the schedule holds it. The induction is on the last
entry, which is met with what all others have built. -/
theorem holds_of_entries (start : s₀.Holds ⟨stops, []⟩) (built : entries.foldlM addEntry s₀ = .ok s) :
    ScheduleFile.Valid ⟨stops, entries⟩ ∧ s.Holds ⟨stops, entries⟩ := by
  induction entries using List.reverseRecOn generalizing s with
  | nil =>
    cases built
    exact ⟨⟨fun _ h => absurd h List.not_mem_nil, List.nodup_nil⟩, start⟩
  | append_singleton front e ih =>
    simp only [List.foldlM_append, Outcome.bind_eq_ok, List.foldlM_cons, List.foldlM_nil] at built
    obtain ⟨s₁, run, s₂, added, same⟩ := built
    cases same
    obtain ⟨valid, holds⟩ := ih run
    have sound := (exists_addEntry_iff holds).mp ⟨_, added⟩
    exact ⟨ScheduleFile.valid_concat.mpr ⟨valid, sound⟩, holds.addEntry added⟩

/-- All entries of a valid file are taken up. -/
theorem exists_of_valid (start : s₀.Holds ⟨stops, []⟩)
    (valid : ScheduleFile.Valid ⟨stops, entries⟩) : ∃ s, entries.foldlM addEntry s₀ = .ok s := by
  induction entries using List.reverseRecOn with
  | nil => exact ⟨s₀, rfl⟩
  | append_singleton front e ih =>
    obtain ⟨valid, sound⟩ := ScheduleFile.valid_concat.mp valid
    obtain ⟨s₁, run⟩ := ih valid
    obtain ⟨s₂, added⟩ := (exists_addEntry_iff (holds_of_entries start run).2).mpr sound
    refine ⟨s₂, ?_⟩
    simp only [List.foldlM_append, Outcome.bind_eq_ok, List.foldlM_cons, List.foldlM_nil]
    exact ⟨s₁, run, s₂, added, rfl⟩

/-- The stops of a file come before its trips. -/
theorem holds_stops (stops : List Stop) (zone : Zone) :
    (stops.foldl addStop (empty zone)).Holds ⟨stops, []⟩ where
  stops id := by rw [← grow_stops, stop?_grow_empty, stopsOf_map]
  trips _ h := absurd h List.not_mem_nil
  only id t held := by
    rw [(foldl_addStop_coherent stops (empty_coherent zone) fun _ => rfl).2] at held
    cases held

/-- **A file makes a schedule exactly if it is valid**; then the schedule holds what the file tells,
and otherwise the file is refused for the first thing that is wrong with it. -/
theorem ofFile_outcome (file : ScheduleFile) (zone : Zone) :
    ((∃ s, ofFile file zone = .ok s) ↔ file.Valid) ∧
      (∀ s, ofFile file zone = .ok s → s.Holds file) ∧
      ∀ err, ofFile file zone = .error err ↔ file.FirstFault err := by
  obtain ⟨stops, entries⟩ := file
  have start := holds_stops stops zone
  refine ⟨⟨?_, exists_of_valid start⟩, fun s built => (holds_of_entries start built).2, fun err => ?_⟩
  · rintro ⟨s, built⟩
    exact (holds_of_entries start built).1
  · unfold ofFile
    rw [Outcome.foldlM_eq_error_iff]
    constructor
    · rintro ⟨front, e, back, s, rfl, run, refused⟩
      obtain ⟨valid, holds⟩ := holds_of_entries start run
      exact ⟨front, e, back, rfl, valid, (addEntry_eq_error_iff holds).mp refused⟩
    · rintro ⟨front, e, back, split, valid, fault⟩
      obtain ⟨s, run⟩ := exists_of_valid start valid
      have holds := (holds_of_entries start run).2
      exact ⟨front, e, back, s, split, run, (addEntry_eq_error_iff holds).mpr fault⟩

end Schedule

/-! ## A stop given twice, and a trip with two faults -/

namespace Sample

/-- Its first stop is given twice, the second time as one of a station. -/
def shuttle : ScheduleFile where
  stops := [⟨"A", none⟩, ⟨"B", none⟩, ⟨"A", some "S"⟩]
  trips := [⟨"t", 7, some "L",
    [⟨"A", " 24:00:00", "24:01:00", .scheduled, .notOffered, none⟩,
     ⟨"B", "24:05:00", "24:05:00", .notOffered, .scheduled, some "B"⟩]⟩]

/-- A trip of an id that is held, to a stop that is not known. -/
def rival : TripEntry where
  tripId := "t"
  serviceCode := 0
  line := none
  stopTimes := [⟨"Z", "08:00:00", "08:00:00", .scheduled, .scheduled, none⟩]

def rivalled : ScheduleFile := { shuttle with trips := shuttle.trips ++ [rival] }

def shuttleSchedule : Schedule := (Schedule.ofFile shuttle .utc).toOption.getD (.empty .utc)

end Sample

/-- The trip is held with the stop as it was given last. Behind it the other is refused for its id,
and not for its stop. -/
theorem Schedule.ofFile_outcome_shuttle :
    Sample.shuttle.Valid ∧ Sample.shuttleSchedule.Holds Sample.shuttle ∧
      (∃ t, Sample.shuttleSchedule.trip? "t" = some t ∧
        t.pattern.head?.map (·.stop) = some ⟨"A", some "S"⟩) ∧
      Sample.rivalled.FirstFault (.timetable (.duplicateTrip "t")) := by
  have built : ofFile Sample.shuttle .utc = .ok Sample.shuttleSchedule := by rfl
  have refused : ofFile Sample.rivalled .utc = .error (.timetable (.duplicateTrip "t")) := by rfl
  obtain ⟨valid, holds, -⟩ := ofFile_outcome Sample.shuttle .utc
  refine ⟨valid.mp ⟨_, built⟩, holds _ built, ?_,
    ((ofFile_outcome Sample.rivalled .utc).2.2 _).mp refused⟩
  exact ⟨(Sample.shuttleSchedule.trip? "t").get (by decide), by simp, by decide⟩

end LiveTimetable
