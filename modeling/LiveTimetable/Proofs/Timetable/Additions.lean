import LiveTimetable.Calendar.ZoneTable
import LiveTimetable.Proofs.Timetable.Schedule

/-!
# Schedules as they grow

Stops and trips are added to a schedule in any order, and a trip may be refused. `Schedule.enter`
enters a trip in place, one write after another: it shows that what is refused is refused before the
first write, and otherwise it does what `Schedule.addTrip` says (`on_enter`).

Main statement: `Schedule.grow_indexed`. Whatever was added to a schedule, and in which order, the
index of visitors lists under each stop the trips that visit it, and every stop that is visited is
known. It need not be known as the trip has it: a stop that is added again takes the place of the
one with its id, but not in the trips that were there before. So a schedule that has grown in any
order is not always `Coherent`.
-/

namespace LiveTimetable

/-- What a schedule is asked to take up. -/
inductive Addition
  | stop (stop : Stop)
  | trip (t : Timetable)
deriving DecidableEq, Repr

def Addition.stop? : Addition → Option Stop
  | stop s => some s
  | trip _ => none

/-- The last of the stops that has an id. -/
def Stop.last? (stops : List Stop) (id : String) : Option Stop := stops.reverse.find? (·.id = id)

/-- The trip visits a stop of that id, once or more often. -/
def Timetable.Visits (t : Timetable) (stopId : String) : Prop :=
  ∃ v ∈ t.visits, v.visit.stop.id = stopId

namespace Schedule

variable {s s' : Schedule} {t : Timetable}

/-! ## Writing in place -/

/-- Work on a schedule in place: what was written before a refusal stays written. -/
abbrev Work := ExceptT TimetableError (StateM Schedule)

/-- What comes of the work on a schedule, and the schedule that it leaves. -/
def Work.on {α : Type} (w : Work α) (s : Schedule) : Except TimetableError α × Schedule :=
  w.run.run s

/-- A trip is checked, put under each stop that it visits, and then taken up among the trips. -/
def enter (t : Timetable) : Work Unit := do
  if (← get).trips.contains t.tripId then throw (.duplicateTrip t.tripId)
  forM t.visits fun v => do
    unless (← get).stops.contains v.visit.stop.id do
      throw (.unknownStop t.tripId v.visit.stop.id)
  forM t.visits fun v =>
    modify fun s => { s with visitors := s.visitors.add v.visit.stop.id t.tripId }
  modify fun s => { s with trips := s.trips.insert t.tripId t }

namespace Work

variable {α β γ : Type}

/-- What is left of the work is done on the schedule that the first part leaves, if it is not
refused. -/
theorem on_bind (w : Work α) (f : α → Work β) (s : Schedule) :
    (w >>= f).on s =
      match w.on s with
      | (.ok a, s') => (f a).on s'
      | (.error e, s') => (.error e, s') := by
  unfold on
  rw [ExceptT.run_bind, StateT.run_bind]
  show (match w.run.run s with | (outcome, s') => _) = _
  rcases w.run.run s with ⟨e | a, s'⟩ <;> rfl

@[simp] theorem on_pure (a : α) (s : Schedule) : (pure a : Work α).on s = (.ok a, s) := rfl

@[simp] theorem on_throw (e : TimetableError) (s : Schedule) :
    (throw e : Work α).on s = (.error e, s) := rfl

@[simp] theorem on_get (s : Schedule) : (get : Work Schedule).on s = (.ok s, s) := rfl

@[simp] theorem on_modify (f : Schedule → Schedule) (s : Schedule) :
    (modify f : Work Unit).on s = (.ok (), f s) := rfl

/-- Checks that do not write find the first of the members that fails. -/
theorem on_forM_check (passes : Schedule → γ → Bool) (reason : γ → TimetableError) (as : List γ)
    (s : Schedule) :
    (forM as fun a => do unless passes (← get) a do throw (reason a) : Work Unit).on s =
      match as.find? fun a => !passes s a with
      | some a => (.error (reason a), s)
      | none => (.ok (), s) := by
  induction as with
  | nil => rfl
  | cons a rest ih =>
    rw [List.forM_cons, on_bind, on_bind, on_get, List.find?_cons]
    cases h : passes s a with
    | true => simpa only [h, if_true, on_pure, Bool.not_true] using ih
    | false => simp only [h, Bool.false_eq_true, if_false, on_throw, Bool.not_false]

/-- Writes that are not refused follow each other. -/
theorem on_forM_modify (write : γ → Schedule → Schedule) (as : List γ) (s : Schedule) :
    (forM as fun a => modify (write a) : Work Unit).on s =
      (.ok (), as.foldl (fun s a => write a s) s) := by
  induction as generalizing s with
  | nil => rfl
  | cons a rest ih => rw [List.forM_cons, on_bind, on_modify, List.foldl_cons, ← ih]

end Work

/-- **A trip is entered as `addTrip` says**, and a trip that is refused leaves no trace. -/
theorem on_enter (t : Timetable) (s : Schedule) :
    (enter t).on s =
      match s.addTrip t with
      | .ok s' => (.ok (), s')
      | .error e => (.error e, s) := by
  unfold enter addTrip
  cases hheld : s.trips.contains t.tripId with
  | true => simp [Work.on_bind, hheld]
  | false =>
    simp only [Work.on_bind, Work.on_get, hheld, Bool.false_eq_true, if_false,
      Work.on_forM_check fun (s : Schedule) (v : TimedVisit) => s.stops.contains v.visit.stop.id]
    cases t.visits.find? fun v => !s.stops.contains v.visit.stop.id with
    | some unknown => rfl
    | none =>
      -- the writes leave all but the index of visitors alone
      have written : t.visits.foldl
          (fun s v => { s with visitors := s.visitors.add v.visit.stop.id t.tripId }) s =
          { s with visitors :=
              t.visits.foldl (fun i v => i.add v.visit.stop.id t.tripId) s.visitors } :=
        List.foldl_hom (fun i => { s with visitors := i }) fun _ _ => rfl
      simp only [Work.on_forM_modify, Work.on_modify, written]

/-! ## Growth -/

/-- A stop is always taken up. -/
def perform : Addition → Work Unit
  | .stop stop => modify (·.addStop stop)
  | .trip t => enter t

/-- The schedule that an addition leaves, taken up or refused. -/
def after (s : Schedule) (a : Addition) : Schedule := ((perform a).on s).2

def grow (s : Schedule) (as : List Addition) : Schedule := as.foldl after s

@[simp] theorem after_stop (s : Schedule) (stop : Stop) : s.after (.stop stop) = s.addStop stop :=
  rfl

theorem after_trip (s : Schedule) (t : Timetable) :
    s.after (.trip t) = s ∧ (s.addTrip t).isOk = false ∨ s.addTrip t = .ok (s.after (.trip t)) := by
  simp only [after, perform, on_enter]
  cases s.addTrip t with
  | error e => exact Or.inl ⟨rfl, rfl⟩
  | ok s' => exact Or.inr rfl

/-- **The tables and indexes of a schedule tell the same**, in whatever order it has grown. -/
structure Indexed (s : Schedule) : Prop where
  stop_id : ∀ {id stop}, s.stop? id = some stop → stop.id = id
  trip_id : ∀ {id t}, s.trip? id = some t → t.tripId = id
  /-- Each stop that a trip visits is known under its id. -/
  known : ∀ {id t stopId}, s.trip? id = some t → t.Visits stopId → (s.stop? stopId).isSome
  /-- Under a stop stand the trips that visit it. -/
  visiting : ∀ {stopId id},
    id ∈ s.tripsVisiting stopId ↔ ∃ t, s.trip? id = some t ∧ t.Visits stopId
  /-- Each of them once, however often it comes by. -/
  once : ∀ stopId, (s.tripsVisiting stopId).Nodup

theorem empty_indexed (zone : Zone) : (empty zone).Indexed where
  stop_id h := by cases h
  trip_id h := by cases h
  known h := by cases h
  visiting := by
    intro stopId id
    constructor
    · intro h
      cases h
    · rintro ⟨t, h, -⟩
      cases h
  once _ := List.nodup_nil

theorem addStop_indexed (h : s.Indexed) (stop : Stop) : (s.addStop stop).Indexed where
  stop_id := stop_id_addStop h.stop_id
  trip_id := h.trip_id
  known {id t stopId} hid hvisits := by
    rw [stop?_addStop]
    split
    next => rfl
    next => exact h.known hid hvisits
  visiting := h.visiting
  once := h.once

/-- The trip that was added is put under the stops that it visits, and nothing else is. -/
theorem mem_tripsVisiting_of_addTrip {stopId id : String} (added : s.addTrip t = .ok s') :
    id ∈ s'.tripsVisiting stopId ↔ id ∈ s.tripsVisiting stopId ∨ id = t.tripId ∧ t.Visits stopId := by
  obtain ⟨-, -, rfl⟩ := addTrip_eq_ok_iff.mp added
  exact Index.mem_under_foldl_add

theorem addTrip_indexed (h : s.Indexed) (added : s.addTrip t = .ok s') : s'.Indexed := by
  have stops : s'.stop? = s.stop? := by
    obtain ⟨-, -, rfl⟩ := addTrip_eq_ok_iff.mp added
    rfl
  obtain ⟨free, allKnown, -⟩ := addTrip_eq_ok_iff.mp added
  refine ⟨fun hid => ?_, fun hid => ?_, fun hid hvisits => ?_, ?_, fun _ => Index.nodup_under ..⟩
  · rw [stops] at hid
    exact h.stop_id hid
  · rcases (trip?_of_addTrip added).mp hid with ⟨rfl, rfl⟩ | hid
    · rfl
    · exact h.trip_id hid
  · rw [stops]
    rcases (trip?_of_addTrip added).mp hid with ⟨rfl, rfl⟩ | hid
    · obtain ⟨v, hv, rfl⟩ := hvisits
      exact allKnown v hv
    · exact h.known hid hvisits
  · intro stopId id
    simp only [mem_tripsVisiting_of_addTrip added, h.visiting, trip?_of_addTrip added]
    constructor
    · rintro (⟨t', hid, hvisits⟩ | ⟨rfl, hvisits⟩)
      · exact ⟨t', Or.inr hid, hvisits⟩
      · exact ⟨t, Or.inl ⟨rfl, rfl⟩, hvisits⟩
    · rintro ⟨t', ⟨rfl, rfl⟩ | hid, hvisits⟩
      · exact Or.inr ⟨rfl, hvisits⟩
      · exact Or.inl ⟨t', hid, hvisits⟩

theorem after_indexed (h : s.Indexed) (a : Addition) : (s.after a).Indexed := by
  cases a with
  | stop stop => exact addStop_indexed h stop
  | trip t =>
    rcases after_trip s t with ⟨same, -⟩ | added
    · rw [same]
      exact h
    · exact addTrip_indexed h added

/-- An invariant that each addition keeps holds of every schedule that has grown. -/
theorem grow_keeps {P : Schedule → Prop} (start : P s) (kept : ∀ s a, P s → P (s.after a))
    (as : List Addition) : P (s.grow as) := by
  induction as generalizing s with
  | nil => exact start
  | cons a rest ih => exact ih (kept s a start)

theorem indexed_grow (zone : Zone) (as : List Addition) : ((empty zone).grow as).Indexed :=
  grow_keeps (empty_indexed zone) (fun _ a h => after_indexed h a) as

/-! ## The stops that were added -/

/-- The stops among what was added. -/
def stopsOf (as : List Addition) : List Stop := as.filterMap (·.stop?)

/-- A trip that is added leaves the stops and their stations as they were. -/
theorem after_trip_stops (s : Schedule) (t : Timetable) :
    (s.after (.trip t)).stop? = s.stop? ∧ (s.after (.trip t)).stations = s.stations := by
  rcases after_trip s t with ⟨same, -⟩ | added
  · rw [same]
    exact ⟨rfl, rfl⟩
  · obtain ⟨-, -, written⟩ := addTrip_eq_ok_iff.mp added
    rw [written]
    exact ⟨rfl, rfl⟩

end Schedule

theorem Stop.last?_cons (stop : Stop) (rest : List Stop) (id : String) :
    last? (stop :: rest) id = (last? rest id).or (if id = stop.id then some stop else none) := by
  rw [last?, List.reverse_cons, List.find?_append, List.find?_singleton]
  simp only [decide_eq_true_eq, @eq_comm _ id]
  rfl

namespace Schedule

/-- A schedule knows the last stop of an id that was added. -/
theorem stop?_grow (s : Schedule) (as : List Addition) (id : String) :
    (s.grow as).stop? id = (Stop.last? (stopsOf as) id).or (s.stop? id) := by
  induction as generalizing s with
  | nil => rfl
  | cons a rest ih =>
    show ((s.after a).grow rest).stop? id = _
    rw [ih]
    cases a with
    | trip t =>
      rw [(after_trip_stops s t).1]
      rfl
    | stop stop =>
      show _ = (Stop.last? (stop :: stopsOf rest) id).or (s.stop? id)
      rw [after_stop, stop?_addStop, Stop.last?_cons]
      cases Stop.last? (stopsOf rest) id with
      | some last => rfl
      | none =>
        split
        next => rfl
        next => rfl

theorem stop?_grow_empty (zone : Zone) (as : List Addition) (id : String) :
    ((empty zone).grow as).stop? id = Stop.last? (stopsOf as) id := by
  rw [stop?_grow]
  exact Option.or_none

theorem grow_stops (s : Schedule) (stops : List Stop) :
    s.grow (stops.map .stop) = stops.foldl addStop s := by
  rw [grow, List.foldl_map]
  rfl

theorem stopsOf_map (stops : List Stop) : stopsOf (stops.map .stop) = stops := by
  simp [stopsOf, List.filterMap_map, Addition.stop?]

/-- Its station index lists each stop under the stations that it was ever added with. -/
theorem mem_stations_grow {s : Schedule} {as : List Addition} {station id : String} :
    id ∈ (s.grow as).stations.under station ↔
      id ∈ s.stations.under station ∨
        ∃ stop ∈ stopsOf as, stop.station = some station ∧ stop.id = id := by
  induction as generalizing s with
  | nil => simp [grow, stopsOf]
  | cons a rest ih =>
    show id ∈ ((s.after a).grow rest).stations.under station ↔ _
    rw [ih]
    cases a with
    | trip t =>
      rw [(after_trip_stops s t).2]
      rfl
    | stop stop =>
      have here : stopsOf (.stop stop :: rest) = stop :: stopsOf rest := rfl
      rw [after_stop, mem_stations_addStop, here]
      simp only [List.mem_cons, exists_eq_or_imp, or_assoc, @eq_comm _ id]

/-! ## The statement -/

/-- The schedule has a place for the trip: its id is free, and each stop that it visits is known. -/
def HasPlaceFor (s : Schedule) (t : Timetable) : Prop :=
  s.trip? t.tripId = none ∧ ∀ stopId, t.Visits stopId → (s.stop? stopId).isSome

/-- A trip that there is a place for is held from then on, and any other leaves no trace. -/
theorem addTrip_outcome (s : Schedule) (t : Timetable) :
    match s.addTrip t with
    | .ok s' => s.HasPlaceFor t ∧ (enter t).on s = (.ok (), s') ∧
        ∀ id t', s'.trip? id = some t' ↔ id = t.tripId ∧ t' = t ∨ s.trip? id = some t'
    | .error e => ¬ s.HasPlaceFor t ∧ (enter t).on s = (.error e, s) := by
  rw [on_enter]
  cases h : s.addTrip t with
  | ok s' =>
    obtain ⟨free, known, -⟩ := addTrip_eq_ok_iff.mp h
    refine ⟨⟨free, ?_⟩, rfl, fun _ _ => trip?_of_addTrip h⟩
    rintro stopId ⟨v, hv, rfl⟩
    exact known v hv
  | error e =>
    refine ⟨fun place => ?_, rfl⟩
    rcases addTrip_eq_error_iff.mp h with ⟨held, -⟩ | ⟨-, v, found, -⟩
    · simp [place.1] at held
    · have known := place.2 _ ⟨v, List.mem_of_find?_eq_some found, rfl⟩
      have unknown := List.find?_some found
      simp only [Option.isNone_iff_eq_none] at unknown
      rw [unknown] at known
      cases known

/-- **However a schedule has grown, its indexes and tables tell the same**, it knows each stop as it
was added last, and of a trip that is refused it keeps nothing. -/
theorem grow_indexed (zone : Zone) (as : List Addition) :
    ((empty zone).grow as).Indexed ∧
      (∀ id, ((empty zone).grow as).stop? id = Stop.last? (stopsOf as) id) ∧
      ∀ (s : Schedule) t, match s.addTrip t with
        | .ok s' => s.HasPlaceFor t ∧ (enter t).on s = (.ok (), s') ∧
            ∀ id t', s'.trip? id = some t' ↔ id = t.tripId ∧ t' = t ∨ s.trip? id = some t'
        | .error e => ¬ s.HasPlaceFor t ∧ (enter t).on s = (.error e, s) := by
  exact ⟨indexed_grow zone as, stop?_grow_empty zone as, addTrip_outcome⟩

end Schedule

/-! ## A trip that is refused first -/

namespace Sample

/-- Out from a stop and back to it. -/
def outAndBack : Timetable where
  tripId := "t"
  serviceCode := 0
  line := none
  visits := ["A", "B", "A"].map fun id =>
    ⟨⟨⟨id, none⟩, .scheduled, .scheduled, none⟩, ⟨.zero, .zero⟩⟩
  nonempty := by decide
  inOrder := by decide

def additions : List Addition :=
  [.stop ⟨"A", none⟩, .trip outAndBack, .stop ⟨"B", none⟩, .trip outAndBack, .trip outAndBack,
    .stop ⟨"B", some "S"⟩]

end Sample

/-- The trip is taken up once both of its stops are there, stands once under each, and keeps the stop
that it was added with. -/
theorem Schedule.grow_indexed_outAndBack :
    let s := (empty .utc).grow Sample.additions
    s.Indexed ∧ s.trip? "t" = some Sample.outAndBack ∧ Sample.outAndBack.Visits "B" ∧
      s.tripsVisiting "A" = ["t"] ∧ s.tripsVisiting "B" = ["t"] ∧
      s.stop? "B" = some ⟨"B", some "S"⟩ := by
  have known := (grow_indexed .utc Sample.additions).2.1 "B"
  refine ⟨(grow_indexed .utc Sample.additions).1, by decide, ?_, by decide, by decide, known⟩
  exact ⟨Sample.outAndBack.visits[1], List.getElem_mem .., rfl⟩

end LiveTimetable
