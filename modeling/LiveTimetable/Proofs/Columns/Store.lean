import LiveTimetable.Proofs.Columns.Board
import LiveTimetable.Proofs.Columns.Report
import LiveTimetable.Proofs.Store.Published

/-!
# A store of records in columns

The store that publishes records in columns, beside the one that publishes them stop by stop. Both
read and write by key, so the one is the other with its records laid out (`ColumnStore.of`): a
message, a purge and a board do to it what they do to the store (`apply_of`, `purge_of`,
`departures_of`).

A message and a board calculate with the record in effect, and rely on its being sound. That is so
in every store that writes lead to (`Store.Reached`). Nothing about columns says that they are of one
length; that those which are published are, and of the length of their trip, is true of every run
(`run_full`).
-/

namespace LiveTimetable

open Columns

namespace Table

variable {κ α β : Type}

/-- The table with its values laid out in another way. -/
def map (f : α → β) (t : Table κ α) : Table κ β where
  entries := t.entries.map fun e => (e.1, f e.2)
  distinct := by
    rw [List.map_map]
    exact t.distinct

theorem map_keep (f : α → β) (t : Table κ α) (p : κ → Bool) :
    (t.keep p).map f = (t.map f).keep p := by
  simp only [map, keep, List.filter_map]
  rfl

variable [DecidableEq κ]

theorem find?_map (f : α → β) (t : Table κ α) (key : κ) :
    (t.map f).find? key = (t.find? key).map f := by
  simp only [find?, map, List.find?_map, Option.map_map]
  rfl

theorem map_put (f : α → β) (key : κ) (value : α) (entries : List (κ × α)) :
    (put key value entries).map (fun e => (e.1, f e.2)) =
      put key (f value) (entries.map fun e => (e.1, f e.2)) := by
  induction entries with
  | nil => rfl
  | cons e rest ih =>
    obtain ⟨k, v⟩ := e
    simp only [put, List.map_cons]
    split
    next => rfl
    next => rw [List.map_cons, ih]

theorem map_insert (f : α → β) (t : Table κ α) (key : κ) (value : α) :
    (t.insert key value).map f = (t.map f).insert key (f value) := by
  simp only [map, insert, map_put]

end Table

/-! ## Stores that writes lead to -/

namespace Store

variable {schedule : Schedule} {s : Store}

/-- Writes lead to the store from an empty one. -/
def Reached (schedule : Schedule) (s : Store) : Prop :=
  ∃ writes, (empty schedule).run writes = s

theorem reached_empty (schedule : Schedule) : (empty schedule).Reached schedule := ⟨[], rfl⟩

theorem Reached.apply (h : s.Reached schedule) {m : Message} {s' : Store} {r : TripRecord}
    (taken : s.apply m = .ok (s', r)) : s'.Reached schedule := by
  obtain ⟨writes, rfl⟩ := h
  exact ⟨writes ++ [.message m], run_append_of_apply taken⟩

theorem Reached.after (h : s.Reached schedule) (w : Write) : (s.after w).Reached schedule := by
  obtain ⟨writes, rfl⟩ := h
  exact ⟨writes ++ [w], run_append ..⟩

theorem Reached.purge (h : s.Reached schedule) (before : Date) : (s.purge before).Reached schedule :=
  h.after (.purge before)

/-- What a message reads there is sound. -/
theorem Reached.sound (h : s.Reached schedule) {key : TripKey} {t : Timetable}
    (trip : s.schedule.trip? key.tripId = some t) : t.Sound ((s.published? key).getD t.record) := by
  obtain ⟨writes, rfl⟩ := h
  exact sound_read trip

/-- So is what a board reads. -/
theorem Reached.held (h : s.Reached schedule) {key : TripKey} {r : TripRecord}
    (inEffect : s.inEffect? key = some r) : ∀ stop ∈ r.stops, stop.delay.Held := by
  obtain ⟨writes, rfl⟩ := h
  obtain ⟨t, -, sound⟩ := inEffect?_sound inEffect
  exact sound.held

end Store

/-! ## The store in columns -/

structure ColumnStore where
  schedule : Schedule
  published : Table TripKey TripColumns

namespace ColumnStore

/-- The store with its records laid out in columns. -/
def of (s : Store) : ColumnStore := ⟨s.schedule, s.published.map .of⟩

def empty (schedule : Schedule) : ColumnStore := ⟨schedule, .empty⟩

/-- The store after news of a trip, with the record that was published. -/
def publish (c : ColumnStore) (key : TripKey)
    (update : Timetable → TripColumns → Except (Halt UpdateFailure) TripColumns) :
    Except (Halt UpdateFailure) (ColumnStore × TripColumns) :=
  match c.schedule.trip? key.tripId with
  | none => .error (.told (.rejected (.tripNotFound key.tripId)))
  | some t => do
    let record ← update t ((c.published.find? key).getD (.of t.record))
    return ({ c with published := c.published.insert key record }, record)

/-- The store after a message, with the record that was published. -/
def apply (c : ColumnStore) : Message → Except (Halt UpdateFailure) (ColumnStore × TripColumns)
  | .journey date j => c.publish ⟨j.tripRef, date⟩ fun t current =>
    t.afterJourneyColumns current j c.schedule.stop? c.schedule.zone
  | .report date r => c.publish ⟨r.tripRef, date⟩ fun t current =>
    (t.afterReportColumns current r c.schedule.stop?).mapError (Halt.map .rejected)

def purge (c : ColumnStore) (before : Date) : ColumnStore :=
  { c with published := c.published.keep fun key => before ≤ key.date }

def expired (c : ColumnStore) (before : Date) : Nat :=
  c.published.entries.countP fun e => e.1.date < before

/-- The record in effect: the published one, or else the timetable's. -/
def inEffect? (c : ColumnStore) (key : TripKey) : Option TripColumns :=
  c.published.find? key <|> (c.schedule.trip? key.tripId).map fun t => .of t.record

/-- The trips that may call at a stop, each once. -/
def candidates (c : ColumnStore) (stopId : String) : List String :=
  ((stopId :: c.schedule.stationSiblings stopId).flatMap c.schedule.tripsVisiting).eraseDups

/-- The rows of one trip, in the order of its positions. -/
def departuresOf (c : ColumnStore) (stopId : String) (q : BoardQuery) (key : TripKey) :
    Except (Halt OffCalendar) (List BoardRow) :=
  match c.inEffect? key with
  | none => .ok []
  | some record => record.rowsFrom stopId q key c.schedule.zone record.numStops 0

/-- The departures from a stop on a service date. -/
def departures (c : ColumnStore) (stopId : String) (date : Date) (q : BoardQuery) :
    Except (Halt OffCalendar) (List BoardRow) := do
  let rows ← (c.candidates stopId).mapM fun tripId => c.departuresOf stopId q ⟨tripId, date⟩
  let sorted := rows.flatten.mergeSort BoardRow.comesBefore
  return match q.limit with
    | some limit => sorted.take limit
    | none => sorted

/-! ## Messages -/

variable {schedule : Schedule} {s : Store} {m : Message}

/-- A record is published in columns as it is stop by stop. -/
theorem publish_of {key : TripKey} {update : Timetable → TripRecord → Except UpdateFailure TripRecord}
    {updateColumns : Timetable → TripColumns → Except (Halt UpdateFailure) TripColumns}
    (same : ∀ t, s.schedule.trip? key.tripId = some t →
      updateColumns t (.of ((s.published? key).getD t.record)) =
        lift ((update t ((s.published? key).getD t.record)).map .of)) :
    (of s).publish key updateColumns =
      lift ((s.publish key update).map fun (s, r) => (of s, .of r)) := by
  unfold publish Store.publish
  show (match s.schedule.trip? key.tripId with | none => _ | some t => _) = _
  cases trip : s.schedule.trip? key.tripId with
  | none => rfl
  | some t =>
    have read : ((of s).published.find? key).getD (.of t.record) =
        .of ((s.published? key).getD t.record) := by
      rw [of, Table.find?_map, Option.getD_map]
      rfl
    simp only [read, same t trip]
    cases update t ((s.published? key).getD t.record) with
    | error failure => rfl
    | ok r =>
      simp only [Except.map, lift_ok, bind, Except.bind, pure, Except.pure, of, Table.map_insert]

/-- **A message does to columns what it does to records**: the one that it reads is sound. -/
theorem apply_of (h : s.Reached schedule) (m : Message) :
    (of s).apply m = lift ((s.apply m).map fun (s, r) => (of s, .of r)) := by
  cases m with
  | journey date j =>
    simp only [apply, Store.apply, Store.applyJourney]
    exact publish_of fun t trip => Timetable.afterJourneyColumns_eq (h.sound trip)
  | report date r =>
    simp only [apply, Store.apply, Store.applyReport]
    refine publish_of fun t trip => ?_
    refine (congrArg (Except.mapError (Halt.map UpdateFailure.rejected))
      (Timetable.afterReportColumns_eq (h.sound trip))).trans ?_
    rw [mapError_lift]
    exact congrArg lift (Outcome.map_mapError ..).symm

theorem purge_of (s : Store) (before : Date) : (of s).purge before = of (s.purge before) := by
  simp only [purge, of, Store.purge, Table.map_keep]

theorem expired_of (s : Store) (before : Date) : (of s).expired before = s.expired before := by
  simp only [expired, of, Table.map, List.countP_map, Store.expired]
  rfl

/-! ## Runs -/

/-- The store after a write. -/
def after (c : ColumnStore) : Write → ColumnStore
  | .message m =>
    match c.apply m with
    | .ok (c, _) => c
    | .error _ => c
  | .purge before => c.purge before

def run (c : ColumnStore) (writes : List Write) : ColumnStore := writes.foldl after c

theorem after_of (h : s.Reached schedule) (w : Write) : (of s).after w = of (s.after w) := by
  cases w with
  | purge before => exact purge_of s before
  | message m =>
    rw [after, apply_of h, Store.after]
    cases s.apply m with
    | error failure => rfl
    | ok made => rfl

/-- **A run does to columns what it does to records.** -/
theorem run_of (h : s.Reached schedule) (writes : List Write) :
    (of s).run writes = of (s.run writes) := by
  induction writes generalizing s with
  | nil => rfl
  | cons w rest ih =>
    have next : ((of s).after w).run rest = of ((s.after w).run rest) := by
      rw [after_of h]
      exact ih (h.after w)
    exact next

/-- **Every column that is published has an entry for each stop of its trip**, after every run of
messages, taken up or refused, and purges. -/
theorem run_full {writes : List Write} {key : TripKey} {c : TripColumns}
    (held : ((empty schedule).run writes).published.find? key = some c) :
    ∃ t, schedule.trip? key.tripId = some t ∧ c.Full t.visits.length := by
  have same : (empty schedule).run writes = of ((Store.empty schedule).run writes) :=
    run_of (Store.reached_empty schedule) writes
  rw [same, of, Table.find?_map] at held
  obtain ⟨r, published, rfl⟩ := Option.map_eq_some_iff.mp held
  obtain ⟨t, trip, sound, -⟩ := Store.published?_sound published
  exact ⟨t, trip, sound.length_stops ▸ TripColumns.full_of r⟩

/-! ## Boards -/

theorem inEffect?_of (s : Store) (key : TripKey) :
    (of s).inEffect? key = (s.inEffect? key).map .of := by
  rw [inEffect?, of, Table.find?_map, Store.inEffect?, Store.published?]
  cases s.published.find? key with
  | some r => rfl
  | none =>
    cases s.schedule.trip? key.tripId with
    | none => rfl
    | some t => rfl

theorem departuresOf_of (h : s.Reached schedule) (stopId : String) (q : BoardQuery)
    (key : TripKey) :
    (of s).departuresOf stopId q key =
      lift ((s.departuresOf stopId q key).map fun rows => rows.map Departure.row) := by
  rw [departuresOf, inEffect?_of, Store.departuresOf]
  cases inEffect : s.inEffect? key with
  | none => rfl
  | some r =>
    show (TripColumns.of r).rowsFrom stopId q key s.schedule.zone (TripColumns.of r).numStops 0 = _
    rw [TripColumns.numStops_of]
    exact @TripColumns.rowsFrom_of r [] r.stops stopId q key s.schedule.zone rfl (h.held inEffect)

/-- The order of a board is read from its rows. -/
theorem sorted_rows (rows : List Departure) :
    (rows.mergeSort Departure.comesBefore).map Departure.row =
      (rows.map Departure.row).mergeSort BoardRow.comesBefore :=
  List.map_mergeSort fun _ _ _ _ => rfl

/-- **A board on columns shows the rows that it shows of the records.** -/
theorem departures_of (h : s.Reached schedule) (stopId : String) (date : Date) (q : BoardQuery) :
    (of s).departures stopId date q =
      lift ((s.departures stopId date q).map fun rows => rows.map Departure.row) := by
  have found : ((of s).candidates stopId).mapM (fun tripId =>
      (of s).departuresOf stopId q ⟨tripId, date⟩) = _ :=
    mapM_lift fun tripId _ => departuresOf_of h stopId q ⟨tripId, date⟩
  have same : (of s).candidates stopId = s.candidates stopId := rfl
  rw [departures, Store.departures, found, same]
  cases (s.candidates stopId).mapM fun tripId => s.departuresOf stopId q ⟨tripId, date⟩ with
  | error off => rfl
  | ok rows =>
    have sorted := sorted_rows rows.flatten
    rw [List.map_flatten] at sorted
    simp only [Except.map, lift_ok, bind, Except.bind, pure, Except.pure, ← sorted]
    cases q.limit with
    | none => rfl
    | some limit => rw [List.map_take]

end ColumnStore

end LiveTimetable
