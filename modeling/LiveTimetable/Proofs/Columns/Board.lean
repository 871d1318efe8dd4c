import LiveTimetable.Proofs.Columns.Basic
import LiveTimetable.Proofs.Store.Rows

/-!
# Rows read from columns

A board goes through the positions of a record and looks each of them up in the columns that a row
shows. One entry of a row is worked out there, its delay. Read so, the rows of a record are those
that `Store.departuresOf` makes (`TripColumns.rowsFrom_of`), as long as its delays are held.
-/

namespace LiveTimetable

open Columns

/-- A row of a board, entry by entry. -/
structure BoardRow where
  tripId : String
  date : Date
  stopId : String
  position : Nat
  headsign : Option String
  scheduled : Seconds
  departure : Seconds
  delay : Int
  state : RealTimeState
  cancelled : Bool
  recorded : Bool
  inaccurate : Bool
  instant : Option Int
deriving DecidableEq, Repr

namespace BoardRow

/-- The order of a board: by time, and at one time by trip. -/
def comesBefore (a b : BoardRow) : Bool :=
  a.departure < b.departure || (a.departure = b.departure && a.tripId ≤ b.tripId)

end BoardRow

/-- The entries of a row. -/
def Departure.row (d : Departure) : BoardRow where
  tripId := d.key.tripId
  date := d.key.date
  stopId := d.stopId
  position := d.position
  headsign := d.stop.visit.headsign
  scheduled := d.stop.scheduled.departure
  departure := d.time
  delay := d.stop.delay.departure
  state := d.state
  cancelled := d.isCancelled
  recorded := d.stop.recorded
  inaccurate := d.stop.inaccurate
  instant := d.instant

namespace TripColumns

variable {ε : Type}

/-- The delay of a departure: a difference that nobody has checked. -/
def departureDelayAt (c : TripColumns) (position : Nat) : Except (Halt ε) Int := do
  minus (← entry c.departures position) (← entry c.scheduledDepartures position)

/-- The trip or the visit does not take place, or nobody may get on any more. -/
def isOffAt (c : TripColumns) (pickup : BoardingRule) (position : Nat) :
    Except (Halt ε) Bool := do
  if c.state = .canceled then return true
  else return (← entry c.cancelled position) || pickup = .cancelled

/-- The row of a position that is to be shown. -/
def rowAt (c : TripColumns) (stopId : String) (key : TripKey) (zone : Zone) (cancelled : Bool)
    (position : Nat) : Except (Halt OffCalendar) BoardRow := do
  let departure ← entry c.departures position
  return {
    tripId := key.tripId
    date := key.date
    stopId
    position
    headsign := ← entry c.pattern.headsigns position
    scheduled := ← entry c.scheduledDepartures position
    departure
    delay := ← c.departureDelayAt position
    state := c.state
    cancelled
    recorded := ← entry c.recorded position
    inaccurate := ← entry c.inaccurate position
    instant := ← lift (Service.instantAt departure key.date zone) }

/-- The row of a position, if the board shows it. -/
def rowAt? (c : TripColumns) (stopId : String) (q : BoardQuery) (key : TripKey) (zone : Zone)
    (position : Nat) : Except (Halt OffCalendar) (Option BoardRow) := do
  if (← entry c.pattern.stops position).id ≠ stopId then return none
  else do
    let pickup ← entry c.pattern.pickups position
    if q.omitNonPickups && pickup = .notOffered then return none
    else do
      let cancelled ← c.isOffAt pickup position
      if cancelled && !q.includeCancelled then return none
      else return some (← c.rowAt stopId key zone cancelled position)

/-- The rows of so many positions, from the given one on. -/
def rowsFrom (c : TripColumns) (stopId : String) (q : BoardQuery) (key : TripKey) (zone : Zone) :
    Nat → Nat → Except (Halt OffCalendar) (List BoardRow)
  | 0, _ => .ok []
  | count + 1, position => do
    let row ← c.rowAt? stopId q key zone position
    return row.toList ++ (← c.rowsFrom stopId q key zone count (position + 1))

section At

variable {r : TripRecord} {front back : List StopRecord} {s : StopRecord} {position : Nat}
  {stopId : String} {q : BoardQuery} {key : TripKey} {zone : Zone}

theorem departureDelayAt_of (held : s.delay.Held) (hr : r.stops = front ++ s :: back)
    (h : front.length = position) :
    (of r).departureDelayAt position = (.ok s.delay.departure : Except (Halt ε) _) := by
  have departure : Seconds.Held (s.passage.departure.val - s.scheduled.departure.val) := held.2
  simp only [departureDelayAt, of, entry_stops _ hr h, bind, Except.bind, minus, departure, if_true]
  rfl

theorem isOffAt_of (hr : r.stops = front ++ s :: back) (h : front.length = position) :
    (of r).isOffAt s.visit.pickup position = (.ok (s.isOff r.state) : Except (Halt ε) _) := by
  have flag : entry (of r).cancelled position = (.ok s.cancelled : Except (Halt ε) _) :=
    entry_stops (·.cancelled) hr h
  have state : (of r).state = r.state := rfl
  simp only [isOffAt, flag, state, StopRecord.isOff]
  by_cases canceled : r.state = .canceled
  · rw [if_pos canceled, decide_eq_true canceled]
    rfl
  · rw [if_neg canceled, decide_eq_false canceled]
    rfl

/-- The row that a visit of a record makes. -/
def rowOf (r : TripRecord) (stopId : String) (key : TripKey) (zone : Zone) (stop : StopRecord)
    (position : Nat) : Except OffCalendar Departure := do
  let instant ← Service.instantAt stop.passage.departure key.date zone
  return ⟨key, stopId, position, stop, r.state, instant⟩

theorem rowAt_of (held : s.delay.Held) (hr : r.stops = front ++ s :: back)
    (h : front.length = position) :
    (of r).rowAt stopId key zone (s.isOff r.state) position =
      lift ((rowOf r stopId key zone s position).map Departure.row) := by
  have headsign : entry (of r).pattern.headsigns position =
      (.ok s.visit.headsign : Except (Halt OffCalendar) _) := entry_visits (·.headsign) hr h
  have departure : entry (of r).departures position =
      (.ok s.passage.departure : Except (Halt OffCalendar) _) :=
    entry_stops (·.passage.departure) hr h
  have scheduled : entry (of r).scheduledDepartures position =
      (.ok s.scheduled.departure : Except (Halt OffCalendar) _) :=
    entry_stops (·.scheduled.departure) hr h
  have recorded : entry (of r).recorded position =
      (.ok s.recorded : Except (Halt OffCalendar) _) := entry_stops (·.recorded) hr h
  have inaccurate : entry (of r).inaccurate position =
      (.ok s.inaccurate : Except (Halt OffCalendar) _) := entry_stops (·.inaccurate) hr h
  simp only [rowAt, rowOf, departure, headsign, scheduled, departureDelayAt_of held hr h, recorded,
    inaccurate, bind, Except.bind]
  cases Service.instantAt s.passage.departure key.date zone with
  | error off => rfl
  | ok instant => rfl

/-- A position has a row just where the visit is shown. -/
theorem rowAt?_of (held : s.delay.Held) (hr : r.stops = front ++ s :: back)
    (h : front.length = position) :
    (of r).rowAt? stopId q key zone position =
      if s.visit.stop.id = stopId && q.shows r.state s then
        lift ((rowOf r stopId key zone s position).map fun d => some d.row)
      else .ok none := by
  have stop : entry (of r).pattern.stops position =
      (.ok s.visit.stop : Except (Halt OffCalendar) _) := entry_visits (·.stop) hr h
  have pickup : entry (of r).pattern.pickups position =
      (.ok s.visit.pickup : Except (Halt OffCalendar) _) := entry_visits (·.pickup) hr h
  simp only [rowAt?, stop, pickup, isOffAt_of hr h, rowAt_of held hr h, bind, Except.bind]
  rw [BoardQuery.shows]
  by_cases here : s.visit.stop.id = stopId
  · rw [if_neg (not_not.mpr here), decide_eq_true here]
    -- the board leaves a visit out for one of two reasons
    by_cases unserved : (q.omitNonPickups && decide (s.visit.pickup = .notOffered)) = true
    · rw [if_pos unserved, unserved]
      rfl
    · rw [if_neg unserved, Bool.eq_false_iff.mpr unserved]
      cases rowOf r stopId key zone s position with
      | error off => cases s.isOff r.state <;> cases q.includeCancelled <;> rfl
      | ok d => cases s.isOff r.state <;> cases q.includeCancelled <;> rfl
  · rw [if_pos here, decide_eq_false here]
    rfl

/-- **The rows of a record** are those of the visits that are shown. -/
theorem rowsFrom_of (hr : r.stops = front ++ back) (held : ∀ s ∈ back, s.delay.Held) :
    (of r).rowsFrom stopId q key zone back.length front.length =
      lift ((((back.zipIdx front.length).filter fun v : StopRecord × Nat =>
        v.1.visit.stop.id = stopId && q.shows r.state v.1).mapM fun v =>
          rowOf r stopId key zone v.1 v.2).map fun rows => rows.map Departure.row) := by
  induction back generalizing front with
  | nil => rfl
  | cons s back ih =>
    have others := @ih (front ++ [s]) (by simp [hr]) (fun s hs => held s (List.mem_cons_of_mem _ hs))
    rw [List.length_append, List.length_singleton] at others
    simp only [List.length_cons, rowsFrom, rowAt?_of (held s List.mem_cons_self) hr rfl, others,
      List.zipIdx_cons, List.filter_cons]
    generalize ((back.zipIdx (front.length + 1)).filter fun v : StopRecord × Nat =>
      v.1.visit.stop.id = stopId && q.shows r.state v.1) = shown
    by_cases here : (decide (s.visit.stop.id = stopId) && q.shows r.state s) = true
    · rw [if_pos here, if_pos here, List.mapM_cons]
      cases rowOf r stopId key zone s front.length with
      | error off => rfl
      | ok row =>
        cases shown.mapM fun v => rowOf r stopId key zone v.1 v.2 with
        | error off => rfl
        | ok rows => rfl
    · rw [if_neg here, if_neg here]
      cases shown.mapM fun v => rowOf r stopId key zone v.1 v.2 with
      | error off => rfl
      | ok rows => rfl

end At

end TripColumns

end LiveTimetable
