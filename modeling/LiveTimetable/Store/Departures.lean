import LiveTimetable.Service.Day
import LiveTimetable.Store.Basic

/-!
# Departure boards

The departures from a stop on a service date, in order of their real-time departure and then of
their trips. The board looks at the trips that the timetable brings to the stop or to another stop
of its station, since a vehicle may have been moved from one platform to another, and lists each
visit under the stop that the record in effect serves.
-/

namespace LiveTimetable

/-- The trip or the visit does not take place, or nobody may get on any more. -/
def StopRecord.isOff (s : StopRecord) (state : RealTimeState) : Bool :=
  state = .canceled || s.cancelled || s.visit.pickup = .cancelled

structure BoardQuery where
  /-- Leave out visits where the timetable lets nobody get on. -/
  omitNonPickups : Bool
  includeCancelled : Bool
  limit : Option Nat
deriving DecidableEq, Repr

/-- A row of the board. -/
structure Departure where
  key : TripKey
  stopId : String
  position : Nat
  stop : StopRecord
  state : RealTimeState
  /-- The UTC second of the departure, if the service day has a start. -/
  instant : Option Int
deriving DecidableEq, Repr

namespace Departure

def time (d : Departure) : Seconds := d.stop.passage.departure

def isCancelled (d : Departure) : Bool := d.stop.isOff d.state

/-- The order of a board: by time, and at one time by trip. -/
def comesBefore (a b : Departure) : Bool :=
  a.time < b.time || (a.time = b.time && a.key.tripId ≤ b.key.tripId)

end Departure

namespace BoardQuery

/-- The board shows a visit of a record in this state. -/
def shows (q : BoardQuery) (state : RealTimeState) (s : StopRecord) : Bool :=
  !(q.omitNonPickups && s.visit.pickup = .notOffered) && (q.includeCancelled || !s.isOff state)

end BoardQuery

namespace Store

/-- The trips that may call at a stop, each once. -/
def candidates (s : Store) (stopId : String) : List String :=
  ((stopId :: s.schedule.stationSiblings stopId).flatMap s.schedule.tripsVisiting).eraseDups

/-- The rows of one trip, in the order of its stops. -/
def departuresOf (s : Store) (stopId : String) (q : BoardQuery) (key : TripKey) :
    Except OffCalendar (List Departure) :=
  match s.inEffect? key with
  | none => .ok []
  | some record =>
    let shown := record.stops.zipIdx.filter fun (stop, _) =>
      stop.visit.stop.id = stopId && q.shows record.state stop
    shown.mapM fun (stop, position) => do
      let instant ← Service.instantAt stop.passage.departure key.date s.schedule.zone
      return ⟨key, stopId, position, stop, record.state, instant⟩

/-- The departures from a stop on a service date. -/
def departures (s : Store) (stopId : String) (date : Date) (q : BoardQuery) :
    Except OffCalendar (List Departure) := do
  let rows ← (s.candidates stopId).mapM fun tripId => s.departuresOf stopId q ⟨tripId, date⟩
  let sorted := rows.flatten.mergeSort Departure.comesBefore
  return match q.limit with
    | some limit => sorted.take limit
    | none => sorted

end Store

end LiveTimetable
