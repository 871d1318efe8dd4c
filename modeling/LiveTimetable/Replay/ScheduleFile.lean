import LiveTimetable.Service.Day
import LiveTimetable.Text.Quoted
import LiveTimetable.Timetable.Schedule

/-!
# Schedule files

A schedule as a file gives it: stops, and trips whose times are still text. A schedule is built of
it trip by trip, and the first thing that is wrong ends the building.
-/

namespace LiveTimetable

open Json

structure StopTimeEntry where
  stopId : String
  arrival : String
  departure : String
  pickup : BoardingRule
  dropOff : BoardingRule
  headsign : Option String
deriving DecidableEq, Repr

structure TripEntry where
  tripId : String
  serviceCode : Int
  line : Option String
  stopTimes : List StopTimeEntry
deriving DecidableEq, Repr

structure ScheduleFile where
  stops : List Stop
  trips : List TripEntry
deriving DecidableEq, Repr

/-- What is wrong with a schedule file. -/
inductive ScheduleError
  | timetable (error : TimetableError)
  | invalidTime (tripId value : String)
deriving DecidableEq, Repr

def ScheduleError.message : ScheduleError → String
  | timetable error => error.message
  | invalidTime tripId value =>
    "Trip " ++ tripId ++ ": invalid service time " ++ Text.quoted value

/-! ## Reading -/

def StopTimeEntry.ofJson? (j : Json) : Option StopTimeEntry := do
  let ms ← j.asFields
    ["stop_id", "arrival_time", "departure_time", "pickup", "drop_off", "headsign"]
  return {
    stopId := ← ms.required "stop_id" asString
    arrival := ← ms.required "arrival_time" asString
    departure := ← ms.required "departure_time" asString
    pickup := ← ms.defaulted "pickup" BoardingRule.ofJson? .scheduled
    dropOff := ← ms.defaulted "drop_off" BoardingRule.ofJson? .scheduled
    headsign := ← ms.optional "headsign" asString }

def TripEntry.ofJson? (j : Json) : Option TripEntry := do
  let ms ← j.asFields ["trip_id", "service_code", "line_ref", "stop_times"]
  return {
    tripId := ← ms.required "trip_id" asString
    serviceCode := ← ms.defaulted "service_code" asInt32 0
    line := ← ms.optional "line_ref" asString
    stopTimes := ← ms.required "stop_times" (asList StopTimeEntry.ofJson?) }

def ScheduleFile.ofJson? (j : Json) : Option ScheduleFile := do
  let ms ← j.asFields ["stops", "trips"]
  return {
    stops := ← ms.required "stops" (asList Stop.ofJson?)
    trips := ← ms.required "trips" (asList TripEntry.ofJson?) }

/-! ## Building -/

/-- The time that an entry of a trip gives as text. -/
def timeOf (tripId value : String) : Except ScheduleError Seconds :=
  match Service.ofText? value with
  | some time => .ok time
  | none => .error (.invalidTime tripId value)

/-- A visit with its times. A stop that is not known is taken to be outside all stations; that it
is not known is told when the trip is added. -/
def StopTimeEntry.visit (e : StopTimeEntry) (tripId : String) (lookup : StopLookup) :
    Except ScheduleError TimedVisit := do
  let arrival ← timeOf tripId e.arrival
  let departure ← timeOf tripId e.departure
  let stop := (lookup e.stopId).getD ⟨e.stopId, none⟩
  return ⟨⟨stop, e.pickup, e.dropOff, e.headsign⟩, ⟨arrival, departure⟩⟩

def TripEntry.timetable (e : TripEntry) (lookup : StopLookup) :
    Except ScheduleError Timetable := do
  let visits ← e.stopTimes.mapM (·.visit e.tripId lookup)
  (Timetable.ofVisits e.tripId e.serviceCode e.line visits).mapError .timetable

namespace Schedule

def addEntry (s : Schedule) (e : TripEntry) : Except ScheduleError Schedule := do
  let t ← e.timetable s.stop?
  (s.addTrip t).mapError .timetable

/-- The schedule that a file gives. All stops come before the first trip. -/
def ofFile (file : ScheduleFile) (zone : Zone) : Except ScheduleError Schedule :=
  file.trips.foldlM addEntry (file.stops.foldl addStop (empty zone))

end Schedule

end LiveTimetable
