import LiveTimetable.Calendar.Zone
import LiveTimetable.Table
import LiveTimetable.Timetable.Trip

/-!
# Schedules

All stops and trips of a feed with the zone whose clock they follow. Two indexes go with them: the
stops that were ever added under a station, and the trips that visit a stop.

A stop that is added again takes the place of the one with its id, but the station index keeps what
it held: a stop that has left a station is still found under it.
-/

namespace LiveTimetable

structure Schedule where
  zone : Zone
  stops : Table String Stop
  /-- Stop ids under their stations. -/
  stations : Index
  trips : Table String Timetable
  /-- Trip ids under the stops that they visit. -/
  visitors : Index

namespace Schedule

def empty (zone : Zone) : Schedule := ⟨zone, .empty, .empty, .empty, .empty⟩

def addStop (s : Schedule) (stop : Stop) : Schedule :=
  { s with
    stops := s.stops.insert stop.id stop
    stations := match stop.station with
      | some station => s.stations.add station stop.id
      | none => s.stations }

def stop? (s : Schedule) : StopLookup := s.stops.find?

def trip? (s : Schedule) (tripId : String) : Option Timetable := s.trips.find? tripId

/-- The schedule with one more trip, if it has none of that id and knows every stop visited. -/
def addTrip (s : Schedule) (t : Timetable) : Except TimetableError Schedule :=
  if s.trips.contains t.tripId then .error (.duplicateTrip t.tripId)
  else
    match t.visits.find? fun v => !s.stops.contains v.visit.stop.id with
    | some unknown => .error (.unknownStop t.tripId unknown.visit.stop.id)
    | none =>
      .ok { s with
        trips := s.trips.insert t.tripId t
        visitors := t.visits.foldl (fun i v => i.add v.visit.stop.id t.tripId) s.visitors }

/-- The trips whose timetable visits a stop. -/
def tripsVisiting (s : Schedule) (stopId : String) : List String := s.visitors.under stopId

/-- The other stops found under the station of a stop. -/
def stationSiblings (s : Schedule) (stopId : String) : List String :=
  match s.stop? stopId with
  | some ⟨_, some station⟩ => (s.stations.under station).filter (· ≠ stopId)
  | _ => []

end Schedule

end LiveTimetable
