import LiveTimetable.Timetable.TripRecord

/-!
# Timetables of trips

The timetable of one trip: its visits with their scheduled passages, at least one, in order of
time. Every record of the trip starts from the record of its timetable.
-/

namespace LiveTimetable

structure TimedVisit where
  visit : Visit
  passage : Passage
deriving DecidableEq, Repr

structure Timetable where
  tripId : String
  serviceCode : Int
  line : Option String
  visits : List TimedVisit
  nonempty : visits ≠ []
  inOrder : Passage.firstDisorder? (visits.map (·.passage)) = none
deriving DecidableEq, Repr

/-- Why a trip has no timetable, or no place in a schedule. -/
inductive TimetableError
  | emptyTrip (tripId : String)
  | nonIncreasingSchedule (tripId : String) (position : Nat)
  | unknownStop (tripId stopId : String)
  | duplicateTrip (tripId : String)
deriving DecidableEq, Repr

def TimetableError.message : TimetableError → String
  | emptyTrip tripId => "Trip " ++ tripId ++ " has no stop times"
  | nonIncreasingSchedule tripId position =>
    "Trip " ++ tripId ++ " has non-increasing scheduled times at stop position " ++
      toString position
  | unknownStop tripId stopId => "Trip " ++ tripId ++ " references unknown stop " ++ stopId
  | duplicateTrip tripId => "Trip " ++ tripId ++ " is already part of the schedule"

namespace Timetable

/-- The timetable with the given visits, if there are any and their times do not run backwards. -/
def ofVisits (tripId : String) (serviceCode : Int) (line : Option String)
    (visits : List TimedVisit) : Except TimetableError Timetable :=
  if nonempty : visits = [] then .error (.emptyTrip tripId)
  else
    match inOrder : Passage.firstDisorder? (visits.map (·.passage)) with
    | some position => .error (.nonIncreasingSchedule tripId position)
    | none => .ok ⟨tripId, serviceCode, line, visits, nonempty, inOrder⟩

def pattern (t : Timetable) : Pattern := t.visits.map (·.visit)

/-- The record with no real-time data in it. -/
def record (t : Timetable) : TripRecord :=
  ⟨t.tripId, t.serviceCode, .scheduled, t.visits.map fun v => .ofTimetable v.visit v.passage⟩

/-- The scheduled departure from the first stop. -/
def firstDeparture (t : Timetable) : Seconds := (t.visits.head t.nonempty).passage.departure

theorem pattern_record (t : Timetable) : t.record.pattern = t.pattern := by
  simp [record, TripRecord.pattern, pattern, StopRecord.ofTimetable, Function.comp_def]

end Timetable

end LiveTimetable
