import LiveTimetable.Calendar.Date

/-!
# Failed updates

Why news of a trip leads to no new record. The record in effect then stays in effect.
-/

namespace LiveTimetable

inductive UpdateError
  | tripNotFound (tripId : String)
  | tripMismatch (scheduled current : String)
  | missingStopRef (tripId : String) (call : Nat)
  | missingMonitoredCall (tripId : String)
  | nonIncreasingTimes (tripId line : String) (position : Nat)
  | stopCountMismatch (tripId : String) (expected actual : Nat)
  | timeOutOfRange (tripId : String) (position : Nat)
  | contended (tripId : String) (attempts : Nat)
deriving DecidableEq, Repr

namespace UpdateError

def message : UpdateError → String
  | tripNotFound tripId => "Trip " ++ tripId ++ " not found in schedule"
  | tripMismatch scheduled current =>
    "Record for trip " ++ current ++ " cannot be updated with schedule of trip " ++ scheduled
  | missingStopRef tripId call =>
    "Trip " ++ tripId ++ ": call " ++ toString call ++ " has no stop reference"
  | missingMonitoredCall tripId =>
    "Trip " ++ tripId ++ ": vehicle activity has no monitored call stop"
  | nonIncreasingTimes tripId line position =>
    "Trip " ++ tripId ++ " (line " ++ line ++ "): times non-increasing at stop position " ++
      toString position
  | stopCountMismatch tripId expected actual =>
    "Trip " ++ tripId ++ ": revised pattern has " ++ toString actual ++
      " stops, schedule has " ++ toString expected
  | timeOutOfRange tripId position =>
    "Trip " ++ tripId ++ ": time out of range at stop position " ++ toString position
  | contended tripId attempts =>
    "Trip " ++ tripId ++ ": gave up publishing after " ++ toString attempts ++
      " concurrent modifications"

/-- The news could be read, but the record made of it makes no sense. -/
def isIntegrityViolation : UpdateError → Bool
  | nonIncreasingTimes .. => true
  | stopCountMismatch .. => true
  | _ => false

end UpdateError

/-- An update is refused, or it has no result at all because a calculation with dates ran over an
end of the calendar. -/
inductive UpdateFailure
  | rejected (error : UpdateError)
  | offCalendar
deriving DecidableEq, Repr

end LiveTimetable
