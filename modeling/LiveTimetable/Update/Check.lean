import LiveTimetable.Timetable.Trip
import LiveTimetable.Update.Error

/-!
# Checks around an update

What must hold before a record is updated, and what a new record must satisfy to be published.
-/

namespace LiveTimetable

namespace Timetable

/-- The record is one of this trip, with a stop for each of its visits. -/
def checkRecord (t : Timetable) (current : TripRecord) : Except UpdateError Unit :=
  if current.tripId ≠ t.tripId then .error (.tripMismatch t.tripId current.tripId)
  else if current.stops.length ≠ t.visits.length then
    .error (.stopCountMismatch t.tripId t.visits.length current.stops.length)
  else .ok ()

/-- The line that an error speaks of: the one in the news, or else the one of the timetable. -/
def lineName (t : Timetable) (line : Option String) : String := (line <|> t.line).getD ""

theorem checkRecord_eq_ok_iff {t : Timetable} {current : TripRecord} :
    t.checkRecord current = .ok () ↔
      current.tripId = t.tripId ∧ current.stops.length = t.visits.length := by
  unfold checkRecord
  split
  · simp_all
  · split <;> simp_all

end Timetable

namespace TripRecord

/-- The record, if all its delays are held. -/
def checkDelays (r : TripRecord) : Except UpdateError TripRecord :=
  match r.firstDelayNotHeld? with
  | some position => .error (.timeOutOfRange r.tripId position)
  | none => .ok r

/-- The record, if its times do not run backwards. -/
def checkOrder (r : TripRecord) (line : String) : Except UpdateError TripRecord :=
  match r.firstDisorder? with
  | some position => .error (.nonIncreasingTimes r.tripId line position)
  | none => .ok r

end TripRecord

end LiveTimetable
