import LiveTimetable.Message.Journey
import LiveTimetable.Update.Check

/-!
# Vehicle reports

A vehicle report gives one delay for the stop that the vehicle is at or comes to next, its anchor.
The delay holds from there on. Stops in front of the anchor are behind the vehicle: they keep the
delay they have, but never a larger one than the vehicle now has. An anchor that the trip does not
visit leaves all stops in front of it.
-/

namespace LiveTimetable

namespace VehicleReport

/-- The delays that a report gives to the stops of a record. -/
def delays (anchor : String) (delay : Int) (lookup : StopLookup) :
    List StopRecord → List Delay
  | [] => []
  | s :: rest =>
    if (s.visit.stop.serving? lookup anchor).isSome then
      (s :: rest).map fun _ => .both delay
    else s.delay.atMost delay :: delays anchor delay lookup rest

/-- The stops with new delays; the position of the first whose times are then not held. -/
def withDelays : List (StopRecord × Delay) → Except Nat (List StopRecord)
  | [] => .ok []
  | (s, d) :: rest =>
    match s.withDelay? d with
    | none => .error 0
    | some s => (withDelays rest).map (s :: ·) |>.mapError (· + 1)

end VehicleReport

namespace Timetable

/-- The record after a vehicle report. It takes up a cancelled trip again. -/
def afterReport (t : Timetable) (current : TripRecord) (report : VehicleReport)
    (lookup : StopLookup) : Except UpdateError TripRecord := do
  t.checkRecord current
  match report.anchor? with
  | none => throw (.missingMonitoredCall t.tripId)
  | some anchor =>
    let delays := VehicleReport.delays anchor report.delaySeconds.val lookup current.stops
    let stops ← (VehicleReport.withDelays (current.stops.zip delays)).mapError
      (.timeOutOfRange current.tripId ·)
    let record ← ({ current with stops } : TripRecord).checkOrder (t.lineName report.line)
    return { record with state := if record.state = .modified then .modified else .updated }

end Timetable

end LiveTimetable
