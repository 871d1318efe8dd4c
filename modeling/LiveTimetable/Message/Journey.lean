import LiveTimetable.Message.Call
import LiveTimetable.Seconds
import LiveTimetable.Text.Basic

/-!
# Journeys and vehicle reports

The two kinds of real-time news of a trip: a journey tells of its calls one by one, a vehicle
report gives one delay for the stop that the vehicle is at or comes to next.
-/

namespace LiveTimetable

structure Journey where
  /-- The id of the trip that it is news of. -/
  tripRef : String
  line : Option String
  /-- The whole trip does not run. -/
  cancellation : Option Bool
  inaccuracy : Option Bool
  recorded : List RecordedCall
  estimated : List EstimatedCall
deriving DecidableEq, Repr

namespace Journey

def isCancellation (j : Journey) : Bool := j.cancellation.getD false

def isInaccurate (j : Journey) : Bool := j.inaccuracy.getD false

/-- The stops that the calls name, recorded ones first. -/
def stopRefs (j : Journey) : List String :=
  j.recorded.map (·.stopRef) ++ j.estimated.map (·.stopRef)

/-- The first call that names no stop. -/
def firstBlankRef? (j : Journey) : Option Nat := j.stopRefs.findIdx? Text.allBlank

end Journey

structure MonitoredCall where
  stopRef : Option String
deriving DecidableEq, Repr

structure VehicleReport where
  tripRef : String
  line : Option String
  monitored : Option MonitoredCall
  delay : Option Seconds
deriving DecidableEq, Repr

namespace VehicleReport

/-- The reported delay; a report without one says that the vehicle is on time. -/
def delaySeconds (v : VehicleReport) : Seconds := v.delay.getD .zero

/-- The stop that the report is made for, unless it is left blank. -/
def anchor? (v : VehicleReport) : Option String := do
  let ref ← (← v.monitored).stopRef
  if Text.allBlank ref then none else some ref

end VehicleReport

end LiveTimetable
