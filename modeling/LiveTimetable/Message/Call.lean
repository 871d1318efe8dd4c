import LiveTimetable.Calendar.Instant
import LiveTimetable.Timetable.BoardingRule

/-!
# Calls

A journey tells of its calls at stops: those the vehicle has made (recorded) and those it is yet to
make (estimated). Both may give the times that were aimed at and the times that are expected; only
a recorded call may give the times that were observed.
-/

namespace LiveTimetable

/-- The arrival and departure that a call gives, of one kind. -/
structure CallTimes where
  arrival : Option Instant
  departure : Option Instant
deriving DecidableEq, Repr

namespace CallTimes

/-- The arrival. At the first stop of a trip the departure may stand in for it. -/
def forArrival (t : CallTimes) (first : Bool) : Option Instant :=
  t.arrival <|> if first then t.departure else none

/-- The departure. At the last call of a journey the arrival may stand in for it. -/
def forDeparture (t : CallTimes) (last : Bool) : Option Instant :=
  t.departure <|> if last then t.arrival else none

/-- Either time, the departure before the arrival. -/
def either (t : CallTimes) : Option Instant := t.departure <|> t.arrival

end CallTimes

inductive CallStatus
  | onTime
  | early
  | delayed
  | cancelled
  | arrived
  | departed
  | missed
  | noReport
  | notExpected
  /-- A status that a feed may send but that means nothing here. -/
  | unknown
deriving DecidableEq, Repr

namespace CallStatus

/-- The statuses that have a code of their own. -/
def known : List CallStatus :=
  [onTime, early, delayed, cancelled, arrived, departed, missed, noReport, notExpected]

def code : CallStatus → String
  | onTime => "onTime"
  | early => "early"
  | delayed => "delayed"
  | cancelled => "cancelled"
  | arrived => "arrived"
  | departed => "departed"
  | missed => "missed"
  | noReport => "noReport"
  | notExpected => "notExpected"
  | unknown => "unknown"

/-- Every code has a status; those that are not known share one. -/
def ofCode (code : String) : CallStatus := (known.find? (·.code = code)).getD unknown

@[simp] theorem ofCode_code (s : CallStatus) : ofCode s.code = s := by
  cases s <;> decide

end CallStatus

/-- A call that the vehicle has made. -/
structure RecordedCall where
  stopRef : String
  cancellation : Option Bool
  aimed : CallTimes
  expected : CallTimes
  actual : CallTimes
deriving DecidableEq, Repr

namespace RecordedCall

def isCancelled (c : RecordedCall) : Bool := c.cancellation.getD false

def wasObserved (c : RecordedCall) : Bool := c.actual.either.isSome

/-- The time that tells on which date the trip runs: the aimed ones first. -/
def reference? (c : RecordedCall) : Option Instant :=
  c.aimed.either <|> c.expected.either <|> c.actual.either

end RecordedCall

/-- A call that the vehicle is yet to make. -/
structure EstimatedCall where
  stopRef : String
  cancellation : Option Bool
  inaccuracy : Option Bool
  aimed : CallTimes
  expected : CallTimes
  arrivalStatus : Option CallStatus
  departureStatus : Option CallStatus
  arrivalActivity : Option Activity
  departureActivity : Option Activity
  /-- Texts of the destination, of which the first is shown as headsign. -/
  destinations : List String
deriving DecidableEq, Repr

namespace EstimatedCall

def isCancelled (c : EstimatedCall) : Bool := c.cancellation.getD false

def isInaccurate (c : EstimatedCall) : Bool := c.inaccuracy.getD false

def arrivalCancelled (c : EstimatedCall) : Bool := c.arrivalStatus = some .cancelled

def departureCancelled (c : EstimatedCall) : Bool := c.departureStatus = some .cancelled

def reference? (c : EstimatedCall) : Option Instant := c.aimed.either <|> c.expected.either

end EstimatedCall

end LiveTimetable
