import LiveTimetable.Service.Day
import LiveTimetable.Update.Check
import LiveTimetable.Update.Revision

/-!
# Delays along a trip

A journey gives times for some stops of its trip. One pass along the stops makes a record of them:
a stop with a call takes the times that the call gives, and hands its delay on to the stops behind
it that have none. Stops in front of the first delay keep the delay of the record in effect.

Calls give instants, and a record holds seconds of a service day. On which day the trip runs is
told by the first matched call that gives any time at all.
-/

namespace LiveTimetable

namespace MatchedCall

def reference? : MatchedCall → Option Instant
  | recorded _ call => call.reference?
  | estimated _ call => call.reference?

def isCancelled : MatchedCall → Bool
  | recorded _ call => call.isCancelled
  | estimated _ call => call.isCancelled

/-- The arrival that a call gives: the most certain time comes first. -/
def arrival? (first : Bool) : MatchedCall → Option Instant
  | recorded _ call =>
    call.actual.forArrival first <|> call.expected.forArrival first <|> call.aimed.forArrival first
  | estimated _ call => call.expected.forArrival first <|> call.aimed.forArrival first

/-- The departure that a call gives. A vehicle that was observed to arrive may still stand at the
stop, so an observed arrival is never taken for a departure. -/
def departure? (last : Bool) : MatchedCall → Option Instant
  | recorded _ call =>
    call.actual.departure <|> call.expected.forDeparture last <|> call.aimed.forDeparture last
  | estimated _ call => call.expected.forDeparture last <|> call.aimed.forDeparture last

end MatchedCall

namespace Journey

/-- No call comes after this one. -/
def isLast (j : Journey) : MatchedCall → Bool
  | .recorded index _ => j.estimated.isEmpty && index + 1 = j.recorded.length
  | .estimated index _ => index + 1 = j.estimated.length

end Journey

namespace Propagation

/-- The start of the service day of a trip that makes a call at `reference`. A trip whose first
departure is past 24:00 belongs to an earlier day than the date of its calls. -/
def serviceStart (reference : Option Instant) (firstDeparture : Seconds) (zone : Zone) :
    Except OffCalendar (Option Int) :=
  match reference with
  | none => .ok none
  | some t => do
    let date ← zone.dateAt t
    let daysBack :=
      if Seconds.perDay < firstDeparture.val then (firstDeparture.val / Seconds.perDay).toNat else 0
    match date.back? daysBack with
    | none => return none
    | some date => Service.start date zone

/-- A stop of the trip as the pass meets it. -/
structure Slot where
  scheduled : TimedVisit
  found : Option Match
  /-- The delay in the record in effect. -/
  delay : Delay

/-- What the pass carries from stop to stop. -/
structure Carry where
  /-- The start of the service day, once a call has told it. -/
  start : Option Int
  /-- The departure from the stop before. -/
  departure : Seconds
  /-- The delay at the last stop with a call. -/
  delay : Delay

def Carry.initial : Carry := ⟨none, .zero, .none⟩

/-- Why the pass cannot go past a stop. -/
inductive Obstacle
  | outOfRange
  | offCalendar
deriving DecidableEq, Repr

/-- What the pass knows of the trip as a whole. -/
structure Setting where
  zone : Zone
  firstDeparture : Seconds
  journey : Journey

/-- An instant as a time of the service day. There is none as long as the day is not known; a time
that is not held is an obstacle. -/
def onDay (start : Option Int) (told : Option Instant) : Except Obstacle (Option Seconds) :=
  match start, told with
  | some start, some t =>
    match Service.timeAt? start t with
    | some time => .ok (some time)
    | none => .error .outOfRange
  | _, _ => .ok none

/-- The service day after a call: the first that is told stays. -/
def dayAfter (s : Setting) (start : Option Int) (call : MatchedCall) :
    Except Obstacle (Option Int) :=
  match start with
  | some start => .ok (some start)
  | none =>
    match serviceStart call.reference? s.firstDeparture s.zone with
    | .ok start => .ok start
    | .error .offCalendar => .error .offCalendar

/-- The passage that a call makes of the scheduled one. A time that it does not give is the
scheduled one; only the arrival of a call yet to be made follows its departure. -/
def passageAt (s : Setting) (first : Bool) (start : Option Int) (call : MatchedCall)
    (scheduled : Passage) : Except Obstacle Passage := do
  let arrival ← onDay start (call.arrival? first)
  let departure ← onDay start (call.departure? (s.journey.isLast call))
  let departure := departure.getD scheduled.departure
  return ⟨arrival.getD (match call with
    | .recorded .. => scheduled.arrival
    | .estimated .. => departure), departure⟩

/-- The record of a stop with a call. -/
def stopWith (s : Setting) (slot : Slot) (found : Match) (passage : Passage) : StopRecord where
  visit := slot.scheduled.visit.revised found
  scheduled := slot.scheduled.passage
  passage := passage
  recorded := match found.call with
    | .recorded _ call => call.wasObserved
    | .estimated .. => false
  cancelled := found.call.isCancelled
  inaccurate := match found.call with
    | .recorded .. => false
    | .estimated _ call => s.journey.isInaccurate || call.isInaccurate

/-- A stop with a call: its delay is carried on. -/
def matchedStep (s : Setting) (first : Bool) (carry : Carry) (slot : Slot) (found : Match) :
    Except Obstacle (Carry × StopRecord) := do
  let start ← dayAfter s carry.start found.call
  let passage ← passageAt s first start found.call slot.scheduled.passage
  let delay := passage.delayFrom slot.scheduled.passage
  if delay.Held then return (⟨start, passage.departure, delay⟩, stopWith s slot found passage)
  else throw .outOfRange

/-- A stop without a call. Where nobody gets on or off the vehicle passes right after the stop
before; elsewhere the delay carried along applies, or as long as there is none the delay of the
record in effect. -/
def unmatchedStep (first : Bool) (carry : Carry) (slot : Slot) :
    Except Obstacle (Carry × StopRecord) :=
  let passage? :=
    if ¬ first ∧ slot.scheduled.visit.isPassedBy then some ⟨carry.departure, carry.departure⟩
    else if carry.delay = .none then slot.scheduled.passage.delayed? slot.delay
    else slot.scheduled.passage.delayed? carry.delay
  match passage? with
  | none => .error .outOfRange
  | some passage =>
    .ok ({ carry with departure := passage.departure },
      { StopRecord.ofTimetable slot.scheduled.visit slot.scheduled.passage with passage })

def step (s : Setting) (first : Bool) (carry : Carry) (slot : Slot) :
    Except Obstacle (Carry × StopRecord) :=
  match slot.found with
  | some found => matchedStep s first carry slot found
  | none => unmatchedStep first carry slot

/-- The pass along the stops from a position on. An obstacle is told with its position. -/
def pass (s : Setting) : Nat → Carry → List Slot → Except (Nat × Obstacle) (List StopRecord)
  | _, _, [] => .ok []
  | position, carry, slot :: rest =>
    match step s (position = 0) carry slot with
    | .error obstacle => .error (position, obstacle)
    | .ok (carry, stop) => (pass s (position + 1) carry rest).map (stop :: ·)

/-- The stops of a trip with their matches and the delays of the record in effect. -/
def slots (t : Timetable) (matching : Matching) (current : TripRecord) : List Slot :=
  (t.visits.zip (matching.zip current.stops)).map fun (scheduled, found, stop) =>
    ⟨scheduled, found, stop.delay⟩

end Propagation

namespace Timetable

/-- The new record of a journey that runs. -/
def propagate (t : Timetable) (current : TripRecord) (journey : Journey) (lookup : StopLookup)
    (zone : Zone) : Except UpdateFailure TripRecord := do
  let revision ← (Revision.ofJourney t journey lookup).mapError .rejected
  let stops ←
    (Propagation.pass ⟨zone, t.firstDeparture, journey⟩ 0 .initial
      (Propagation.slots t revision.matching current)).mapError fun
        | (position, .outOfRange) => .rejected (.timeOutOfRange t.tripId position)
        | (_, .offCalendar) => .offCalendar
  let record : TripRecord :=
    ⟨t.tripId, t.serviceCode, if revision.isModified t then .modified else .updated, stops⟩
  let record ← record.checkDelays.mapError .rejected
  (record.checkOrder (t.lineName journey.line)).mapError .rejected

/-- The record after a journey. A journey that cancels its trip is not read any further: the record
in effect is kept with all it holds. -/
def afterJourney (t : Timetable) (current : TripRecord) (journey : Journey) (lookup : StopLookup)
    (zone : Zone) : Except UpdateFailure TripRecord := do
  (t.checkRecord current).mapError .rejected
  if journey.tripRef ≠ t.tripId then throw (.rejected (.tripMismatch t.tripId journey.tripRef))
  else if journey.isCancellation then return current.cancel
  else t.propagate current journey lookup zone

end Timetable

end LiveTimetable
