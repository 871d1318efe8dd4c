import LiveTimetable.Timetable.Schedule
import LiveTimetable.Update.Anchor
import LiveTimetable.Update.Propagation

/-!
# The store of published records

One record for each trip and service date for which news was accepted; all other trips run as
scheduled. News comes in messages, each of one trip on one service date, and is applied to the
record in effect. If that gives a new record it is published in place of the old one, and otherwise
nothing changes.
-/

namespace LiveTimetable

/-- A trip on a service date. -/
structure TripKey where
  tripId : String
  date : Date
deriving DecidableEq, Repr

inductive Message
  | journey (date : Date) (journey : Journey)
  | report (date : Date) (report : VehicleReport)
deriving DecidableEq, Repr

/-- The trip and date that a message is news of. -/
def Message.key : Message → TripKey
  | journey date j => ⟨j.tripRef, date⟩
  | report date r => ⟨r.tripRef, date⟩

structure Store where
  schedule : Schedule
  published : Table TripKey TripRecord

namespace Store

def empty (schedule : Schedule) : Store := ⟨schedule, .empty⟩

def published? (s : Store) (key : TripKey) : Option TripRecord := s.published.find? key

/-- The record in effect: the published one, or else the timetable's. -/
def inEffect? (s : Store) (key : TripKey) : Option TripRecord :=
  s.published? key <|> (s.schedule.trip? key.tripId).map (·.record)

/-- The store after news of a trip, with the record that was published. -/
def publish (s : Store) (key : TripKey)
    (update : Timetable → TripRecord → Except UpdateFailure TripRecord) :
    Except UpdateFailure (Store × TripRecord) :=
  match s.schedule.trip? key.tripId with
  | none => .error (.rejected (.tripNotFound key.tripId))
  | some t => do
    let record ← update t ((s.published? key).getD t.record)
    return ({ s with published := s.published.insert key record }, record)

def applyJourney (s : Store) (date : Date) (journey : Journey) :
    Except UpdateFailure (Store × TripRecord) :=
  s.publish ⟨journey.tripRef, date⟩ fun t current =>
    t.afterJourney current journey s.schedule.stop? s.schedule.zone

def applyReport (s : Store) (date : Date) (report : VehicleReport) :
    Except UpdateFailure (Store × TripRecord) :=
  s.publish ⟨report.tripRef, date⟩ fun t current =>
    (t.afterReport current report s.schedule.stop?).mapError .rejected

/-- The store after a message, with the record that was published. -/
def apply (s : Store) : Message → Except UpdateFailure (Store × TripRecord)
  | .journey date j => s.applyJourney date j
  | .report date r => s.applyReport date r

/-- The store without the records of service dates before the given one. -/
def purge (s : Store) (before : Date) : Store :=
  { s with published := s.published.keep fun key => before ≤ key.date }

/-- How many records a purge drops. -/
def expired (s : Store) (before : Date) : Nat :=
  s.published.entries.countP fun e => e.1.date < before

end Store

end LiveTimetable
