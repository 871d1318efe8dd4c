import LiveTimetable.Timetable.Passage
import LiveTimetable.Timetable.Visit

/-!
# Records of a trip

A record is one version of a trip on a service date: for every stop the visit as it now stands, the
scheduled passage and the passage expected or observed, and what is known of the call there. A
record is never changed; an update makes a new one.
-/

namespace LiveTimetable

/-- How a record came about. -/
inductive RealTimeState
  | scheduled
  | updated
  /-- Stops or boarding rules differ from the timetable. -/
  | modified
  | canceled
  | added
deriving DecidableEq, Repr

namespace RealTimeState

def all : List RealTimeState := [scheduled, updated, modified, canceled, added]

def code : RealTimeState → String
  | scheduled => "SCHEDULED"
  | updated => "UPDATED"
  | modified => "MODIFIED"
  | canceled => "CANCELED"
  | added => "ADDED"

def ofCode? (code : String) : Option RealTimeState := all.find? (·.code = code)

@[simp] theorem ofCode?_code (s : RealTimeState) : ofCode? s.code = some s := by
  cases s <;> decide

def toJson (s : RealTimeState) : Json := Json.text s.code

def ofJson? (j : Json) : Option RealTimeState := do ofCode? (← j.asCode false)

end RealTimeState

structure StopRecord where
  visit : Visit
  scheduled : Passage
  passage : Passage
  /-- The vehicle was observed here. -/
  recorded : Bool
  cancelled : Bool
  /-- The feed does not vouch for its prediction. -/
  inaccurate : Bool
deriving DecidableEq, Repr

namespace StopRecord

/-- A stop of which nothing but the timetable is known. -/
def ofTimetable (visit : Visit) (passage : Passage) : StopRecord :=
  ⟨visit, passage, passage, false, false, false⟩

def delay (s : StopRecord) : Delay := s.passage.delayFrom s.scheduled

/-- The stop with this delay in place of the one it had, if its times are then held. -/
def withDelay? (s : StopRecord) (d : Delay) : Option StopRecord :=
  (s.scheduled.delayed? d).map fun passage => { s with passage }

/-- Only the passage is another, and it has the delay asked for. -/
theorem withDelay?_eq_some_iff {s s' : StopRecord} {d : Delay} :
    s.withDelay? d = some s' ↔ s' = { s with passage := s'.passage } ∧ s'.delay = d := by
  simp only [withDelay?, Option.map_eq_some_iff, Passage.delayed?_eq_some_iff]
  constructor
  · rintro ⟨passage, hd, rfl⟩
    exact ⟨rfl, hd⟩
  · rintro ⟨hs, hd⟩
    have hsched : s'.scheduled = s.scheduled := by rw [hs]
    refine ⟨s'.passage, ?_, hs.symm⟩
    rw [← hsched]
    exact hd

end StopRecord

structure TripRecord where
  tripId : String
  serviceCode : Int
  state : RealTimeState
  stops : List StopRecord
deriving DecidableEq, Repr

namespace TripRecord

def pattern (r : TripRecord) : Pattern := r.stops.map (·.visit)

def isCanceled (r : TripRecord) : Bool := r.state = .canceled

/-- The record of a trip that does not run. All else stays, so that the trip can be taken up
again. -/
def cancel (r : TripRecord) : TripRecord := { r with state := .canceled }

/-- Where the times first run backwards. -/
def firstDisorder? (r : TripRecord) : Option Nat :=
  Passage.firstDisorder? (r.stops.map (·.passage))

/-- The first stop with a delay that is not held. -/
def firstDelayNotHeld? (r : TripRecord) : Option Nat :=
  r.stops.findIdx? fun s => ¬ s.delay.Held

end TripRecord

end LiveTimetable
