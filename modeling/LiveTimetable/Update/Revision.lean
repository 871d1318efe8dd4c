import LiveTimetable.Timetable.Trip
import LiveTimetable.Update.Matching

/-!
# Revised patterns

What a journey makes of the stops of its trip: another platform may take the place of the scheduled
one, calls may be cancelled or closed for getting on or off, and a destination may replace the
headsign. Stops without a call stay as they are scheduled.
-/

namespace LiveTimetable

namespace Visit

/-- The visit at the stop that the call was matched for. -/
def servedBy (v : Visit) : Serving → Visit
  | .itself => v
  | .substitute stop => { v with stop }

/-- The visit after a recorded call: only a cancellation changes its rules. -/
def afterRecorded (v : Visit) (call : RecordedCall) : Visit :=
  if call.isCancelled then v.cancel else v

/-- A rule after a status and an activity have been reported for its side of a call. The activity
comes last, so one that allows lifts a cancelled status. -/
def ruleAfter (rule : BoardingRule) (cancelled : Bool) (activity : Option Activity) :
    BoardingRule :=
  (if cancelled then .cancelled else rule : BoardingRule).after activity

/-- The visit after an estimated call. A cancellation of the call outweighs what it says of its two
sides. -/
def afterEstimated (v : Visit) (call : EstimatedCall) : Visit :=
  let told : Visit :=
    { v with
      dropOff := ruleAfter v.dropOff call.arrivalCancelled call.arrivalActivity
      pickup := ruleAfter v.pickup call.departureCancelled call.departureActivity
      headsign := call.destinations.head? <|> v.headsign }
  if call.isCancelled then told.cancel else told

/-- The visit after the call that its stop has taken. -/
def revised (v : Visit) (found : Match) : Visit :=
  match found.call with
  | .recorded _ call => (v.servedBy found.serving).afterRecorded call
  | .estimated _ call => (v.servedBy found.serving).afterEstimated call

/-- The visit after the call that its stop has taken, if any. -/
def after (v : Visit) : Option Match → Visit
  | none => v
  | some found => v.revised found

end Visit

structure Revision where
  pattern : Pattern
  matching : Matching
deriving DecidableEq, Repr

namespace Revision

/-- The pattern of a trip as a journey revises it. -/
def ofJourney (t : Timetable) (journey : Journey) (lookup : StopLookup) :
    Except UpdateError Revision := do
  let matching ← Matching.ofJourney t.pattern journey lookup
  return ⟨List.zipWith Visit.after t.pattern matching, matching⟩

/-- Stops or rules differ from the timetable. A new headsign is no difference. -/
def isModified (r : Revision) (t : Timetable) : Bool := !r.pattern.sameService t.pattern

end Revision

end LiveTimetable
