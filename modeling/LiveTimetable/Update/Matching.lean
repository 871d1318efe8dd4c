import LiveTimetable.Message.Journey
import LiveTimetable.Timetable.Visit
import LiveTimetable.Update.Error

/-!
# Matching calls with stops

The calls of a journey are laid along the stops of its trip. Stop by stop, the first recorded call
that serves the stop and has not been taken is taken, or else the first such estimated call. A call
is taken once, so a trip that visits a stop twice gets its two calls in their order.
-/

namespace LiveTimetable

/-- A call of a journey with its place among the recorded or the estimated ones. -/
inductive MatchedCall
  | recorded (index : Nat) (call : RecordedCall)
  | estimated (index : Nat) (call : EstimatedCall)
deriving DecidableEq, Repr

/-- The call that a stop has taken. -/
structure Match where
  call : MatchedCall
  serving : Serving
deriving DecidableEq, Repr

/-- The match of each stop of a pattern, if it has one. -/
abbrev Matching := List (Option Match)

namespace Matching

/-- The first of the remaining calls that serves the stop, and the calls that then remain. -/
def take? (stop : Stop) (lookup : StopLookup) (ref : α → String) :
    List (α × Nat) → Option ((α × Nat × Serving) × List (α × Nat))
  | [] => none
  | (call, index) :: rest =>
    match stop.serving? lookup (ref call) with
    | some serving => some ((call, index, serving), rest)
    | none => (take? stop lookup ref rest).map fun (taken, rest) => (taken, (call, index) :: rest)

/-- The matches of the stops of a trip, given the calls that remain. -/
def along (lookup : StopLookup) :
    Pattern → List (RecordedCall × Nat) → List (EstimatedCall × Nat) → Matching
  | [], _, _ => []
  | visit :: rest, recorded, estimated =>
    match take? visit.stop lookup (·.stopRef) recorded with
    | some ((call, index, serving), recorded) =>
      some ⟨.recorded index call, serving⟩ :: along lookup rest recorded estimated
    | none =>
      match take? visit.stop lookup (·.stopRef) estimated with
      | some ((call, index, serving), estimated) =>
        some ⟨.estimated index call, serving⟩ :: along lookup rest recorded estimated
      | none => none :: along lookup rest recorded estimated

/-- The matching of a pattern with a journey, refused when a call names no stop. -/
def ofJourney (pattern : Pattern) (journey : Journey) (lookup : StopLookup) :
    Except UpdateError Matching :=
  match journey.firstBlankRef? with
  | some call => .error (.missingStopRef journey.tripRef call)
  | none => .ok (along lookup pattern journey.recorded.zipIdx journey.estimated.zipIdx)

def matchedCount (m : Matching) : Nat := m.countP Option.isSome

def hasSubstitution (m : Matching) : Bool :=
  m.any fun found => (found.bind (·.serving.substitute?)).isSome

@[simp] theorem length_along (lookup : StopLookup) (pattern : Pattern)
    (recorded : List (RecordedCall × Nat)) (estimated : List (EstimatedCall × Nat)) :
    (along lookup pattern recorded estimated).length = pattern.length := by
  induction pattern generalizing recorded estimated with
  | nil => rfl
  | cons visit rest ih =>
    simp only [along]
    split
    · simp [ih]
    · split <;> simp [ih]

end Matching

end LiveTimetable
