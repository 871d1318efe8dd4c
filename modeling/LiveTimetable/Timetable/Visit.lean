import LiveTimetable.Timetable.BoardingRule
import LiveTimetable.Timetable.Stop

/-!
# Visits

A trip visits its stops in order. A visit is a stop with the rules for getting on and off and the
headsign that the vehicle shows there; a pattern is the list of a trip's visits.
-/

namespace LiveTimetable

structure Visit where
  stop : Stop
  pickup : BoardingRule
  dropOff : BoardingRule
  headsign : Option String
deriving DecidableEq, Repr

abbrev Pattern := List Visit

namespace Visit

/-- Nobody gets on or off here: the vehicle has no reason to stop. -/
def isPassedBy (v : Visit) : Bool := v.pickup = .notOffered && v.dropOff = .notOffered

def cancel (v : Visit) : Visit := { v with pickup := .cancelled, dropOff := .cancelled }

/-- The same stop under the same rules; headsigns are not compared. -/
def SameService (a b : Visit) : Prop :=
  a.stop = b.stop ∧ a.pickup = b.pickup ∧ a.dropOff = b.dropOff

instance (a b : Visit) : Decidable (SameService a b) := inferInstanceAs (Decidable (_ ∧ _))

end Visit

namespace Pattern

/-- The same stops under the same rules all along. -/
def sameService : Pattern → Pattern → Bool
  | [], [] => true
  | a :: as, b :: bs => decide (a.SameService b) && sameService as bs
  | _, _ => false

theorem sameService_self (p : Pattern) : sameService p p = true := by
  induction p with
  | nil => rfl
  | cons v p ih => simp [sameService, Visit.SameService, ih]

end Pattern

end LiveTimetable
