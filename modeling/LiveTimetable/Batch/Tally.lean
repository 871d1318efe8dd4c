import LiveTimetable.Update.Error

/-!
# Counts

What became of messages, counted in two ways. The summary of a batch tells what its sender needs to
know; the tally of an updater sorts refusals by their cause, over all its batches.
-/

namespace LiveTimetable

structure Summary where
  applied : Nat
  rejected : Nat
  unknownTrips : Nat
  /-- Groups of messages that were not carried through. -/
  failedTasks : Nat
deriving DecidableEq, Repr

namespace Summary

def empty : Summary := ⟨0, 0, 0, 0⟩

def merge (a b : Summary) : Summary :=
  ⟨a.applied + b.applied, a.rejected + b.rejected, a.unknownTrips + b.unknownTrips,
    a.failedTasks + b.failedTasks⟩

/-- The messages that were counted. -/
def total (s : Summary) : Nat := s.applied + s.rejected + s.unknownTrips

def ofApplied : Summary := ⟨1, 0, 0, 0⟩

def ofError : UpdateError → Summary
  | .tripNotFound _ => ⟨0, 0, 1, 0⟩
  | _ => ⟨0, 1, 0, 0⟩

/-- A group of messages that was not carried through. -/
def ofFailure : Summary := ⟨0, 0, 0, 1⟩

end Summary

structure Tally where
  applied : Nat
  /-- The record that was made is invalid. -/
  rejectedIntegrity : Nat
  /-- The message does not fit the trip, or is malformed. -/
  rejectedInput : Nat
  unknownTrip : Nat
  contended : Nat
deriving DecidableEq, Repr

namespace Tally

def empty : Tally := ⟨0, 0, 0, 0, 0⟩

def countApplied (t : Tally) : Tally := { t with applied := t.applied + 1 }

def countError (t : Tally) (e : UpdateError) : Tally :=
  match e with
  | .tripNotFound _ => { t with unknownTrip := t.unknownTrip + 1 }
  | .contended .. => { t with contended := t.contended + 1 }
  | e =>
    if e.isIntegrityViolation then { t with rejectedIntegrity := t.rejectedIntegrity + 1 }
    else { t with rejectedInput := t.rejectedInput + 1 }

end Tally

end LiveTimetable
