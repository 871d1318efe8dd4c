import LiveTimetable.Batch.Tally
import LiveTimetable.Store.Basic

/-!
# Batches

Messages come in batches. A batch is split into groups, one for each trip and service date, and the
messages of a group are applied in the order in which they came. Groups do not touch each other's
records, so in which order they are applied does not show; here it is the order of their first
messages.

A message whose calculations run over an end of the calendar ends its group. What the group has
published stays, and so does what was counted for it in the tally, but the summary counts the group
as a failure and none of its messages.

An updater has a limit to the number of groups that are under way at one time. A batch makes a place
for each of so many, and there are limits for which no places can be made: under these no batch is
begun. Under any other the limit does not show.
-/

namespace LiveTimetable

/-- The messages of each trip and date, in the order in which the trips first occur. -/
def groupByTrip (messages : List Message) : List (TripKey × List Message) :=
  (messages.map Message.key).eraseDups.map fun key => (key, messages.filter (·.key = key))

structure Updater where
  store : Store
  tally : Tally

namespace Updater

def ofSchedule (schedule : Schedule) : Updater := ⟨.empty schedule, .empty⟩

/-- The updater after the messages of one group, and the summary of the group. -/
def applyGroup (u : Updater) (counted : Summary) : List Message → Updater × Summary
  | [] => (u, counted)
  | message :: rest =>
    match u.store.apply message with
    | .ok (store, _) =>
      applyGroup ⟨store, u.tally.countApplied⟩ (counted.merge .ofApplied) rest
    | .error (.rejected e) =>
      applyGroup { u with tally := u.tally.countError e } (counted.merge (.ofError e)) rest
    | .error .offCalendar => (u, .ofFailure)

/-- The updater after the groups, and the summary of them all. -/
def applyGroups (u : Updater) : List (TripKey × List Message) → Updater × Summary
  | [] => (u, .empty)
  | (_, messages) :: rest =>
    let (u, first) := u.applyGroup .empty messages
    let (u, others) := u.applyGroups rest
    (u, first.merge others)

/-- The work of a batch that has its places. -/
def applyBatch (u : Updater) (messages : List Message) : Updater × Summary :=
  u.applyGroups (groupByTrip messages)

end Updater

/-! ## Limits -/

/-- A batch needs more places than can be made. -/
inductive TooManyPlaces
  | tooManyPlaces
deriving DecidableEq, Repr

/-- The most places that can be made: an eighth of what 64 bits hold. -/
def mostPlaces : Nat := 0x1fffffffffffffff

/-- An updater with the number of groups that may be under way at one time. -/
structure LimitedUpdater extends Updater where
  limit : Nat

namespace LimitedUpdater

/-- There is always a place for one group. -/
def ofSchedule (schedule : Schedule) (limit : Nat) : LimitedUpdater :=
  ⟨.ofSchedule schedule, max limit 1⟩

/-- The updater after a batch, and the summary of the batch. -/
def applyBatch (u : LimitedUpdater) (messages : List Message) :
    Except TooManyPlaces (LimitedUpdater × Summary) :=
  if mostPlaces < u.limit then .error .tooManyPlaces
  else .ok (⟨(u.toUpdater.applyBatch messages).1, u.limit⟩, (u.toUpdater.applyBatch messages).2)

end LimitedUpdater

end LiveTimetable
