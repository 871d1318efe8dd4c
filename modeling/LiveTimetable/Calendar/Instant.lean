import LiveTimetable.Calendar.Date

/-!
# Instants

An instant is a point on the UTC time line together with the offset under which it was written.
Only the point enters a calculation; the offset is kept so that the instant can be written back.

A leap second, written as second 60, has no number of its own on the time line: it is kept as the
second before it with a fraction that runs on past one second.
-/

namespace LiveTimetable

structure Instant where
  /-- Whole UTC seconds since 1970-01-01T00:00:00Z. -/
  second : Int
  /-- The fraction in nanoseconds; a whole second or more stands for a leap second. -/
  nano : Nat
  /-- Seconds east of UTC. -/
  offset : Int
  nano_lt : nano < 2000000000
  offset_lt : -86400 < offset ∧ offset < 86400
  inCalendar : Calendar.HasSecond second
  localInCalendar : Calendar.HasSecond (second + offset)
deriving DecidableEq, Repr

namespace Instant

/-- The instant with the given parts, when they fit together. -/
def of? (second : Int) (nano : Nat) (offset : Int) : Option Instant :=
  if h : nano < 2000000000 ∧ (-86400 < offset ∧ offset < 86400) ∧ Calendar.HasSecond second ∧
      Calendar.HasSecond (second + offset) then
    some ⟨second, nano, offset, h.1, h.2.1, h.2.2.1, h.2.2.2⟩
  else none

@[simp] theorem of?_parts (t : Instant) : of? t.second t.nano t.offset = some t := by
  rw [of?, dif_pos ⟨t.nano_lt, t.offset_lt, t.inCalendar, t.localInCalendar⟩]

/-- The parts of an instant are what it was made of. -/
theorem of?_eq_some {second offset : Int} {nano : Nat} {t : Instant}
    (made : of? second nano offset = some t) :
    t.second = second ∧ t.nano = nano ∧ t.offset = offset := by
  unfold of? at made
  split at made
  next =>
    cases made
    exact ⟨rfl, rfl, rfl⟩
  next => cases made

def IsLeap (t : Instant) : Prop := 1000000000 ≤ t.nano

instance (t : Instant) : Decidable t.IsLeap := inferInstanceAs (Decidable (_ ≤ _))

/-- Two writings of one point on the time line. -/
def SamePoint (a b : Instant) : Prop := a.second = b.second ∧ a.nano = b.nano

/-- The signed time from `start`, a whole UTC second, to an instant, cut toward zero to whole
seconds. A leap second counts unless the clock, read in UTC, shows an earlier time of day at the
instant than at `start`: a leap second is looked for between two clock readings of one day. -/
def secondsSince (start : Int) (t : Instant) : Int :=
  let whole :=
    if t.IsLeap ∧ start % 86400 ≤ t.second % 86400 then t.second - start + 1
    else t.second - start
  if whole < 0 ∧ t.nano % 1000000000 ≠ 0 then whole + 1 else whole

end Instant

end LiveTimetable
