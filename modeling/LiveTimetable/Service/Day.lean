import LiveTimetable.Calendar.Zone
import LiveTimetable.Seconds
import LiveTimetable.Text.Basic

/-!
# Service times and service days

A service time is written `HH:MM:SS`; the hours may exceed 23, since a trip that runs past
midnight stays on the service day it began on. Each part may have a sign and any number of leading
zeros, and blanks are allowed around the whole but not inside.

A service day starts twelve hours before its local noon, counted in elapsed time. On a day with a
clock change that is not midnight; it keeps noon at 43200 seconds on every service day.

A date whose noon the local clock never shows has no start of service (`none`). A calculation that
runs over an end of the calendar has no result at all.
-/

namespace LiveTimetable.Service

open Text

/-! ## Service times in text -/

/-- A part of a service time: an integer that is held. -/
def part? (cs : List Char) : Option Int := do return (← Seconds.of? (← Decimal.integer? cs)).val

/-- The seconds that a text spells: never negative, and always held. -/
def ofText? (s : String) : Option Seconds :=
  match (trim s.toList).splitOn ':' with
  | [hours, minutes, seconds] => do
    let h ← part? hours
    let m ← part? minutes
    let s ← part? seconds
    if 0 ≤ h ∧ (0 ≤ m ∧ m < 60) ∧ (0 ≤ s ∧ s < 60) then Seconds.of? (3600 * h + 60 * m + s)
    else none
  | _ => none

/-- The text of a service time: hours, minutes and seconds, two digits at least. -/
def text (time : Nat) : String :=
  String.ofList (Decimal.padded 2 (time / 3600) ++ ':' ::
    (Decimal.padded 2 (time / 60 % 60) ++ ':' :: Decimal.padded 2 (time % 60)))

/-! ## Service days -/

/-- The UTC second at which service starts on a date: half a day before the first time the clock
shows noon. -/
def start (date : Date) (zone : Zone) : Except OffCalendar (Option Int) :=
  match zone.firstReading? (date.day * 86400 + 43200) with
  | none => .ok none
  | some noon =>
    if ¬ Calendar.HasSecond noon then .ok none
    else if Calendar.HasSecond (noon - 43200) then .ok (some (noon - 43200))
    else .error .offCalendar

/-- The UTC second of a service time on a date; nothing if the date has no start of service. -/
def instantAt (time : Seconds) (date : Date) (zone : Zone) : Except OffCalendar (Option Int) := do
  match ← start date zone with
  | none => return none
  | some s =>
    if Calendar.HasSecond (s + time.val) then return some (s + time.val) else throw .offCalendar

/-- The service time of an instant on the service day that starts at `start`, if it is held. -/
def timeAt? (start : Int) (t : Instant) : Option Seconds := Seconds.of? (t.secondsSince start)

end LiveTimetable.Service
