import LiveTimetable.Calendar.Instant

/-!
# Time zones

A zone is a name and the history of its offset from UTC: a first offset, and the changes in the
order in which they happened. The history is total, so every second has an offset; a local clock
reading may belong to no second (the clock was put forward), to one, or to several.

Main statement: the seconds at which the clock shows a reading are exactly those that `readings`
lists (`mem_readings_iff`).
-/

namespace LiveTimetable

structure Zone where
  name : String
  /-- Seconds east of UTC before the first change. -/
  initial : Int
  /-- UTC seconds of the changes, in increasing order, with the offset from each on. -/
  changes : List (Int × Int)
  /-- No offset is as long as a day. -/
  offset_lt : ∀ o ∈ initial :: changes.map Prod.snd, -86400 < o ∧ o < 86400
deriving DecidableEq, Repr

namespace Zone

/-- The offset in force after a run of changes that began with `offset`. -/
def offsetAfter (second : Int) : Int → List (Int × Int) → Int
  | offset, [] => offset
  | offset, (since, next) :: rest => offsetAfter second (if since ≤ second then next else offset) rest

def offsetAt (z : Zone) (second : Int) : Int := offsetAfter second z.initial z.changes

/-- Every offset the zone ever had, once. -/
def offsets (z : Zone) : List Int := (z.initial :: z.changes.map Prod.snd).eraseDups

/-- The seconds at which the local clock shows `reading`, itself counted in seconds. -/
def readings (z : Zone) (reading : Int) : List Int :=
  (z.offsets.map (reading - ·)).filter fun s => s + z.offsetAt s = reading

/-- The first second at which the local clock shows `reading`. -/
def firstReading? (z : Zone) (reading : Int) : Option Int := (z.readings reading).min?

theorem offsetAfter_mem (second offset : Int) (changes : List (Int × Int)) :
    offsetAfter second offset changes ∈ offset :: changes.map Prod.snd := by
  induction changes generalizing offset with
  | nil => simp [offsetAfter]
  | cons c rest ih =>
    obtain ⟨since, next⟩ := c
    simp only [offsetAfter]
    split
    · have := ih next
      simp only [List.map_cons, List.mem_cons] at this ⊢
      exact Or.inr this
    · have := ih offset
      simp only [List.map_cons, List.mem_cons] at this ⊢
      rcases this with h | h
      · exact Or.inl h
      · exact Or.inr (Or.inr h)

theorem offsetAt_mem_offsets (z : Zone) (second : Int) : z.offsetAt second ∈ z.offsets :=
  List.mem_eraseDups.mpr (offsetAfter_mem ..)

theorem mem_readings_iff {z : Zone} {reading s : Int} :
    s ∈ z.readings reading ↔ s + z.offsetAt s = reading := by
  simp only [readings, List.mem_filter, List.mem_map, decide_eq_true_eq]
  constructor
  · exact And.right
  · intro h
    exact ⟨⟨z.offsetAt s, z.offsetAt_mem_offsets s, by omega⟩, h⟩

/-- The date that the local clock shows at an instant. The instant lies in the calendar, but its
local reading may not. -/
def dateAt (z : Zone) (t : Instant) : Except OffCalendar Date :=
  match Date.ofDay? ((t.second + z.offsetAt t.second) / 86400) with
  | some date => .ok date
  | none => .error .offCalendar

end Zone

end LiveTimetable
