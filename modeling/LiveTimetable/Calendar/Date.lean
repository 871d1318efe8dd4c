import LiveTimetable.Calendar.Civil

/-!
# Days of the calendar

The calendar is finite: it runs from -262143-01-01 to +262142-12-31. A `Date` is one of its days,
kept as its number. A calculation that would leave the calendar has no result, which is not the
same as a date without a service day; `OffCalendar` names that outcome.
-/

namespace LiveTimetable

namespace Calendar

/-- The day number of -262143-01-01. -/
def firstDay : Int := -96465292

/-- The day number of +262142-12-31. -/
def lastDay : Int := 95026236

example : firstDay = Civil.toDays ⟨-262143, 1, 1⟩ := by decide

example : lastDay = Civil.toDays ⟨262142, 12, 31⟩ := by decide

/-- The second, counted from 1970-01-01T00:00:00, lies on a day of the calendar. -/
def HasSecond (s : Int) : Prop := firstDay * 86400 ≤ s ∧ s < (lastDay + 1) * 86400

instance (s : Int) : Decidable (HasSecond s) := inferInstanceAs (Decidable (_ ∧ _))

end Calendar

/-- A calculation with dates or instants ran over an end of the calendar. -/
inductive OffCalendar
  | offCalendar
deriving DecidableEq, Repr

structure Date where
  day : Int
  inCalendar : Calendar.firstDay ≤ day ∧ day ≤ Calendar.lastDay
deriving DecidableEq, Repr

namespace Date

def ofDay? (day : Int) : Option Date :=
  if h : Calendar.firstDay ≤ day ∧ day ≤ Calendar.lastDay then some ⟨day, h⟩ else none

/-- The day of a civil date that exists and that the calendar reaches. -/
def ofCivil? (c : Civil) : Option Date := if c.Exists then ofDay? c.toDays else none

def civil (d : Date) : Civil := Civil.ofDays d.day

/-- The day so many days earlier, if the calendar has it. -/
def back? (d : Date) (days : Nat) : Option Date := ofDay? (d.day - days)

instance : LT Date := ⟨fun a b => a.day < b.day⟩

instance : LE Date := ⟨fun a b => a.day ≤ b.day⟩

instance (a b : Date) : Decidable (a < b) := inferInstanceAs (Decidable (a.day < b.day))

instance (a b : Date) : Decidable (a ≤ b) := inferInstanceAs (Decidable (a.day ≤ b.day))

@[simp] theorem ofDay?_day (d : Date) : ofDay? d.day = some d := by
  simp [ofDay?, d.inCalendar]

@[ext] theorem ext {a b : Date} (h : a.day = b.day) : a = b := by
  cases a
  cases b
  simp_all

theorem ofDay?_eq_some_iff {day : Int} {d : Date} : ofDay? day = some d ↔ d.day = day := by
  constructor
  · intro h
    unfold ofDay? at h
    split at h
    next =>
      cases h
      rfl
    next => cases h
  · intro h
    rw [← h, ofDay?_day]

@[simp] theorem ofCivil?_civil (d : Date) : ofCivil? d.civil = some d := by
  simp [ofCivil?, civil, Civil.ofDays_exists, Civil.toDays_ofDays]

end Date

end LiveTimetable
