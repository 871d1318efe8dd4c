/-!
# Civil dates

The proleptic Gregorian calendar, with a year zero. Days are counted from 1970-01-01. Both
directions are arithmetic on a year that starts in March: the leap day is then its last day, and
the 400 years of an era hold 146097 days.

Main statements: a day number survives the way to a civil date and back (`toDays_ofDays`), and
what comes out is a date that exists (`ofDays_exists`).
-/

namespace LiveTimetable

structure Civil where
  year : Int
  month : Nat
  day : Nat
deriving DecidableEq, Repr

namespace Civil

def isLeapYear (year : Int) : Bool :=
  decide (year % 4 = 0) && (decide (year % 100 ≠ 0) || decide (year % 400 = 0))

/-- The days of a month; a month that no year has holds none. -/
def daysInMonth (year : Int) (month : Nat) : Nat :=
  if month = 2 then (if isLeapYear year then 29 else 28)
  else if month = 4 ∨ month = 6 ∨ month = 9 ∨ month = 11 then 30
  else if 1 ≤ month ∧ month ≤ 12 then 31
  else 0

/-- The date is one that the calendar has. -/
def Exists (c : Civil) : Prop := 1 ≤ c.day ∧ c.day ≤ daysInMonth c.year c.month

instance (c : Civil) : Decidable c.Exists := inferInstanceAs (Decidable (_ ∧ _))

/-! ## Years of an era, counted from March -/

/-- The days of the years before the given one. -/
def daysBeforeYear (ofEra : Int) : Int := ofEra * 365 + ofEra / 4 - ofEra / 100

/-- The year in which a day of an era lies: a century, a run of four years in it and a year of
those. The last century and the last year may be a day longer than the others, hence the `min`s. -/
def yearOfEra (day : Int) : Int :=
  let century := min (day / 36524) 3
  let ofCentury := day - 36524 * century
  100 * century + 4 * (ofCentury / 1461) + min (ofCentury % 1461 / 365) 3

theorem yearOfEra_bounds {day : Int} (h : 0 ≤ day ∧ day < 146097) :
    0 ≤ yearOfEra day ∧ yearOfEra day < 400 := by
  simp only [yearOfEra]
  omega

/-- A year has at most 366 days, and the last of them only when the year closes a run of four that
is not cut short at the end of a century. -/
theorem dayOfYear_bounds {day : Int} (h : 0 ≤ day ∧ day < 146097) :
    daysBeforeYear (yearOfEra day) ≤ day ∧ day - daysBeforeYear (yearOfEra day) ≤ 365 ∧
      (day - daysBeforeYear (yearOfEra day) = 365 →
        (yearOfEra day + 1) % 4 = 0 ∧
          ((yearOfEra day + 1) % 100 ≠ 0 ∨ (yearOfEra day + 1) % 400 = 0)) := by
  simp only [daysBeforeYear, yearOfEra]
  generalize hc : min (day / 36524) 3 = century
  generalize hf : (day - 36524 * century) / 1461 = four
  generalize hs : min ((day - 36524 * century) % 1461 / 365) 3 = single
  have h1 : (100 * century + 4 * four + single) / 4 = 25 * century + four := by omega
  have h2 : (100 * century + 4 * four + single) / 100 = century := by omega
  rw [h1, h2]
  refine ⟨by omega, by omega, fun h => ?_⟩
  have hs3 : single = 3 := by omega
  refine ⟨by omega, ?_⟩
  by_cases h24 : four = 24
  · exact Or.inr (by omega)
  · exact Or.inl (by omega)

/-! ## Months of a year, counted from March -/

/-- The days of the months before the given one; March is month 0. -/
def daysBeforeMonth (month : Int) : Int := (153 * month + 2) / 5

def monthOfYear (day : Int) : Int := (5 * day + 2) / 153

theorem monthOfYear_bounds (day : Int) (h : 0 ≤ day ∧ day ≤ 365) :
    0 ≤ monthOfYear day ∧ monthOfYear day ≤ 11 := by
  unfold monthOfYear
  omega

/-! ## Day numbers -/

/-- Days from 0000-03-01, where the first era starts, to 1970-01-01. -/
def epoch : Int := 719468

/-- The number of a date's day, counted from 1970-01-01. -/
def toDays (c : Civil) : Int :=
  let year := if c.month ≤ 2 then c.year - 1 else c.year
  let month : Int := if c.month ≤ 2 then c.month + 9 else c.month - 3
  year / 400 * 146097 + daysBeforeYear (year % 400) + daysBeforeMonth month + c.day - 1 - epoch

/-- The date whose months and years are counted from March. -/
def ofMarch (year month day : Int) : Civil :=
  if month < 10 then ⟨year, (month + 3).toNat, day.toNat⟩
  else ⟨year + 1, (month - 9).toNat, day.toNat⟩

/-- The date of a day number. -/
def ofDays (n : Int) : Civil :=
  let era := (n + epoch) / 146097
  let ofEra := (n + epoch) % 146097
  let year := yearOfEra ofEra
  let ofYear := ofEra - daysBeforeYear year
  let month := monthOfYear ofYear
  ofMarch (era * 400 + year) month (ofYear - daysBeforeMonth month + 1)

theorem toDays_ofMarch {year month day : Int} (hm : 0 ≤ month ∧ month ≤ 11) (hd : 0 ≤ day) :
    (ofMarch year month day).toDays =
      year / 400 * 146097 + daysBeforeYear (year % 400) + daysBeforeMonth month + day - 1
        - epoch := by
  unfold ofMarch
  split
  · have h1 : ¬ (month + 3).toNat ≤ 2 := by omega
    have h2 : ((month + 3).toNat : Int) - 3 = month := by omega
    have h3 : (day.toNat : Int) = day := by omega
    simp only [toDays, h1, if_false, h2, h3]
  · have h1 : (month - 9).toNat ≤ 2 := by omega
    have h2 : ((month - 9).toNat : Int) + 9 = month := by omega
    have h3 : (day.toNat : Int) = day := by omega
    have h4 : year + 1 - 1 = year := by omega
    simp only [toDays, h1, if_true, h2, h3, h4]

theorem toDays_ofDays (n : Int) : (ofDays n).toDays = n := by
  have hday : 0 ≤ (n + epoch) % 146097 ∧ (n + epoch) % 146097 < 146097 := by omega
  have hyear := yearOfEra_bounds hday
  have hof := dayOfYear_bounds hday
  have hmonth := monthOfYear_bounds ((n + epoch) % 146097 -
    daysBeforeYear (yearOfEra ((n + epoch) % 146097))) (by omega)
  simp only [ofDays]
  rw [toDays_ofMarch hmonth (by simp only [monthOfYear, daysBeforeMonth]; omega)]
  have h1 : ((n + epoch) / 146097 * 400 + yearOfEra ((n + epoch) % 146097)) / 400 =
      (n + epoch) / 146097 := by omega
  have h2 : ((n + epoch) / 146097 * 400 + yearOfEra ((n + epoch) % 146097)) % 400 =
      yearOfEra ((n + epoch) % 146097) := by omega
  rw [h1, h2]
  omega

theorem ofDays_exists (n : Int) : (ofDays n).Exists := by
  have hday : 0 ≤ (n + epoch) % 146097 ∧ (n + epoch) % 146097 < 146097 := by omega
  have hyear := yearOfEra_bounds hday
  have hof := dayOfYear_bounds hday
  have hmonth := monthOfYear_bounds ((n + epoch) % 146097 -
    daysBeforeYear (yearOfEra ((n + epoch) % 146097))) (by omega)
  simp only [ofDays]
  revert hyear hof hmonth
  generalize yearOfEra ((n + epoch) % 146097) = year
  generalize (n + epoch) % 146097 - daysBeforeYear year = ofYear
  generalize (n + epoch) / 146097 = era
  intro hyear hof hmonth
  generalize hm : monthOfYear ofYear = month at hmonth ⊢
  have hcases : month = 0 ∨ month = 1 ∨ month = 2 ∨ month = 3 ∨ month = 4 ∨ month = 5 ∨ month = 6 ∨
      month = 7 ∨ month = 8 ∨ month = 9 ∨ month = 10 ∨ month = 11 := by omega
  simp only [monthOfYear] at hm
  have hleap : ofYear = 365 → isLeapYear (era * 400 + year + 1) = true := by
    intro h
    simp only [isLeapYear, Bool.and_eq_true, Bool.or_eq_true, decide_eq_true_eq]
    omega
  rcases hcases with rfl | rfl | rfl | rfl | rfl | rfl | rfl | rfl | rfl | rfl | rfl | rfl
  case inr.inr.inr.inr.inr.inr.inr.inr.inr.inr.inr =>
    simp only [ofMarch, daysBeforeMonth, Exists, daysInMonth]
    by_cases h : ofYear = 365
    · simp [h, hleap h]
    · have hmin : 28 ≤ (if isLeapYear (era * 400 + year + 1) = true then 29 else 28) := by
        split <;> omega
      simp
      omega
  all_goals simp [ofMarch, daysBeforeMonth, Exists, daysInMonth]; omega

end Civil

end LiveTimetable
