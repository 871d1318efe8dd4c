import LiveTimetable.Proofs.Outcome
import LiveTimetable.Service.Day

/-!
# Service days inside the calendar

Service starts within a day of its date, whatever the zone, and no service time is further from
the start than 32 signed bits of seconds reach, some 68 years. A date that far from both ends of
the calendar (`Date.Inner`) has an instant for each of its service times, or none for any of them:
`instantAt_of_inner`. No calculation with such a date leaves the calendar.
-/

namespace LiveTimetable

/-- A date so far from both ends of the calendar that no time of its service day leaves it. -/
def Date.Inner (d : Date) : Prop :=
  Calendar.firstDay + 24857 ≤ d.day ∧ d.day ≤ Calendar.lastDay - 24857

instance (d : Date) : Decidable d.Inner := inferInstanceAs (Decidable (_ ∧ _))

/-- The clock shows a reading less than a day off the second at which it does. -/
theorem Zone.reading_near {z : Zone} {reading s : Int} (h : s ∈ z.readings reading) :
    reading - 86400 < s ∧ s < reading + 86400 := by
  have hs := mem_readings_iff.mp h
  have := z.offset_lt _ (offsetAfter_mem s z.initial z.changes)
  unfold offsetAt at hs
  omega

namespace Service

variable {date : Date} {zone : Zone}

/-- What the start of service of a date is: half a day before the first noon. -/
theorem start_eq_ok_some {s : Int} (h : start date zone = .ok (some s)) :
    zone.firstReading? (date.day * 86400 + 43200) = some (s + 43200) ∧
      Calendar.HasSecond (s + 43200) ∧ Calendar.HasSecond s := by
  unfold start at h
  split at h
  next => cases h
  next noon hnoon =>
    split at h
    next => cases h
    next hin =>
      split at h
      next hstart =>
        cases h
        rw [Int.sub_add_cancel]
        exact ⟨hnoon, not_not.mp hin, hstart⟩
      next => cases h

/-- Service starts less than a day off the midnight of its date in UTC. -/
theorem start_near {s : Int} (h : start date zone = .ok (some s)) :
    date.day * 86400 - 86400 < s ∧ s < date.day * 86400 + 86400 := by
  have noon := Zone.reading_near (List.min?_mem (start_eq_ok_some h).1)
  omega

/-- Away from the ends of the calendar every noon leads to a start of service. -/
theorem start_eq_of_inner (inner : date.Inner) (zone : Zone) :
    start date zone =
      .ok ((zone.firstReading? (date.day * 86400 + 43200)).map fun noon => noon - 43200) := by
  unfold start
  cases hnoon : zone.firstReading? (date.day * 86400 + 43200) with
  | none => rfl
  | some noon =>
    have near := Zone.reading_near (List.min?_mem hnoon)
    have inside : Calendar.HasSecond noon ∧ Calendar.HasSecond (noon - 43200) := by
      simp only [Date.Inner, Calendar.HasSecond] at inner ⊢
      omega
    simp only [not_not.mpr inside.1, if_false, if_pos inside.2, Option.map_some]

theorem start_of_inner (inner : date.Inner) (zone : Zone) : ∃ s, start date zone = .ok s :=
  ⟨_, start_eq_of_inner inner zone⟩

/-- **Every service time of an inner date has an instant**, or the date has no service day at
all. -/
theorem instantAt_of_inner (inner : date.Inner) (zone : Zone) (time : Seconds) :
    ∃ instant, instantAt time date zone = .ok instant := by
  obtain ⟨s, hs⟩ := start_of_inner inner zone
  simp only [instantAt, Outcome.bind_eq_ok]
  cases s with
  | none => exact ⟨none, none, hs, rfl⟩
  | some s =>
    have near := start_near hs
    have hin : Calendar.HasSecond (s + time.val) := by
      have := time.held
      simp only [Date.Inner, Calendar.HasSecond] at inner ⊢
      omega
    exact ⟨some (s + time.val), some s, hs, by simp only [if_pos hin]; rfl⟩

end Service

end LiveTimetable
