import LiveTimetable.Proofs.Update.ServiceDay

/-!
# Usual years

The years from -262000 to 262000 keep more than a hundred years off both ends of the calendar
(`Calendar.Usual.far`). No calculation with a usual instant leaves it: the clock shows a date less
than two days off, a trip is taken back by as many days as its first departure holds, some 68 years
at most, and service starts within a day of the date that this comes to
(`Propagation.serviceStart_of_usual`). Nor does one with a usual date (`Date.Usual.inner`).
-/

namespace LiveTimetable

/-- The day lies in one of the years from -262000 to 262000. -/
def Calendar.Usual (day : Int) : Prop :=
  -262000 ≤ (Civil.ofDays day).year ∧ (Civil.ofDays day).year ≤ 262000

instance (day : Int) : Decidable (Calendar.Usual day) := inferInstanceAs (Decidable (_ ∧ _))

/-- The date lies in a usual year. -/
def Date.Usual (d : Date) : Prop := Calendar.Usual d.day

instance (d : Date) : Decidable d.Usual := inferInstanceAs (Decidable (Calendar.Usual _))

/-- The instant lies in a usual year, in UTC or as it was written. -/
def Instant.Usual (t : Instant) : Prop :=
  Calendar.Usual (t.second / 86400) ∨ Calendar.Usual ((t.second + t.offset) / 86400)

instance (t : Instant) : Decidable t.Usual := inferInstanceAs (Decidable (_ ∨ _))

namespace Civil

/-- The year of a day is the one that starts in its March, or the next. -/
theorem year_ofDays (day : Int) :
    (ofDays day).year = (day + epoch) / 146097 * 400 + yearOfEra ((day + epoch) % 146097) ∨
      (ofDays day).year = (day + epoch) / 146097 * 400 + yearOfEra ((day + epoch) % 146097) + 1 := by
  simp only [ofDays, ofMarch]
  split
  next => exact .inl rfl
  next => exact .inr rfl

/-- The era of a day tells its year up to 400. -/
theorem era_bounds (day : Int) :
    (day + epoch) / 146097 * 400 ≤ (ofDays day).year ∧
      (ofDays day).year ≤ (day + epoch) / 146097 * 400 + 400 := by
  have inEra : 0 ≤ (day + epoch) % 146097 ∧ (day + epoch) % 146097 < 146097 := by omega
  have year := yearOfEra_bounds inEra
  rcases year_ofDays day with h | h
  · omega
  · omega

/-- A day is told by its year up to a year and a half, with 365 days in a year and 97 leap days in
an era. -/
theorem day_bounds (day : Int) :
    365 * ((ofDays day).year - 1) + 97 * ((day + epoch) / 146097) ≤ day + epoch ∧
      day + epoch ≤ 365 * (ofDays day).year + 97 * ((day + epoch) / 146097) + 465 := by
  have inEra : 0 ≤ (day + epoch) % 146097 ∧ (day + epoch) % 146097 < 146097 := by omega
  have year := yearOfEra_bounds inEra
  have ofYear := dayOfYear_bounds inEra
  have split : (day + epoch) / 146097 * 146097 + (day + epoch) % 146097 = day + epoch := by omega
  unfold daysBeforeYear at ofYear
  rcases year_ofDays day with h | h
  · omega
  · omega

end Civil

/-- **A usual day is more than 50000 days off both ends of the calendar.** -/
theorem Calendar.Usual.far {day : Int} (usual : Usual day) :
    firstDay + 50000 ≤ day ∧ day ≤ lastDay - 50000 := by
  have era := Civil.era_bounds day
  have days := Civil.day_bounds day
  unfold Usual at usual
  generalize (day + Civil.epoch) / 146097 = of at era days
  unfold firstDay lastDay
  unfold Civil.epoch at days
  omega

/-- No service time of a usual date leaves the calendar. -/
theorem Date.Usual.inner {d : Date} (usual : d.Usual) : d.Inner := by
  have far := Calendar.Usual.far usual
  unfold Date.Inner
  omega

/-- The UTC second of a usual instant lies as far from the ends of the calendar, up to a day. -/
theorem Instant.Usual.far {t : Instant} (usual : t.Usual) :
    (Calendar.firstDay + 49998) * 86400 ≤ t.second ∧
      t.second < (Calendar.lastDay - 49998) * 86400 := by
  have offset := t.offset_lt
  rcases usual with h | h
  · have far := h.far
    omega
  · have far := h.far
    omega

/-- The clock of every zone shows a date at a usual instant, as far from the ends of the calendar up
to two days. -/
theorem Zone.dateAt_of_usual {t : Instant} (usual : t.Usual) (zone : Zone) :
    ∃ date : Date, zone.dateAt t = .ok date ∧
      Calendar.firstDay + 49997 ≤ date.day ∧ date.day ≤ Calendar.lastDay - 49997 := by
  have far := usual.far
  have offset : -86400 < zone.offsetAt t.second ∧ zone.offsetAt t.second < 86400 :=
    zone.offset_lt _ (offsetAfter_mem ..)
  have near : Calendar.firstDay + 49997 ≤ (t.second + zone.offsetAt t.second) / 86400 ∧
      (t.second + zone.offsetAt t.second) / 86400 ≤ Calendar.lastDay - 49997 := by omega
  have inside : Calendar.firstDay ≤ (t.second + zone.offsetAt t.second) / 86400 ∧
      (t.second + zone.offsetAt t.second) / 86400 ≤ Calendar.lastDay := by omega
  refine ⟨⟨_, inside⟩, ?_, near⟩
  rw [dateAt, Date.ofDay?, dif_pos inside]

namespace Propagation

/-- A trip is taken back by no more days than its first departure can hold. -/
theorem daysBack_le (first : Seconds) : daysBack first ≤ 24855 := by
  have held := first.held
  unfold daysBack Seconds.perDay
  split
  next => omega
  next => omega

/-- **The service day of a usual reference is worked out inside the calendar**, in every zone and
for every first departure. -/
theorem serviceStart_of_usual {reference : Option Instant} (usual : ∀ t ∈ reference, t.Usual)
    (first : Seconds) (zone : Zone) :
    serviceStart reference first zone ≠ .error .offCalendar := by
  cases reference with
  | none => simp [serviceStart]
  | some t =>
    obtain ⟨date, shown, far⟩ := Zone.dateAt_of_usual (usual t rfl) zone
    have back := daysBack_le first
    have inside : Calendar.firstDay ≤ date.day - daysBack first ∧
        date.day - daysBack first ≤ Calendar.lastDay := by omega
    have earlier : date.back? (daysBack first) = some ⟨_, inside⟩ := by
      rw [Date.back?, Date.ofDay?, dif_pos inside]
    have inner : Date.Inner ⟨date.day - daysBack first, inside⟩ := by
      simp only [Date.Inner]
      omega
    obtain ⟨start, started⟩ := Service.start_of_inner inner zone
    have value : serviceStart (some t) first zone = .ok start := by
      simp only [serviceStart, shown, bind, Except.bind]
      rw [← daysBack, earlier]
      exact started
    rw [value]
    simp

end Propagation

end LiveTimetable
