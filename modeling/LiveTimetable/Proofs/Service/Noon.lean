import LiveTimetable.Calendar.ZoneTable
import LiveTimetable.Proofs.Update.ServiceDay

/-!
# The clock of a service day

A service day is laid out from noon, twelve hours of elapsed time back and as many seconds forth as
are held. Whatever the clocks of a zone do in between, a service time is as far from the start of
service as it says, and half a day into service the clock shows noon.

Main statement: `Service.start_clock`. A date has a start of service just when its local noon comes,
once or more often, and then times and instants of the day are told from each other as
`Service.Clock` says. An instant that falls between two whole seconds is told by the one nearer to
the start, before it as well as after it (`Instant.secondsSince_eq_tdiv`), so time never runs
backwards. Leap seconds are another matter, and left out here.
-/

namespace LiveTimetable

/-- The local clock shows a date and a second of that day. -/
def Zone.Shows (zone : Zone) (second : Int) (date : Date) (ofDay : Int) : Prop :=
  (second + zone.offsetAt second) / 86400 = date.day ∧
    (second + zone.offsetAt second) % 86400 = ofDay

instance (zone : Zone) (second : Int) (date : Date) (ofDay : Int) :
    Decidable (zone.Shows second date ofDay) := inferInstanceAs (Decidable (_ ∧ _))

/-! ## Instants in nanoseconds -/

namespace Instant

/-- Nanoseconds since 1970-01-01T00:00:00Z, for an instant that is no leap second. -/
def nanoseconds (t : Instant) : Int := t.second * 1000000000 + t.nano

variable {t : Instant} {start : Int}

/-- **The seconds since a start are the exact difference**, cut toward zero. -/
theorem secondsSince_eq_tdiv (unleaped : ¬ t.IsLeap) (start : Int) :
    t.secondsSince start = (t.nanoseconds - start * 1000000000).tdiv 1000000000 := by
  have below : t.nano < 1000000000 := Nat.lt_of_not_le unleaped
  have sign : Int.sign 1000000000 = 1 := rfl
  simp only [secondsSince, unleaped, false_and, if_false, nanoseconds, Int.tdiv_eq_ediv, sign]
  split
  next early =>
    rw [if_neg (by omega)]
    omega
  next late =>
    rw [if_pos (by omega)]
    omega

theorem secondsSince_mono {a b : Instant} (unleapedA : ¬ a.IsLeap) (unleapedB : ¬ b.IsLeap)
    (le : a.nanoseconds ≤ b.nanoseconds) (start : Int) :
    a.secondsSince start ≤ b.secondsSince start := by
  rw [secondsSince_eq_tdiv unleapedA, secondsSince_eq_tdiv unleapedB]
  exact Int.tdiv_le_tdiv (by decide) (Int.sub_le_sub_right le _)

/-- Each second of the calendar is an instant. -/
theorem exists_isAt {second : Int} (inside : Calendar.HasSecond second) :
    ∃ t : Instant, t.IsAt second := by
  refine ⟨⟨second, 0, 0, by decide, by decide, inside, ?_⟩, rfl, rfl⟩
  rw [Int.add_zero]
  exact inside

end Instant

namespace Service

variable {date : Date} {zone : Zone} {began : Int}

/-- **The clock of a service day** that starts at a UTC second. -/
structure Clock (date : Date) (zone : Zone) (start : Int) : Prop where
  /-- Half a day into service it is noon. -/
  noon : zone.Shows (start + 43200) date 43200
  /-- It was not noon of the date before. -/
  first : ∀ second, zone.Shows second date 43200 → start + 43200 ≤ second
  /-- Each service time has an instant, and is read off it however that is written. -/
  instant : ∀ time : Seconds, ∃ second, instantAt time date zone = .ok (some second) ∧
    (∃ t : Instant, t.IsAt second) ∧ ∀ t : Instant, t.IsAt second → timeAt? start t = some time
  /-- An instant has the time that is its exact difference to the start, cut toward zero. -/
  time : ∀ t : Instant, ¬ t.IsLeap → ∀ time : Seconds, timeAt? start t = some time ↔
    time.val = (t.nanoseconds - start * 1000000000).tdiv 1000000000
  /-- It has none if the difference is not held. -/
  noTime : ∀ t : Instant, ¬ t.IsLeap → (timeAt? start t = none ↔
    ¬ Seconds.Held ((t.nanoseconds - start * 1000000000).tdiv 1000000000))
  /-- A later instant has no earlier time. -/
  forward : ∀ a b : Instant, ¬ a.IsLeap → ¬ b.IsLeap → a.nanoseconds ≤ b.nanoseconds →
    ∀ x y, timeAt? start a = some x → timeAt? start b = some y → x ≤ y

/-- The clock shows noon at what is read off for it. -/
theorem shows_noon_iff {second : Int} :
    zone.Shows second date 43200 ↔ second ∈ zone.readings (date.day * 86400 + 43200) := by
  rw [Zone.mem_readings_iff, Zone.Shows]
  omega

/-- The laws hold of the start of service of a date away from the ends of the calendar. -/
theorem clock_of_start (inner : date.Inner) (h : start date zone = .ok (some began)) :
    Clock date zone began where
  noon := shows_noon_iff.mpr (List.min?_mem (start_eq_ok_some h).1)
  first second shown := by
    have least := (List.min?_eq_some_iff.mp (start_eq_ok_some h).1).2
    exact least second (shows_noon_iff.mp shown)
  instant time := by
    obtain ⟨instant, hinstant⟩ := instantAt_of_inner inner zone time
    obtain ⟨inside, rfl⟩ := (instantAt_eq_ok_iff h).mp hinstant
    refine ⟨_, hinstant, Instant.exists_isAt inside, fun t ht => ?_⟩
    rw [timeAt?, Instant.secondsSince_of_isAt ht, Seconds.of?_eq_some_iff]
    omega
  time t unleaped time := by
    rw [timeAt?, Seconds.of?_eq_some_iff, Instant.secondsSince_eq_tdiv unleaped]
  noTime t unleaped := by
    rw [timeAt?, Seconds.of?_eq_none_iff, Instant.secondsSince_eq_tdiv unleaped]
  forward a b unleapedA unleapedB le x y hx hy := by
    rw [timeAt?, Seconds.of?_eq_some_iff] at hx hy
    show x.val ≤ y.val
    rw [hx, hy]
    exact Instant.secondsSince_mono unleapedA unleapedB le began

/-- **A date has a start of service just when its noon comes**, and then the clock of its service
day keeps the laws. Without a noon no service time of the date has an instant. -/
theorem start_clock (inner : date.Inner) (zone : Zone) :
    ((∃ began, start date zone = .ok (some began)) ↔ ∃ noon, zone.Shows noon date 43200) ∧
      (∀ began, start date zone = .ok (some began) → Clock date zone began) ∧
      ((¬ ∃ noon, zone.Shows noon date 43200) →
        start date zone = .ok none ∧ ∀ time, instantAt time date zone = .ok none) := by
  have value := start_eq_of_inner inner zone
  refine ⟨?_, fun began => clock_of_start inner, fun noonless => ?_⟩
  · constructor
    · intro h
      obtain ⟨began, hstart⟩ := h
      exact ⟨_, (clock_of_start inner hstart).noon⟩
    · intro h
      obtain ⟨noon, shown⟩ := h
      obtain ⟨least, hleast⟩ := Option.isSome_iff_exists.mp
        (List.isSome_min?_of_mem (shows_noon_iff.mp shown))
      rw [Zone.firstReading?, hleast] at value
      exact ⟨_, value⟩
  · have none : zone.firstReading? (date.day * 86400 + 43200) = none := by
      rw [Zone.firstReading?, List.min?_eq_none_iff, List.eq_nil_iff_forall_not_mem]
      exact fun noon shown => noonless ⟨noon, shows_noon_iff.mpr shown⟩
    rw [none] at value
    refine ⟨value, fun time => ?_⟩
    rw [instantAt, value]
    rfl

end Service

/-! ## A day that is lived twice, and one that is skipped -/

namespace Sample

/-- The thirtieth of September 1969. -/
def livedTwice : Date := ⟨-93, by decide⟩

/-- The thirtieth of December 2011. -/
def skippedDay : Date := ⟨15338, by decide⟩

end Sample

/-- On the atoll noon came again after 23 hours, and service started twelve hours before the first. On
the islands noon did not come, and no service started. -/
theorem Service.start_clock_twice :
    Sample.livedTwice.Inner ∧ Sample.skippedDay.Inner ∧
      (∃ began, start Sample.livedTwice Zone.kwajalein = .ok (some began) ∧
        Clock Sample.livedTwice Zone.kwajalein began ∧
        Zone.kwajalein.Shows (began + 43200 + 82800) Sample.livedTwice 43200) ∧
      (¬ ∃ noon, Zone.apia.Shows noon Sample.skippedDay 43200) ∧
      start Sample.skippedDay Zone.apia = .ok none := by
  have twice : Sample.livedTwice.Inner := by decide
  have once : Sample.skippedDay.Inner := by decide
  have started : start Sample.livedTwice Zone.kwajalein = .ok (some (-93 * 86400 - 39600)) := by
    decide +kernel
  have noonless : ¬ ∃ noon, Zone.apia.Shows noon Sample.skippedDay 43200 := by
    have none : Zone.apia.readings (Sample.skippedDay.day * 86400 + 43200) = [] := by decide +kernel
    rintro ⟨noon, shown⟩
    rw [shows_noon_iff, none] at shown
    exact absurd shown List.not_mem_nil
  refine ⟨twice, once, ⟨_, started, (start_clock twice Zone.kwajalein).2.1 _ started, ?_⟩,
    noonless, ((start_clock once Zone.apia).2.2 noonless).1⟩
  decide +kernel

end LiveTimetable
