import LiveTimetable.Proofs.Service.Day
import LiveTimetable.Proofs.Update.LoneCall

/-!
# The service day that a journey is taken for

A service day is not told, it is worked out: from the date that the clock shows at the reference
of a call, and from the first departure of the trip. The date of a stop may be another one than
that of the first stop, since trips run past midnight and clocks are changed
(`Service.daysIn`); so whether the right day comes out depends on the stop
(`Propagation.serviceStart_eq_start_iff`).

The first call that tells a day decides for the journey as a whole, and all its instants are read
on that day: `Propagation.passageAt_of_pass`.
-/

namespace LiveTimetable

/-! ## One instant -/

namespace Service

variable {date other : Date} {zone : Zone} {s : Int}

/-- Half a day into service the clock shows noon of the date. -/
theorem noon_of_start (h : start date zone = .ok (some s)) :
    s + 43200 + zone.offsetAt (s + 43200) = date.day * 86400 + 43200 :=
  Zone.mem_readings_iff.mp (List.min?_mem (start_eq_ok_some h).1)

/-- Dates differ in their starts of service. -/
theorem start_injective (h : start date zone = .ok (some s))
    (hother : start other zone = .ok (some s)) : date = other := by
  have noon := noon_of_start h
  have otherNoon := noon_of_start hother
  ext
  omega

/-- How many days after the service date the clock shows the date of a service time. A clock that
is changed between then and noon shows the time later or earlier than it is. -/
def daysIn (zone : Zone) (start : Int) (time : Seconds) : Int :=
  (time.val + (zone.offsetAt (start + time.val) - zone.offsetAt (start + 43200))) / 86400

/-- Where no clock change comes in, a day has 24 hours. -/
theorem daysIn_of_unchanged {start : Int} {time : Seconds}
    (unchanged : zone.offsetAt (start + time.val) = zone.offsetAt (start + 43200)) :
    daysIn zone start time = time.val / 86400 := by
  rw [daysIn, unchanged, Int.sub_self, Int.add_zero]

/-- The instant of a service time is the start of service and that time. -/
theorem instantAt_eq_ok_iff {time : Seconds} {instant : Option Int}
    (h : start date zone = .ok (some s)) :
    instantAt time date zone = .ok instant ↔
      Calendar.HasSecond (s + time.val) ∧ instant = some (s + time.val) := by
  have value : instantAt time date zone =
      if Calendar.HasSecond (s + time.val) then .ok (some (s + time.val))
      else .error .offCalendar := by
    rw [instantAt, h]
    rfl
  rw [value]
  by_cases inside : Calendar.HasSecond (s + time.val)
  · simp [inside, eq_comm]
  · simp [inside]

/-- A date on which some service time has an instant has a start of service. -/
theorem start_of_instantAt {time : Seconds} {instant : Int}
    (h : instantAt time date zone = .ok (some instant)) :
    ∃ s, start date zone = .ok (some s) := by
  obtain ⟨found, hstart, hinstant⟩ := Outcome.bind_eq_ok.mp h
  cases found with
  | none => cases hinstant
  | some s => exact ⟨s, hstart⟩

/-- The instants of a date are in the order of its service times. -/
theorem instantAt_mono {x y : Seconds} {i j : Int} (hi : instantAt x date zone = .ok (some i))
    (hj : instantAt y date zone = .ok (some j)) (le : x.val ≤ y.val) : i ≤ j := by
  obtain ⟨s, hstart⟩ := start_of_instantAt hi
  obtain ⟨-, hi⟩ := (instantAt_eq_ok_iff hstart).mp hi
  obtain ⟨-, hj⟩ := (instantAt_eq_ok_iff hstart).mp hj
  cases hi
  cases hj
  omega

/-- The date of a service time is so many days after the service date. -/
theorem dateAt_of_isAt {time : Seconds} {t : Instant} (h : start date zone = .ok (some s))
    (ht : t.IsAt (s + time.val)) {day : Date} :
    zone.dateAt t = .ok day ↔ day.day = date.day + daysIn zone s time := by
  have noon := noon_of_start h
  have days : (t.second + zone.offsetAt t.second) / 86400 = date.day + daysIn zone s time := by
    rw [ht.1, daysIn]
    omega
  rw [Zone.dateAt, days, ← Date.ofDay?_eq_some_iff]
  split
  next found hfound => simp [hfound]
  next hnone => simp [hnone]

end Service

/-! ## The day that a call tells -/

namespace Propagation

variable {date : Date} {zone : Zone} {s : Int} {first : Seconds}

/-- How many days the service date of a trip is before the date of its calls. -/
def daysBack (first : Seconds) : Nat :=
  if Seconds.perDay < first.val then (first.val / Seconds.perDay).toNat else 0

/-- A trip whose first departure is not at 24:00 sharp is taken to be as many days behind as that
departure is past midnight. -/
theorem daysBack_eq (nonneg : 0 ≤ first.val) (sharp : first.val ≠ Seconds.perDay) :
    (daysBack first : Int) = first.val / Seconds.perDay := by
  unfold daysBack Seconds.perDay at *
  split
  next => omega
  next => omega

/-- **The right service day comes out** of a call at a service time just when the clock then shows
the date that many days after the service date. -/
theorem serviceStart_eq_start_iff {time : Seconds} {reference : Instant}
    (day : Service.start date zone = .ok (some s)) (aimed : reference.IsAt (s + time.val)) :
    serviceStart (some reference) first zone = .ok (some s) ↔
      Service.daysIn zone s time = daysBack first ∧
        date.day + daysBack first ≤ Calendar.lastDay := by
  have back : ∀ shown : Date, shown.back? (daysBack first) = some date ↔
      shown.day = date.day + daysBack first := by
    intro shown
    rw [Date.back?, Date.ofDay?_eq_some_iff]
    omega
  constructor
  · intro h
    simp only [serviceStart, Outcome.bind_eq_ok] at h
    obtain ⟨shown, hshown, h⟩ := h
    split at h
    next => cases h
    next other hother =>
      cases Service.start_injective day h
      have shownDay := (back shown).mp hother
      have timeDay := (Service.dateAt_of_isAt day aimed).mp hshown
      exact ⟨by omega, shownDay ▸ shown.inCalendar.2⟩
  · rintro ⟨days, inside⟩
    obtain ⟨shown, hshown⟩ : ∃ shown : Date, shown.day = date.day + daysBack first :=
      ⟨⟨_, Int.le_trans date.inCalendar.1 (by omega), inside⟩, rfl⟩
    have shows : zone.dateAt reference = .ok shown :=
      (Service.dateAt_of_isAt day aimed).mpr (by rw [days, hshown])
    simp only [serviceStart, Outcome.bind_eq_ok]
    refine ⟨shown, shows, ?_⟩
    rw [← daysBack, (back shown).mpr hshown]
    exact day

/-! ## The day of a journey -/

variable {setting : Setting} {start : Int}

/-- The day that is known behind some stops: the first that a call tells stays. -/
def dayBehind (setting : Setting) : Option Int → List Slot → Except Obstacle (Option Int)
  | start, [] => .ok start
  | start, slot :: rest =>
    match slot.found with
    | none => dayBehind setting start rest
    | some found => do dayBehind setting (← dayAfter setting start found.call) rest

theorem dayBehind_cons_of_none {slot : Slot} (h : slot.found = none) (day : Option Int)
    (rest : List Slot) : dayBehind setting day (slot :: rest) = dayBehind setting day rest := by
  rw [dayBehind, h]

theorem dayBehind_cons_of_some {slot : Slot} {found : Match} (h : slot.found = some found)
    (day : Option Int) (rest : List Slot) :
    dayBehind setting day (slot :: rest) =
      dayAfter setting day found.call >>= fun day => dayBehind setting day rest := by
  rw [dayBehind, h]

/-- A day that is known stays. -/
theorem dayBehind_some (setting : Setting) (start : Int) (slots : List Slot) :
    dayBehind setting (some start) slots = .ok (some start) := by
  induction slots with
  | nil => rfl
  | cons slot rest ih =>
    cases h : slot.found with
    | none => rw [dayBehind_cons_of_none h, ih]
    | some found =>
      rw [dayBehind_cons_of_some h]
      exact ih

/-- **The first matched call decides on the day**, if it tells any. -/
theorem dayBehind_of_first {slots : List Slot}
    (told : ∀ (i : Nat) (slot : Slot) (found : Match),
      (∀ j < i, ∀ other : Slot, slots[j]? = some other → other.found = none) →
      slots[i]? = some slot → slot.found = some found →
      serviceStart found.call.reference? setting.firstDeparture setting.zone = .ok (some start))
    {i : Nat} {slot : Slot} {found : Match} (hslot : slots[i]? = some slot)
    (hfound : slot.found = some found) :
    dayBehind setting none (slots.take (i + 1)) = .ok (some start) := by
  induction slots generalizing i with
  | nil => simp at hslot
  | cons head rest ih =>
    rw [List.take_succ_cons]
    cases hhead : head.found with
    | none =>
      -- the slot with the call is further on, and so is the first one
      rw [dayBehind_cons_of_none hhead]
      cases i with
      | zero =>
        cases hslot
        rw [hhead] at hfound
        cases hfound
      | succ i =>
        refine ih (fun j other found' front hother hfound' => ?_) hslot
        refine told (j + 1) other found' (fun k hk slot' hslot' => ?_) hother hfound'
        cases k with
        | zero =>
          cases hslot'
          exact hhead
        | succ k => exact front k (Nat.lt_of_succ_lt_succ hk) slot' hslot'
    | some found' =>
      have first := told 0 head found' (fun j hj => absurd hj (Nat.not_lt_zero j)) rfl hhead
      rw [dayBehind_cons_of_some hhead, dayAfter, first]
      exact dayBehind_some setting start _

/-- A step knows of the day what its call tells. -/
theorem dayBehind_of_step {atFirst : Bool} {carry carry' : Carry} {slot : Slot} {stop : StopRecord}
    (h : step setting atFirst carry slot = .ok (carry', stop)) (rest : List Slot) :
    dayBehind setting carry.start (slot :: rest) = dayBehind setting carry'.start rest := by
  unfold step at h
  split at h
  next found hfound =>
    obtain ⟨day, passage, hday, -, -, rfl, -⟩ := matchedStep_eq_ok_iff.mp h
    rw [dayBehind_cons_of_some hfound, hday]
    rfl
  next hnone =>
    obtain ⟨passage, -, rfl, -⟩ := unmatchedStep_eq_ok_iff.mp h
    rw [dayBehind_cons_of_none hnone]

/-- **All instants of a journey are read on one day**: a stop with a call has the passage that the
call makes on the day that is known there. -/
theorem passageAt_of_pass {position : Nat} {carry : Carry} {slots : List Slot}
    {stops : List StopRecord} (h : pass setting position carry slots = .ok stops) {i : Nat}
    {slot : Slot} {found : Match} (hslot : slots[i]? = some slot)
    (hfound : slot.found = some found) :
    ∃ day stop, dayBehind setting carry.start (slots.take (i + 1)) = .ok day ∧
      stops[i]? = some stop ∧
      passageAt setting (position + i = 0) day found.call slot.scheduled.passage =
        .ok stop.passage := by
  induction slots generalizing position carry stops i with
  | nil => simp at hslot
  | cons head rest ih =>
    obtain ⟨carry', made, tail, hstep, htail, rfl⟩ := pass_cons_eq_ok_iff.mp h
    rw [List.take_succ_cons, dayBehind_of_step hstep]
    cases i with
    | zero =>
      cases hslot
      rw [step, hfound] at hstep
      obtain ⟨day, passage, -, hpassage, -, rfl, rfl⟩ := matchedStep_eq_ok_iff.mp hstep
      exact ⟨day, _, rfl, rfl, hpassage⟩
    | succ i =>
      obtain ⟨day, stop, hday, hstop, hpassage⟩ := ih htail hslot
      refine ⟨day, stop, hday, hstop, ?_⟩
      rw [Nat.add_right_comm] at hpassage
      exact hpassage

/-- A departure that a call gives is recorded as the time of that day. -/
theorem departure_of_passageAt {atFirst : Bool} {call : MatchedCall} {scheduled passage : Passage}
    {t : Instant} (told : ∀ last, call.departure? last = some t)
    (h : passageAt setting atFirst (some start) call scheduled = .ok passage) :
    passage.departure.val = t.secondsSince start := by
  simp only [passageAt, told, Outcome.bind_eq_ok] at h
  obtain ⟨arrival, -, departure, hdeparture, hret⟩ := h
  cases hret
  unfold onDay Service.timeAt? at hdeparture
  split at hdeparture
  next start' t' hstart ht =>
    cases hstart
    cases ht
    split at hdeparture
    next time htime =>
      cases hdeparture
      exact Seconds.of?_eq_some_iff.mp htime
    next => cases hdeparture
  next unknown => exact absurd rfl (unknown start t rfl)

end Propagation

/-! ## Journeys that are aimed at a service date -/

/-- The departure that a call gives in the first place: observed if it was made, and else
expected. -/
def MatchedCall.told? : MatchedCall → Option Instant
  | recorded _ call => call.actual.departure
  | estimated _ call => call.expected.departure

theorem MatchedCall.departure?_of_told? {call : MatchedCall} {t : Instant}
    (h : call.told? = some t) (last : Bool) : call.departure? last = some t := by
  cases call with
  | recorded index call =>
    have told : call.actual.departure = some t := h
    rw [departure?, told]
    rfl
  | estimated index call =>
    have told : call.expected.departure = some t := h
    rw [departure?, CallTimes.forDeparture, told]
    rfl

/-- **The reference of a call is a scheduled departure** on a service date. -/
def MatchedCall.AimedAt (call : MatchedCall) (v : TimedVisit) (date : Date) (zone : Zone) : Prop :=
  ∃ reference second, call.reference? = some reference ∧
    Service.instantAt v.passage.departure date zone = .ok (some second) ∧ reference.IsAt second

/-- **The visit tells the service date of its trip**: at the departure from it the clock shows the
date that is expected for trips that leave as late as this one, and it is in the calendar. -/
def TimedVisit.TellsDate (v : TimedVisit) (first : Seconds) (date : Date) (start : Int)
    (zone : Zone) : Prop :=
  Service.daysIn zone start v.passage.departure = Propagation.daysBack first ∧
    date.day + Propagation.daysBack first ≤ Calendar.lastDay

/-- A visit on the same day as the first one tells the date, unless the trip leaves at 24:00 sharp
or a clock is changed. -/
theorem TimedVisit.tellsDate_of_sameDay {v : TimedVisit} {first : Seconds} {date : Date}
    {start : Int} {zone : Zone} (nonneg : 0 ≤ first.val) (sharp : first.val ≠ Seconds.perDay)
    (sameDay : v.passage.departure.val / Seconds.perDay = first.val / Seconds.perDay)
    (unchanged : zone.offsetAt (start + v.passage.departure.val) = zone.offsetAt (start + 43200))
    (inCalendar : date.day + Propagation.daysBack first ≤ Calendar.lastDay) :
    v.TellsDate first date start zone := by
  refine ⟨?_, inCalendar⟩
  rw [Service.daysIn_of_unchanged unchanged, Propagation.daysBack_eq nonneg sharp]
  exact sameDay

namespace Timetable

/-- **A journey is aimed at a service date**: each call that a stop takes is aimed at the scheduled
departure from it, and the first of these stops tells the date. -/
structure AimedAt (t : Timetable) (journey : Journey) (lookup : StopLookup) (date : Date)
    (start : Int) (zone : Zone) : Prop where
  calls : ∀ (i : Nat) (v : TimedVisit) (found : Match), t.visits[i]? = some v →
    (t.matching journey lookup)[i]? = some (some found) → found.call.AimedAt v date zone
  first : ∀ (i : Nat) (v : TimedVisit) (found : Match), t.visits[i]? = some v →
    (∀ j < i, (t.matching journey lookup)[j]? = some none) →
    (t.matching journey lookup)[i]? = some (some found) →
    v.TellsDate t.firstDeparture date start zone

variable {t : Timetable} {current r : TripRecord} {journey : Journey} {lookup : StopLookup}
  {date : Date} {start : Int} {zone : Zone}

/-- **The writer derives the day of the reader** from a call just when its visit tells the date. -/
theorem serviceStart_of_aimedAt {v : TimedVisit} {call : MatchedCall}
    (day : Service.start date zone = .ok (some start)) (aimed : call.AimedAt v date zone)
    (first : Seconds) :
    Propagation.serviceStart call.reference? first zone = .ok (some start) ↔
      v.TellsDate first date start zone := by
  obtain ⟨reference, second, href, hinstant, hat⟩ := aimed
  obtain ⟨-, hsecond⟩ := (Service.instantAt_eq_ok_iff day).mp hinstant
  cases hsecond
  rw [href]
  exact Propagation.serviceStart_eq_start_iff day hat

/-- The slots of a trip and its matching have the same calls. -/
theorem found_of_slots (length : current.stops.length = t.visits.length) {i : Nat} {v : TimedVisit}
    {found : Option Match} (hv : t.visits[i]? = some v)
    (hfound : (t.matching journey lookup)[i]? = some found) :
    ∃ slot, (Propagation.slots t (t.matching journey lookup) current)[i]? = some slot ∧
      slot.scheduled = v ∧ slot.found = found := by
  have hi : i < current.stops.length := by
    rw [length]
    exact (List.getElem?_eq_some_iff.mp hv).1
  exact ⟨_, Propagation.slots_getElem?_eq_some_iff.mpr
    ⟨v, found, _, hv, hfound, List.getElem?_eq_getElem hi, rfl⟩, rfl, rfl⟩

/-- **A journey that is aimed at a service date records its departures on that day.** -/
theorem departure_of_propagate (length : current.stops.length = t.visits.length)
    (day : Service.start date zone = .ok (some start))
    (aimed : t.AimedAt journey lookup date start zone)
    (h : t.propagate current journey lookup zone = .ok r) {i : Nat} {found : Match}
    (hfound : (t.matching journey lookup)[i]? = some (some found)) {told : Instant}
    (htold : found.call.told? = some told) :
    ∃ stop, r.stops[i]? = some stop ∧ stop.passage.departure.val = told.secondsSince start := by
  obtain ⟨-, stops, hpass, rfl, -⟩ := propagate_eq_ok_iff.mp h
  have hi : i < t.visits.length := by
    rw [← length_matching t journey lookup]
    exact (List.getElem?_eq_some_iff.mp hfound).1
  obtain ⟨slot, hslot, -, hcall⟩ :=
    found_of_slots length (List.getElem?_eq_getElem hi) hfound
  obtain ⟨known, stop, hknown, hstop, hpassage⟩ := Propagation.passageAt_of_pass hpass hslot hcall
  have theDay : Propagation.dayBehind ⟨zone, t.firstDeparture, journey⟩ none
      ((Propagation.slots t (t.matching journey lookup) current).take (i + 1)) =
        .ok (some start) := by
    refine Propagation.dayBehind_of_first (fun j other first front hother hfirst => ?_) hslot hcall
    obtain ⟨v, call, old, hv, hmatch, -, rfl⟩ := Propagation.slots_getElem?_eq_some_iff.mp hother
    cases hfirst
    refine (serviceStart_of_aimedAt day (aimed.calls j v first hv hmatch) _).mpr
      (aimed.first j v first hv (fun k hk => ?_) hmatch)
    have hk' : k < t.visits.length := Nat.lt_trans hk (List.getElem?_eq_some_iff.mp hv).1
    have hmatching : k < (t.matching journey lookup).length := by rwa [length_matching]
    obtain ⟨before, hbefore, -, hcall⟩ := found_of_slots length (List.getElem?_eq_getElem hk')
      (List.getElem?_eq_getElem hmatching)
    rw [List.getElem?_eq_getElem hmatching, ← hcall, front k hk before hbefore]
  cases hknown.symm.trans theDay
  exact ⟨stop, hstop, Propagation.departure_of_passageAt (MatchedCall.departure?_of_told? htold) hpassage⟩

end Timetable

end LiveTimetable
