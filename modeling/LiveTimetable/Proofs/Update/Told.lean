import LiveTimetable.Proofs.Update.Between
import LiveTimetable.Proofs.Update.ServiceDay

/-!
# Stops with a call

A call may give several times for one side of a stop, some more certain than others, and it may give
none. Which of them is taken is an order of precedence (`MatchedCall.arrivals`,
`MatchedCall.departures`); what stands in where there is none is `MatchedCall.untold`. Either way an
instant is read on one service day for the journey as a whole, and that is the day of the first call
that tells any (`Matching.DayToldAt`). In front of this call no time can be read: the calls there
might as well have given none.

Main statement: `Timetable.afterJourney_told`. A call is never in front of the one that tells the
day if it gives a time at all, since that time refers to a day as well: what it gives is used,
unless the calendar lacks the day or the clock skips noon on it.
-/

namespace LiveTimetable

/-! ## The times of a call -/

namespace MatchedCall

/-- The times that a call may give for the arrival, in the order in which they are asked for. The
departure stands in for the arrival at the first stop only. -/
def arrivals (first : Bool) : MatchedCall → List (Option Instant)
  | recorded _ call =>
    [call.actual.arrival, if first then call.actual.departure else none,
      call.expected.arrival, if first then call.expected.departure else none,
      call.aimed.arrival, if first then call.aimed.departure else none]
  | estimated _ call =>
    [call.expected.arrival, if first then call.expected.departure else none,
      call.aimed.arrival, if first then call.aimed.departure else none]

/-- The times that a call may give for the departure, in the order in which they are asked for. The
arrival stands in for the departure at the last call only, and an observed one never does. -/
def departures (last : Bool) : MatchedCall → List (Option Instant)
  | recorded _ call =>
    [call.actual.departure,
      call.expected.departure, if last then call.expected.arrival else none,
      call.aimed.departure, if last then call.aimed.arrival else none]
  | estimated _ call =>
    [call.expected.departure, if last then call.expected.arrival else none,
      call.aimed.departure, if last then call.aimed.arrival else none]

/-- The first of the times that is given at all. -/
def firstGiven (told : List (Option Instant)) : Option Instant := told.findSome? id

@[simp] theorem firstGiven_nil : firstGiven [] = none := rfl

theorem firstGiven_cons (t : Option Instant) (told : List (Option Instant)) :
    firstGiven (t :: told) = t.or (firstGiven told) := by
  cases t <;> rfl

theorem arrival?_eq (first : Bool) (call : MatchedCall) :
    call.arrival? first = firstGiven (call.arrivals first) := by
  cases call <;>
    simp [arrival?, arrivals, CallTimes.forArrival, firstGiven_cons, Option.or_assoc]

theorem departure?_eq (last : Bool) (call : MatchedCall) :
    call.departure? last = firstGiven (call.departures last) := by
  cases call <;>
    simp [departure?, departures, CallTimes.forDeparture, firstGiven_cons, Option.or_assoc]

/-- The arrival where a call gives none. A vehicle that is yet to call at the stop is taken to leave
it as it arrives; one that has been there is taken to have arrived as scheduled. -/
def untoldArrival {α : Type} (scheduled departure : α) : MatchedCall → α
  | recorded .. => scheduled
  | estimated .. => departure

/-- The passage where a call gives no time. -/
def untold (scheduled : Passage) (call : MatchedCall) : Passage :=
  ⟨call.untoldArrival scheduled.arrival scheduled.departure, scheduled.departure⟩

/-- A time in seconds of the day that starts at `start`; where none is given, what stands in. -/
def secondsOr (start instead : Int) : Option Instant → Int
  | some told => told.secondsSince start
  | none => instead

/-- **The passage is the one that the call tells**, on the service day that starts at `start`: on
each side the first time that is given, counted from the start of service, and where there is none
what stands in for it. -/
structure Tells (call : MatchedCall) (start : Int) (first last : Bool)
    (scheduled passage : Passage) : Prop where
  arrival : passage.arrival.val =
    secondsOr start (call.untoldArrival scheduled.arrival.val passage.departure.val)
      (firstGiven (call.arrivals first))
  departure : passage.departure.val =
    secondsOr start scheduled.departure.val (firstGiven (call.departures last))

end MatchedCall

namespace Propagation

variable {setting : Setting} {first : Bool} {start : Int} {call : MatchedCall}
  {scheduled passage : Passage}

/-- As long as no day is known a call gives no time. -/
theorem passageAt_none :
    passageAt setting first none call scheduled = .ok (call.untold scheduled) := by
  cases call <;> rfl

/-- Once the day is known a time that is given is read on it, if it is held. -/
theorem onDay_some_iff {told : Option Instant} {instead time : Seconds} :
    (∃ read, onDay (some start) told = .ok read ∧ read.getD instead = time) ↔
      time.val = MatchedCall.secondsOr start instead.val told := by
  cases told with
  | none => simp [onDay, MatchedCall.secondsOr, Seconds.ext_iff, eq_comm]
  | some t =>
    rw [MatchedCall.secondsOr, ← Seconds.of?_eq_some_iff]
    simp only [onDay, Service.timeAt?]
    cases Seconds.of? (t.secondsSince start) with
    | none => simp
    | some held => simp

/-- **Once the day is known, the passage at a call is the one that the call tells.** -/
theorem passageAt_some_eq_ok_iff :
    passageAt setting first (some start) call scheduled = .ok passage ↔
      call.Tells start first (setting.journey.isLast call) scheduled passage := by
  simp only [passageAt, Outcome.bind_eq_ok, MatchedCall.arrival?_eq, MatchedCall.departure?_eq]
  constructor
  · rintro ⟨arrival, harrival, departure, hdeparture, hret⟩
    cases hret
    constructor
    · cases call <;> exact onDay_some_iff.mp ⟨arrival, harrival, rfl⟩
    · exact onDay_some_iff.mp ⟨departure, hdeparture, rfl⟩
  · rintro ⟨harrival, hdeparture⟩
    have instead : call.untoldArrival scheduled.arrival.val passage.departure.val =
        (call.untoldArrival scheduled.arrival passage.departure).val := by cases call <;> rfl
    rw [instead] at harrival
    obtain ⟨arrival, harrival, arrived⟩ := onDay_some_iff.mpr harrival
    obtain ⟨departure, hdeparture, left⟩ := onDay_some_iff.mpr hdeparture
    have made : ⟨arrival.getD (call.untoldArrival scheduled.arrival passage.departure),
        passage.departure⟩ = passage := by rw [arrived]
    refine ⟨arrival, harrival, departure, hdeparture, ?_⟩
    rw [left]
    cases call <;> exact congrArg Except.ok made

end Propagation

/-! ## The call that tells the day -/

namespace Matching

/-- The call at the position tells the service day that starts at `start`. -/
def TellsDay (m : Matching) (zone : Zone) (first : Seconds) (position : Nat) (start : Int) : Prop :=
  ∃ found, m[position]? = some (some found) ∧
    Propagation.serviceStart found.call.reference? first zone = .ok (some start)

/-- **The service day is told at the position**, and nowhere in front of it. -/
structure DayToldAt (m : Matching) (zone : Zone) (first : Seconds) (position : Nat) (start : Int) :
    Prop where
  tells : m.TellsDay zone first position start
  front : ∀ k < position, ∀ other, ¬ m.TellsDay zone first k other

variable {m : Matching} {zone : Zone} {first : Seconds} {position : Nat} {start : Int}

theorem TellsDay.start_unique {other : Int} (h : m.TellsDay zone first position start)
    (hother : m.TellsDay zone first position other) : start = other := by
  obtain ⟨found, hfound, hstart⟩ := h
  obtain ⟨found', hfound', hstart'⟩ := hother
  cases hfound.symm.trans hfound'
  cases hstart.symm.trans hstart'
  rfl

/-- A journey is read on one day. -/
theorem DayToldAt.unique {position' : Nat} {start' : Int}
    (h : m.DayToldAt zone first position start) (h' : m.DayToldAt zone first position' start') :
    position = position' ∧ start = start' := by
  have same : position = position' := by
    rcases Nat.lt_trichotomy position position' with before | same | behind
    · exact absurd h.tells (h'.front position before start)
    · exact same
    · exact absurd h'.tells (h.front position' behind start')
  subst same
  exact ⟨rfl, h.tells.start_unique h'.tells⟩

/-- What is told in the front part of a matching is told in all of it. -/
theorem DayToldAt.of_take {n : Nat} (h : DayToldAt (m.take n) zone first position start) :
    position < n ∧ m.DayToldAt zone first position start := by
  obtain ⟨⟨found, hfound, hstart⟩, front⟩ := h
  have inside : position < n := by
    have bound := (List.getElem?_eq_some_iff.mp hfound).1
    rw [List.length_take] at bound
    omega
  refine ⟨inside, ⟨found, ?_, hstart⟩, fun k hk other htells => front k hk other ?_⟩
  · rwa [List.getElem?_take_of_lt inside] at hfound
  · obtain ⟨found', hfound', hstart'⟩ := htells
    refine ⟨found', ?_, hstart'⟩
    rwa [List.getElem?_take_of_lt (Nat.lt_trans hk inside)]

end Matching

namespace Propagation

variable {setting : Setting} {slot : Slot} {slots : List Slot} {day : Option Int}

/-- The slot has no call that tells a day. -/
def Slot.Silent (setting : Setting) (slot : Slot) : Prop :=
  ∀ found, slot.found = some found →
    serviceStart found.call.reference? setting.firstDeparture setting.zone = .ok none

/-- As long as no day is known, a stop either is silent or tells it for good. -/
theorem dayBehind_none_cons_eq_ok_iff :
    dayBehind setting none (slot :: slots) = .ok day ↔
      slot.Silent setting ∧ dayBehind setting none slots = .ok day ∨
        ∃ found start, slot.found = some found ∧ day = some start ∧
          serviceStart found.call.reference? setting.firstDeparture setting.zone =
            .ok (some start) := by
  cases hfound : slot.found with
  | none =>
    have silent : slot.Silent setting := fun found h => by
      rw [hfound] at h
      cases h
    simp [dayBehind_cons_of_none hfound, silent]
  | some found =>
    have silent : slot.Silent setting ↔ serviceStart found.call.reference?
        setting.firstDeparture setting.zone = .ok none := by
      simp [Slot.Silent, hfound]
    rw [dayBehind_cons_of_some hfound, dayAfter, silent]
    cases hstart : serviceStart found.call.reference? setting.firstDeparture setting.zone with
    | error off => simp [bind, Except.bind, hstart]
    | ok told =>
      cases told with
      | none => simp [bind, Except.bind, hstart]
      | some start => simp [bind, Except.bind, hstart, dayBehind_some, eq_comm]

/-- **The day that is known behind some stops is the one that is told there.** -/
theorem dayToldAt_of_dayBehind {start : Int}
    (h : dayBehind setting none slots = .ok (some start)) :
    ∃ position, Matching.DayToldAt (slots.map (·.found)) setting.zone setting.firstDeparture
      position start := by
  induction slots with
  | nil => cases h
  | cons slot rest ih =>
    rcases dayBehind_none_cons_eq_ok_iff.mp h with ⟨silent, h⟩ | ⟨found, _, hfound, hday, hstart⟩
    · obtain ⟨position, told⟩ := ih h
      refine ⟨position + 1, told.tells, fun k hk other => ?_⟩
      cases k with
      | zero =>
        rintro ⟨found, hfound, hstart⟩
        cases (silent found (Option.some.inj hfound)).symm.trans hstart
      | succ k => exact told.front k (Nat.lt_of_succ_lt_succ hk) other
    · cases hday
      exact ⟨0, ⟨found, congrArg some hfound, hstart⟩, fun k hk => absurd hk (Nat.not_lt_zero k)⟩

/-- Where no day is known behind some stops, every call there was asked for it and told none. -/
theorem silent_of_dayBehind (h : dayBehind setting none slots = .ok none) {i : Nat} {found : Match}
    (hfound : (slots.map (·.found))[i]? = some (some found)) :
    serviceStart found.call.reference? setting.firstDeparture setting.zone = .ok none := by
  induction slots generalizing i with
  | nil => simp at hfound
  | cons slot rest ih =>
    rcases dayBehind_none_cons_eq_ok_iff.mp h with ⟨silent, h⟩ | ⟨_, _, -, hday, -⟩
    · cases i with
      | zero => exact silent found (Option.some.inj hfound)
      | succ i => exact ih h hfound
    · cases hday

end Propagation

/-! ## Calls that give a time -/

namespace MatchedCall

variable {call : MatchedCall} {first last : Bool}

/-- The call gives a time for one side of the stop. -/
def Gives (call : MatchedCall) (first last : Bool) : Prop :=
  (firstGiven (call.arrivals first)).isSome ∨ (firstGiven (call.departures last)).isSome

/-- **The service date that the call refers to exists**, and the clock shows noon on it. -/
def DateExists (call : MatchedCall) (firstDeparture : Seconds) (zone : Zone) : Prop :=
  ∀ reference shown, call.reference? = some reference → zone.dateAt reference = .ok shown →
    ∃ date noon, shown.back? (Propagation.daysBack firstDeparture) = some date ∧
      zone.firstReading? (date.day * 86400 + 43200) = some noon ∧ Calendar.HasSecond noon

/-- A call that refers to no time gives none. -/
theorem not_gives_of_reference? (silent : call.reference? = none) : ¬ call.Gives first last := by
  rw [Gives, ← arrival?_eq, ← departure?_eq]
  cases call with
  | recorded index call =>
    simp only [reference?, RecordedCall.reference?, CallTimes.either, Option.orElse_eq_orElse,
      Option.orElse_eq_or, Option.or_eq_none_iff] at silent
    simp [arrival?, departure?, CallTimes.forArrival, CallTimes.forDeparture, silent]
  | estimated index call =>
    simp only [reference?, EstimatedCall.reference?, CallTimes.either, Option.orElse_eq_orElse,
      Option.orElse_eq_or, Option.or_eq_none_iff] at silent
    simp [arrival?, departure?, CallTimes.forArrival, CallTimes.forDeparture, silent]

/-- A call that gives a time tells a day, if the date that it refers to exists. -/
theorem DateExists.not_silent {firstDeparture : Seconds} {zone : Zone}
    (h : call.DateExists firstDeparture zone) (gives : call.Gives first last) :
    Propagation.serviceStart call.reference? firstDeparture zone ≠ .ok none := by
  intro silent
  cases href : call.reference? with
  | none => exact not_gives_of_reference? href gives
  | some reference =>
    simp only [href, Propagation.serviceStart, Outcome.bind_eq_ok] at silent
    obtain ⟨shown, hshown, silent⟩ := silent
    obtain ⟨date, noon, hdate, hnoon, inside⟩ := h reference shown href hshown
    rw [← Propagation.daysBack, hdate] at silent
    simp only [Service.start, hnoon, inside, not_true_eq_false, if_false] at silent
    split at silent <;> cases silent

end MatchedCall

/-! ## Journeys -/

namespace Timetable

variable {t : Timetable} {current r : TripRecord} {journey : Journey} {lookup : StopLookup}
  {zone : Zone} {position : Nat} {found : Match}

/-- **A stop with a call is told by its call**, from the call on that tells the service day. In
front of that call, and where none tells a day, its call is taken as if it gave no time. But a call
that gives one is never in front, if the service date that it refers to exists. -/
theorem afterJourney_told
    (made : t.afterJourney current journey lookup zone = .ok r) (runs : ¬ journey.isCancellation)
    (matched : (t.matching journey lookup)[position]? = some (some found)) :
    ∃ v stop, t.visits[position]? = some v ∧ r.stops[position]? = some stop ∧
      (∀ told start, (t.matching journey lookup).DayToldAt zone t.firstDeparture told start →
        (told ≤ position → found.call.Tells start (position = 0) (journey.isLast found.call)
          v.passage stop.passage) ∧
        (position < told → stop.passage = found.call.untold v.passage)) ∧
      ((∀ told start, ¬ (t.matching journey lookup).DayToldAt zone t.firstDeparture told start) →
        stop.passage = found.call.untold v.passage) ∧
      (found.call.Gives (position = 0) (journey.isLast found.call) →
        found.call.DateExists t.firstDeparture zone →
        ∃ told start, (t.matching journey lookup).DayToldAt zone t.firstDeparture told start ∧
          told ≤ position) := by
  obtain ⟨length, stops, pass, rfl⟩ := pass_of_afterJourney made runs
  have hi := lt_of_matching matched
  obtain ⟨slot, hslot, hscheduled, hcall⟩ :=
    found_of_slots length (List.getElem?_eq_getElem hi) matched
  obtain ⟨day, stop, hday, hstop, hpassage⟩ := Propagation.passageAt_of_pass pass hslot hcall
  have front : ((Propagation.slots t (t.matching journey lookup) current).take (position + 1)).map
      (·.found) = (t.matching journey lookup).take (position + 1) := by
    rw [List.map_take, Propagation.found_slots (length_matching t journey lookup) length]
  rw [hscheduled, Nat.zero_add] at hpassage
  refine ⟨_, stop, List.getElem?_eq_getElem hi, hstop, ?_⟩
  cases day with
  | some start =>
    obtain ⟨known, told⟩ := Propagation.dayToldAt_of_dayBehind hday
    rw [front] at told
    obtain ⟨inside, told⟩ := told.of_take
    have tells := Propagation.passageAt_some_eq_ok_iff.mp hpassage
    refine ⟨fun other start' hother => ?_, fun nowhere => absurd told (nowhere known start),
      fun _ _ => ⟨known, start, told, Nat.lt_succ_iff.mp inside⟩⟩
    obtain ⟨rfl, rfl⟩ := told.unique hother
    exact ⟨fun _ => tells, fun ahead => by omega⟩
  | none =>
    have silent : ∀ {i : Nat} {other : Match}, i ≤ position →
        (t.matching journey lookup)[i]? = some (some other) →
        Propagation.serviceStart other.call.reference? t.firstDeparture zone = .ok none := by
      intro i other hi hother
      refine Propagation.silent_of_dayBehind hday (i := i) ?_
      rwa [front, List.getElem?_take_of_lt (Nat.lt_succ_iff.mpr hi)]
    rw [Propagation.passageAt_none] at hpassage
    have asUntold := (Except.ok.inj hpassage).symm
    refine ⟨fun told start htold => ⟨fun behind => ?_, fun _ => asUntold⟩, fun _ => asUntold,
      fun gives dated => absurd (silent Nat.le.refl matched) (dated.not_silent gives)⟩
    obtain ⟨other, hother, hstart⟩ := htold.tells
    cases (silent behind hother).symm.trans hstart

end Timetable

/-! ## A trip whose first call gives no time -/

namespace Sample

/-- The vehicle has called at A, no one knows when. It left B a minute late and is expected at D,
which is the last stop. -/
def overheard : Journey where
  tripRef := "t"
  line := none
  cancellation := none
  inaccuracy := none
  recorded := [
    ⟨"A", none, ⟨none, none⟩, ⟨none, none⟩, ⟨none, none⟩⟩,
    ⟨"B", none, ⟨none, some (past 300)⟩, ⟨none, none⟩, ⟨some (past 330), some (past 360)⟩⟩]
  estimated := [
    ⟨"D", none, none, ⟨none, some (past 900)⟩, ⟨some (past 960), none⟩, none, none, none, none,
      []⟩]

def heard : Except UpdateFailure TripRecord :=
  (waiting true).afterJourney (waiting true).record overheard (stops true) .utc

/-- The second call tells the day, which starts at midnight. -/
theorem overheard_day : ((waiting true).matching overheard (stops true)).DayToldAt .utc
    (waiting true).firstDeparture 1 1714521600 where
  tells := ⟨_, rfl, by decide +kernel⟩
  front k hk other := by
    obtain rfl : k = 0 := by omega
    rintro ⟨found, hfound, hstart⟩
    cases hfound
    cases hstart

end Sample

/-- The first stop keeps its scheduled times, and the arrival that is expected at D is recorded for
the departure as well. -/
theorem Timetable.afterJourney_told_overheard :
    ∃ r, Sample.heard = .ok r ∧ ¬ Sample.overheard.isCancellation ∧
      ((Sample.waiting true).matching Sample.overheard (Sample.stops true)).map Option.isSome =
        [true, true, false, true] ∧
      ((Sample.waiting true).matching Sample.overheard (Sample.stops true)).DayToldAt .utc
        (Sample.waiting true).firstDeparture 1 1714521600 ∧
      (∃ stop, r.stops[0]? = some stop ∧ stop.passage = (Sample.visitAt "A" 0 0).passage) ∧
      ∃ stop, r.stops[3]? = some stop ∧ stop.passage.arrival.val = 960 ∧
        stop.passage.departure.val = 960 := by
  have accepted : Sample.heard.toOption.isSome := by decide +kernel
  have runs : ¬ Sample.overheard.isCancellation := by decide
  cases made : Sample.heard with
  | error failure =>
    rw [made] at accepted
    cases accepted
  | ok r =>
    refine ⟨r, rfl, runs, by decide, Sample.overheard_day, ?_, ?_⟩
    · have first : ((Sample.waiting true).matching Sample.overheard (Sample.stops true))[0]? =
          some (some _) := rfl
      obtain ⟨v, stop, hv, hstop, told, -⟩ := afterJourney_told made runs first
      cases hv
      exact ⟨stop, hstop, (told 1 _ Sample.overheard_day).2 Nat.one_pos⟩
    · have last : ((Sample.waiting true).matching Sample.overheard (Sample.stops true))[3]? =
          some (some _) := rfl
      obtain ⟨v, stop, hv, hstop, told, -⟩ := afterJourney_told made runs last
      cases hv
      have tells := (told 1 _ Sample.overheard_day).1 (by decide)
      exact ⟨stop, hstop, tells.arrival, tells.departure⟩

end LiveTimetable
