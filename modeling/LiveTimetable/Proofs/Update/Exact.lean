import LiveTimetable.Proofs.Update.Refusal
import LiveTimetable.Proofs.Update.Told

/-!
# Updates without a limit on times

Times of a record are held in 32 bits. Here the pass along a trip is made once more in plain
integers, where every difference and every sum has a value (`Propagation.exactPass`). A pass in 32
bits makes just the same times (`Propagation.exactPass_of_pass`), and it makes them whenever all of
them can be held with their delays (`Propagation.exists_pass_of_held`).

Main statement: `Timetable.afterJourney_exact`. What is returned for a journey is told by the exact
times alone: that a time is out of range, that times run backwards, or a record with these times.
-/

namespace LiveTimetable

/-! ## The pass in plain integers -/

/-- A passage in plain integers. -/
structure ExactPassage where
  arrival : Int
  departure : Int
deriving DecidableEq, Repr

namespace ExactPassage

def delayFrom (p : ExactPassage) (scheduled : Passage) : Delay :=
  ⟨p.arrival - scheduled.arrival.val, p.departure - scheduled.departure.val⟩

/-- Both times and both delays are held. -/
def Held (p : ExactPassage) (scheduled : Passage) : Prop :=
  (Seconds.Held p.arrival ∧ Seconds.Held p.departure) ∧ (p.delayFrom scheduled).Held

instance (p : ExactPassage) (scheduled : Passage) : Decidable (p.Held scheduled) :=
  inferInstanceAs (Decidable (_ ∧ _))

/-- Times do not run backwards. -/
def InOrder (ps : List ExactPassage) : Prop :=
  (ps.flatMap fun p => [p.arrival, p.departure]).Pairwise (· ≤ ·)

instance (ps : List ExactPassage) : Decidable (InOrder ps) :=
  inferInstanceAs (Decidable (List.Pairwise _ _))

end ExactPassage

namespace Passage

def exact (p : Passage) : ExactPassage := ⟨p.arrival.val, p.departure.val⟩

/-- The passage with a delay added, whether it is held or not. -/
def exactlyDelayed (p : Passage) (d : Delay) : ExactPassage :=
  ⟨p.arrival.val + d.arrival, p.departure.val + d.departure⟩

/-- The times of a passage are held anyway. -/
theorem held_exact_iff {p scheduled : Passage} :
    p.exact.Held scheduled ↔ (p.delayFrom scheduled).Held :=
  and_iff_right ⟨p.arrival.held, p.departure.held⟩

theorem exact_injective {p q : Passage} (h : p.exact = q.exact) : p = q := by
  obtain ⟨⟨_, _⟩, ⟨_, _⟩⟩ := p
  obtain ⟨⟨_, _⟩, ⟨_, _⟩⟩ := q
  simp_all [exact]

theorem exact_eq_exactlyDelayed_iff {p q : Passage} {d : Delay} :
    q.exact = p.exactlyDelayed d ↔ q.delayFrom p = d := by
  rw [delayFrom_eq_iff, exact, exactlyDelayed, ExactPassage.mk.injEq]

/-- A passage whose times are held is one of a record. -/
theorem exists_exact {p : ExactPassage} (arrival : Seconds.Held p.arrival)
    (departure : Seconds.Held p.departure) : ∃ q : Passage, q.exact = p :=
  ⟨⟨⟨p.arrival, arrival⟩, ⟨p.departure, departure⟩⟩, rfl⟩

theorem inOrder_exact {ps : List Passage} :
    ExactPassage.InOrder (ps.map (·.exact)) ↔ firstDisorder? ps = none := by
  rw [firstDisorder?_eq_none_iff, ExactPassage.InOrder, times, List.flatMap_map]
  rfl

end Passage

/-- The passage that a call tells, whether it is held or not. -/
def MatchedCall.exactly (start : Option Int) (first last : Bool) (scheduled : Passage)
    (call : MatchedCall) : ExactPassage :=
  match start with
  | none => (call.untold scheduled).exact
  | some start =>
    let departure := secondsOr start scheduled.departure.val (firstGiven (call.departures last))
    ⟨secondsOr start (call.untoldArrival scheduled.arrival.val departure)
      (firstGiven (call.arrivals first)), departure⟩

namespace Propagation

/-- What the pass carries from stop to stop. -/
structure ExactCarry where
  start : Option Int
  departure : Int
  delay : Delay

def Carry.exact (c : Carry) : ExactCarry := ⟨c.start, c.departure.val, c.delay⟩

/-- The service day after a call: the first that is told stays. -/
def exactDayAfter (s : Setting) (start : Option Int) (call : MatchedCall) :
    Except OffCalendar (Option Int) :=
  match start with
  | some start => .ok (some start)
  | none => serviceStart call.reference? s.firstDeparture s.zone

/-- The passage at a stop without a call: right behind the stop before where nobody gets on or off,
and else the scheduled one with the delay carried along or, if there is none, with the delay of the
record in effect. -/
def exactUnmatched (first : Bool) (carry : ExactCarry) (slot : Slot) : ExactPassage :=
  if ¬ first ∧ slot.scheduled.visit.isPassedBy then ⟨carry.departure, carry.departure⟩
  else slot.scheduled.passage.exactlyDelayed
    (if carry.delay = .none then slot.delay else carry.delay)

def exactStep (s : Setting) (first : Bool) (carry : ExactCarry) (slot : Slot) :
    Except OffCalendar (ExactCarry × ExactPassage) :=
  match slot.found with
  | some found => do
    let start ← exactDayAfter s carry.start found.call
    let passage := found.call.exactly start first (s.journey.isLast found.call)
      slot.scheduled.passage
    return (⟨start, passage.departure, passage.delayFrom slot.scheduled.passage⟩, passage)
  | none =>
    let passage := exactUnmatched first carry slot
    .ok ({ carry with departure := passage.departure }, passage)

def exactPass (s : Setting) : Nat → ExactCarry → List Slot → Except OffCalendar (List ExactPassage)
  | _, _, [] => .ok []
  | position, carry, slot :: rest => do
    let (carry, passage) ← exactStep s (position = 0) carry slot
    let passages ← exactPass s (position + 1) carry rest
    return passage :: passages

end Propagation

/-- **The times of an update in plain integers.** -/
def Timetable.exactTimes (t : Timetable) (current : TripRecord) (journey : Journey)
    (lookup : StopLookup) (zone : Zone) : Except OffCalendar (List ExactPassage) :=
  Propagation.exactPass ⟨zone, t.firstDeparture, journey⟩ 0 Propagation.Carry.initial.exact
    (Propagation.slots t (t.matching journey lookup) current)

/-! ## One step -/

namespace Propagation

variable {s : Setting} {first : Bool} {carry carry' : Carry} {slot : Slot} {stop : StopRecord}
  {start : Option Int} {call : MatchedCall} {scheduled passage : Passage}

/-- A call makes a passage just when the one that it tells is held. -/
theorem passageAt_eq_ok_iff_exact :
    passageAt s first start call scheduled = .ok passage ↔
      passage.exact = call.exactly start first (s.journey.isLast call) scheduled := by
  cases start with
  | none =>
    rw [passageAt_none, MatchedCall.exactly, Except.ok.injEq]
    exact ⟨fun h => h ▸ rfl, fun h => (Passage.exact_injective h).symm⟩
  | some start =>
    simp only [passageAt_some_eq_ok_iff, MatchedCall.exactly, Passage.exact,
      ExactPassage.mk.injEq]
    constructor
    · rintro ⟨arrival, departure⟩
      rw [departure] at arrival
      exact ⟨arrival, departure⟩
    · rintro ⟨arrival, departure⟩
      rw [← departure] at arrival
      exact ⟨arrival, departure⟩

theorem dayAfter_eq_ok_iff_exact {known : Option Int} :
    dayAfter s known call = .ok start ↔ exactDayAfter s known call = .ok start := by
  cases known with
  | some known => simp [dayAfter, exactDayAfter]
  | none =>
    simp only [dayAfter, exactDayAfter]
    cases serviceStart call.reference? s.firstDeparture s.zone <;> simp

theorem Carry.exact_injective {c d : Carry} (h : c.exact = d.exact) : c = d := by
  obtain ⟨_, ⟨_, _⟩, _⟩ := c
  obtain ⟨_, ⟨_, _⟩, _⟩ := d
  simp_all [exact]

theorem unmatchedPassage_iff_exact :
    UnmatchedPassage first carry slot passage ↔
      passage.exact = exactUnmatched first carry.exact slot := by
  simp only [UnmatchedPassage, exactUnmatched, Carry.exact]
  split
  · exact ⟨fun h => h ▸ rfl, fun h => Passage.exact_injective h⟩
  · exact Passage.exact_eq_exactlyDelayed_iff.symm

/-- **A step makes the exact passage**, if it is held; with a call its delay must be held too. -/
theorem step_eq_ok_iff_exact :
    step s first carry slot = .ok (carry', stop) ↔
      exactStep s first carry.exact slot = .ok (carry'.exact, stop.passage.exact) ∧
        (slot.found.isSome → stop.delay.Held) ∧ stop = stopOf s slot stop.passage := by
  cases hfound : slot.found with
  | some found =>
    simp only [step, exactStep, hfound, matchedStep_eq_ok_iff, Outcome.bind_eq_ok,
      dayAfter_eq_ok_iff_exact, passageAt_eq_ok_iff_exact]
    constructor
    · rintro ⟨start, passage, hday, hpassage, held, rfl, rfl⟩
      refine ⟨⟨start, hday, ?_⟩, fun _ => held, ?_⟩
      · rw [← hpassage]
        rfl
      · simp [stopOf, hfound, stopWith]
    · rintro ⟨⟨start, hday, hret⟩, held, made⟩
      obtain ⟨hcarry, hpassage⟩ := Prod.mk.inj (Except.ok.inj hret)
      have scheduled : stop.scheduled = slot.scheduled.passage := by rw [made, stopOf_scheduled]
      have delay : (stop.passage.delayFrom slot.scheduled.passage).Held := scheduled ▸ held rfl
      refine ⟨start, stop.passage, hday, hpassage.symm, delay, Carry.exact_injective ?_, ?_⟩
      · rw [← hcarry, hpassage]
        rfl
      · simpa [stopOf, hfound] using made
  | none =>
    simp only [step, exactStep, hfound, unmatchedStep_eq_ok_iff, unmatchedPassage_iff_exact]
    constructor
    · rintro ⟨passage, hpassage, rfl, rfl⟩
      refine ⟨?_, fun h => absurd h (by simp), ?_⟩
      · rw [← hpassage]
        rfl
      · simp [stopOf, hfound]
    · rintro ⟨hret, -, made⟩
      obtain ⟨hcarry, hpassage⟩ := Prod.mk.inj (Except.ok.inj hret)
      refine ⟨stop.passage, hpassage.symm, Carry.exact_injective ?_, ?_⟩
      · rw [← hcarry, hpassage]
        rfl
      · simpa [stopOf, hfound] using made

/-- What an exact step carries on is held, if its passage is. -/
theorem exists_carry_of_exactStep {c c' : ExactCarry}
    (h : exactStep s first c slot = .ok (c', passage.exact)) :
    ∃ carry : Carry, carry.exact = c' := by
  refine ⟨⟨c'.start, passage.departure, c'.delay⟩, ?_⟩
  unfold exactStep at h
  split at h
  next =>
    obtain ⟨start, -, hret⟩ := Outcome.bind_eq_ok.mp h
    obtain ⟨rfl, hpassage⟩ := Prod.mk.inj (Except.ok.inj hret)
    rw [hpassage]
    rfl
  next =>
    obtain ⟨rfl, hpassage⟩ := Prod.mk.inj (Except.ok.inj h)
    rw [hpassage]
    rfl

/-- Where a step leaves the calendar, so does the exact one. -/
theorem exactStep_of_offCalendar (h : step s first carry slot = .error .offCalendar) :
    exactStep s first carry.exact slot = .error .offCalendar := by
  obtain ⟨found, hfound, hday⟩ := dayAfter_of_step h
  have off : exactDayAfter s carry.start found.call = .error .offCalendar := by
    unfold dayAfter at hday
    split at hday
    next => cases hday
    next hnone =>
      split at hday
      next => cases hday
      next hstart => rw [hnone, exactDayAfter, hstart]
  rw [exactStep, hfound]
  exact Outcome.bind_eq_error.mpr (.inl off)

/-! ## The whole pass -/

theorem exactPass_cons_eq_ok_iff {position : Nat} {c : ExactCarry} {rest : List Slot}
    {ps : List ExactPassage} :
    exactPass s position c (slot :: rest) = .ok ps ↔
      ∃ c' p tail, exactStep s (position = 0) c slot = .ok (c', p) ∧
        exactPass s (position + 1) c' rest = .ok tail ∧ ps = p :: tail := by
  simp only [exactPass, Outcome.bind_eq_ok, Prod.exists]
  constructor
  · rintro ⟨c', p, hstep, tail, htail, hret⟩
    cases hret
    exact ⟨c', p, tail, hstep, htail, rfl⟩
  · rintro ⟨c', p, tail, hstep, htail, rfl⟩
    exact ⟨c', p, hstep, tail, htail, rfl⟩

variable {position : Nat} {slots : List Slot}

/-- **The pass makes the exact passages.** -/
theorem exactPass_of_pass {stops : List StopRecord} (h : pass s position carry slots = .ok stops) :
    exactPass s position carry.exact slots = .ok (stops.map (·.passage.exact)) := by
  induction slots generalizing position carry stops with
  | nil =>
    cases h
    rfl
  | cons slot rest ih =>
    obtain ⟨carry', stop, tail, hstep, htail, rfl⟩ := pass_cons_eq_ok_iff.mp h
    exact exactPass_cons_eq_ok_iff.mpr
      ⟨_, _, _, (step_eq_ok_iff_exact.mp hstep).1, ih htail, rfl⟩

/-- **Where the exact passages are held, the pass makes them.** -/
theorem exists_pass_of_held {ps : List ExactPassage}
    (h : exactPass s position carry.exact slots = .ok ps)
    (held : List.Forall₂ (fun slot p => p.Held slot.scheduled.passage) slots ps) :
    ∃ stops, pass s position carry slots = .ok stops := by
  induction held generalizing position carry with
  | nil => exact ⟨[], rfl⟩
  | @cons slot p rest ps held _ ih =>
    obtain ⟨c', _, _, hstep, htail, hps⟩ := exactPass_cons_eq_ok_iff.mp h
    obtain ⟨rfl, rfl⟩ := List.cons.inj hps
    obtain ⟨passage, rfl⟩ := Passage.exists_exact held.1.1 held.1.2
    obtain ⟨carry', rfl⟩ := exists_carry_of_exactStep hstep
    have made : step s (position = 0) carry slot = .ok (carry', stopOf s slot passage) := by
      refine step_eq_ok_iff_exact.mpr ⟨by rwa [stopOf_passage], fun _ => ?_, by rw [stopOf_passage]⟩
      rw [StopRecord.delay, stopOf_passage, stopOf_scheduled]
      exact held.2
    obtain ⟨stops, hpass⟩ := ih htail
    exact ⟨_, pass_cons_eq_ok_iff.mpr ⟨_, _, _, made, hpass, rfl⟩⟩

theorem length_exactPass {c : ExactCarry} {ps : List ExactPassage}
    (h : exactPass s position c slots = .ok ps) : ps.length = slots.length := by
  induction slots generalizing position c ps with
  | nil =>
    cases h
    rfl
  | cons slot rest ih =>
    obtain ⟨_, _, tail, -, htail, rfl⟩ := exactPass_cons_eq_ok_iff.mp h
    rw [List.length_cons, List.length_cons, ih htail]

/-- Where the pass leaves the calendar, so does the exact one. -/
theorem exactPass_of_offCalendar {i : Nat}
    (h : pass s position carry slots = .error (i, .offCalendar)) :
    exactPass s position carry.exact slots = .error .offCalendar := by
  induction slots generalizing position carry with
  | nil => cases h
  | cons slot rest ih =>
    simp only [exactPass, Outcome.bind_eq_error, Prod.exists]
    simp only [pass] at h
    split at h
    next obstacle hstep =>
      cases h
      exact .inl (exactStep_of_offCalendar hstep)
    next carry' stop hstep =>
      exact .inr ⟨_, _, (step_eq_ok_iff_exact.mp hstep).1, .inl (ih (Outcome.map_eq_error.mp h))⟩

end Propagation

/-! ## Journeys -/

namespace Timetable

variable {t : Timetable} {current : TripRecord} {journey : Journey} {lookup : StopLookup}
  {zone : Zone} {times : List ExactPassage}

/-- **Some time or some delay is out of range**, at some stop. -/
def RunsOver (t : Timetable) (times : List ExactPassage) : Prop :=
  ∃ (i : Nat) (v : TimedVisit) (p : ExactPassage),
    t.visits[i]? = some v ∧ times[i]? = some p ∧ ¬ p.Held v.passage

theorem length_exactTimes (length : current.stops.length = t.visits.length)
    (h : t.exactTimes current journey lookup zone = .ok times) :
    times.length = t.visits.length := by
  rw [Propagation.length_exactPass h, ← List.length_map (f := (·.scheduled)),
    scheduled_slots (length_matching t journey lookup) length]

/-- Nothing runs over where all is held, stop by stop. -/
theorem not_runsOver_iff (length : times.length = t.visits.length) :
    ¬ t.RunsOver times ↔ List.Forall₂ (fun v p => p.Held v.passage) t.visits times := by
  rw [List.forall₂_iff_get]
  constructor
  · intro fits
    refine ⟨length.symm, fun i hv hp => ?_⟩
    by_contra beyond
    exact fits ⟨i, _, _, List.getElem?_eq_getElem hv, List.getElem?_eq_getElem hp, beyond⟩
  · rintro ⟨-, held⟩ ⟨i, v, p, hv, hp, beyond⟩
    obtain ⟨hi, rfl⟩ := List.getElem?_eq_some_iff.mp hv
    obtain ⟨hi', rfl⟩ := List.getElem?_eq_some_iff.mp hp
    exact beyond (held i hi hi')

/-- A draft has the exact times. -/
theorem exact_of_draft {r : TripRecord} (made : t.draft current journey lookup zone = .ok r) :
    t.exactTimes current journey lookup zone = .ok (r.stops.map (·.passage.exact)) := by
  obtain ⟨stops, hpass, rfl⟩ := Outcome.map_eq_ok.mp made
  exact Propagation.exactPass_of_pass hpass

/-- All times of a draft are held, so it runs over only where a delay does. -/
theorem not_runsOver_iff_of_draft (length : current.stops.length = t.visits.length)
    {r : TripRecord} (made : t.draft current journey lookup zone = .ok r) :
    ¬ t.RunsOver (r.stops.map (·.passage.exact)) ↔ ∀ s ∈ r.stops, s.delay.Held := by
  rw [not_runsOver_iff (length_exactTimes length (exact_of_draft made)),
    List.forall₂_map_right_iff]
  obtain ⟨stops, hpass, rfl⟩ := Outcome.map_eq_ok.mp made
  have scheduled := Lists.map_eq_map_iff_forall₂.mp (scheduled_of_pass length hpass)
  refine Lists.forall₂_iff_forall_mem (fun v stop same => ?_) scheduled.flip
  rw [← same]
  exact Passage.held_exact_iff

/-- **Where nothing runs over there is a draft**, and all its delays are held. -/
theorem exists_draft_of_fits (length : current.stops.length = t.visits.length)
    (calculated : t.exactTimes current journey lookup zone = .ok times)
    (fits : ¬ t.RunsOver times) :
    ∃ r, t.draft current journey lookup zone = .ok r ∧
      r.stops.map (·.passage.exact) = times ∧ ∀ s ∈ r.stops, s.delay.Held := by
  have held := (not_runsOver_iff (length_exactTimes length calculated)).mp fits
  rw [← scheduled_slots (length_matching t journey lookup) length,
    List.forall₂_map_left_iff] at held
  obtain ⟨stops, hpass⟩ := Propagation.exists_pass_of_held calculated held
  have made : t.draft current journey lookup zone = .ok _ :=
    Outcome.map_eq_ok.mpr ⟨stops, hpass, rfl⟩
  cases calculated.symm.trans (exact_of_draft made)
  exact ⟨_, made, rfl, (not_runsOver_iff_of_draft length made).mp fits⟩

/-- **Where something runs over the journey is refused**: there is no draft, or one of its delays is
not held. -/
theorem refuses_of_runsOver (length : current.stops.length = t.visits.length)
    (named : journey.firstBlankRef? = none)
    (calculated : t.exactTimes current journey lookup zone = .ok times)
    (beyond : t.RunsOver times) :
    ∃ position,
      t.RefusesJourney current journey lookup zone (.timeOutOfRange t.tripId position) := by
  cases made : t.draft current journey lookup zone with
  | ok r =>
    cases calculated.symm.trans (exact_of_draft made)
    have late := mt (not_runsOver_iff_of_draft length made).mpr (not_not.mpr beyond)
    rw [← TripRecord.firstDelayNotHeld?_eq_none_iff, ← ne_eq, Option.ne_none_iff_exists'] at late
    obtain ⟨position, first⟩ := late
    exact ⟨position, .noDelay named made first⟩
  | error stuck =>
    obtain ⟨position, obstacle⟩ := stuck
    cases obstacle with
    | outOfRange => exact ⟨position, .noTime named made⟩
    | offCalendar =>
      have off := Propagation.exactPass_of_offCalendar (Outcome.map_eq_error.mp made)
      cases calculated.symm.trans off

/-- A journey that runs is propagated once its record was found to be one of the trip. -/
theorem afterJourney_of_runs (own : current.tripId = t.tripId)
    (length : current.stops.length = t.visits.length) (trip : journey.tripRef = t.tripId)
    (runs : ¬ journey.isCancellation) :
    t.afterJourney current journey lookup zone = t.propagate current journey lookup zone := by
  unfold afterJourney
  rw [checkRecord_eq_ok_iff.mpr ⟨own, length⟩]
  simp only [Except.mapError, bind, Except.bind]
  rw [if_neg (not_not.mpr trip), if_neg runs]

/-- **What is returned for a journey is told by its exact times.** -/
theorem afterJourney_exact (own : current.tripId = t.tripId)
    (length : current.stops.length = t.visits.length) (trip : journey.tripRef = t.tripId)
    (runs : ¬ journey.isCancellation) (named : journey.firstBlankRef? = none) :
    (t.afterJourney current journey lookup zone = .error .offCalendar →
      t.exactTimes current journey lookup zone = .error .offCalendar) ∧
    ∀ times, t.exactTimes current journey lookup zone = .ok times →
      times.length = t.visits.length ∧
      ((∃ position, t.afterJourney current journey lookup zone =
        .error (.rejected (.timeOutOfRange t.tripId position))) ↔ t.RunsOver times) ∧
      (¬ t.RunsOver times →
        ((∃ position, t.afterJourney current journey lookup zone =
          .error (.rejected (.nonIncreasingTimes t.tripId (t.lineName journey.line) position))) ↔
            ¬ ExactPassage.InOrder times) ∧
        (ExactPassage.InOrder times →
          ∃ r, t.afterJourney current journey lookup zone = .ok r ∧ t.Sound r ∧
            r.stops.map (·.passage.exact) = times)) := by
  rw [afterJourney_of_runs own length trip runs]
  constructor
  · intro off
    obtain ⟨i, hpass⟩ := pass_of_propagate_offCalendar off
    exact Propagation.exactPass_of_offCalendar hpass
  intro times calculated
  refine ⟨length_exactTimes length calculated, ⟨?_, fun beyond => ?_⟩, fun fits => ?_⟩
  · rintro ⟨position, refused⟩
    by_contra fits
    obtain ⟨r, made, -, held⟩ := exists_draft_of_fits length calculated fits
    cases propagate_eq_rejected_iff.mp refused with
    | noTime _ stuck => cases made.symm.trans stuck
    | noDelay _ made' first =>
      cases made.symm.trans made'
      cases (TripRecord.firstDelayNotHeld?_eq_none_iff.mpr held).symm.trans first
  · obtain ⟨position, refuses⟩ := refuses_of_runsOver length named calculated beyond
    exact ⟨position, propagate_eq_rejected_iff.mpr refuses⟩
  · obtain ⟨r, made, rfl, held⟩ := exists_draft_of_fits length calculated fits
    have order :
        ExactPassage.InOrder (r.stops.map (·.passage.exact)) ↔ r.firstDisorder? = none := by
      rw [TripRecord.firstDisorder?, ← Passage.inOrder_exact, List.map_map]
      rfl
    rw [order]
    refine ⟨⟨?_, fun disorder => ?_⟩, fun inOrder => ?_⟩
    · rintro ⟨position, refused⟩
      cases propagate_eq_rejected_iff.mp refused with
      | disorder _ made' _ first =>
        cases made.symm.trans made'
        rw [first]
        simp
    · obtain ⟨position, first⟩ := Option.ne_none_iff_exists'.mp disorder
      exact ⟨position, propagate_eq_rejected_iff.mpr (.disorder named made held first)⟩
    · obtain ⟨stops, hpass, rfl⟩ := Outcome.map_eq_ok.mp made
      have propagated := propagate_eq_ok_iff.mpr ⟨named, stops, hpass, rfl, held, inOrder⟩
      exact ⟨_, propagated, sound_propagate length propagated, rfl⟩

end Timetable

/-! ## A call at B -/

namespace Sample

/-- The first instant of the year 2100, more seconds ahead of `past 0` than are held. -/
def farAhead : Instant := (Instant.of? 4102444800 0 0).get (by decide)

/-- The vehicle is expected at B. -/
def expectedAtB (arrival departure : Instant) : Journey where
  tripRef := "t"
  line := none
  cancellation := none
  inaccuracy := none
  recorded := []
  estimated := [
    ⟨"B", none, none, ⟨none, some (past 300)⟩, ⟨some arrival, some departure⟩, none, none, none,
      none, []⟩]

def exactAtB (arrival departure : Instant) : Except OffCalendar (List ExactPassage) :=
  (waiting true).exactTimes (waiting true).record (expectedAtB arrival departure) (stops true) .utc

def afterB (arrival departure : Instant) : Except UpdateFailure TripRecord :=
  (waiting true).afterJourney (waiting true).record (expectedAtB arrival departure) (stops true)
    .utc

end Sample

/-- Two minutes late on both sides the trip is recorded. If it does not wait at B the times run
backwards at C, where there is no wait to make up for it, and in the year 2100 none of them is
held. -/
theorem Timetable.afterJourney_exact_at :
    (∃ r, Sample.afterB (Sample.past 400) (Sample.past 420) = .ok r ∧
      r.stops.map (·.passage.exact) = [⟨0, 0⟩, ⟨400, 420⟩, ⟨720, 720⟩, ⟨1020, 1020⟩]) ∧
    (∃ position, Sample.afterB (Sample.past 420) (Sample.past 420) =
      .error (.rejected (.nonIncreasingTimes "t" "" position))) ∧
    ∃ position, Sample.afterB (Sample.past 400) Sample.farAhead =
      .error (.rejected (.timeOutOfRange "t" position)) := by
  have late : Sample.exactAtB (Sample.past 400) (Sample.past 420) =
      .ok [⟨0, 0⟩, ⟨400, 420⟩, ⟨720, 720⟩, ⟨1020, 1020⟩] := by decide +kernel
  have unwaiting : Sample.exactAtB (Sample.past 420) (Sample.past 420) =
      .ok [⟨0, 0⟩, ⟨420, 420⟩, ⟨740, 720⟩, ⟨1040, 1020⟩] := by decide +kernel
  have far : Sample.exactAtB (Sample.past 400) Sample.farAhead =
      .ok [⟨0, 0⟩, ⟨400, 2387923200⟩, ⟨720, 2387923500⟩, ⟨1020, 2387923800⟩] := by decide +kernel
  have named (arrival departure : Instant) :
      (Sample.expectedAtB arrival departure).firstBlankRef? = none := by
    change ["B"].findIdx? Text.allBlank = none
    decide
  have own : (Sample.waiting true).record.tripId = (Sample.waiting true).tripId := rfl
  have runs (arrival departure : Instant) :
      ¬ (Sample.expectedAtB arrival departure).isCancellation := Bool.false_ne_true
  have told {arrival departure : Instant} {times : List ExactPassage}
      (calculated : Sample.exactAtB arrival departure = .ok times) :=
    (afterJourney_exact own rfl rfl (runs arrival departure) (named arrival departure)).2 times
      calculated
  refine ⟨?_, ?_, ?_⟩
  · obtain ⟨-, -, made⟩ := told late
    obtain ⟨r, hr, -, htimes⟩ := (made ((not_runsOver_iff rfl).mpr (by decide))).2 (by decide)
    exact ⟨r, hr, htimes⟩
  · obtain ⟨-, -, made⟩ := told unwaiting
    exact (made ((not_runsOver_iff rfl).mpr (by decide))).1.mpr (by decide)
  · obtain ⟨-, beyond, -⟩ := told far
    exact beyond.mpr ⟨1, _, _, rfl, rfl, by decide⟩

end LiveTimetable
