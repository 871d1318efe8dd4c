import Mathlib.Data.List.Forall2
import LiveTimetable.Proofs.Outcome
import LiveTimetable.Update.Propagation

/-!
# What the pass along a trip makes of its stops

`Propagation.pass` walks the stops of a trip once. Each step either meets an obstacle or makes the
record of one stop. The lemmas here say all that a step can do (`matchedStep_eq_ok_iff`,
`unmatchedStep_eq_ok_iff`), so that no later proof opens it again.

Main statement: the passage apart, the record of a stop is made of its slot alone
(`pass_stops`, and position by position `stop_of_pass`). What is carried from stop to stop shows in
times only.
-/

namespace LiveTimetable.Propagation

variable {s : Setting} {first : Bool} {carry carry' : Carry} {slot : Slot} {found : Match}
  {stop : StopRecord}

/-! ## One step -/

/-- The record of a stop whose passage is known. -/
def stopOf (s : Setting) (slot : Slot) (passage : Passage) : StopRecord :=
  match slot.found with
  | some found => stopWith s slot found passage
  | none => { StopRecord.ofTimetable slot.scheduled.visit slot.scheduled.passage with passage }

@[simp] theorem stopOf_scheduled (s : Setting) (slot : Slot) (passage : Passage) :
    (stopOf s slot passage).scheduled = slot.scheduled.passage := by
  unfold stopOf
  split <;> rfl

@[simp] theorem stopOf_passage (s : Setting) (slot : Slot) (passage : Passage) :
    (stopOf s slot passage).passage = passage := by
  unfold stopOf
  split <;> rfl

@[simp] theorem stopOf_visit (s : Setting) (slot : Slot) (passage : Passage) :
    (stopOf s slot passage).visit = slot.scheduled.visit.after slot.found := by
  cases h : slot.found with
  | none => simp [stopOf, h, StopRecord.ofTimetable, Visit.after]
  | some found => simp [stopOf, h, stopWith, Visit.after]

/-- A stop with a call takes the passage that the call makes, if its delay is held, and hands that
delay on. -/
theorem matchedStep_eq_ok_iff :
    matchedStep s first carry slot found = .ok (carry', stop) ↔
      ∃ start passage, dayAfter s carry.start found.call = .ok start ∧
        passageAt s first start found.call slot.scheduled.passage = .ok passage ∧
        (passage.delayFrom slot.scheduled.passage).Held ∧
        carry' = ⟨start, passage.departure, passage.delayFrom slot.scheduled.passage⟩ ∧
        stop = stopWith s slot found passage := by
  simp only [matchedStep, Outcome.bind_eq_ok]
  constructor
  · intro h
    obtain ⟨start, hstart, passage, hpassage, hret⟩ := h
    split at hret
    next held =>
      cases hret
      exact ⟨start, passage, hstart, hpassage, held, rfl, rfl⟩
    next => cases hret
  · intro h
    obtain ⟨start, passage, hstart, hpassage, held, rfl, rfl⟩ := h
    exact ⟨start, hstart, passage, hpassage, by rw [if_pos held]; rfl⟩

/-- The passage of a stop without a call: right behind the stop before where nobody gets on or
off, and else the scheduled one with the delay carried along or, if there is none, with the delay
of the record in effect. -/
def UnmatchedPassage (first : Bool) (carry : Carry) (slot : Slot) (passage : Passage) : Prop :=
  if ¬ first ∧ slot.scheduled.visit.isPassedBy then passage = ⟨carry.departure, carry.departure⟩
  else passage.delayFrom slot.scheduled.passage =
    if carry.delay = .none then slot.delay else carry.delay

theorem unmatchedStep_eq_ok_iff :
    unmatchedStep first carry slot = .ok (carry', stop) ↔
      ∃ passage, UnmatchedPassage first carry slot passage ∧
        carry' = { carry with departure := passage.departure } ∧
        stop = { StopRecord.ofTimetable slot.scheduled.visit slot.scheduled.passage with passage } := by
  have told : ∀ passage, UnmatchedPassage first carry slot passage ↔
      (if ¬ first ∧ slot.scheduled.visit.isPassedBy then
          some ⟨carry.departure, carry.departure⟩
        else if carry.delay = .none then slot.scheduled.passage.delayed? slot.delay
        else slot.scheduled.passage.delayed? carry.delay) = some passage := by
    intro passage
    unfold UnmatchedPassage
    split
    · simp [eq_comm]
    · split <;> rw [Passage.delayed?_eq_some_iff]
  simp only [told, unmatchedStep]
  generalize (if ¬ first ∧ slot.scheduled.visit.isPassedBy then _ else _ : Option Passage) =
    passage?
  cases passage? with
  | none => simp
  | some passage => simp [eq_comm]

/-- **A step makes the record of its stop, and carries its departure on.** -/
theorem stop_of_step (h : step s first carry slot = .ok (carry', stop)) :
    stop = stopOf s slot stop.passage ∧ carry'.departure = stop.passage.departure := by
  unfold step at h
  split at h
  next found hfound =>
    obtain ⟨start, passage, -, -, -, rfl, rfl⟩ := matchedStep_eq_ok_iff.mp h
    exact ⟨by simp [stopOf, hfound, stopWith], rfl⟩
  next hfound =>
    obtain ⟨passage, -, rfl, rfl⟩ := unmatchedStep_eq_ok_iff.mp h
    exact ⟨by simp [stopOf, hfound], rfl⟩

/-! ## Off the calendar -/

theorem onDay_ne_offCalendar {start : Option Int} {told : Option Instant} :
    onDay start told ≠ .error .offCalendar := by
  unfold onDay
  split
  next => split <;> simp
  next => simp

theorem passageAt_ne_offCalendar {start : Option Int} {call : MatchedCall} {scheduled : Passage} :
    passageAt s first start call scheduled ≠ .error .offCalendar := by
  intro h
  simp only [passageAt, Outcome.bind_eq_error] at h
  rcases h with h | ⟨_, -, h | ⟨_, -, h⟩⟩
  · exact onDay_ne_offCalendar h
  · exact onDay_ne_offCalendar h
  · cases h

/-- Only the day after a call can lead a step off the calendar. -/
theorem dayAfter_of_step (h : step s first carry slot = .error .offCalendar) :
    ∃ found, slot.found = some found ∧
      dayAfter s carry.start found.call = .error .offCalendar := by
  unfold step at h
  split at h
  next found hfound =>
    refine ⟨found, hfound, ?_⟩
    simp only [matchedStep, Outcome.bind_eq_error] at h
    rcases h with h | ⟨_, -, h | ⟨_, -, h⟩⟩
    · exact h
    · exact absurd h passageAt_ne_offCalendar
    · split at h
      next => cases h
      next => cases h
  next =>
    simp only [unmatchedStep] at h
    generalize (if ¬ first ∧ slot.scheduled.visit.isPassedBy then _ else _ : Option Passage) =
      passage? at h
    cases passage? with
    | none => cases h
    | some passage => cases h

/-- Only the day that a call tells can lead a step off the calendar. -/
theorem serviceStart_of_step (h : step s first carry slot = .error .offCalendar) :
    ∃ found, slot.found = some found ∧
      serviceStart found.call.reference? s.firstDeparture s.zone = .error .offCalendar := by
  obtain ⟨found, hfound, h⟩ := dayAfter_of_step h
  refine ⟨found, hfound, ?_⟩
  unfold dayAfter at h
  split at h
  next => cases h
  next =>
    split at h
    next => cases h
    next hstart => exact hstart

theorem serviceStart_of_pass {position i : Nat} {slots : List Slot}
    (h : pass s position carry slots = .error (i, .offCalendar)) :
    ∃ slot ∈ slots, ∃ found, slot.found = some found ∧
      serviceStart found.call.reference? s.firstDeparture s.zone = .error .offCalendar := by
  induction slots generalizing position carry with
  | nil => cases h
  | cons slot rest ih =>
    simp only [pass] at h
    split at h
    next obstacle hstep =>
      cases h
      exact ⟨slot, List.mem_cons_self, serviceStart_of_step hstep⟩
    next =>
      obtain ⟨slot', hmem, hfound⟩ := ih (Outcome.map_eq_error.mp h)
      exact ⟨slot', List.mem_cons_of_mem slot hmem, hfound⟩

/-! ## The whole pass -/

theorem pass_cons_eq_ok_iff {position : Nat} {rest : List Slot} {stops : List StopRecord} :
    pass s position carry (slot :: rest) = .ok stops ↔
      ∃ carry' stop tail, step s (position = 0) carry slot = .ok (carry', stop) ∧
        pass s (position + 1) carry' rest = .ok tail ∧ stops = stop :: tail := by
  simp only [pass]
  split
  next hstep => simp [hstep]
  next carry' stop hstep =>
    rw [Outcome.map_eq_ok]
    constructor
    · intro h
      obtain ⟨tail, htail, rfl⟩ := h
      exact ⟨carry', stop, tail, hstep, htail, rfl⟩
    · intro h
      obtain ⟨_, _, tail, hstep', htail, rfl⟩ := h
      cases hstep.symm.trans hstep'
      exact ⟨tail, htail, rfl⟩

/-- **The pass makes each stop of its slot**, whatever is carried to it. -/
theorem pass_stops {position : Nat} {slots : List Slot} {stops : List StopRecord}
    (h : pass s position carry slots = .ok stops) :
    List.Forall₂ (fun slot stop => stop = stopOf s slot stop.passage) slots stops := by
  induction slots generalizing position carry stops with
  | nil =>
    cases h
    exact .nil
  | cons slot rest ih =>
    obtain ⟨carry', stop, tail, hstep, htail, rfl⟩ := pass_cons_eq_ok_iff.mp h
    exact .cons (stop_of_step hstep).1 (ih htail)

theorem stop_of_pass {position : Nat} {slots : List Slot} {stops : List StopRecord}
    (h : pass s position carry slots = .ok stops) {i : Nat} (hi : stops[i]? = some stop) :
    ∃ slot, slots[i]? = some slot ∧ stop = stopOf s slot stop.passage := by
  obtain ⟨hlt, rfl⟩ := List.getElem?_eq_some_iff.mp hi
  have hslots : i < slots.length := by rwa [(pass_stops h).length_eq]
  exact ⟨slots[i], List.getElem?_eq_getElem hslots, (pass_stops h).get hslots hlt⟩

/-- The slot at a position holds what is known there: the scheduled visit, its match and the delay
in effect. -/
theorem slots_getElem?_eq_some_iff {t : Timetable} {m : Matching} {current : TripRecord} {i : Nat} :
    (slots t m current)[i]? = some slot ↔
      ∃ v found old, t.visits[i]? = some v ∧ m[i]? = some found ∧ current.stops[i]? = some old ∧
        slot = ⟨v, found, old.delay⟩ := by
  simp only [slots, List.getElem?_map, Option.map_eq_some_iff, Prod.exists,
    List.getElem?_zip_eq_some]
  constructor
  · intro h
    obtain ⟨v, found, old, ⟨hv, hfound, hold⟩, rfl⟩ := h
    exact ⟨v, found, old, hv, hfound, hold, rfl⟩
  · intro h
    obtain ⟨v, found, old, hv, hfound, hold, rfl⟩ := h
    exact ⟨v, found, old, ⟨hv, hfound, hold⟩, rfl⟩

end LiveTimetable.Propagation
