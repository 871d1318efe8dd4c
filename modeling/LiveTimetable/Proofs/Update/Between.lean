import LiveTimetable.Proofs.Lists
import LiveTimetable.Proofs.Update.Carried

/-!
# Stops between calls

A stop for which a journey has no call is told by the stops around it. Where nobody gets on or off
the vehicle passes as soon as it has left the stop before. Elsewhere the delay of the last stop with
a call still holds, however many stops lie in between and whatever is done there. Only where no call
came before, or the last one was on time on both its sides, is the record in effect asked.

Main statement: `Timetable.afterJourney_between`. The pass carries two things from stop to stop that
have to do with this, the departure from the stop before and the delay at the last stop with a call;
`Propagation.step_of_pass` says what they are when the pass comes to a position.
-/

namespace LiveTimetable

/-! ## The last call -/

namespace Matching

/-- The stop at the position has taken a call. -/
def CallAt (m : Matching) (position : Nat) : Prop := ∃ found, m[position]? = some (some found)

/-- **The last stop with a call** in front of a position. -/
def LastCall (m : Matching) (position last : Nat) : Prop :=
  last < position ∧ m.CallAt last ∧ ∀ k, last < k → k < position → ¬ m.CallAt k

/-- **The delay that is carried to a position**: the one at the last stop with a call or, as long as
there was no call, the one that was there from the start. -/
def Carries (m : Matching) (stops : List StopRecord) (since : Delay) (position : Nat)
    (delay : Delay) : Prop :=
  (∃ last stop, m.LastCall position last ∧ stops[last]? = some stop ∧ delay = stop.delay) ∨
    (∀ k < position, ¬ m.CallAt k) ∧ delay = since

variable {m : Matching} {stops : List StopRecord} {since delay : Delay} {position : Nat}

theorem not_callAt_of_none (bare : m[position]? = some none) : ¬ m.CallAt position := by
  rintro ⟨found, h⟩
  cases bare.symm.trans h

/-- There is one last call at most. -/
theorem LastCall.unique {p q : Nat} (hp : m.LastCall position p) (hq : m.LastCall position q) :
    p = q := by
  rcases Nat.lt_trichotomy p q with h | h | h
  · exact absurd hq.2.1 (hp.2.2 q h hq.1)
  · exact h
  · exact absurd hp.2.1 (hq.2.2 p h hp.1)

/-- Stops without a call hand on what was carried to the first of them. -/
theorem Carries.past {next : Nat} (h : m.Carries stops since position delay)
    (later : position ≤ next) (bare : ∀ k, position ≤ k → k < next → ¬ m.CallAt k) :
    m.Carries stops since next delay := by
  rcases h with ⟨last, stop, ⟨hlt, hcall, between⟩, hstop, rfl⟩ | ⟨before, rfl⟩
  · have inFront := Nat.lt_of_lt_of_le hlt later
    refine .inl ⟨last, stop, ⟨inFront, hcall, fun k hk hnext => ?_⟩, hstop, rfl⟩
    rcases Nat.lt_or_ge k position with inside | behind
    · exact between k hk inside
    · exact bare k behind hnext
  · refine .inr ⟨fun k hk => ?_, rfl⟩
    rcases Nat.lt_or_ge k position with inside | behind
    · exact before k inside
    · exact bare k behind hk

/-- One more stop in front: its delay is carried if it has a call, and else what it was handed. -/
theorem Carries.cons {head : Option Match} {stop : StopRecord}
    (h : m.Carries stops (if head.isSome then stop.delay else since) position delay) :
    Carries (head :: m) (stop :: stops) since (position + 1) delay := by
  rcases h with ⟨last, other, ⟨hlt, hcall, between⟩, hother, rfl⟩ | ⟨before, rfl⟩
  · refine .inl ⟨last + 1, other, ⟨Nat.succ_lt_succ hlt, hcall, fun k hk hpos => ?_⟩, hother, rfl⟩
    cases k with
    | zero => exact absurd hk (Nat.not_lt_zero _)
    | succ k => exact between k (Nat.lt_of_succ_lt_succ hk) (Nat.lt_of_succ_lt_succ hpos)
  · cases head with
    | none =>
      refine .inr ⟨fun k hk => ?_, rfl⟩
      cases k with
      | zero => exact not_callAt_of_none rfl
      | succ k => exact before k (Nat.lt_of_succ_lt_succ hk)
    | some found =>
      refine .inl ⟨0, stop, ⟨Nat.succ_pos position, ⟨found, rfl⟩, fun k hk hpos => ?_⟩, rfl, rfl⟩
      cases k with
      | zero => exact absurd hk (Nat.lt_irrefl 0)
      | succ k => exact before k (Nat.lt_of_succ_lt_succ hpos)

end Matching

/-- The departure from the stop before a position. -/
def StopRecord.LeftBefore (stops : List StopRecord) (since : Seconds) : Nat → Seconds → Prop
  | 0, departure => departure = since
  | position + 1, departure => ∃ before, stops[position]? = some before ∧
      departure = before.passage.departure

/-! ## What comes to a position -/

namespace Propagation

variable {s : Setting} {first : Bool} {carry carry' : Carry} {slot : Slot} {stop : StopRecord}

/-- A step with a call carries the delay of its stop on, and one without a call what it was
handed. -/
theorem delay_of_step (h : step s first carry slot = .ok (carry', stop)) :
    carry'.delay = if slot.found.isSome then stop.delay else carry.delay := by
  unfold step at h
  split at h
  next found hfound =>
    obtain ⟨start, passage, -, -, -, rfl, rfl⟩ := matchedStep_eq_ok_iff.mp h
    rw [hfound]
    rfl
  next hnone =>
    obtain ⟨passage, -, rfl, -⟩ := unmatchedStep_eq_ok_iff.mp h
    rw [hnone]
    rfl

/-- **The pass at a position**: the stop there is made in one step, of its slot and of what is
carried to it. -/
theorem step_of_pass {position i : Nat} {slots : List Slot} {stops : List StopRecord}
    (h : pass s position carry slots = .ok stops) (hslot : slots[i]? = some slot) :
    ∃ before after stop, step s (position + i = 0) before slot = .ok (after, stop) ∧
      stops[i]? = some stop ∧
      Matching.Carries (slots.map (·.found)) stops carry.delay i before.delay ∧
      StopRecord.LeftBefore stops carry.departure i before.departure := by
  induction slots generalizing position carry stops i with
  | nil => simp at hslot
  | cons head rest ih =>
    obtain ⟨carry', made, tail, hstep, htail, rfl⟩ := pass_cons_eq_ok_iff.mp h
    cases i with
    | zero =>
      cases hslot
      exact ⟨carry, carry', made, hstep, rfl,
        .inr ⟨fun k hk => absurd hk (Nat.not_lt_zero k), rfl⟩, rfl⟩
    | succ i =>
      obtain ⟨before, after, stop, hmade, hstop, hdelay, hdeparture⟩ := ih htail hslot
      refine ⟨before, after, stop, ?_, hstop, ?_, ?_⟩
      · rw [← hmade, Nat.add_right_comm, Nat.add_assoc]
      · rw [delay_of_step hstep] at hdelay
        exact hdelay.cons
      · cases i with
        | zero => exact ⟨made, rfl, hdeparture.trans (stop_of_step hstep).2⟩
        | succ i => exact hdeparture

/-- The slots of a trip have the calls of its matching. -/
theorem found_slots {t : Timetable} {m : Matching} {current : TripRecord}
    (hm : m.length = t.visits.length) (hcurrent : current.stops.length = t.visits.length) :
    (slots t m current).map (·.found) = m := by
  rw [slots, List.map_map]
  exact (Lists.map_zip_zip hm hcurrent).2.1

end Propagation

/-! ## Journeys -/

namespace Timetable

variable {t : Timetable} {current r : TripRecord} {journey : Journey} {lookup : StopLookup}
  {zone : Zone} {position : Nat}

/-- **A stop without a call is told by the stops around it.** Where nobody gets on or off behind the
first stop, the vehicle passes when it has left the stop before. Elsewhere the stop has the delay of
the last stop with a call; if that is none on both sides, or there is no such stop, it keeps the
delay of the record in effect. Whichever it is, what was carried to the stop is carried on, past it
and all others without a call. -/
theorem afterJourney_between
    (made : t.afterJourney current journey lookup zone = .ok r) (runs : ¬ journey.isCancellation)
    (bare : (t.matching journey lookup)[position]? = some none) :
    ∃ v old stop, t.visits[position]? = some v ∧ current.stops[position]? = some old ∧
      r.stops[position]? = some stop ∧
      (position ≠ 0 ∧ v.visit.isPassedBy → ∃ before, r.stops[position - 1]? = some before ∧
        stop.passage = ⟨before.passage.departure, before.passage.departure⟩) ∧
      (¬ (position ≠ 0 ∧ v.visit.isPassedBy) →
        (∀ last call, (t.matching journey lookup).LastCall position last →
          r.stops[last]? = some call → call.delay ≠ .none → stop.delay = call.delay) ∧
        ((∀ last call, (t.matching journey lookup).LastCall position last →
          r.stops[last]? = some call → call.delay = .none) → stop.delay = old.delay)) ∧
      ∃ delay, (t.matching journey lookup).Carries r.stops .none position delay ∧
        ∀ next, position ≤ next →
          (∀ k, position ≤ k → k < next → ¬ (t.matching journey lookup).CallAt k) →
          (t.matching journey lookup).Carries r.stops .none next delay := by
  obtain ⟨length, stops, pass, rfl⟩ := pass_of_afterJourney made runs
  have hi := lt_of_matching bare
  have hold : position < current.stops.length := by rwa [length]
  have hslot := Propagation.slots_getElem?_eq_some_iff.mpr
    ⟨_, _, _, List.getElem?_eq_getElem hi, bare, List.getElem?_eq_getElem hold, rfl⟩
  obtain ⟨before, after, stop, hstep, hstop, hdelay, hdeparture⟩ :=
    Propagation.step_of_pass pass hslot
  rw [Propagation.found_slots (length_matching t journey lookup) length] at hdelay
  obtain ⟨passage, hpassage, -, rfl⟩ := Propagation.unmatchedStep_eq_ok_iff.mp hstep
  rw [Propagation.UnmatchedPassage] at hpassage
  refine ⟨_, _, _, List.getElem?_eq_getElem hi, List.getElem?_eq_getElem hold, hstop, ?_, ?_,
    before.delay, hdelay, fun next later bare => hdelay.past later bare⟩
  · rintro ⟨behind, passed⟩
    obtain ⟨p, rfl⟩ := Nat.exists_eq_succ_of_ne_zero behind
    obtain ⟨previous, hprevious, left⟩ := hdeparture
    rw [if_pos ⟨by simp, passed⟩] at hpassage
    refine ⟨previous, hprevious, ?_⟩
    rw [← left]
    exact hpassage
  · intro served
    have own : ¬ (¬ decide (0 + position = 0) = true ∧ t.visits[position].visit.isPassedBy) := by
      simpa using served
    rw [if_neg own] at hpassage
    constructor
    · intro last call hlast hcall late
      rcases hdelay with ⟨other, stop, hother, hstop, carried⟩ | ⟨noCall, -⟩
      · cases hlast.unique hother
        cases hcall.symm.trans hstop
        rw [carried, if_neg late] at hpassage
        exact hpassage
      · exact absurd hlast.2.1 (noCall last hlast.1)
    · intro punctual
      have none : before.delay = .none := by
        rcases hdelay with ⟨last, call, hlast, hcall, carried⟩ | ⟨-, carried⟩
        · rw [carried]
          exact punctual last call hlast hcall
        · exact carried
      rw [if_pos none] at hpassage
      exact hpassage

end Timetable

/-! ## A trip that passes a stop -/

namespace Sample

theorem mod_day_lt (n : Nat) : n % 86400 < 86400 := Nat.mod_lt n (by decide)

theorem mod_trip_lt (n : Nat) : n % 1000 < 1000 := Nat.mod_lt n (by decide)

/-- So many seconds after midnight of the first of May 2024. -/
def past (seconds : Nat) : Instant := moment ⟨seconds % 86400, mod_day_lt seconds⟩

/-- A visit so many seconds after the trip has started. -/
def visitPast (id : String) (seconds : Nat) : TimedVisit :=
  visitAt id ⟨seconds % 1000, mod_trip_lt seconds⟩ ⟨seconds % 1000, mod_trip_lt seconds⟩

/-- A trip over five stops, the third of which it only passes. -/
def through : Timetable where
  tripId := "t"
  serviceCode := 0
  line := none
  visits := [visitPast "A" 0, visitPast "B" 300,
    ⟨⟨⟨"P", none⟩, .notOffered, .notOffered, none⟩, (visitPast "P" 400).passage⟩,
    visitPast "C" 600, visitPast "D" 900]
  nonempty := List.cons_ne_nil _ _
  inOrder := by decide

/-- The record of the trip when all of it is half a minute late. -/
def halfMinute : TripRecord :=
  { through.record with stops := through.visits.map fun v =>
      { StopRecord.ofTimetable v.visit v.passage with
        passage := (v.passage.delayed? (.both 30)).getD v.passage } }

/-- The vehicle leaves B two minutes late, and is on time again at D. -/
def recovering : Journey where
  tripRef := "t"
  line := none
  cancellation := none
  inaccuracy := none
  recorded := []
  estimated := [
    ⟨"B", none, none, ⟨none, some (past 300)⟩, ⟨none, some (past 420)⟩, none, none, none, none,
      []⟩,
    ⟨"D", none, none, ⟨some (past 900), some (past 900)⟩, ⟨none, none⟩, none, none, none, none,
      []⟩]

def recovered : Except UpdateFailure TripRecord :=
  through.afterJourney halfMinute recovering (fun _ => none) .utc

end Sample

/-- The first stop keeps its half minute. The third is passed when the vehicle has left the second,
and the fourth is two minutes late as the second is. -/
theorem Timetable.afterJourney_between_passed :
    ∃ r, Sample.recovered = .ok r ∧ ¬ Sample.recovering.isCancellation ∧
      (Sample.through.matching Sample.recovering fun _ => none).map Option.isSome =
        [false, true, false, false, true] ∧
      r.stops.map (·.delay) = [.both 30, .both 120, .both 20, .both 120, .none] ∧
      (∃ before stop, r.stops[1]? = some before ∧ r.stops[2]? = some stop ∧
        stop.passage = ⟨before.passage.departure, before.passage.departure⟩) ∧
      (∃ call stop, r.stops[1]? = some call ∧ r.stops[3]? = some stop ∧
        stop.delay = call.delay) ∧
      ∃ old stop, Sample.halfMinute.stops[0]? = some old ∧ r.stops[0]? = some stop ∧
        stop.delay = old.delay := by
  have delays : Sample.recovered.toOption.map (·.stops.map (·.delay)) =
      some [.both 30, .both 120, .both 20, .both 120, .none] := by decide +kernel
  have runs : ¬ Sample.recovering.isCancellation := by decide
  have bare : ∀ position ∈ [0, 2, 3],
      (Sample.through.matching Sample.recovering fun _ => none)[position]? = some none := by decide
  cases made : Sample.recovered with
  | error failure =>
    rw [made] at delays
    cases delays
  | ok r =>
    rw [made] at delays
    refine ⟨r, rfl, runs, by decide, Option.some.inj delays, ?_, ?_, ?_⟩
    · obtain ⟨v, _, stop, hv, -, hstop, passed, -⟩ :=
        afterJourney_between made runs (bare 2 (by decide))
      cases hv
      obtain ⟨before, hbefore, follows⟩ := passed (by decide)
      exact ⟨before, stop, hbefore, hstop, follows⟩
    · obtain ⟨v, _, stop, hv, -, hstop, -, served, -⟩ :=
        afterJourney_between made runs (bare 3 (by decide))
      cases hv
      have last : (Sample.through.matching Sample.recovering fun _ => none).LastCall 3 1 := by
        refine ⟨by decide, ⟨_, rfl⟩, fun k hk hlt => Matching.not_callAt_of_none ?_⟩
        obtain rfl : k = 2 := by omega
        decide
      obtain ⟨call, hcall, late⟩ : ∃ call, r.stops[1]? = some call ∧ call.delay = .both 120 := by
        have second := congrArg (·[1]?) (Option.some.inj delays)
        simpa using second
      refine ⟨call, stop, hcall, hstop, (served (by decide)).1 1 call last hcall ?_⟩
      rw [late]
      decide
    · obtain ⟨v, old, stop, -, hold, hstop, -, served, -⟩ :=
        afterJourney_between made runs (bare 0 (by decide))
      refine ⟨old, stop, hold, hstop, (served fun h => h.1 rfl).2 fun last call hlast => ?_⟩
      exact absurd hlast.1 (Nat.not_lt_zero last)

end LiveTimetable
