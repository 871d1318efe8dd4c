import LiveTimetable.Proofs.Columns.Revision
import LiveTimetable.Proofs.Update.Refusal

/-!
# A journey laid on columns

The pass along a trip, with the record that it makes and the record in effect in columns. The new
record starts with the scheduled times and the revised pattern; each position is then changed in the
columns that its call says something of. The delays of the record in effect are differences that
nobody checks: that they are held is what `Timetable.Sound` says of every record of a store.

Main statement: on columns a journey does what `Timetable.afterJourney` does
(`Timetable.afterJourneyColumns_eq`), so no calculation with them crashes.
-/

namespace LiveTimetable

open Columns Propagation

variable {ε : Type}

/-! ## Checks -/

namespace TripColumns

/-- The first of so many positions, from the given one on, whose delay is not held. -/
def unheldFrom (c : TripColumns) : Nat → Nat → Except (Halt ε) (Option Nat)
  | 0, _ => .ok none
  | count + 1, position => do
    let delay := (← c.passageAt position).delayFrom (← c.scheduledAt position)
    if delay.Held then c.unheldFrom count (position + 1) else return some position

/-- The first of so many positions, from the given one on, where times run backwards. -/
def disorderFrom (c : TripColumns) : Nat → Nat → Seconds → Except (Halt ε) (Option Nat)
  | 0, _, _ => .ok none
  | count + 1, position, since => do
    let passage ← c.passageAt position
    if passage.arrival < since ∨ passage.departure < passage.arrival then return some position
    else c.disorderFrom count (position + 1) passage.departure

theorem unheldFrom_of {r : TripRecord} {front back : List StopRecord}
    (hr : r.stops = front ++ back) :
    (of r).unheldFrom back.length front.length =
      (.ok ((back.findIdx? fun s => ¬ s.delay.Held).map (· + front.length)) :
        Except (Halt ε) _) := by
  induction back generalizing front with
  | nil => rfl
  | cons s back ih =>
    have others := @ih (front ++ [s]) (by simp [hr])
    rw [List.length_append, List.length_singleton] at others
    simp only [List.length_cons, unheldFrom, passageAt_of hr rfl, scheduledAt_of hr rfl, bind,
      Except.bind, others, List.findIdx?_cons]
    by_cases held : s.delay.Held
    · have told : (s.passage.delayFrom s.scheduled).Held := held
      simp only [told, held, if_true, not_true, decide_false, Bool.false_eq_true, if_false,
        Option.map_map, Function.comp_def, Nat.add_assoc, Nat.add_comm 1]
    · have told : ¬ (s.passage.delayFrom s.scheduled).Held := held
      simp [told, held, pure, Except.pure]

theorem disorderFrom_of {r : TripRecord} {front back : List StopRecord}
    (hr : r.stops = front ++ back) (since : Seconds) :
    (of r).disorderFrom back.length front.length since =
      (.ok ((Passage.disorderSince? since (back.map (·.passage))).map (· + front.length)) :
        Except (Halt ε) _) := by
  induction back generalizing front since with
  | nil => rfl
  | cons s back ih =>
    have others := @ih (front ++ [s]) (by simp [hr]) s.passage.departure
    rw [List.length_append, List.length_singleton] at others
    simp only [List.length_cons, disorderFrom, passageAt_of hr rfl, bind, Except.bind, others,
      List.map_cons, Passage.disorderSince?]
    split
    next => simp [pure, Except.pure]
    next =>
      simp only [Option.map_map, Function.comp_def, Nat.add_assoc, Nat.add_comm 1]

/-- The record, if its times do not run backwards. -/
def checkOrder (c : TripColumns) (line : String) : Except (Halt UpdateError) TripColumns := do
  match ← c.disorderFrom c.numStops 0 .least with
  | some position => .error (.told (.nonIncreasingTimes c.tripId line position))
  | none => return c

/-- The record, if all its delays are held and its times do not run backwards. -/
def checkTimes (c : TripColumns) (line : String) : Except (Halt UpdateError) TripColumns := do
  match ← c.unheldFrom c.numStops 0 with
  | some position => .error (.told (.timeOutOfRange c.tripId position))
  | none => c.checkOrder line

theorem checkOrder_of (r : TripRecord) (line : String) :
    (of r).checkOrder line = lift ((r.checkOrder line).map of) := by
  have disorder := @disorderFrom_of UpdateError r [] r.stops rfl .least
  simp only [List.length_nil, Nat.add_zero, Option.map_id'] at disorder
  simp only [checkOrder, numStops_of, disorder, bind, Except.bind, TripRecord.checkOrder,
    TripRecord.firstDisorder?, Passage.firstDisorder?]
  cases Passage.disorderSince? .least (r.stops.map (·.passage)) with
  | some position => rfl
  | none => rfl

theorem checkTimes_of (r : TripRecord) (line : String) :
    (of r).checkTimes line = lift ((r.checkDelays >>= (·.checkOrder line)).map of) := by
  have unheld := @unheldFrom_of UpdateError r [] r.stops rfl
  simp only [List.length_nil, Nat.add_zero, Option.map_id'] at unheld
  simp only [checkTimes, numStops_of, unheld, checkOrder_of, bind, Except.bind,
    TripRecord.checkDelays, TripRecord.firstDelayNotHeld?]
  cases r.stops.findIdx? fun s => ¬ s.delay.Held with
  | some position => rfl
  | none => rfl

end TripColumns

/-! ## One position -/

namespace TripColumns

/-- The flags that a call sets at its position. -/
def tellFlags (c : TripColumns) (journey : Journey) (position : Nat) (call : MatchedCall) :
    Except (Halt ε) TripColumns := do
  let c ← given call.isCancelled (c.setCancelled position) c
  match call with
  | .recorded _ call => c.setRecorded position call.wasObserved
  | .estimated _ call => c.setInaccurate position (journey.isInaccurate || call.isInaccurate)

/-- The columns with a delay at a position, and the departure from there. -/
def delayed (c : TripColumns) (position : Nat) (delay : Delay) :
    Except (Halt Obstacle) (Seconds × TripColumns) := do
  match ← c.setDelay? position delay with
  | none => .error (.told .outOfRange)
  | some c => return ((← c.passageAt position).departure, c)

/-- A position with a call. Its times are read from the new record, where they are still the
scheduled ones. -/
def matchedAt (c : TripColumns) (s : Setting) (position : Nat) (carry : Carry) (found : Placed) :
    Except (Halt Obstacle) (Carry × TripColumns) := do
  let call ← readCall s.journey found
  let start ← lift (dayAfter s carry.start call)
  let c ← c.tellFlags s.journey position call
  let scheduled ← c.passageAt position
  let passage ← lift (Propagation.passageAt s (position = 0) start call scheduled)
  let delay := passage.delayFrom scheduled
  if delay.Held then do
    let (departure, c) ← c.delayed position delay
    return (⟨start, departure, delay⟩, c)
  else .error (.told .outOfRange)

/-- The delay of a position that neither has a call nor is passed by. -/
def carriedDelay (current : TripColumns) (position : Nat) (carry : Carry) :
    Except (Halt ε) Delay :=
  if carry.delay = .none then current.delayAt position else .ok carry.delay

/-- Nobody gets on or off at a position behind the first. -/
def passedBy (scheduled : PatternColumns) (position : Nat) : Except (Halt ε) Bool :=
  if position = 0 then .ok false else scheduled.isPassedBy position

/-- A position without a call. -/
def unmatchedAt (c : TripColumns) (scheduled : PatternColumns) (current : TripColumns)
    (position : Nat) (carry : Carry) : Except (Halt Obstacle) (Carry × TripColumns) := do
  if ← passedBy scheduled position then
    let c ← c.setPassage position ⟨carry.departure, carry.departure⟩
    return ({ carry with departure := (← c.passageAt position).departure }, c)
  else
    let delay ← carriedDelay current position carry
    let (departure, c) ← c.delayed position delay
    return ({ carry with departure }, c)

/-- The new record behind a position. -/
def stepAt (c : TripColumns) (s : Setting) (scheduled : PatternColumns) (current : TripColumns)
    (matching : List (Option Placed)) (position : Nat) (carry : Carry) :
    Except (Halt Obstacle) (Carry × TripColumns) :=
  match matching[position]?.join with
  | some found => c.matchedAt s position carry found
  | none => c.unmatchedAt scheduled current position carry

end TripColumns

/-- The stop of a record that has not been told anything of it but its revised visit. -/
def TimedVisit.fresh (v : TimedVisit) (found : Option Match) : StopRecord :=
  .ofTimetable (v.visit.after found) v.passage

namespace TripColumns

section At

variable {s : Setting} {r : TripRecord} {front back : List StopRecord} {position : Nat}

theorem delayed_of {stop : StopRecord} (delay : Delay) (h : front.length = position) :
    (of { r with stops := front ++ stop :: back }).delayed position delay =
      match stop.scheduled.delayed? delay with
      | none => .error (.told .outOfRange)
      | some passage =>
        .ok (passage.departure, of { r with stops := front ++ { stop with passage } :: back }) := by
  simp only [delayed, setDelay?_of _ h, bind, Except.bind, StopRecord.withDelay?]
  cases stop.scheduled.delayed? delay with
  | none => rfl
  | some passage =>
    have there : (of { r with stops := front ++ { stop with passage } :: back }).passageAt position =
        (.ok passage : Except (Halt Obstacle) _) :=
      passageAt_of (s := { stop with passage }) rfl h
    simp only [Option.map_some, there]
    rfl

/-- The stop of a record after the flags of its call. -/
def flagged (s : Setting) (v : TimedVisit) (found : Match) : StopRecord :=
  stopWith s ⟨v, some found, .none⟩ found v.passage

theorem tellFlags_of {v : TimedVisit} {found : Match} (h : front.length = position) :
    (of { r with stops := front ++ v.fresh (some found) :: back }).tellFlags s.journey position
        found.call =
      (.ok (of { r with stops := front ++ flagged s v found :: back }) : Except (Halt ε) _) := by
  have cancelled : given found.call.isCancelled
      ((of { r with stops := front ++ v.fresh (some found) :: back }).setCancelled position)
      (of { r with stops := front ++ v.fresh (some found) :: back }) =
        (.ok (of { r with stops := front ++
          { v.fresh (some found) with cancelled := found.call.isCancelled } :: back }) :
            Except (Halt ε) _) := by
    cases found.call.isCancelled with
    | true => exact setCancelled_of h
    | false => rfl
  simp only [tellFlags, cancelled, bind, Except.bind]
  obtain ⟨call, serving⟩ := found
  cases call with
  | recorded index call => exact setRecorded_of _ h
  | estimated index call => exact setInaccurate_of _ h

theorem matchedAt_of {v : TimedVisit} {found : Match} {delay : Delay} {carry : Carry}
    (inPlace : found.InPlace s.journey) (h : front.length = position) :
    (of { r with stops := front ++ v.fresh (some found) :: back }).matchedAt s position carry
        found.placed =
      lift ((matchedStep s (position = 0) carry ⟨v, some found, delay⟩ found).map fun (carry, stop) =>
        (carry, of { r with stops := front ++ stop :: back })) := by
  have scheduled : (of { r with stops := front ++ flagged s v found :: back }).passageAt position =
      (.ok v.passage : Except (Halt Obstacle) _) := passageAt_of (s := flagged s v found) rfl h
  simp only [matchedAt, matchedStep, readCall_of inPlace, bind, Except.bind, tellFlags_of h,
    scheduled]
  cases dayAfter s carry.start found.call with
  | error obstacle => rfl
  | ok start =>
    simp only [lift_ok]
    cases Propagation.passageAt s (position = 0) start found.call v.passage with
    | error obstacle => rfl
    | ok passage =>
      simp only [lift_ok]
      by_cases held : (passage.delayFrom v.passage).Held
      · have fits : (flagged s v found).scheduled.delayed? (passage.delayFrom v.passage) =
            some passage := Passage.delayed?_eq_some_iff.mpr rfl
        simp only [if_pos held, delayed_of _ h, fits]
        rfl
      · rw [if_neg held, if_neg held]
        rfl

theorem unmatchedAt_of {v : TimedVisit} {scheduled : PatternColumns} {current : TripColumns}
    {delay : Delay} {carry : Carry}
    (passed : scheduled.isPassedBy position = (.ok v.visit.isPassedBy : Except (Halt Obstacle) _))
    (told : current.delayAt position = (.ok delay : Except (Halt Obstacle) _))
    (h : front.length = position) :
    (of { r with stops := front ++ v.fresh none :: back }).unmatchedAt scheduled current position
        carry =
      lift ((unmatchedStep (position = 0) carry ⟨v, none, delay⟩).map fun (carry, stop) =>
        (carry, of { r with stops := front ++ stop :: back })) := by
  have carried : carriedDelay current position carry =
      (.ok (if carry.delay = .none then delay else carry.delay) : Except (Halt Obstacle) _) := by
    unfold carriedDelay
    split
    next => exact told
    next => rfl
  have here : passedBy scheduled position =
      (.ok (¬ position = 0 ∧ v.visit.isPassedBy : Bool) : Except (Halt Obstacle) _) := by
    unfold passedBy
    split
    next first => simp [first]
    next later => simp [later, passed]
  simp only [unmatchedAt, here, carried, bind, Except.bind, unmatchedStep, decide_eq_true_eq]
  by_cases passedOver : ¬ position = 0 ∧ v.visit.isPassedBy
  · have there : (of { r with stops := front ++
        { v.fresh none with passage := ⟨carry.departure, carry.departure⟩ } :: back }).passageAt
          position = (.ok ⟨carry.departure, carry.departure⟩ : Except (Halt Obstacle) _) :=
      passageAt_of (s := { v.fresh none with passage := ⟨carry.departure, carry.departure⟩ }) rfl h
    simp only [if_pos passedOver, setPassage_of _ h, there]
    rfl
  · have one : (if carry.delay = .none then v.passage.delayed? delay
        else v.passage.delayed? carry.delay) =
          v.passage.delayed? (if carry.delay = .none then delay else carry.delay) :=
      (apply_ite v.passage.delayed? _ _ _).symm
    have same : (v.fresh none).scheduled = v.passage := rfl
    simp only [if_neg passedOver, delayed_of _ h, same, one]
    cases v.passage.delayed? (if carry.delay = .none then delay else carry.delay) with
    | none => rfl
    | some passage => rfl

theorem stepAt_of {v : TimedVisit} {found : Option Match} {scheduled : PatternColumns}
    {current : TripColumns} {matching : List (Option Placed)} {delay : Delay} {carry : Carry}
    (here : matching[position]?.join = found.map Match.placed)
    (inPlace : ∀ m, found = some m → m.InPlace s.journey)
    (passed : scheduled.isPassedBy position = (.ok v.visit.isPassedBy : Except (Halt Obstacle) _))
    (told : current.delayAt position = (.ok delay : Except (Halt Obstacle) _))
    (h : front.length = position) :
    (of { r with stops := front ++ v.fresh found :: back }).stepAt s scheduled current matching
        position carry =
      lift ((step s (position = 0) carry ⟨v, found, delay⟩).map fun (carry, stop) =>
        (carry, of { r with stops := front ++ stop :: back })) := by
  rw [stepAt, here, step]
  cases found with
  | none => exact unmatchedAt_of passed told h
  | some m => exact matchedAt_of (inPlace m rfl) h

end At

/-! ## All positions -/

/-- The new record behind so many positions from the given one on. -/
def passFrom (s : Setting) (scheduled : PatternColumns) (current : TripColumns)
    (matching : List (Option Placed)) :
    Nat → Nat → Carry → TripColumns → Except (Halt (Nat × Obstacle)) TripColumns
  | 0, _, _, c => .ok c
  | count + 1, position, carry, c => do
    let (carry, c) ← (c.stepAt s scheduled current matching position carry).mapError
      (Halt.map (position, ·))
    passFrom s scheduled current matching count (position + 1) carry c

/-- What the pass meets at a position: the scheduled visit, its match and the stop in effect. -/
def slotOf (place : TimedVisit × Option Match × StopRecord) : Slot :=
  ⟨place.1, place.2.1, place.2.2.delay⟩

theorem passFrom_of {s : Setting} {r current : TripRecord} {front : List StopRecord}
    {places' places : List (TimedVisit × Option Match × StopRecord)} {carry : Carry}
    (hcurrent : current.stops = (places' ++ places).map (·.2.2))
    (held : ∀ p ∈ places, p.2.2.delay.Held)
    (inPlace : ∀ p ∈ places, ∀ m, p.2.1 = some m → m.InPlace s.journey)
    (h : places'.length = front.length) :
    passFrom s (.of ((places' ++ places).map (·.1.visit))) (of current)
        ((places' ++ places).map (·.2.1.map Match.placed)) places.length front.length carry
        (of { r with stops := front ++ places.map fun p => p.1.fresh p.2.1 }) =
      lift ((pass s front.length carry (places.map slotOf)).map fun stops =>
        of { r with stops := front ++ stops }) := by
  induction places generalizing front places' carry with
  | nil => rfl
  | cons place places ih =>
    obtain ⟨v, found, old⟩ := place
    have ahead : ∀ {α : Type} (f : TimedVisit × Option Match × StopRecord → α),
        (places'.map f).length = front.length := fun f => (List.length_map f).trans h
    have others := fun carry' stop => @ih (front ++ [stop]) (places' ++ [(v, found, old)]) carry'
      (by simp [hcurrent]) (fun p hp => held p (List.mem_cons_of_mem _ hp))
      (fun p hp => inPlace p (List.mem_cons_of_mem _ hp)) (by simp [h])
    simp only [List.append_assoc, List.singleton_append, List.length_append,
      List.length_singleton] at others
    rw [List.map_append, List.map_cons] at hcurrent
    have passed : (PatternColumns.of ((places' ++ (v, found, old) :: places).map
        (·.1.visit))).isPassedBy front.length = (.ok v.visit.isPassedBy : Except (Halt Obstacle) _) := by
      rw [List.map_append, List.map_cons]
      exact PatternColumns.isPassedBy_of (ahead _)
    have here : ((places' ++ (v, found, old) :: places).map
        (·.2.1.map Match.placed))[front.length]?.join = found.map Match.placed := by
      rw [← h]
      simp
    have stepped : (of { r with
          stops := front ++ v.fresh found :: places.map fun p => p.1.fresh p.2.1 }).stepAt s
        (.of ((places' ++ (v, found, old) :: places).map (·.1.visit))) (of current)
        ((places' ++ (v, found, old) :: places).map (·.2.1.map Match.placed)) front.length carry = _ :=
      stepAt_of here (inPlace _ List.mem_cons_self) passed
        (delayAt_of (held _ List.mem_cons_self) hcurrent (ahead _)) rfl
    simp only [List.map_cons, List.length_cons, passFrom, stepped, slotOf, Propagation.pass,
      mapError_lift, bind, Except.bind]
    cases step s (front.length = 0) carry ⟨v, found, old.delay⟩ with
    | error obstacle => rfl
    | ok made =>
      refine (others made.1 made.2).trans ?_
      simp only [Except.map]
      cases pass s (front.length + 1) made.1 (places.map slotOf) with
      | error obstacle => rfl
      | ok stops => rfl

end TripColumns

/-! ## Journeys -/

namespace Timetable

/-- The scheduled record over another pattern. -/
def freshColumns (t : Timetable) (pattern : PatternColumns) : TripColumns :=
  { TripColumns.of t.record with pattern }

/-- The new record of a journey that runs. -/
def propagateColumns (t : Timetable) (current : TripColumns) (journey : Journey)
    (lookup : StopLookup) (zone : Zone) : Except (Halt UpdateFailure) TripColumns := do
  let (pattern, matching, modified) ←
    (t.reviseColumns journey lookup).mapError (Halt.map .rejected)
  let fresh := t.freshColumns pattern
  let firstDeparture ← entry fresh.scheduledDepartures 0
  let c ← (TripColumns.passFrom ⟨zone, firstDeparture, journey⟩ (.of t.pattern) current matching
    fresh.numStops 0 .initial fresh).mapError (Halt.map fun
      | (position, .outOfRange) => .rejected (.timeOutOfRange t.tripId position)
      | (_, .offCalendar) => .offCalendar)
  let c := { c with state := if modified then .modified else .updated }
  (c.checkTimes (t.lineName journey.line)).mapError (Halt.map .rejected)

/-- The record is one of this trip, with an entry for each of its stops. -/
def checkColumns (t : Timetable) (current : TripColumns) : Except UpdateError Unit :=
  if current.tripId ≠ t.tripId then .error (.tripMismatch t.tripId current.tripId)
  else if current.numStops ≠ (PatternColumns.of t.pattern).stops.length then
    .error (.stopCountMismatch t.tripId (PatternColumns.of t.pattern).stops.length current.numStops)
  else .ok ()

/-- The record after a journey. -/
def afterJourneyColumns (t : Timetable) (current : TripColumns) (journey : Journey)
    (lookup : StopLookup) (zone : Zone) : Except (Halt UpdateFailure) TripColumns := do
  lift ((t.checkColumns current).mapError .rejected)
  if journey.tripRef ≠ t.tripId then
    .error (.told (.rejected (.tripMismatch t.tripId journey.tripRef)))
  else if journey.isCancellation then return { current with state := .canceled }
  else t.propagateColumns current journey lookup zone

variable {t : Timetable} {current : TripRecord} {journey : Journey} {lookup : StopLookup}
  {zone : Zone}

/-- A column that is made of scheduled data is the same over every pattern. -/
theorem map_fresh {α : Type} {f : StopRecord → α} {g : TimedVisit → α}
    (same : ∀ v found, f (TimedVisit.fresh v found) = g v) {visits : List TimedVisit} {m : Matching}
    (hm : m.length = visits.length) :
    (List.zipWith TimedVisit.fresh visits m).map f = visits.map g := by
  induction visits generalizing m with
  | nil => rfl
  | cons v visits ih =>
    obtain ⟨found, m, rfl⟩ := List.exists_cons_of_length_eq_add_one hm
    rw [List.zipWith_cons_cons, List.map_cons, List.map_cons, same, ih (Nat.succ.inj hm)]

/-- The scheduled record over a revised pattern holds the stops that the pass starts from. -/
theorem freshColumns_revised (t : Timetable) {m : Matching} (hm : m.length = t.visits.length) :
    t.freshColumns (.of (List.zipWith Visit.after t.pattern m)) =
      .of { t.record with stops := List.zipWith TimedVisit.fresh t.visits m } := by
  have visits : (List.zipWith TimedVisit.fresh t.visits m).map (·.visit) =
      List.zipWith Visit.after t.pattern m := by
    rw [List.map_zipWith, pattern, List.zipWith_map_left]
    rfl
  have column : ∀ {α : Type} (f : StopRecord → α) (g : TimedVisit → α),
      (∀ v found, f (TimedVisit.fresh v found) = g v) → (∀ v, f (.ofTimetable v.visit v.passage) = g v) →
      t.record.stops.map f = (List.zipWith TimedVisit.fresh t.visits m).map f := by
    intro α f g revised scheduled
    rw [map_fresh revised hm, record, List.map_map]
    exact List.map_congr_left fun v _ => scheduled v
  simp only [freshColumns, TripColumns.of, TripRecord.pattern, visits, TripColumns.mk.injEq, true_and]
  refine ⟨?_, ?_, ?_, ?_, ?_, ?_, ?_⟩
  · exact column _ (·.passage.arrival) (fun _ _ => rfl) fun _ => rfl
  · exact column _ (·.passage.departure) (fun _ _ => rfl) fun _ => rfl
  · exact column _ (·.passage.arrival) (fun _ _ => rfl) fun _ => rfl
  · exact column _ (·.passage.departure) (fun _ _ => rfl) fun _ => rfl
  · exact column _ (fun _ => false) (fun _ _ => rfl) fun _ => rfl
  · exact column _ (fun _ => false) (fun _ _ => rfl) fun _ => rfl
  · exact column _ (fun _ => false) (fun _ _ => rfl) fun _ => rfl

/-- The columns of a record are checked as the record is. -/
theorem checkColumns_of (t : Timetable) (current : TripRecord) :
    t.checkColumns (.of current) = t.checkRecord current := by
  have length : (PatternColumns.of t.pattern).stops.length = t.visits.length := by
    rw [← t.length_pattern]
    exact List.length_map ..
  rw [checkColumns, length, TripColumns.numStops_of]
  rfl

/-- The first departure is there to be read. -/
theorem entry_firstDeparture {c : TripColumns}
    (hc : c.scheduledDepartures = t.visits.map (·.passage.departure)) :
    entry c.scheduledDepartures 0 = (.ok t.firstDeparture : Except (Halt ε) _) := by
  have first : t.visits[0]? = some (t.visits.head t.nonempty) := by
    rw [List.head_eq_getElem]
    exact List.getElem?_eq_getElem _
  rw [hc, entry, List.getElem?_map, first]
  rfl

/-- The pass over all positions makes the columns of the stops that the pass along the trip
makes. -/
theorem passFrom_eq (sound : t.Sound current) :
    TripColumns.passFrom ⟨zone, t.firstDeparture, journey⟩ (.of t.pattern) (.of current)
        ((t.matching journey lookup).map (Option.map Match.placed))
        (t.freshColumns (.of (t.revised journey lookup))).numStops 0 .initial
        (t.freshColumns (.of (t.revised journey lookup))) =
      lift ((pass ⟨zone, t.firstDeparture, journey⟩ 0 .initial
        (slots t (t.matching journey lookup) current)).map fun stops =>
          .of { t.record with stops }) := by
  have length := t.length_matching journey lookup
  obtain ⟨visits, found, stops⟩ := Lists.map_zip_zip length sound.length_stops
  generalize hplaces : t.visits.zip ((t.matching journey lookup).zip current.stops) = places
    at visits found stops
  have slots_eq : slots t (t.matching journey lookup) current = places.map TripColumns.slotOf :=
    congrArg (List.map TripColumns.slotOf) hplaces
  have pattern_eq : t.pattern = places.map (·.1.visit) := by
    rw [pattern, ← visits, List.map_map]
    rfl
  have matching_eq : (t.matching journey lookup).map (Option.map Match.placed) =
      places.map (·.2.1.map Match.placed) := by
    rw [← found, List.map_map]
    rfl
  have fresh_eq : t.freshColumns (.of (t.revised journey lookup)) =
      .of { t.record with stops := places.map fun p => p.1.fresh p.2.1 } := by
    refine (t.freshColumns_revised length).trans ?_
    rw [← found, ← visits, List.zipWith_map, List.zipWith_self]
  have held : ∀ p ∈ places, p.2.2.delay.Held := by
    intro p hp
    exact sound.held _ (stops ▸ List.mem_map_of_mem hp)
  have inPlace : ∀ p ∈ places, ∀ m, p.2.1 = some m → m.InPlace journey := by
    intro p hp m hm
    exact Matching.inPlace_matching (found ▸ List.mem_map.mpr ⟨p, hp, hm⟩)
  rw [slots_eq, pattern_eq, matching_eq, fresh_eq, TripColumns.numStops_of, List.length_map]
  exact @TripColumns.passFrom_of ⟨zone, t.firstDeparture, journey⟩ t.record current [] [] places
    .initial stops.symm held inPlace rfl

theorem propagateColumns_eq (sound : t.Sound current) :
    t.propagateColumns (.of current) journey lookup zone =
      lift ((t.propagate current journey lookup zone).map .of) := by
  have revised := t.reviseColumns_eq journey lookup
  cases blank : journey.firstBlankRef? with
  | some call =>
    have refused : Revision.ofJourney t journey lookup = .error _ :=
      revision_eq_error_iff.mpr ⟨call, blank, rfl⟩
    rw [refused] at revised
    simp only [propagateColumns, propagate, revised, refused]
    rfl
  | none =>
    rw [revision_eq_ok_iff.mpr ⟨blank, rfl⟩] at revised
    have first : entry (t.freshColumns (.of (t.revised journey lookup))).scheduledDepartures 0 =
        (.ok t.firstDeparture : Except (Halt UpdateFailure) _) :=
      entry_firstDeparture (by
        simp [freshColumns, TripColumns.of, record, StopRecord.ofTimetable, Function.comp_def])
    rw [propagate_of_named blank]
    simp only [propagateColumns, revised, first, draft, state_of_revision, Except.map, lift_ok,
      Except.mapError, bind, Except.bind, passFrom_eq sound]
    cases pass ⟨zone, t.firstDeparture, journey⟩ 0 .initial
        (slots t (t.matching journey lookup) current) with
    | error stuck => rfl
    | ok stops =>
      -- with its state the record in columns is the draft
      have checked : (TripColumns.of ⟨t.tripId, t.serviceCode, t.stateAfter journey lookup,
          stops⟩).checkTimes (t.lineName journey.line) = _ := TripColumns.checkTimes_of _ _
      refine (congrArg (Except.mapError (Halt.map UpdateFailure.rejected)) checked).trans ?_
      rw [mapError_lift]
      simp only [bind, Except.bind]
      cases TripRecord.checkDelays ⟨t.tripId, t.serviceCode, t.stateAfter journey lookup, stops⟩ with
      | error e => rfl
      | ok draft =>
        dsimp only
        cases draft.checkOrder (t.lineName journey.line) with
        | error e => rfl
        | ok r => rfl

/-- **On columns a journey of a sound record does what it does on the record.** -/
theorem afterJourneyColumns_eq (sound : t.Sound current) :
    t.afterJourneyColumns (.of current) journey lookup zone =
      lift ((t.afterJourney current journey lookup zone).map .of) := by
  have checked : t.checkRecord current = .ok () :=
    checkRecord_eq_ok_iff.mpr ⟨sound.tripId, sound.length_stops⟩
  rw [afterJourneyColumns, afterJourney, checkColumns_of, checked]
  simp only [Except.mapError, lift_ok, bind, Except.bind]
  split
  next => rfl
  next =>
    split
    next => rfl
    next => exact propagateColumns_eq sound

end Timetable

end LiveTimetable
