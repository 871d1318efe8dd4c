import LiveTimetable.Proofs.Columns.Matching

/-!
# Revising a pattern in its columns

A journey revises the pattern of its trip column by column: a position that has a match is looked
up in the columns that the call says something of, and each of these is changed there. What comes
out are the columns of the pattern that `Revision.ofJourney` makes (`reviseColumns_eq`), so that a
revised pattern has as many stops as the timetable, and every position was there.
-/

namespace LiveTimetable

open Columns

variable {ε : Type}

namespace PatternColumns

/-! ## One position -/

/-- What a call says of getting off at a position: first its status, then its activity. -/
def tellDropOff (c : PatternColumns) (position : Nat) (cancelled : Bool)
    (activity : Option Activity) : Except (Halt ε) PatternColumns := do
  let c ← given cancelled (c.setDropOff position .cancelled) c
  match activity.bind (← entry c.dropOffs position).revised? with
  | some rule => c.setDropOff position rule
  | none => .ok c

/-- The same of getting on. -/
def tellPickup (c : PatternColumns) (position : Nat) (cancelled : Bool)
    (activity : Option Activity) : Except (Halt ε) PatternColumns := do
  let c ← given cancelled (c.setPickup position .cancelled) c
  match activity.bind (← entry c.pickups position).revised? with
  | some rule => c.setPickup position rule
  | none => .ok c

/-- The columns after an estimated call at a position. -/
def reviseEstimated (c : PatternColumns) (position : Nat) (call : EstimatedCall) :
    Except (Halt ε) PatternColumns := do
  let c ← c.tellDropOff position call.arrivalCancelled call.arrivalActivity
  let c ← c.tellPickup position call.departureCancelled call.departureActivity
  let c ← given call.isCancelled (c.cancel position) c
  match call.destinations.head? with
  | some headsign => c.setHeadsign position headsign
  | none => .ok c

/-- The columns with another stop at a position, if one takes its place. -/
def serve (c : PatternColumns) (position : Nat) : Option Stop → Except (Halt ε) PatternColumns
  | some stop => c.setStop position stop
  | none => .ok c

/-- The columns after the call that the stop at a position has taken, if any. -/
def reviseAt (c : PatternColumns) (journey : Journey) (matching : List (Option Placed))
    (position : Nat) : Except (Halt ε) PatternColumns :=
  match matching[position]?.join with
  | none => .ok c
  | some found => do
    let c ← c.serve position found.substitute
    match ← readCall journey found with
    | .recorded _ call => given call.isCancelled (c.cancel position) c
    | .estimated _ call => c.reviseEstimated position call

section At

variable {front back : List Visit} {v : Visit} {position : Nat}

theorem tellDropOff_of (cancelled : Bool) (activity : Option Activity)
    (h : front.length = position) :
    (of (front ++ v :: back)).tellDropOff position cancelled activity =
      (.ok (of (front ++
        { v with dropOff := Visit.ruleAfter v.dropOff cancelled activity } :: back)) :
          Except (Halt ε) _) := by
  have status : given cancelled ((of (front ++ v :: back)).setDropOff position .cancelled)
      (of (front ++ v :: back)) =
        (.ok (of (front ++ { v with dropOff := if cancelled then .cancelled else v.dropOff } :: back)) :
          Except (Halt ε) _) := by
    cases cancelled with
    | true => exact setDropOff_of _ h
    | false => rfl
  simp only [tellDropOff, status, bind, Except.bind, Visit.ruleAfter]
  generalize (if cancelled then BoardingRule.cancelled else v.dropOff) = rule
  have told : entry (of (front ++ { v with dropOff := rule } :: back)).dropOffs position =
      (.ok rule : Except (Halt ε) _) := entry_map Visit.dropOff { v with dropOff := rule } h
  simp only [told, BoardingRule.after]
  cases activity.bind rule.revised? with
  | none => rfl
  | some next => exact setDropOff_of next h

theorem tellPickup_of (cancelled : Bool) (activity : Option Activity)
    (h : front.length = position) :
    (of (front ++ v :: back)).tellPickup position cancelled activity =
      (.ok (of (front ++
        { v with pickup := Visit.ruleAfter v.pickup cancelled activity } :: back)) :
          Except (Halt ε) _) := by
  have status : given cancelled ((of (front ++ v :: back)).setPickup position .cancelled)
      (of (front ++ v :: back)) =
        (.ok (of (front ++ { v with pickup := if cancelled then .cancelled else v.pickup } :: back)) :
          Except (Halt ε) _) := by
    cases cancelled with
    | true => exact setPickup_of _ h
    | false => rfl
  simp only [tellPickup, status, bind, Except.bind, Visit.ruleAfter]
  generalize (if cancelled then BoardingRule.cancelled else v.pickup) = rule
  have told : entry (of (front ++ { v with pickup := rule } :: back)).pickups position =
      (.ok rule : Except (Halt ε) _) := entry_map Visit.pickup { v with pickup := rule } h
  simp only [told, BoardingRule.after]
  cases activity.bind rule.revised? with
  | none => rfl
  | some next => exact setPickup_of next h

theorem reviseEstimated_of (call : EstimatedCall) (h : front.length = position) :
    (of (front ++ v :: back)).reviseEstimated position call =
      (.ok (of (front ++ v.afterEstimated call :: back)) : Except (Halt ε) _) := by
  simp only [reviseEstimated, tellDropOff_of _ _ h, tellPickup_of _ _ h, bind, Except.bind,
    Visit.afterEstimated]
  generalize Visit.ruleAfter v.dropOff call.arrivalCancelled call.arrivalActivity = dropOff
  generalize Visit.ruleAfter v.pickup call.departureCancelled call.departureActivity = pickup
  cases call.isCancelled with
  | true =>
    simp only [given, if_true, cancel_of h]
    cases call.destinations.head? with
    | none => rfl
    | some headsign => exact setHeadsign_of headsign h
  | false =>
    simp only [given, Bool.false_eq_true, if_false]
    cases call.destinations.head? with
    | none => rfl
    | some headsign => exact setHeadsign_of headsign h

/-- A position is revised as its visit is. -/
theorem reviseAt_of {journey : Journey} {front' back' : List (Option Match)} {found : Option Match}
    (inPlace : ∀ m, found = some m → m.InPlace journey) (h : front.length = position)
    (h' : front'.length = position) :
    (of (front ++ v :: back)).reviseAt journey
        ((front' ++ found :: back').map (Option.map Match.placed)) position =
      (.ok (of (front ++ v.after found :: back)) : Except (Halt ε) _) := by
  have here : ((front' ++ found :: back').map (Option.map Match.placed))[position]?.join =
      found.map Match.placed := by
    subst h'
    simp
  rw [reviseAt, here]
  cases found with
  | none => rfl
  | some m =>
    obtain ⟨call, serving⟩ := m
    have served : (of (front ++ v :: back)).serve position (Match.placed ⟨call, serving⟩).substitute =
        (.ok (of (front ++ v.servedBy serving :: back)) : Except (Halt ε) _) := by
      have told : (Match.placed ⟨call, serving⟩).substitute = serving.substitute? := by
        cases call <;> rfl
      rw [told]
      cases serving with
      | itself => rfl
      | substitute stop => exact setStop_of stop h
    simp only [Option.map_some, served, bind, Except.bind, readCall_of (inPlace _ rfl)]
    cases call with
    | recorded index call =>
      simp only [Visit.after, Visit.revised, Visit.afterRecorded]
      cases call.isCancelled with
      | true => exact cancel_of h
      | false => rfl
    | estimated index call => exact reviseEstimated_of call h

end At

/-! ## All positions -/

/-- The columns after the calls at so many positions from the given one on. -/
def revise (journey : Journey) (matching : List (Option Placed)) :
    Nat → Nat → PatternColumns → Except (Halt ε) PatternColumns
  | 0, _, c => .ok c
  | count + 1, position, c => do
    revise journey matching count (position + 1) (← c.reviseAt journey matching position)

theorem revise_of {journey : Journey} {front back : List Visit} {front' back' : List (Option Match)}
    (inPlace : ∀ m, some m ∈ back' → m.InPlace journey) (h : front'.length = front.length)
    (h' : back'.length = back.length) :
    revise journey ((front' ++ back').map (Option.map Match.placed)) back.length front.length
        (of (front ++ back)) =
      (.ok (of (front ++ List.zipWith Visit.after back back')) : Except (Halt ε) _) := by
  induction back generalizing front front' back' with
  | nil =>
    cases List.length_eq_zero_iff.mp h'
    rfl
  | cons v back ih =>
    obtain ⟨found, back', rfl⟩ := List.exists_cons_of_length_eq_add_one h'
    have here : (of (front ++ v :: back)).reviseAt journey
        ((front' ++ found :: back').map (Option.map Match.placed)) front.length =
          (.ok (of (front ++ v.after found :: back)) : Except (Halt ε) _) :=
      reviseAt_of (fun m hm => inPlace m (hm ▸ List.mem_cons_self)) rfl h
    simp only [List.length_cons, revise, here, bind, Except.bind]
    have others := @ih (front ++ [v.after found]) (front' ++ [found]) back'
      (fun m hm => inPlace m (List.mem_cons_of_mem _ hm)) (by simp [h]) (Nat.succ.inj h')
    simpa using others

end PatternColumns

namespace Timetable

/-- The revised pattern with its matching, and whether stops or rules differ from the timetable. -/
def reviseColumns (t : Timetable) (journey : Journey) (lookup : StopLookup) :
    Except (Halt UpdateError) (PatternColumns × List (Option Placed) × Bool) := do
  let scheduled : PatternColumns := .of t.pattern
  let matching ← matchCalls scheduled journey lookup
  let pattern ← PatternColumns.revise journey matching scheduled.stops.length 0 scheduled
  if pattern.stops.length ≠ scheduled.stops.length then
    .error (.told (.stopCountMismatch t.tripId scheduled.stops.length pattern.stops.length))
  else return (pattern, matching, !pattern.sameService scheduled)

/-- **Columns are revised as patterns are.** -/
theorem reviseColumns_eq (t : Timetable) (journey : Journey) (lookup : StopLookup) :
    t.reviseColumns journey lookup =
      lift ((Revision.ofJourney t journey lookup).map fun r =>
        (.of r.pattern, r.matching.map (Option.map Match.placed), r.isModified t)) := by
  have matched := matchCalls_eq t.pattern journey lookup
  cases blank : journey.firstBlankRef? with
  | some call =>
    have refused : Matching.ofJourney t.pattern journey lookup =
        .error (.missingStopRef journey.tripRef call) := by rw [Matching.ofJourney, blank]
    rw [refused] at matched
    simp only [reviseColumns, matched, Revision.ofJourney, refused]
    rfl
  | none =>
    have found : Matching.ofJourney t.pattern journey lookup = .ok (t.matching journey lookup) := by
      rw [Matching.ofJourney, blank]
      rfl
    rw [found] at matched
    have walked : PatternColumns.revise journey
        ((t.matching journey lookup).map (Option.map Match.placed)) t.pattern.length 0
        (.of t.pattern) =
          (.ok (.of (t.revised journey lookup)) : Except (Halt UpdateError) _) :=
      @PatternColumns.revise_of UpdateError journey [] t.pattern [] (t.matching journey lookup)
        (fun m hm => Matching.inPlace_matching hm) rfl (by rw [length_matching, length_pattern])
    have count : (PatternColumns.of t.pattern).stops.length = t.pattern.length := List.length_map ..
    simp only [reviseColumns, matched, Revision.ofJourney, found, bind, Except.bind, Except.map,
      lift_ok, count, walked]
    have same : (PatternColumns.of (t.revised journey lookup)).stops.length = t.pattern.length := by
      simp [PatternColumns.of, revised, length_pattern]
    rw [if_neg (not_not.mpr same), PatternColumns.sameService_of]
    rfl

end Timetable

end LiveTimetable
