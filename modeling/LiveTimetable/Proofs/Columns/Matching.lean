import LiveTimetable.Proofs.Columns.Basic
import LiveTimetable.Proofs.Update.Greedy

/-!
# Matching with flags

Which calls of a journey have been taken can be kept in flags, one for each call: the walk along the
stops then looks through all calls each time and skips those that are taken, and a match holds the
place of its call instead of the call. `matchCalls` does so, and finds what `Matching.along` finds,
which passes the remaining calls on (`matchCalls_eq`). Every flag that it looks at is there, and at
the place that a match holds there is its call (`readCall_of`).
-/

namespace LiveTimetable

open Columns

/-- A match by the place of its call, among the recorded ones or among the estimated ones. -/
structure Placed where
  observed : Bool
  index : Nat
  substitute : Option Stop
deriving DecidableEq, Repr

def Match.placed (m : Match) : Placed :=
  match m.call with
  | .recorded index _ => ⟨true, index, m.serving.substitute?⟩
  | .estimated index _ => ⟨false, index, m.serving.substitute?⟩

variable {α ε : Type}

/-! ## One stop -/

/-- The first call that serves the stop and is not taken, with the flags after it. -/
def takeFirst (stop : Stop) (lookup : StopLookup) (ref : α → String) :
    Nat → List α → List Bool → Except (Halt ε) (Option (Nat × Serving) × List Bool)
  | _, [], used => .ok (none, used)
  | index, call :: rest, used => do
    if ← entry used index then takeFirst stop lookup ref (index + 1) rest used
    else
      match stop.serving? lookup (ref call) with
      | some serving => return (some (index, serving), ← setEntry used index true)
      | none => takeFirst stop lookup ref (index + 1) rest used

/-- The calls that are not taken, each with its place. -/
def unused : Nat → List α → List Bool → List (α × Nat)
  | index, call :: rest, flag :: used =>
    if flag then unused (index + 1) rest used else (call, index) :: unused (index + 1) rest used
  | _, _, _ => []

theorem unused_replicate (index : Nat) (calls : List α) :
    unused index calls (List.replicate calls.length false) = calls.zipIdx index := by
  induction calls generalizing index with
  | nil => rfl
  | cons call rest ih =>
    rw [List.length_cons, List.replicate_succ, unused, if_neg Bool.false_ne_true, ih,
      List.zipIdx_cons]

/-- With flags one finds what `take?` finds among the calls that are left, and leaves what it
leaves. -/
theorem takeFirst_eq {stop : Stop} {lookup : StopLookup} {ref : α → String} {index : Nat}
    {calls : List α} {front back : List Bool} (hfront : front.length = index)
    (hback : back.length = calls.length) :
    ∃ back', takeFirst stop lookup ref index calls (front ++ back) =
        (.ok ((Matching.take? stop lookup ref (unused index calls back)).map (·.1.2),
          front ++ back') : Except (Halt ε) _) ∧
      back'.length = calls.length ∧ unused index calls back' =
        ((Matching.take? stop lookup ref (unused index calls back)).map (·.2)).getD
          (unused index calls back) := by
  induction calls generalizing index front back with
  | nil =>
    cases List.length_eq_zero_iff.mp hback
    exact ⟨[], rfl, rfl, rfl⟩
  | cons call rest ih =>
    obtain ⟨flag, back, rfl⟩ := List.exists_cons_of_length_eq_add_one hback
    have behind : (front ++ [flag]).length = index + 1 := by simp [hfront]
    -- what is done behind a call that is passed over
    obtain ⟨back', htake, hlength, hunused⟩ := ih behind (Nat.succ.inj hback)
    rw [List.append_assoc, List.singleton_append] at htake
    simp only [takeFirst, entry_append flag hfront, bind, Except.bind]
    cases flag with
    | true =>
      refine ⟨true :: back', ?_, by simp [hlength], ?_⟩
      · simpa [unused] using htake
      · simpa [unused] using hunused
    | false =>
      simp only [Bool.false_eq_true, if_false, unused, Matching.take?]
      cases stop.serving? lookup (ref call) with
      | some serving =>
        refine ⟨true :: back, ?_, by simpa using hback, by simp [unused]⟩
        simp only [setEntry_append false true hfront]
        rfl
      | none =>
        refine ⟨false :: back', ?_, by simp [hlength], ?_⟩
        · simpa [Option.map_map, Function.comp_def] using htake
        · simp only [unused, Bool.false_eq_true, if_false, hunused]
          cases Matching.take? stop lookup ref (unused (index + 1) rest back) <;> rfl

/-- The same from the first call on. -/
theorem takeFirst_start (stop : Stop) (lookup : StopLookup) (ref : α → String) {calls : List α}
    {used : List Bool} (h : used.length = calls.length) :
    ∃ used', takeFirst stop lookup ref 0 calls used =
        (.ok ((Matching.take? stop lookup ref (unused 0 calls used)).map (·.1.2), used') :
          Except (Halt ε) _) ∧
      used'.length = calls.length ∧ unused 0 calls used' =
        ((Matching.take? stop lookup ref (unused 0 calls used)).map (·.2)).getD
          (unused 0 calls used) :=
  takeFirst_eq (List.length_nil (α := Bool)) h

theorem Matching.length_take? {stop : Stop} {lookup : StopLookup} {ref : α → String}
    {calls rest : List (α × Nat)} {taken : α × Nat × Serving}
    (h : take? stop lookup ref calls = some (taken, rest)) : calls.length = rest.length + 1 := by
  obtain ⟨call, index, serving⟩ := taken
  obtain ⟨front, back, rfl, rfl, -, -⟩ := exists_split_of_take? h
  rw [List.length_append, List.length_append, List.length_cons, Nat.add_assoc]

/-- The estimated call that a stop takes, with the flags after it. -/
def takeEstimated (stop : Stop) (lookup : StopLookup) (journey : Journey) (estimated : List Bool) :
    Except (Halt ε) (Option Placed × List Bool) := do
  let (found, estimated) ← takeFirst stop lookup (·.stopRef) 0 journey.estimated estimated
  return (found.map fun (index, serving) => ⟨false, index, serving.substitute?⟩, estimated)

/-- The call that a stop takes, with the flags after it and the number of recorded calls that are
left. The recorded calls are not looked through any more once none is left. -/
def takeCall (stop : Stop) (lookup : StopLookup) (journey : Journey) (recorded estimated : List Bool)
    (left : Nat) : Except (Halt ε) (Option Placed × List Bool × List Bool × Nat) := do
  let (found, recorded) ←
    if 0 < left then takeFirst stop lookup (·.stopRef) 0 journey.recorded recorded
    else .ok (none, recorded)
  match found, left with
  | some _, 0 => .error .crash
  | some (index, serving), left + 1 =>
    return (some ⟨true, index, serving.substitute?⟩, recorded, estimated, left)
  | none, left =>
    let (found, estimated) ← takeEstimated stop lookup journey estimated
    return (found, recorded, estimated, left)

/-- The flags are those of a journey: one for each call, and so many recorded calls are left. -/
structure Flags (journey : Journey) (recorded estimated : List Bool) (left : Nat) : Prop where
  length_recorded : recorded.length = journey.recorded.length
  length_estimated : estimated.length = journey.estimated.length
  length_unused : (unused 0 journey.recorded recorded).length = left

theorem flags_start (journey : Journey) :
    Flags journey (List.replicate journey.recorded.length false)
      (List.replicate journey.estimated.length false) journey.recorded.length where
  length_recorded := List.length_replicate
  length_estimated := List.length_replicate
  length_unused := by rw [unused_replicate, List.length_zipIdx]

section Taken

variable {journey : Journey} {recorded estimated : List Bool} {left : Nat}

theorem takeEstimated_eq (lookup : StopLookup) (h : estimated.length = journey.estimated.length)
    (v : Visit) :
    ∃ found estimated', takeEstimated v.stop lookup journey estimated =
        (.ok (Option.map Match.placed found, estimated') : Except (Halt ε) _) ∧
      estimated'.length = journey.estimated.length ∧
      ∀ rest recorded, Matching.take? v.stop lookup RecordedCall.stopRef recorded = none →
        Matching.along lookup (v :: rest) recorded (unused 0 journey.estimated estimated) =
          found :: Matching.along lookup rest recorded
            (unused 0 journey.estimated estimated') := by
  obtain ⟨estimated', taken, hestimated, hunused⟩ :=
    takeFirst_start (ε := ε) v.stop lookup EstimatedCall.stopRef h
  simp only [takeEstimated, taken, Matching.along, bind, Except.bind]
  cases served : Matching.take? v.stop lookup EstimatedCall.stopRef
      (unused 0 journey.estimated estimated) with
  | none =>
    rw [served] at hunused
    refine ⟨none, estimated', rfl, hestimated, fun rest recorded none => ?_⟩
    rw [none, hunused]
    rfl
  | some given =>
    obtain ⟨⟨call, index, serving⟩, remaining⟩ := given
    rw [served] at hunused
    refine ⟨some ⟨.estimated index call, serving⟩, estimated', rfl, hestimated,
      fun rest recorded none => ?_⟩
    rw [none, hunused]
    rfl

/-- A stop takes the call that it takes in a matching, and leaves flags of the journey. -/
theorem takeCall_eq (lookup : StopLookup) (h : Flags journey recorded estimated left) (v : Visit) :
    ∃ found recorded' estimated' left', takeCall v.stop lookup journey recorded estimated left =
        (.ok (Option.map Match.placed found, recorded', estimated', left') : Except (Halt ε) _) ∧
      Flags journey recorded' estimated' left' ∧
      ∀ rest, Matching.along lookup (v :: rest) (unused 0 journey.recorded recorded)
          (unused 0 journey.estimated estimated) =
        found :: Matching.along lookup rest (unused 0 journey.recorded recorded')
          (unused 0 journey.estimated estimated') := by
  obtain ⟨recorded', taken, hrecorded, hunused⟩ :=
    takeFirst_start (ε := ε) v.stop lookup RecordedCall.stopRef h.length_recorded
  obtain ⟨found, estimated', takenEstimated, hestimated, along⟩ :=
    takeEstimated_eq (ε := ε) lookup h.length_estimated v
  cases served : Matching.take? v.stop lookup RecordedCall.stopRef
      (unused 0 journey.recorded recorded) with
  | some given =>
    obtain ⟨⟨call, index, serving⟩, remaining⟩ := given
    rw [served] at taken hunused
    have shorter := Matching.length_take? served
    rw [h.length_unused] at shorter
    subst shorter
    refine ⟨some ⟨.recorded index call, serving⟩, recorded', estimated, remaining.length, ?_,
      ⟨hrecorded, h.length_estimated, by rw [hunused]; rfl⟩, fun rest => ?_⟩
    · simp only [takeCall, Nat.zero_lt_succ, if_true, taken, bind, Except.bind]
      rfl
    · rw [Matching.along, served, hunused]
      rfl
  | none =>
    rw [served] at taken hunused
    have same : unused 0 journey.recorded recorded' = unused 0 journey.recorded recorded := hunused
    cases left with
    | zero =>
      refine ⟨found, recorded, estimated', 0, ?_,
        ⟨h.length_recorded, hestimated, h.length_unused⟩, fun rest => along rest _ served⟩
      simp only [takeCall, Nat.lt_irrefl, if_false, bind, Except.bind, takenEstimated]
      rfl
    | succ left =>
      refine ⟨found, recorded', estimated', left + 1, ?_,
        ⟨hrecorded, hestimated, by rw [same, h.length_unused]⟩, fun rest => ?_⟩
      · simp only [takeCall, Nat.zero_lt_succ, if_true, taken, bind, Except.bind, takenEstimated]
        rfl
      · rw [same]
        exact along rest _ served

end Taken

/-! ## All stops -/

/-- The matches of the stops. -/
def matchStops (lookup : StopLookup) (journey : Journey) :
    List Stop → List Bool → List Bool → Nat → Except (Halt ε) (List (Option Placed))
  | [], _, _, _ => .ok []
  | stop :: rest, recorded, estimated, left => do
    let (found, recorded, estimated, left) ←
      takeCall stop lookup journey recorded estimated left
    return found :: (← matchStops lookup journey rest recorded estimated left)

theorem matchStops_eq (lookup : StopLookup) {journey : Journey} (pattern : Pattern)
    {recorded estimated : List Bool} {left : Nat} (h : Flags journey recorded estimated left) :
    matchStops lookup journey (pattern.map (·.stop)) recorded estimated left =
      (.ok ((Matching.along lookup pattern (unused 0 journey.recorded recorded)
        (unused 0 journey.estimated estimated)).map (Option.map Match.placed)) :
          Except (Halt ε) _) := by
  induction pattern generalizing recorded estimated left with
  | nil => rfl
  | cons v rest ih =>
    obtain ⟨found, recorded', estimated', left', taken, flags, along⟩ :=
      takeCall_eq (ε := ε) lookup h v
    rw [List.map_cons, matchStops, taken, along]
    simp only [bind, Except.bind, ih flags]
    rfl

/-- The matching of a pattern with a journey, refused when a call names no stop. -/
def matchCalls (pattern : PatternColumns) (journey : Journey) (lookup : StopLookup) :
    Except (Halt UpdateError) (List (Option Placed)) :=
  match journey.firstBlankRef? with
  | some call => .error (.told (.missingStopRef journey.tripRef call))
  | none =>
    matchStops lookup journey pattern.stops (List.replicate journey.recorded.length false)
      (List.replicate journey.estimated.length false) journey.recorded.length

/-- **Flags match calls as `Matching.ofJourney` does**, and none is looked up where there is none. -/
theorem matchCalls_eq (pattern : Pattern) (journey : Journey) (lookup : StopLookup) :
    matchCalls (.of pattern) journey lookup =
      lift ((Matching.ofJourney pattern journey lookup).map (·.map (Option.map Match.placed))) := by
  unfold matchCalls Matching.ofJourney
  cases journey.firstBlankRef? with
  | some call => rfl
  | none =>
    have matched := matchStops_eq (ε := UpdateError) lookup pattern (flags_start journey)
    rw [unused_replicate, unused_replicate] at matched
    exact matched

/-! ## Calls by their place -/

/-- The call that a match tells the place of. -/
def readCall (journey : Journey) (found : Placed) : Except (Halt ε) MatchedCall :=
  if found.observed then do return .recorded found.index (← entry journey.recorded found.index)
  else do return .estimated found.index (← entry journey.estimated found.index)

/-- The call of a match stands at the place that the match holds. -/
def Match.InPlace (m : Match) (journey : Journey) : Prop :=
  match m.call with
  | .recorded index call => journey.recorded[index]? = some call
  | .estimated index call => journey.estimated[index]? = some call

theorem Match.inPlace_iff {m : Match} {journey : Journey} :
    m.InPlace journey ↔ journey.HasCall m.call := by
  obtain ⟨call, serving⟩ := m
  cases call <;> exact Iff.rfl

theorem readCall_of {journey : Journey} {m : Match} (h : m.InPlace journey) :
    readCall journey m.placed = (.ok m.call : Except (Halt ε) _) := by
  obtain ⟨call, serving⟩ := m
  cases call with
  | recorded index call =>
    have stands : journey.recorded[index]? = some call := h
    simp only [readCall, Match.placed, if_true, entry, stands]
    rfl
  | estimated index call =>
    have stands : journey.estimated[index]? = some call := h
    simp only [readCall, Match.placed, Bool.false_eq_true, if_false, entry, stands]
    rfl

namespace Matching

variable {lookup : StopLookup} {journey : Journey}

/-- **Every match of a journey finds its call in place.** -/
theorem inPlace_matching {t : Timetable} {m : Match} (h : some m ∈ t.matching journey lookup) :
    m.InPlace journey := by
  obtain ⟨position, found⟩ := List.mem_iff_getElem?.mp h
  exact Match.inPlace_iff.mpr ((greedy_along t.pattern journey lookup).hasCall ⟨m, found, rfl⟩)

end Matching

end LiveTimetable
