import LiveTimetable.Proofs.Columns.Journey
import LiveTimetable.Proofs.Timetable.Building

/-!
# Two checks of the order of times

Times are checked twice: those of a timetable before it is made, visit by visit (`checkVisits`), and
those of a record before it is published, position by position in its columns (`disorderFrom`). Each
check has its own walk, which looks at neighbours alone, and stops where one is out of order. The
walks tell the same, as both are the search for the first disorder (`checkVisits_eq`,
`TripColumns.disorderFrom_of`).

Main statement: `Timetable.refusal_agrees`. A timetable is refused at just the position that a record
with its times would be, the first at which times run backwards. Where no neighbours are out of
order, neither are any two times: an earlier one is never the greater.
-/

namespace LiveTimetable

/-! ## The check of a timetable -/

namespace Timetable

/-- The visits from a position on, behind one that ends at the given time: each is compared with the
end of the one in front of it. -/
def checkFrom (tripId : String) : Nat → Seconds → List TimedVisit → Except TimetableError Unit
  | _, _, [] => .ok ()
  | position, since, v :: rest =>
    if v.passage.departure < v.passage.arrival ∨ v.passage.arrival < since then
      .error (.nonIncreasingSchedule tripId position)
    else checkFrom tripId (position + 1) v.passage.departure rest

/-- Nothing ends in front of the first visit, so the check starts from the least time there is. -/
def checkVisits (tripId : String) (visits : List TimedVisit) : Except TimetableError Unit :=
  if visits.isEmpty then .error (.emptyTrip tripId) else checkFrom tripId 0 .least visits

variable {tripId : String} {visits : List TimedVisit}

/-- The walk finds the first disorder: it counts positions on the way in, and the search on the way
out. -/
theorem checkFrom_eq (position : Nat) (since : Seconds) :
    checkFrom tripId position since visits =
      match Passage.disorderSince? since (visits.map (·.passage)) with
      | some i => .error (.nonIncreasingSchedule tripId (i + position))
      | none => .ok () := by
  induction visits generalizing position since with
  | nil => rfl
  | cons v rest ih =>
    rw [checkFrom, List.map_cons, Passage.disorderSince?, ih]
    by_cases back : v.passage.arrival < since ∨ v.passage.departure < v.passage.arrival
    · simp only [if_pos back, if_pos back.symm, Nat.zero_add]
    · rw [if_neg back, if_neg fun h => back h.symm]
      cases Passage.disorderSince? v.passage.departure (rest.map (·.passage)) with
      | none => rfl
      | some i => simp only [Option.map_some, Nat.add_assoc, Nat.add_comm 1]

/-- **A timetable is made of the visits that pass the check.** -/
theorem checkVisits_eq (tripId : String) (serviceCode : Int) (line : Option String)
    (visits : List TimedVisit) :
    checkVisits tripId visits = (ofVisits tripId serviceCode line visits).map fun _ => () := by
  unfold checkVisits ofVisits
  cases visits with
  | nil => rfl
  | cons v rest =>
    rw [List.isEmpty_cons, if_neg Bool.false_ne_true, dif_neg (List.cons_ne_nil v rest),
      checkFrom_eq]
    show (match Passage.firstDisorder? ((v :: rest).map (·.passage)) with
      | some i => _ | none => _) = _
    split
    next i back =>
      split
      next i' back' =>
        cases back.symm.trans back'
        rfl
      next forward => cases back.symm.trans forward
    next forward =>
      split
      next i back => cases forward.symm.trans back
      next => rfl

end Timetable

/-! ## Times in order -/

namespace TripRecord

/-- The times of a record in the order of its stops, at each the arrival and then the departure. -/
def times (r : TripRecord) : List Int := Passage.times (r.stops.map (·.passage))

/-- **Times that do not run backwards from neighbour to neighbour do not run backwards at all.** -/
theorem firstDisorder?_eq_none_iff_times {r : TripRecord} :
    r.firstDisorder? = none ↔
      ∀ (i j : Nat) (a b : Int), i < j → r.times[i]? = some a → r.times[j]? = some b → a ≤ b := by
  rw [firstDisorder?, Passage.firstDisorder?_eq_none_iff, ← times, List.pairwise_iff_getElem]
  constructor
  · intro inOrder i j a b lt ha hb
    obtain ⟨hi, rfl⟩ := List.getElem?_eq_some_iff.mp ha
    obtain ⟨hj, rfl⟩ := List.getElem?_eq_some_iff.mp hb
    exact inOrder i j hi hj lt
  · intro inOrder i j hi hj lt
    exact inOrder i j _ _ lt (List.getElem?_eq_getElem hi) (List.getElem?_eq_getElem hj)

/-- The check of a record, position by position in its columns. -/
theorem disorderFrom_zero {ε : Type} (r : TripRecord) :
    (TripColumns.of r).disorderFrom r.stops.length 0 .least =
      (.ok r.firstDisorder? : Except (Halt ε) _) := by
  have walked := @TripColumns.disorderFrom_of ε r [] r.stops rfl .least
  simp only [List.length_nil, Nat.add_zero, Option.map_id'] at walked
  exact walked

end TripRecord

/-- **The two checks agree, and mean that times are in order throughout.** A timetable is refused at
the position at which a record with its times is: the least at which a visit ends before it starts, or
starts before the one in front of it has ended. -/
theorem Timetable.refusal_agrees {ε : Type} :
    (∀ (tripId : String) (serviceCode : Int) (line : Option String) (visits : List TimedVisit)
        (r : TripRecord) (p : Nat), visits ≠ [] →
      r.stops.map (·.passage) = visits.map (·.passage) →
        (checkVisits tripId visits = .error (.nonIncreasingSchedule tripId p) ↔
          (TripColumns.of r).disorderFrom r.stops.length 0 .least =
            (.ok (some p) : Except (Halt ε) _)) ∧
        (ofVisits tripId serviceCode line visits = .error (.nonIncreasingSchedule tripId p) ↔
          r.firstDisorder? = some p) ∧
        (r.firstDisorder? = some p ↔ Passage.RunsBackAt (visits.map (·.passage)) p ∧
          ∀ q < p, ¬ Passage.RunsBackAt (visits.map (·.passage)) q)) ∧
      ∀ r : TripRecord,
        (TripColumns.of r).disorderFrom r.stops.length 0 .least =
            (.ok r.firstDisorder? : Except (Halt ε) _) ∧
        (r.firstDisorder? = none ↔
          ∀ (i j : Nat) (a b : Int), i < j → r.times[i]? = some a → r.times[j]? = some b → a ≤ b) := by
  refine ⟨fun tripId serviceCode line visits r p called same => ?_,
    fun r => ⟨r.disorderFrom_zero, TripRecord.firstDisorder?_eq_none_iff_times⟩⟩
  have refused : ofVisits tripId serviceCode line visits = .error (.nonIncreasingSchedule tripId p) ↔
      r.firstDisorder? = some p := by
    rw [ofVisits_eq_error_iff, TripRecord.firstDisorder?, same]
    simp [called, eq_comm]
  refine ⟨?_, refused, ?_⟩
  · rw [checkVisits_eq tripId serviceCode line, Outcome.map_eq_error, refused, r.disorderFrom_zero,
      Except.ok.injEq]
  · rw [TripRecord.firstDisorder?, same]
    exact Passage.firstDisorder?_eq_some_iff

namespace Sample

/-- From the least time there is, with two visits out of order: the second by itself, and the third
behind the second. -/
def rewound : List TimedVisit :=
  [(Seconds.least, Seconds.least), (Seconds.zero, Seconds.least), (Seconds.least, Seconds.zero)].map
    fun (arrival, departure) => ⟨⟨⟨"A", none⟩, .scheduled, .scheduled, none⟩, ⟨arrival, departure⟩⟩

/-- Times of another trip that run alike. -/
def rewoundRecord : TripRecord :=
  ⟨"u", 7, .updated, rewound.map fun v =>
    { StopRecord.ofTimetable v.visit ⟨.zero, .zero⟩ with passage := v.passage, recorded := true }⟩

end Sample

/-- Both checks stop at the second visit, though the third is out of order as well. -/
theorem Timetable.refusal_agrees_rewound :
    Sample.rewound ≠ [] ∧
      Sample.rewoundRecord.stops.map (·.passage) = Sample.rewound.map (·.passage) ∧
      ofVisits "t" 0 none Sample.rewound = .error (.nonIncreasingSchedule "t" 1) ∧
      Sample.rewoundRecord.firstDisorder? = some 1 ∧
      Passage.RunsBackAt (Sample.rewound.map (·.passage)) 1 ∧
      ¬ Passage.RunsBackAt (Sample.rewound.map (·.passage)) 0 := by
  have called : Sample.rewound ≠ [] := by decide
  have same : Sample.rewoundRecord.stops.map (·.passage) = Sample.rewound.map (·.passage) := by decide
  have back : Sample.rewoundRecord.firstDisorder? = some 1 := by decide
  obtain ⟨-, refused, least⟩ :=
    (refusal_agrees (ε := Empty)).1 "t" 0 none Sample.rewound Sample.rewoundRecord 1 called same
  obtain ⟨here, first⟩ := least.mp back
  exact ⟨called, same, refused.mpr back, back, here, first 0 Nat.one_pos⟩

end LiveTimetable
