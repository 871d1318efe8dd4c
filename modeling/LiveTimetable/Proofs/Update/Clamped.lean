import LiveTimetable.Proofs.Timetable.Shift
import LiveTimetable.Proofs.Update.Report

/-!
# A reported delay along the trip

A report is read stop by stop, and the anchor, once it is met, stays met. Position by position this
says (`VehicleReport.delays_getElem?`): a stop has the delay reported if the anchor is there or in
front of it (`VehicleReport.Reached`), and otherwise the one it had, unless that is larger.

Main statements: where times do not fit, the first such stop is the one told of
(`VehicleReport.withDelays_delays_eq_error_iff`), and where they do they run forward if they did before
(`VehicleReport.inOrder_withDelays`). Behind the anchor a time is the scheduled one moved by the
delay, in front of it no later than that; so no time is overtaken, wherever the anchor is and
however early or late the vehicle.
-/

namespace LiveTimetable

namespace StopRecord

/-- With this delay both times of the stop are held. -/
def Fits (s : StopRecord) (d : Delay) : Prop :=
  Seconds.Held (s.scheduled.arrival.val + d.arrival) ∧
    Seconds.Held (s.scheduled.departure.val + d.departure)

instance (s : StopRecord) (d : Delay) : Decidable (s.Fits d) := inferInstanceAs (Decidable (_ ∧ _))

theorem withDelay?_eq_none_iff {s : StopRecord} {d : Delay} : s.withDelay? d = none ↔ ¬ s.Fits d := by
  have later : ∀ (a : Seconds) (n : Int), a.later? n = none ↔ ¬ Seconds.Held (a.val + n) :=
    fun a n => Seconds.of?_eq_none_iff
  simp only [withDelay?, Option.map_eq_none_iff, Fits, Passage.delayed?]
  cases ha : s.scheduled.arrival.later? d.arrival with
  | none => simp [(later _ _).mp ha]
  | some a =>
    have arrives : Seconds.Held (s.scheduled.arrival.val + d.arrival) := by
      rw [← not_not (a := Seconds.Held _), ← later, ha]
      simp
    cases hd : s.scheduled.departure.later? d.departure with
    | none => simp [(later _ _).mp hd]
    | some b =>
      have departs : Seconds.Held (s.scheduled.departure.val + d.departure) := by
        rw [← not_not (a := Seconds.Held _), ← later, hd]
        simp
      simp [arrives, departs]

end StopRecord

namespace VehicleReport

variable {anchor : String} {delay : Int} {lookup : StopLookup} {stops stops' : List StopRecord}

/-! ## Position by position -/

/-- The anchor is at a position or in front of it. -/
def Reached (anchor : String) (lookup : StopLookup) (stops : List StopRecord) (i : Nat) : Prop :=
  ∃ s ∈ stops.take (i + 1), (s.visit.stop.serving? lookup anchor).isSome

instance (anchor : String) (lookup : StopLookup) (stops : List StopRecord) (i : Nat) :
    Decidable (Reached anchor lookup stops i) :=
  inferInstanceAs (Decidable (∃ s ∈ stops.take (i + 1), _))

/-- The delay that a report gives to the stop at a position. -/
def delayAt (anchor : String) (delay : Int) (lookup : StopLookup) (stops : List StopRecord)
    (i : Nat) (s : StopRecord) : Delay :=
  if Reached anchor lookup stops i then .both delay else s.delay.atMost delay

/-- The anchor, once met, stays met. -/
theorem Reached.mono {i j : Nat} (h : Reached anchor lookup stops i) (hij : i ≤ j) :
    Reached anchor lookup stops j := by
  obtain ⟨s, hs, hserves⟩ := h
  exact ⟨s, List.take_subset_take_left stops (Nat.succ_le_succ hij) hs, hserves⟩

theorem delays_getElem? (i : Nat) :
    (delays anchor delay lookup stops)[i]? = stops[i]?.map (delayAt anchor delay lookup stops i) := by
  induction stops generalizing i with
  | nil => rfl
  | cons s rest ih =>
    unfold delays
    split
    next here =>
      have reached : Reached anchor lookup (s :: rest) i := ⟨s, by simp, here⟩
      have all : delayAt anchor delay lookup (s :: rest) i = fun _ => .both delay := by
        funext s'
        rw [delayAt, if_pos reached]
      rw [List.getElem?_map, all]
    next notHere =>
      cases i with
      | zero =>
        have unreached : ¬ Reached anchor lookup (s :: rest) 0 := by
          simpa [Reached] using notHere
        simp [delayAt, if_neg unreached]
      | succ i =>
        have behind : delayAt anchor delay lookup (s :: rest) (i + 1) =
            delayAt anchor delay lookup rest i := by
          funext s'
          have same : Reached anchor lookup (s :: rest) (i + 1) ↔ Reached anchor lookup rest i := by
            simp [Reached, notHere]
          simp only [delayAt, same]
        rw [List.getElem?_cons_succ, List.getElem?_cons_succ, ih, behind]

/-- Each stop is the one before with the delay of its position. -/
theorem stop_of_withDelays
    (h : withDelays (stops.zip (delays anchor delay lookup stops)) = .ok stops') {i : Nat}
    {s' : StopRecord} (hi : stops'[i]? = some s') :
    ∃ s, stops[i]? = some s ∧ s' = { s with passage := s'.passage } ∧
      s'.delay = delayAt anchor delay lookup stops i s := by
  obtain ⟨same, delayed⟩ := stops_of_withDelays length_delays h
  obtain ⟨hlt, rfl⟩ := List.getElem?_eq_some_iff.mp hi
  have hold : i < stops.length := by rwa [same.length_eq]
  refine ⟨stops[i], List.getElem?_eq_getElem hold, same.get hold hlt, ?_⟩
  have told := congrArg (·[i]?) delayed
  simp only [List.getElem?_map, delays_getElem?, hi, List.getElem?_eq_getElem hold,
    Option.map_some, Option.some.injEq] at told
  exact told

/-! ## Times that do not fit -/

/-- The first position at which a report would lead to a time that is not held. -/
structure FirstUnfit (anchor : String) (delay : Int) (lookup : StopLookup)
    (stops : List StopRecord) (position : Nat) : Prop where
  unfit : ∃ s, stops[position]? = some s ∧ ¬ s.Fits (delayAt anchor delay lookup stops position s)
  before : ∀ i < position, ∀ s, stops[i]? = some s →
    s.Fits (delayAt anchor delay lookup stops i s)

/-- The position told of is that of the first stop whose delay does not fit. -/
theorem withDelays_eq_error_iff {given : List (StopRecord × Delay)} {position : Nat} :
    withDelays given = .error position ↔
      (∃ s d, given[position]? = some (s, d) ∧ ¬ s.Fits d) ∧
        ∀ i < position, ∀ s d, given[i]? = some (s, d) → s.Fits d := by
  induction given generalizing position with
  | nil => simp [withDelays]
  | cons g rest ih =>
    obtain ⟨s, d⟩ := g
    simp only [withDelays]
    cases hs : s.withDelay? d with
    | none =>
      have unfit := StopRecord.withDelay?_eq_none_iff.mp hs
      cases position with
      | zero => simp [unfit]
      | succ position =>
        simp only [Except.error.injEq, reduceCtorEq, false_iff]
        exact fun h => unfit (h.2 0 (Nat.succ_pos _) s d rfl)
    | some s' =>
      have fits : s.Fits d := by
        rw [← not_not (a := s.Fits d), ← StopRecord.withDelay?_eq_none_iff, hs]
        simp
      simp only [Outcome.mapError_eq_error, Outcome.map_eq_error, ih]
      cases position with
      | zero => simp [fits]
      | succ position =>
        simp only [Nat.add_right_cancel_iff, exists_eq_right, List.getElem?_cons_succ]
        refine and_congr_right fun _ => ⟨fun h i hi => ?_, fun h i hi => h (i + 1) (Nat.succ_lt_succ hi)⟩
        cases i with
        | zero =>
          intro _ _ hg
          cases hg
          exact fits
        | succ i => exact h i (Nat.lt_of_succ_lt_succ hi)

/-- **A report does not fit** exactly where some time moved by its new delay is not held, and then
the first such stop is told. -/
theorem withDelays_delays_eq_error_iff {position : Nat} :
    withDelays (stops.zip (delays anchor delay lookup stops)) = .error position ↔
      FirstUnfit anchor delay lookup stops position := by
  have given : ∀ i s d, (stops.zip (delays anchor delay lookup stops))[i]? = some (s, d) ↔
      stops[i]? = some s ∧ d = delayAt anchor delay lookup stops i s := by
    intro i s d
    rw [List.getElem?_zip_eq_some, delays_getElem?]
    refine and_congr_right fun hs => ?_
    rw [hs, Option.map_some, Option.some.injEq, eq_comm]
  simp only [withDelays_eq_error_iff, given]
  constructor
  · intro h
    obtain ⟨⟨s, d, ⟨hs, rfl⟩, unfit⟩, before⟩ := h
    exact ⟨⟨s, hs, unfit⟩, fun i hi s hs => before i hi s _ ⟨hs, rfl⟩⟩
  · intro h
    obtain ⟨⟨s, hs, unfit⟩, before⟩ := h
    refine ⟨⟨s, _, ⟨hs, rfl⟩, unfit⟩, fun i hi s d hd => ?_⟩
    obtain ⟨hs, rfl⟩ := hd
    exact before i hi s hs

/-! ## Times that run forward -/

/-- The times of a stop after a report: the scheduled ones moved by the delay, and in front of the
anchor only where that makes them earlier. -/
theorem times_of_delayAt {i : Nat} {s s' : StopRecord} (same : s' = { s with passage := s'.passage })
    (delayed : s'.delay = delayAt anchor delay lookup stops i s) :
    if Reached anchor lookup stops i then
      s'.passage.arrival.val = s.scheduled.arrival.val + delay ∧
        s'.passage.departure.val = s.scheduled.departure.val + delay
    else
      s'.passage.arrival.val = min s.passage.arrival.val (s.scheduled.arrival.val + delay) ∧
        s'.passage.departure.val =
          min s.passage.departure.val (s.scheduled.departure.val + delay) := by
  have scheduled : s'.scheduled = s.scheduled := by rw [same]
  rw [StopRecord.delay, scheduled, Passage.delayFrom_eq_iff, delayAt] at delayed
  split at delayed
  next reached =>
    rw [if_pos reached]
    exact delayed
  next unreached =>
    rw [if_neg unreached]
    simp only [StopRecord.delay, Delay.atMost, Passage.delayFrom] at delayed
    omega

/-- **Times that ran forward still do after a report**, if the scheduled ones do. -/
theorem inOrder_withDelays (scheduled : Passage.firstDisorder? (stops.map (·.scheduled)) = none)
    (inOrder : Passage.firstDisorder? (stops.map (·.passage)) = none)
    (h : withDelays (stops.zip (delays anchor delay lookup stops)) = .ok stops') :
    Passage.firstDisorder? (stops'.map (·.passage)) = none := by
  rw [Passage.firstDisorder?_map_eq_none_iff] at scheduled inOrder ⊢
  constructor
  · intro i s' hi
    obtain ⟨s, hs, same, delayed⟩ := stop_of_withDelays h hi
    have times := times_of_delayAt same delayed
    have inside := inOrder.1 i s hs
    have insideScheduled := scheduled.1 i s hs
    split at times
    · omega
    · omega
  · intro i j p' q' hij hi hj
    obtain ⟨p, hp, same, delayed⟩ := stop_of_withDelays h hi
    have times := times_of_delayAt same delayed
    obtain ⟨q, hq, same, delayed⟩ := stop_of_withDelays h hj
    have later := times_of_delayAt same delayed
    have between := inOrder.2 i j p q hij hp hq
    have betweenScheduled := scheduled.2 i j p q hij hp hq
    by_cases reached : Reached anchor lookup stops i
    · rw [if_pos reached] at times
      rw [if_pos (reached.mono (Nat.le_of_lt hij))] at later
      omega
    · -- a time in front of the anchor is no later than the scheduled one moved by the delay
      rw [if_neg reached] at times
      split at later
      · omega
      · omega

end VehicleReport

end LiveTimetable
