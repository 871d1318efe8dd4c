import LiveTimetable.Proofs.Columns.Journey

/-!
# A vehicle report laid on columns

A report walks along the record in effect and changes the times of a copy. Behind its anchor it
reads no more than the scheduled times; in front of it, it takes the smaller of two delays, and one
of these is a difference that nobody checks. In a sound record all of them are held.

Main statement: on columns a report does what `Timetable.afterReport` does
(`Timetable.afterReportColumns_eq`).
-/

namespace LiveTimetable

open Columns

variable {ε : Type}

namespace VehicleReport

/-- The delays of stops behind the anchor, or in front of where it is looked for. -/
def delaysFrom (atAnchor : Bool) (anchor : String) (delay : Int) (lookup : StopLookup)
    (stops : List StopRecord) : List Delay :=
  if atAnchor then stops.map fun _ => .both delay else delays anchor delay lookup stops

/-- The anchor is the stop, or was found in front of it. -/
def reaches (atAnchor : Bool) (anchor : String) (lookup : StopLookup) (stop : Stop) : Bool :=
  atAnchor || (stop.serving? lookup anchor).isSome

theorem delaysFrom_cons (atAnchor : Bool) (anchor : String) (delay : Int) (lookup : StopLookup)
    (s : StopRecord) (rest : List StopRecord) :
    delaysFrom atAnchor anchor delay lookup (s :: rest) =
      (if reaches atAnchor anchor lookup s.visit.stop then .both delay
        else s.delay.atMost delay) ::
          delaysFrom (reaches atAnchor anchor lookup s.visit.stop) anchor delay lookup rest := by
  cases atAnchor with
  | true => rfl
  | false =>
    simp only [delaysFrom, reaches, Bool.false_or, Bool.false_eq_true, if_false, delays]
    split
    next => rfl
    next => rfl

end VehicleReport

namespace TripColumns

/-- The anchor is at a position, or was found in front of it. Behind it no stop is looked at any
more. -/
def anchoredAt (current : TripColumns) (anchor : String) (lookup : StopLookup) (atAnchor : Bool)
    (position : Nat) : Except (Halt ε) Bool := do
  if atAnchor then return true
  else return ((← entry current.pattern.stops position).serving? lookup anchor).isSome

/-- The delay that a report gives at a position. -/
def reportedAt (current : TripColumns) (reported : Int) (atAnchor : Bool) (position : Nat) :
    Except (Halt ε) Delay := do
  if atAnchor then return .both reported
  else return (← current.delayAt position).atMost reported

/-- The copy with the delays of a report at so many positions from the given one on. A position
whose times are then not held is told. -/
def reportFrom (current : TripColumns) (anchor : String) (reported : Int) (lookup : StopLookup) :
    Nat → Nat → Bool → TripColumns → Except (Halt Nat) TripColumns
  | 0, _, _, c => .ok c
  | count + 1, position, atAnchor, c => do
    let atAnchor ← current.anchoredAt anchor lookup atAnchor position
    match ← c.setDelay? position (← current.reportedAt reported atAnchor position) with
    | none => .error (.told position)
    | some c => current.reportFrom anchor reported lookup count (position + 1) atAnchor c

variable {r : TripRecord} {front back : List StopRecord} {s : StopRecord} {anchor : String}
  {reported : Int} {lookup : StopLookup} {atAnchor : Bool} {position : Nat}

theorem anchoredAt_of (hr : r.stops = front ++ s :: back) (h : front.length = position) :
    (of r).anchoredAt anchor lookup atAnchor position =
      (.ok (VehicleReport.reaches atAnchor anchor lookup s.visit.stop) : Except (Halt ε) _) := by
  cases atAnchor with
  | true => rfl
  | false =>
    have stop : entry (of r).pattern.stops position = (.ok s.visit.stop : Except (Halt ε) _) :=
      entry_visits (·.stop) hr h
    simp only [anchoredAt, stop]
    rfl

theorem reportedAt_of (held : s.delay.Held) (hr : r.stops = front ++ s :: back)
    (h : front.length = position) :
    (of r).reportedAt reported atAnchor position =
      (.ok (if atAnchor then .both reported else s.delay.atMost reported) :
        Except (Halt ε) _) := by
  cases atAnchor with
  | true => rfl
  | false =>
    simp only [reportedAt, delayAt_of held hr h]
    rfl

theorem reportFrom_of {current : TripRecord} {front' : List StopRecord}
    (hcurrent : current.stops = front' ++ back) (held : ∀ s ∈ back, s.delay.Held)
    (hfront : front'.length = front.length) :
    (of current).reportFrom anchor reported lookup back.length front.length atAnchor
        (of { r with stops := front ++ back }) =
      lift (((VehicleReport.withDelays (back.zip
        (VehicleReport.delaysFrom atAnchor anchor reported lookup back))).map fun stops =>
          of { r with stops := front ++ stops }).mapError (· + front.length)) := by
  induction back generalizing front front' atAnchor with
  | nil => cases atAnchor <;> rfl
  | cons s back ih =>
    simp only [List.length_cons, reportFrom, anchoredAt_of hcurrent hfront,
      reportedAt_of (held s List.mem_cons_self) hcurrent hfront, bind, Except.bind,
      setDelay?_of _ rfl, VehicleReport.delaysFrom_cons, List.zip_cons_cons,
      VehicleReport.withDelays]
    generalize (if VehicleReport.reaches atAnchor anchor lookup s.visit.stop then Delay.both reported
      else s.delay.atMost reported) = given
    cases s.withDelay? given with
    | none => simp [Except.map, Except.mapError]
    | some s' =>
      have others := @ih (front ++ [s']) (VehicleReport.reaches atAnchor anchor lookup s.visit.stop)
        (front' ++ [s]) (by simp [hcurrent]) (fun s hs => held s (List.mem_cons_of_mem _ hs))
        (by simp [hfront])
      simp only [List.append_assoc, List.singleton_append, List.length_append,
        List.length_singleton] at others
      refine others.trans ?_
      cases VehicleReport.withDelays (back.zip (VehicleReport.delaysFrom
          (VehicleReport.reaches atAnchor anchor lookup s.visit.stop) anchor reported lookup back)) with
      | error position => simp [Except.map, Except.mapError, Nat.add_assoc, Nat.add_comm 1]
      | ok stops => rfl

end TripColumns

namespace Timetable

/-- The record after a vehicle report. -/
def afterReportColumns (t : Timetable) (current : TripColumns) (report : VehicleReport)
    (lookup : StopLookup) : Except (Halt UpdateError) TripColumns := do
  lift (t.checkColumns current)
  match report.anchor? with
  | none => .error (.told (.missingMonitoredCall t.tripId))
  | some anchor =>
    let c ← (current.reportFrom anchor report.delaySeconds.val lookup current.numStops 0 false
      current).mapError (Halt.map (.timeOutOfRange current.tripId ·))
    let c ← c.checkOrder (t.lineName report.line)
    return { c with state := if c.state = .modified then .modified else .updated }

variable {t : Timetable} {current : TripRecord} {report : VehicleReport} {lookup : StopLookup}

/-- **On columns a report does to a sound record what it does to the record.** -/
theorem afterReportColumns_eq (sound : t.Sound current) :
    t.afterReportColumns (.of current) report lookup =
      lift ((t.afterReport current report lookup).map .of) := by
  have checked : t.checkRecord current = .ok () :=
    checkRecord_eq_ok_iff.mpr ⟨sound.tripId, sound.length_stops⟩
  rw [afterReportColumns, afterReport, checkColumns_of, checked]
  cases report.anchor? with
  | none => rfl
  | some anchor =>
    have reported : (TripColumns.of current).reportFrom anchor report.delaySeconds.val lookup
        current.stops.length 0 false (.of current) = _ :=
      @TripColumns.reportFrom_of current [] current.stops anchor report.delaySeconds.val lookup false
        current [] rfl sound.held rfl
    simp only [lift_ok, bind, Except.bind, TripColumns.numStops_of, reported]
    have delays : VehicleReport.delaysFrom false anchor report.delaySeconds.val lookup current.stops =
        VehicleReport.delays anchor report.delaySeconds.val lookup current.stops := rfl
    rw [delays]
    cases VehicleReport.withDelays (current.stops.zip
        (VehicleReport.delays anchor report.delaySeconds.val lookup current.stops)) with
    | error position => rfl
    | ok stops =>
      simp only [Except.map, Except.mapError, lift_ok, List.nil_append, TripColumns.checkOrder_of]
      cases TripRecord.checkOrder { current with stops } (t.lineName report.line) with
      | error e => rfl
      | ok r => rfl

end Timetable

end LiveTimetable
