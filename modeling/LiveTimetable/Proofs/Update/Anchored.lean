import LiveTimetable.Proofs.Update.Between
import LiveTimetable.Proofs.Update.Clamped
import LiveTimetable.Proofs.Update.Matching

/-!
# Delays around the anchor

The anchor of a vehicle report is looked for along the record in effect, as earlier journeys have
left it. It is at the first stop that answers to the stop reported (`Pattern.anchorAt`): the stop
itself, or one of its station. Later ones that answer to it as well make no difference, and if there
is none the whole trip lies in front of the anchor.

Main statement: `Timetable.afterReport_anchored`. A report gives a record just when that has the
delays of `TripRecord.Reported` and its times run forward. Everything else in it is that of the
record in effect, only that a trip which was called off is taken up again.
-/

namespace LiveTimetable

namespace Stop

/-- The stop answers to the name of a stop: it is that stop, or shares the station of that stop. -/
def Answers (stop : Stop) (lookup : StopLookup) (ref : String) : Prop :=
  stop.id = ref ∨ ∃ other, lookup ref = some other ∧ stop.sharesStation other

theorem isSome_serving?_iff {stop : Stop} {lookup : StopLookup} {ref : String} :
    (stop.serving? lookup ref).isSome ↔ stop.Answers lookup ref := by
  rw [Option.isSome_iff_exists]
  constructor
  · intro h
    obtain ⟨serving, serves⟩ := h
    rcases serving?_eq_some_iff.mp serves with ⟨same, -⟩ | ⟨-, other, known, shares, -⟩
    · exact .inl same
    · exact .inr ⟨other, known, shares⟩
  · intro answers
    by_cases same : stop.id = ref
    · exact ⟨.itself, serving?_eq_some_iff.mpr (.inl ⟨same, rfl⟩)⟩
    · obtain ⟨other, known, shares⟩ := answers.resolve_left same
      exact ⟨_, serving?_eq_some_iff.mpr (.inr ⟨same, other, known, shares, rfl⟩)⟩

instance (stop : Stop) (lookup : StopLookup) (ref : String) : Decidable (stop.Answers lookup ref) :=
  decidable_of_iff _ isSome_serving?_iff

end Stop

/-- **The position of the anchor**: the first stop that answers to it, or behind the last stop if
none does. -/
def Pattern.anchorAt (p : Pattern) (lookup : StopLookup) (ref : String) : Nat :=
  p.findIdx fun v => v.stop.Answers lookup ref

/-- **The record after a delay was reported** for a vehicle that has come to a position: of the
record that was in effect all is kept but the delays, and the state. -/
structure TripRecord.Reported (current : TripRecord) (anchor : Nat) (delay : Int)
    (r : TripRecord) : Prop where
  tripId : r.tripId = current.tripId
  serviceCode : r.serviceCode = current.serviceCode
  pattern : r.pattern = current.pattern
  scheduled : r.stops.map (·.scheduled) = current.stops.map (·.scheduled)
  recorded : r.stops.map (·.recorded) = current.stops.map (·.recorded)
  cancelled : r.stops.map (·.cancelled) = current.stops.map (·.cancelled)
  inaccurate : r.stops.map (·.inaccurate) = current.stops.map (·.inaccurate)
  state : r.state = if current.state = .modified then .modified else .updated
  /-- A stop in front of the anchor keeps its delays as far as they are smaller. -/
  before : ∀ (i : Nat) (old stop : StopRecord), i < anchor → current.stops[i]? = some old →
    r.stops[i]? = some stop →
      stop.delay = ⟨min old.delay.arrival delay, min old.delay.departure delay⟩
  /-- From the anchor on both delays are the one reported. -/
  behind : ∀ (i : Nat) (stop : StopRecord), anchor ≤ i → r.stops[i]? = some stop →
    stop.delay = ⟨delay, delay⟩
  /-- No stop in front of the anchor is later than it was. -/
  noLater : ∀ (i : Nat) (old stop : StopRecord), i < anchor → current.stops[i]? = some old →
    r.stops[i]? = some stop →
      stop.passage.arrival ≤ old.passage.arrival ∧ stop.passage.departure ≤ old.passage.departure

namespace VehicleReport

variable {anchor : String} {delay : Int} {lookup : StopLookup} {current : TripRecord} {i : Nat}

/-- The anchor is met from its position on. -/
theorem reached_iff (inside : i < current.stops.length) :
    Reached anchor lookup current.stops i ↔ current.pattern.anchorAt lookup anchor ≤ i := by
  have answers : ∀ s : StopRecord, (s.visit.stop.serving? lookup anchor).isSome ↔
      s.visit.stop.Answers lookup anchor := fun s => Stop.isSome_serving?_iff
  simp only [Reached, answers, Pattern.anchorAt, TripRecord.pattern, List.findIdx_map]
  constructor
  · intro h
    obtain ⟨s, hs, here⟩ := h
    obtain ⟨j, hj, rfl⟩ := List.mem_take_iff_getElem.mp hs
    rw [Nat.lt_min] at hj
    by_contra later
    have none := List.not_of_lt_findIdx (Nat.lt_of_le_of_lt (Nat.le_of_lt_succ hj.1)
      (Nat.lt_of_not_le later))
    simp [here] at none
  · intro h
    have found : List.findIdx _ current.stops < current.stops.length := Nat.lt_of_le_of_lt h inside
    refine ⟨current.stops[_], List.mem_take_iff_getElem.mpr ⟨_, ?_, rfl⟩, ?_⟩
    · exact Nat.lt_min.mpr ⟨Nat.lt_succ_of_le h, found⟩
    · simpa using List.findIdx_getElem (w := found)

/-- Stops have the delays of a report just when each has its own, in front of the anchor or from
there on. -/
theorem delays_eq_iff {stops : List StopRecord} (length : stops.length = current.stops.length) :
    stops.map (·.delay) = delays anchor delay lookup current.stops ↔
      ∀ (i : Nat) (old stop : StopRecord), current.stops[i]? = some old → stops[i]? = some stop →
        stop.delay = if current.pattern.anchorAt lookup anchor ≤ i then .both delay
          else old.delay.atMost delay := by
  constructor
  · intro told i old stop hold hstop
    have inside : i < current.stops.length := (List.getElem?_eq_some_iff.mp hold).1
    have here := congrArg (·[i]?) told
    simp only [List.getElem?_map, delays_getElem?, hold, hstop, Option.map_some,
      Option.some.injEq] at here
    simp only [here, delayAt, reached_iff inside]
  · intro each
    apply List.ext_getElem
    · rw [List.length_map, length_delays, length]
    intro i hstops hdelays
    rw [List.length_map] at hstops
    have inside : i < current.stops.length := length ▸ hstops
    apply Option.some.inj
    rw [← List.getElem?_eq_getElem, ← List.getElem?_eq_getElem, delays_getElem?, List.getElem?_map,
      List.getElem?_eq_getElem hstops, List.getElem?_eq_getElem inside, Option.map_some,
      Option.map_some, each i _ _ (List.getElem?_eq_getElem inside) (List.getElem?_eq_getElem hstops)]
    simp only [delayAt, reached_iff inside]

end VehicleReport

namespace StopRecord

/-- Stops that agree in all columns but their times differ in their passages alone. -/
theorem forall₂_passage_iff {stops stops' : List StopRecord} :
    List.Forall₂ (fun s s' => s' = { s with passage := s'.passage }) stops stops' ↔
      stops'.map (·.visit) = stops.map (·.visit) ∧
      stops'.map (·.scheduled) = stops.map (·.scheduled) ∧
      stops'.map (·.recorded) = stops.map (·.recorded) ∧
      stops'.map (·.cancelled) = stops.map (·.cancelled) ∧
      stops'.map (·.inaccurate) = stops.map (·.inaccurate) := by
  induction stops generalizing stops' with
  | nil => simp
  | cons s rest ih =>
    cases stops' with
    | nil => simp
    | cons s' rest' =>
      have own : s' = { s with passage := s'.passage } ↔ s'.visit = s.visit ∧
          s'.scheduled = s.scheduled ∧ s'.recorded = s.recorded ∧ s'.cancelled = s.cancelled ∧
          s'.inaccurate = s.inaccurate := by
        obtain ⟨_, _, _, _, _, _⟩ := s'
        simp
      simp only [List.forall₂_cons, own, ih, List.map_cons, List.cons.injEq]
      tauto

/-- A stop whose delays are cut down is no later than it was. -/
theorem noLater_of_atMost {old stop : StopRecord} {delay : Int}
    (scheduled : stop.scheduled = old.scheduled) (cut : stop.delay = old.delay.atMost delay) :
    stop.passage.arrival ≤ old.passage.arrival ∧
      stop.passage.departure ≤ old.passage.departure := by
  simp only [StopRecord.delay, scheduled, Passage.delayFrom, Delay.atMost, Delay.mk.injEq] at cut
  show stop.passage.arrival.val ≤ _ ∧ stop.passage.departure.val ≤ _
  omega

end StopRecord

namespace TripRecord

/-- **What a report makes of the stops** and of the state makes up the record. -/
theorem reported_iff {current r : TripRecord} {anchor : String} {delay : Int}
    {lookup : StopLookup} :
    current.Reported (current.pattern.anchorAt lookup anchor) delay r ↔
      VehicleReport.withDelays (current.stops.zip
        (VehicleReport.delays anchor delay lookup current.stops)) = .ok r.stops ∧
      r = { current with
        stops := r.stops
        state := if current.state = .modified then .modified else .updated } := by
  constructor
  · intro h
    have same := StopRecord.forall₂_passage_iff.mpr
      ⟨h.pattern, h.scheduled, h.recorded, h.cancelled, h.inaccurate⟩
    have delays :
        r.stops.map (·.delay) = VehicleReport.delays anchor delay lookup current.stops := by
      refine (VehicleReport.delays_eq_iff same.length_eq.symm).mpr fun i old stop hold hstop => ?_
      split
      next reached => exact h.behind i stop reached hstop
      next unreached => exact h.before i old stop (Nat.lt_of_not_le unreached) hold hstop
    refine ⟨delays ▸ VehicleReport.withDelays_of_stops same, ?_⟩
    obtain ⟨_, _, _, _⟩ := r
    cases h.tripId
    cases h.serviceCode
    cases h.state
    rfl
  · intro h
    obtain ⟨laid, made⟩ := h
    obtain ⟨same, delays⟩ := VehicleReport.stops_of_withDelays VehicleReport.length_delays laid
    obtain ⟨visits, scheduled, recorded, cancelled, inaccurate⟩ :=
      StopRecord.forall₂_passage_iff.mp same
    have each := (VehicleReport.delays_eq_iff same.length_eq.symm).mp delays
    have cut : ∀ (i : Nat) (old stop : StopRecord), i < current.pattern.anchorAt lookup anchor →
        current.stops[i]? = some old → r.stops[i]? = some stop →
        stop.delay = old.delay.atMost delay := by
      intro i old stop inFront hold hstop
      rw [each i old stop hold hstop, if_neg (Nat.not_le_of_lt inFront)]
    exact
      { tripId := by rw [made]
        serviceCode := by rw [made]
        pattern := visits
        scheduled, recorded, cancelled, inaccurate
        state := by rw [made]
        before := cut
        behind := fun i stop behind hstop => by
          have inside : i < current.stops.length := by
            rw [same.length_eq]
            exact (List.getElem?_eq_some_iff.mp hstop).1
          rw [each i _ stop (List.getElem?_eq_getElem inside) hstop, if_pos behind, Delay.both]
        noLater := fun i old stop inFront hold hstop => by
          have scheduled : stop.scheduled = old.scheduled := by
            have here := congrArg (·[i]?) scheduled
            simpa [hold, hstop] using here
          exact StopRecord.noLater_of_atMost scheduled (cut i old stop inFront hold hstop) }

end TripRecord

namespace Timetable

variable {t : Timetable} {current r : TripRecord} {report : VehicleReport} {lookup : StopLookup}

/-- **What a report makes of a record of its trip**, told by the position of its anchor along the
pattern in effect: the record with the delays around that position, whenever its times run forward. -/
theorem afterReport_anchored :
    t.afterReport current report lookup = .ok r ↔
      (current.tripId = t.tripId ∧ current.stops.length = t.visits.length) ∧
        ∃ anchor, report.anchor? = some anchor ∧
          current.Reported (current.pattern.anchorAt lookup anchor) report.delaySeconds.val r ∧
          r.firstDisorder? = none := by
  rw [afterReport_eq_ok_iff]
  refine and_congr_right fun _ => exists_congr fun anchor => and_congr_right fun _ => ?_
  rw [TripRecord.reported_iff]
  constructor
  · intro h
    obtain ⟨stops, laid, inOrder, rfl⟩ := h
    exact ⟨⟨laid, rfl⟩, inOrder⟩
  · intro h
    obtain ⟨⟨laid, made⟩, inOrder⟩ := h
    exact ⟨r.stops, laid, inOrder, made⟩

end Timetable

/-! ## An anchor at another platform -/

namespace Sample

/-- The trip after it has recovered, but its fourth stop was moved to a platform of a station. -/
def rerouted : TripRecord :=
  let r := recovered.toOption.getD halfMinute
  { r with
    state := .modified
    stops := r.stops.mapIdx fun i s =>
      if i = 3 then { s with visit := { s.visit with stop := ⟨"C2", some "C"⟩ } } else s }

/-- A minute is reported for the other platform of that station. -/
def atStation : VehicleReport := ⟨"t", none, some ⟨some "C1"⟩, Seconds.of? 60⟩

def station : StopLookup := fun id => if id = "C1" then some ⟨"C1", some "C"⟩ else none

end Sample

/-- The trip has no stop of that name, but its fourth one shares the station. In front of it half a
minute and twenty seconds are kept, and two minutes are cut down. -/
theorem Timetable.afterReport_anchored_station :
    ∃ r, Sample.through.afterReport Sample.rerouted Sample.atStation Sample.station = .ok r ∧
      Sample.rerouted.pattern.anchorAt Sample.station "C1" = 3 ∧
      Sample.rerouted.Reported 3 60 r ∧
      Sample.rerouted.stops.map (·.delay) = [.both 30, .both 120, .both 20, .both 120, .none] ∧
      r.stops.map (·.delay) = [.both 30, .both 60, .both 20, .both 60, .both 60] := by
  have here : Sample.rerouted.pattern.anchorAt Sample.station "C1" = 3 := by decide +kernel
  have delays : (Sample.through.afterReport Sample.rerouted Sample.atStation Sample.station).map
      (·.stops.map (·.delay)) = .ok [.both 30, .both 60, .both 20, .both 60, .both 60] := by
    decide +kernel
  obtain ⟨r, made, hdelays⟩ := Outcome.map_eq_ok.mp delays
  obtain ⟨-, anchor, named, reported, -⟩ := afterReport_anchored.mp made
  cases (show Sample.atStation.anchor? = some "C1" by decide).symm.trans named
  rw [here] at reported
  exact ⟨r, made, here, reported, by decide +kernel, hdelays⟩

end LiveTimetable
