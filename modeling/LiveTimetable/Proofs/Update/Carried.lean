import LiveTimetable.Calendar.ZoneTable
import LiveTimetable.Proofs.Update.LoneCall
import LiveTimetable.Proofs.Update.Unmatched

/-!
# A delay that is carried to the end of the trip

A journey that tells of one late departure (`LoneCall`) gives a delay to the stop that it names.
The pass hands it on to all later stops, with its two sides as they are. Stops in front stay as
scheduled. Whether the record that comes out has its times in order depends on the trip:

* if the arrival follows the departure, it is late by the wait at the stop as well, and every later
  stop must have a wait that is no shorter;
* if the arrival is left as scheduled, so are the later ones, and the vehicle must be able to make
  up for the delay on the way from each stop to the next.

Main statement: `Timetable.afterJourney_lone`. A journey is taken up exactly when this holds
(`LoneCall.Fits`) and the call names a stop at all; the departures from the stop on are then late
by just what was told. It does not always hold (`Timetable.afterJourney_lone_refused`).
-/

namespace LiveTimetable

/-- **The trip leaves room for a delay** that is told of the departure from `v`. -/
def LoneCall.Fits (c : LoneCall) (front : List TimedVisit) (v : TimedVisit)
    (later : List TimedVisit) (late : Int) : Prop :=
  if c.observed && !front.isEmpty then
    (v :: later).Pairwise fun a b => a.passage.departure.val + late ≤ b.passage.arrival.val
  else ∀ w ∈ later, v.passage.wait ≤ w.passage.wait

instance (c : LoneCall) (front : List TimedVisit) (v : TimedVisit) (later : List TimedVisit)
    (late : Int) : Decidable (c.Fits front v later late) :=
  inferInstanceAs (Decidable (ite _ _ _))

namespace Timetable

/-- **A journey tells that the trip leaves `v` late**, by a call that was aimed at the scheduled
departure, on the service day that is derived from the call. -/
structure TellsLate (t : Timetable) (lookup : StopLookup) (zone : Zone) (journey : Journey)
    (c : LoneCall) (front : List TimedVisit) (v : TimedVisit) (later : List TimedVisit)
    (late : Int) : Prop where
  split : t.visits = front ++ v :: later
  apart : t.Apart lookup
  trip : journey.tripRef = t.tripId
  makes : journey.Makes c
  own : c.stopRef = v.visit.stop.id
  day : ∃ start, Propagation.serviceStart (some c.aimed) t.firstDeparture zone = .ok (some start) ∧
    c.aimed.IsAt (start + v.passage.departure.val) ∧
    c.told.IsAt (start + v.passage.departure.val + late)
  nonneg : 0 ≤ late
  held : ∀ w ∈ t.visits, Seconds.Held (w.passage.arrival.val + late) ∧
    Seconds.Held (w.passage.departure.val + late)
  delayHeld : (c.delay front.isEmpty v.passage late).Held

/-- **The record is late from a position on** in its departures, and as scheduled before it. -/
structure LateFrom (t : Timetable) (position : Nat) (late : Int) (r : TripRecord) : Prop where
  updated : r.state = .updated
  scheduled : r.stops.map (·.scheduled) = t.visits.map (·.passage)
  before : ∀ s ∈ r.stops.take position, s.passage = s.scheduled
  behind : ∀ s ∈ r.stops.drop position,
    s.passage.departure.val = s.scheduled.departure.val + late

variable {t : Timetable} {lookup : StopLookup} {zone : Zone} {journey : Journey} {c : LoneCall}
  {front later : List TimedVisit} {v : TimedVisit} {late : Int} {r : TripRecord}

namespace TellsLate

theorem mem_visits (h : t.TellsLate lookup zone journey c front v later late) {w : TimedVisit}
    (hw : w ∈ front ∨ w = v ∨ w ∈ later) : w ∈ t.visits := by
  rw [h.split, List.mem_append, List.mem_cons]
  exact hw

theorem wait_nonneg (h : t.TellsLate lookup zone journey c front v later late) :
    0 ≤ v.passage.wait := by
  obtain ⟨inside, -⟩ := Passage.firstDisorder?_eq_none_iff_pairwise.mp t.inOrder
  have hv : v.passage ∈ t.visits.map (·.passage) :=
    List.mem_map_of_mem (h.mem_visits (.inr (.inl rfl)))
  have : v.passage.arrival.val ≤ v.passage.departure.val := inside _ hv
  rw [Passage.wait]
  omega

/-- The order of the delayed record is what the trip leaves room for. -/
theorem order_iff (h : t.TellsLate lookup zone journey c front v later late)
    {shifted : List Passage}
    (moved : Passage.Shifted (c.delay front.isEmpty v.passage late)
      ((v :: later).map (·.passage)) shifted) :
    Passage.firstDisorder? (front.map (·.passage) ++ shifted) = none ↔
      c.Fits front v later late := by
  have inOrder := t.inOrder
  rw [h.split, List.map_append] at inOrder
  obtain ⟨inside, between⟩ := Passage.firstDisorder?_eq_none_iff_pairwise.mp inOrder
  rw [List.forall_mem_append] at inside
  rw [List.pairwise_append] at between
  have wait := h.wait_nonneg
  have nonneg := h.nonneg
  by_cases unknown : (c.observed && !front.isEmpty) = true
  · have delay : c.delay front.isEmpty v.passage late = ⟨0, late⟩ := by
      rw [LoneCall.delay, if_pos unknown]
    rw [delay] at moved
    rw [LoneCall.Fits, if_pos unknown,
      Passage.firstDisorder?_append_iff inOrder moved (Int.le_refl 0), List.pairwise_map]
    simp only [Int.add_zero]
    -- a late departure leaves the scheduled arrival in front of it
    refine and_iff_right fun p hp => ?_
    have : p.arrival.val ≤ p.departure.val := inside.2 p hp
    omega
  · have delay : c.delay front.isEmpty v.passage late = ⟨v.passage.wait + late, late⟩ := by
      rw [LoneCall.delay, if_neg unknown]
    have room : ∀ p : Passage, p.arrival.val + (v.passage.wait + late) ≤ p.departure.val + late ↔
        v.passage.wait ≤ p.wait := by
      intro p
      rw [Passage.wait, Passage.wait]
      omega
    rw [delay] at moved
    rw [LoneCall.Fits, if_neg unknown,
      Passage.firstDisorder?_append_iff inOrder moved (Int.add_nonneg wait nonneg)]
    simp only [room, List.forall_mem_map, List.forall_mem_cons]
    constructor
    · exact fun fits => fits.1.2
    · intro fits
      refine ⟨⟨Int.le_refl _, fits⟩, between.2.1.imp fun {p q} hpq => ?_⟩
      have : p.departure.val ≤ q.arrival.val := hpq
      omega

/-- Where the trip leaves room, each later stop can have the delay. -/
theorem exists_delayed (h : t.TellsLate lookup zone journey c front v later late)
    (fits : c.Fits front v later late) {w : TimedVisit} (hw : w ∈ later) :
    ∃ stop, Propagation.Delayed (c.delay front.isEmpty v.passage late) w stop := by
  have wait := h.wait_nonneg
  have nonneg := h.nonneg
  obtain ⟨-, departs⟩ := h.held w (h.mem_visits (.inr (.inr hw)))
  have arrives : Seconds.Held
      (w.passage.arrival.val + (c.delay front.isEmpty v.passage late).arrival) := by
    have scheduled := w.passage.arrival.held
    rw [LoneCall.Fits] at fits
    rw [LoneCall.delay]
    split at fits
    next unknown =>
      rw [if_pos unknown, Int.add_zero]
      exact scheduled
    next unknown =>
      have room := fits w hw
      rw [Passage.wait, Passage.wait] at room
      rw [Passage.wait] at wait
      rw [if_neg unknown, Passage.wait]
      dsimp only [Seconds.Held] at departs ⊢
      omega
  refine ⟨{ StopRecord.ofTimetable w.visit w.passage with
    passage := ⟨⟨_, arrives⟩, ⟨_, departs⟩⟩ }, rfl, ?_⟩
  exact Passage.delayFrom_eq_iff.mpr ⟨rfl, rfl⟩

theorem slots_eq (h : t.TellsLate lookup zone journey c front v later late) :
    Propagation.slots t (t.matching journey lookup) t.record =
      front.map .bare ++ ⟨v, some ⟨c.matched, .itself⟩, .none⟩ :: later.map .bare := by
  have bare : ∀ visits : List TimedVisit,
      List.zipWith (fun v found => (⟨v, found, .none⟩ : Propagation.Slot)) visits
        (visits.map fun _ => none) = visits.map .bare := by
    intro visits
    rw [List.zipWith_map_right, List.zipWith_self]
    rfl
  rw [Propagation.slots_record, matching_lone h.apart h.split h.makes h.own, h.split,
    List.zipWith_append (by simp), List.zipWith_cons_cons, bare, bare]

/-- The stop of the call has its delay, and hands it on. -/
theorem step_eq (h : t.TellsLate lookup zone journey c front v later late)
    (departure : Seconds) : ∃ start time stop,
      Propagation.Late (c.delay front.isEmpty v.passage late) v stop ∧
      Propagation.step ⟨zone, t.firstDeparture, journey⟩ (decide (0 + front.length = 0))
          ⟨none, departure, .none⟩ ⟨v, some ⟨c.matched, .itself⟩, .none⟩ =
        .ok (⟨some start, time, c.delay front.isEmpty v.passage late⟩, stop) := by
  obtain ⟨start, hstart, -, told⟩ := h.day
  obtain ⟨time, htime⟩ : ∃ time : Seconds, time.val = v.passage.departure.val + late :=
    ⟨⟨_, (h.held v (h.mem_visits (.inr (.inl rfl)))).2⟩, rfl⟩
  have onDay : Service.timeAt? start c.told = some time := by
    rw [Service.timeAt?, Instant.secondsSince_of_isAt told, Seconds.of?_eq_some_iff, htime]
    omega
  have first : decide (0 + front.length = 0) = front.isEmpty := by
    cases front with
    | nil => rfl
    | cons w front => simp
  let passage : Passage :=
    ⟨if c.observed && !front.isEmpty then v.passage.arrival else time, time⟩
  have delay : passage.delayFrom v.passage = c.delay front.isEmpty v.passage late :=
    LoneCall.delayFrom_matched htime
  refine ⟨start, time, Propagation.stopWith ⟨zone, t.firstDeparture, journey⟩
    ⟨v, some ⟨c.matched, .itself⟩, .none⟩ ⟨c.matched, .itself⟩ passage, ⟨rfl, delay⟩, ?_⟩
  rw [first]
  refine Propagation.matchedStep_eq_ok_iff.mpr ⟨some start, passage, ?_, ?_, ?_, ?_, rfl⟩
  · simp only [Propagation.dayAfter, LoneCall.reference?_matched, hstart]
  · exact LoneCall.passageAt_matched _ _ v.passage onDay
  · show (passage.delayFrom v.passage).Held
    rw [delay]
    exact h.delayHeld
  · show _ = (⟨some start, time, passage.delayFrom v.passage⟩ : Propagation.Carry)
    rw [delay]

/-- **What the pass makes of the trip**: nothing new in front, and the delay of the call from its
stop on. -/
theorem pass_eq_ok_iff (h : t.TellsLate lookup zone journey c front v later late) :
    ∃ stop, Propagation.Late (c.delay front.isEmpty v.passage late) v stop ∧ ∀ stops,
      Propagation.pass ⟨zone, t.firstDeparture, journey⟩ 0 .initial
          (Propagation.slots t (t.matching journey lookup) t.record) = .ok stops ↔
        ∃ tail,
          List.Forall₂ (Propagation.Delayed (c.delay front.isEmpty v.passage late)) later tail ∧
          stops = (front.map fun v => .ofTimetable v.visit v.passage) ++ stop :: tail := by
  have inFront : ∀ w ∈ front, ¬ w.visit.isPassedBy :=
    fun w hw => h.apart.served w (h.mem_visits (.inl hw))
  have inLater : ∀ w ∈ later, ¬ w.visit.isPassedBy :=
    fun w hw => h.apart.served w (h.mem_visits (.inr (.inr hw)))
  obtain ⟨departure, hfront⟩ := Propagation.pass_front ⟨zone, t.firstDeparture, journey⟩ 0 inFront
    none .zero (⟨v, some ⟨c.matched, .itself⟩, .none⟩ :: later.map .bare)
  obtain ⟨start, time, stop, hstop, hstep⟩ := h.step_eq departure
  refine ⟨stop, hstop, fun stops => ?_⟩
  rw [slots_eq h, Propagation.Carry.initial, hfront, Propagation.pass_cons_of_step hstep,
    Outcome.map_eq_ok]
  constructor
  · intro h
    obtain ⟨behind, hbehind, rfl⟩ := h
    obtain ⟨tail, htail, rfl⟩ := Outcome.map_eq_ok.mp hbehind
    exact ⟨tail, (Propagation.pass_bare_eq_ok_iff inLater).mp htail, rfl⟩
  · intro h
    obtain ⟨tail, htail, rfl⟩ := h
    exact ⟨stop :: tail, Outcome.map_eq_ok.mpr
      ⟨tail, (Propagation.pass_bare_eq_ok_iff inLater).mpr htail, rfl⟩, rfl⟩

/-- The stops that the pass makes are in order where the trip leaves room. -/
theorem order_of_late (h : t.TellsLate lookup zone journey c front v later late)
    {behind : List StopRecord}
    (hbehind : List.Forall₂ (Propagation.Late (c.delay front.isEmpty v.passage late))
      (v :: later) behind) :
    Passage.firstDisorder? (((front.map fun v => StopRecord.ofTimetable v.visit v.passage) ++
        behind).map (·.passage)) = none ↔ c.Fits front v later late := by
  have moved : Passage.Shifted (c.delay front.isEmpty v.passage late)
      ((v :: later).map (·.passage)) (behind.map (·.passage)) := by
    rw [Passage.Shifted, List.forall₂_map_left_iff, List.forall₂_map_right_iff]
    exact hbehind.imp fun w stop hw => hw.delayFrom_eq
  rw [List.map_append, List.map_map]
  exact h.order_iff moved

/-- The stops that the pass makes are as scheduled in front, and late by what was told behind. -/
theorem lateFrom_of_late (h : t.TellsLate lookup zone journey c front v later late)
    {behind : List StopRecord}
    (hbehind : List.Forall₂ (Propagation.Late (c.delay front.isEmpty v.passage late))
      (v :: later) behind) :
    t.LateFrom front.length late ⟨t.tripId, t.serviceCode, .updated,
      (front.map fun v => StopRecord.ofTimetable v.visit v.passage) ++ behind⟩ := by
  have length : (front.map fun v => StopRecord.ofTimetable v.visit v.passage).length =
      front.length := List.length_map _
  refine ⟨rfl, ?_, ?_, ?_⟩
  · have scheduled : behind.map (·.scheduled) = (v :: later).map (·.passage) :=
      Lists.map_eq_map_iff_forall₂.mpr (hbehind.flip.imp fun stop w hw => hw.1)
    rw [h.split, List.map_append, List.map_append, List.map_map, scheduled]
    rfl
  · intro stop hstop
    rw [← length, List.take_left] at hstop
    obtain ⟨w, -, rfl⟩ := List.mem_map.mp hstop
    rfl
  · intro stop hstop
    rw [← length, List.drop_left] at hstop
    have late : stop.delay = c.delay front.isEmpty v.passage late :=
      Lists.forall_mem_of_forall₂ (fun _ _ hw => hw.2) hbehind stop hstop
    exact (Passage.delayFrom_eq_iff.mp late).2

/-- All delays that the pass makes are held. -/
theorem held_of_late (h : t.TellsLate lookup zone journey c front v later late)
    {behind : List StopRecord}
    (hbehind : List.Forall₂ (Propagation.Late (c.delay front.isEmpty v.passage late))
      (v :: later) behind) :
    ∀ stop ∈ (front.map fun v => StopRecord.ofTimetable v.visit v.passage) ++ behind,
      stop.delay.Held := by
  rw [List.forall_mem_append]
  constructor
  · intro stop hstop
    obtain ⟨w, -, rfl⟩ := List.mem_map.mp hstop
    show (w.passage.delayFrom w.passage).Held
    rw [Passage.delayFrom_self]
    decide
  · refine Lists.forall_mem_of_forall₂ (fun w stop hw => ?_) hbehind
    rw [hw.2]
    exact h.delayHeld

/-- A record is made just where the pass makes one in order. -/
theorem afterJourney_eq_ok_iff (h : t.TellsLate lookup zone journey c front v later late) :
    t.afterJourney t.record journey lookup zone = .ok r ↔
      t.propagate t.record journey lookup zone = .ok r := by
  rw [Timetable.afterJourney_eq_ok_iff]
  constructor
  · intro h
    obtain ⟨-, -, ⟨hcancel, -⟩ | ⟨-, hrun⟩⟩ := h
    · exact absurd hcancel h.makes.runs
    · exact hrun
  · intro hrun
    exact ⟨⟨rfl, by simp [record]⟩, h.trip, .inr ⟨h.makes.runs, hrun⟩⟩

theorem firstBlankRef?_eq_none_iff (h : t.TellsLate lookup zone journey c front v later late) :
    journey.firstBlankRef? = none ↔ ¬ Text.allBlank c.stopRef := by
  have refs : journey.stopRefs = [c.stopRef] := by
    rw [Journey.stopRefs, h.makes.recorded, h.makes.estimated]
    obtain ⟨observed, stopRef, aimed, told⟩ := c
    cases observed with
    | true => rfl
    | false => rfl
  rw [Journey.firstBlankRef?, refs]
  simp

/-- No calculation with the journey leaves the calendar. -/
theorem pass_ne_offCalendar (h : t.TellsLate lookup zone journey c front v later late) (i : Nat) :
    Propagation.pass ⟨zone, t.firstDeparture, journey⟩ 0 .initial
      (Propagation.slots t (t.matching journey lookup) t.record) ≠ .error (i, .offCalendar) := by
  intro hpass
  obtain ⟨slot, hslot, found, hfound, hstart⟩ := Propagation.serviceStart_of_pass hpass
  obtain ⟨start, hday, -⟩ := h.day
  have bare : ∀ visits : List TimedVisit, slot ∉ visits.map .bare := by
    intro visits hmem
    obtain ⟨w, -, rfl⟩ := List.mem_map.mp hmem
    cases hfound
  rw [h.slots_eq, List.mem_append, List.mem_cons] at hslot
  rcases hslot with hslot | rfl | hslot
  · exact bare front hslot
  · cases hfound
    rw [LoneCall.reference?_matched, hday] at hstart
    cases hstart
  · exact bare later hslot

end TellsLate

/-- **A single late departure is taken up exactly when the trip leaves room for it**, and then all
departures from its stop on are late by what was told. -/
theorem afterJourney_lone (h : t.TellsLate lookup zone journey c front v later late) :
    (¬ Text.allBlank c.stopRef ∧ c.Fits front v later late →
        ∃ r, t.afterJourney t.record journey lookup zone = .ok r ∧
          t.LateFrom front.length late r) ∧
      (¬ (¬ Text.allBlank c.stopRef ∧ c.Fits front v later late) →
        ∃ e, t.afterJourney t.record journey lookup zone = .error (.rejected e)) := by
  obtain ⟨stop, hstop, hpass⟩ := h.pass_eq_ok_iff
  have behind : ∀ tail,
      List.Forall₂ (Propagation.Delayed (c.delay front.isEmpty v.passage late)) later tail →
      List.Forall₂ (Propagation.Late (c.delay front.isEmpty v.passage late)) (v :: later)
        (stop :: tail) :=
    fun tail htail => .cons hstop (htail.imp fun _ _ hw => hw.late)
  constructor
  · intro h
    obtain ⟨named, fits⟩ := h
    obtain ⟨tail, htail⟩ := Lists.exists_forall₂ fun w hw => h.exists_delayed fits hw
    have hbehind := behind tail htail
    refine ⟨_, ?_, h.lateFrom_of_late hbehind⟩
    rw [h.afterJourney_eq_ok_iff, propagate_eq_ok_iff, h.firstBlankRef?_eq_none_iff]
    refine ⟨named, _, (hpass _).mpr ⟨tail, htail, rfl⟩, ?_, h.held_of_late hbehind, ?_⟩
    · rw [stateAfter_lone h.apart h.split h.makes h.own]
    · exact (h.order_of_late hbehind).mpr fits
  · intro unfit
    refine rejected_of_afterJourney (fun r hr => unfit ?_) h.pass_ne_offCalendar
    rw [h.afterJourney_eq_ok_iff, propagate_eq_ok_iff, h.firstBlankRef?_eq_none_iff] at hr
    obtain ⟨named, stops, hstops, rfl, -, horder⟩ := hr
    obtain ⟨tail, htail, rfl⟩ := (hpass stops).mp hstops
    exact ⟨named, (h.order_of_late (behind tail htail)).mp horder⟩

end Timetable

/-! ## A trip with a wait

A trip over four stops that waits at the second one, which has a name or not, and leaves it late. -/

namespace Sample

def visitAt (id : String) (arrival departure : Fin 1000) : TimedVisit where
  visit := ⟨⟨id, none⟩, .scheduled, .scheduled, none⟩
  passage := ⟨⟨arrival, by omega⟩, ⟨departure, by omega⟩⟩

def second (named : Bool) : TimedVisit := visitAt (if named then "B" else "") 280 300

def waiting (named : Bool) : Timetable where
  tripId := "t"
  serviceCode := 0
  line := none
  visits := [visitAt "A" 0 0, second named, visitAt "C" 600 600, visitAt "D" 900 900]
  nonempty := List.cons_ne_nil _ _
  inOrder := by cases named <;> decide

def stops (named : Bool) : StopLookup :=
  fun id => ((waiting named).pattern.find? (·.stop.id = id)).map (·.stop)

/-- A second of the first of May 2024. -/
def moment (second : Fin 86400) : Instant where
  second := 1714521600 + second
  nano := 0
  offset := 0
  nano_lt := by decide
  offset_lt := by decide
  inCalendar := by
    simp only [Calendar.HasSecond, Calendar.firstDay, Calendar.lastDay]
    omega
  localInCalendar := by
    simp only [Calendar.HasSecond, Calendar.firstDay, Calendar.lastDay]
    omega

def leaves (named observed : Bool) (late : Fin 1000) : LoneCall :=
  ⟨observed, (second named).visit.stop.id, moment 300, moment ⟨300 + late, by omega⟩⟩

def news (named observed : Bool) (late : Fin 1000) : Journey :=
  ⟨"t", none, none, none, (leaves named observed late).recorded,
    (leaves named observed late).estimated⟩

def outcome (named observed : Bool) (late : Fin 1000) : Except UpdateFailure TripRecord :=
  (waiting named).afterJourney (waiting named).record (news named observed late) (stops named) .utc

def Told (named observed : Bool) (late : Fin 1000) : Prop :=
  (waiting named).TellsLate (stops named) .utc (news named observed late)
    (leaves named observed late) [visitAt "A" 0 0] (second named)
    [visitAt "C" 600 600, visitAt "D" 900 900] late

theorem told (named observed : Bool) (late : Fin 1000) : Told named observed late where
  split := rfl
  apart :=
    { ids := by cases named <;> decide
      stations := by cases named <;> decide
      known := by
        intro v hv stop hstop
        simp only [waiting, List.mem_cons, List.not_mem_nil, or_false] at hv
        cases named <;> rcases hv with rfl | rfl | rfl | rfl <;> cases hstop <;> rfl
      served := by cases named <;> decide }
  trip := rfl
  makes := ⟨rfl, rfl, Bool.false_ne_true⟩
  own := rfl
  day := by
    have start : Propagation.serviceStart (some (moment 300)) (waiting named).firstDeparture .utc =
        .ok (some 1714521600) := by cases named <;> decide +kernel
    have aimed : (moment 300).IsAt (1714521600 + 300) := ⟨by decide, rfl⟩
    refine ⟨1714521600, start, aimed, ?_, rfl⟩
    show (1714521600 : Int) + (300 + late.val : Nat) = 1714521600 + 300 + late.val
    omega
  nonneg := by omega
  held := by
    intro w hw
    have bound := late.isLt
    simp only [List.mem_cons, List.not_mem_nil, or_false, waiting] at hw
    rcases hw with rfl | rfl | rfl | rfl <;>
      simp only [second, visitAt, Seconds.Held] <;> omega
  delayHeld := by
    have bound := late.isLt
    cases observed with
    | true =>
      show Seconds.Held 0 ∧ Seconds.Held late.val
      simp only [Seconds.Held]
      omega
    | false =>
      show Seconds.Held (300 - 280 + late.val) ∧ Seconds.Held late.val
      simp only [Seconds.Held]
      omega

end Sample

/-- An observed departure 200 seconds late fits into the way from each stop to the next. -/
theorem Timetable.afterJourney_lone_fitting :
    Sample.Told true true 200 ∧ ∃ r, Sample.outcome true true 200 = .ok r ∧
      (Sample.waiting true).LateFrom 1 200 r := by
  have told := Sample.told true true 200
  exact ⟨told, (afterJourney_lone told).1 ⟨by decide, by decide⟩⟩

/-- A late departure is refused where the trip leaves no room for it: an expected one for a wait of
20 seconds that no later stop has, and an observed one for a way of 300 seconds that 400 do not fit
into. It is refused as well if its stop has no name. -/
theorem Timetable.afterJourney_lone_refused :
    (Sample.Told true false 120 ∧
      Sample.outcome true false 120 = .error (.rejected (.nonIncreasingTimes "t" "" 2))) ∧
    (Sample.Told true true 400 ∧
      Sample.outcome true true 400 = .error (.rejected (.nonIncreasingTimes "t" "" 2))) ∧
    Sample.Told false true 200 ∧
      Sample.outcome false true 200 = .error (.rejected (.missingStopRef "t" 0)) := by
  refine ⟨⟨Sample.told true false 120, ?_⟩, ⟨Sample.told true true 400, ?_⟩,
    Sample.told false true 200, ?_⟩
  · decide +kernel
  · decide +kernel
  · decide +kernel

end LiveTimetable
