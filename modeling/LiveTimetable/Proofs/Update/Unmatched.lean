import LiveTimetable.Proofs.Timetable.Shift
import LiveTimetable.Proofs.Update.Pass

/-!
# Stops without a call

A journey is laid along a trip that runs as scheduled so far, and most stops find no call for
themselves. In front of the first call they stay as scheduled (`Propagation.pass_front`). Behind a
call they take on its delay, with its two sides as they are (`Propagation.pass_bare_eq_ok_iff`). A
stop where nobody gets on or off is another matter, and left out here.
-/

namespace LiveTimetable

namespace Propagation

/-- A stop without a call, of a trip that runs as scheduled so far. -/
def Slot.bare (v : TimedVisit) : Slot := ⟨v, none, .none⟩

/-- A record of the visit that has the delay. -/
def Late (d : Delay) (v : TimedVisit) (stop : StopRecord) : Prop :=
  stop.scheduled = v.passage ∧ stop.delay = d

/-- The record of a visit without a call that has the delay. -/
def Delayed (d : Delay) (v : TimedVisit) (stop : StopRecord) : Prop :=
  stop = { StopRecord.ofTimetable v.visit v.passage with passage := stop.passage } ∧ stop.delay = d

variable {s : Setting} {first : Bool} {carry carry' : Carry} {stop : StopRecord} {v : TimedVisit}
  {visits : List TimedVisit} {stops : List StopRecord} {position : Nat}

theorem Late.delayFrom_eq {d : Delay} (h : Late d v stop) :
    stop.passage.delayFrom v.passage = d := by
  rw [← h.1]
  exact h.2

theorem Delayed.late {d : Delay} (h : Delayed d v stop) : Late d v stop := by
  refine ⟨?_, h.2⟩
  rw [h.1]
  rfl

/-- A stop without a call has the delay that is carried to it. -/
theorem step_bare_eq_ok_iff (served : ¬ v.visit.isPassedBy) :
    step s first carry (.bare v) = .ok (carry', stop) ↔
      Delayed carry.delay v stop ∧ carry' = { carry with departure := stop.passage.departure } := by
  have delay : ∀ passage, UnmatchedPassage first carry (.bare v) passage ↔
      passage.delayFrom v.passage = carry.delay := by
    intro passage
    unfold UnmatchedPassage
    rw [if_neg fun h => served h.2]
    show passage.delayFrom v.passage = (if carry.delay = .none then .none else carry.delay) ↔ _
    split
    next h => rw [h]
    next => rfl
  show unmatchedStep first carry (.bare v) = _ ↔ _
  rw [unmatchedStep_eq_ok_iff]
  constructor
  · intro h
    obtain ⟨passage, hpassage, rfl, rfl⟩ := h
    exact ⟨⟨rfl, (delay passage).mp hpassage⟩, rfl⟩
  · intro h
    obtain ⟨hdelayed, rfl⟩ := h
    exact ⟨stop.passage, (delay _).mpr hdelayed.late.delayFrom_eq, rfl, hdelayed.1⟩

/-- Stops without calls all have the delay that is carried to the first of them. -/
theorem pass_bare_eq_ok_iff (served : ∀ v ∈ visits, ¬ v.visit.isPassedBy) :
    pass s position carry (visits.map .bare) = .ok stops ↔
      List.Forall₂ (Delayed carry.delay) visits stops := by
  induction visits generalizing position carry stops with
  | nil =>
    rw [List.forall₂_nil_left_iff]
    exact ⟨fun h => by cases h; rfl, fun h => by rw [h]; rfl⟩
  | cons v rest ih =>
    have hv := served v List.mem_cons_self
    have hrest := fun w hw => served w (List.mem_cons_of_mem v hw)
    simp only [List.map_cons, pass_cons_eq_ok_iff, step_bare_eq_ok_iff hv,
      List.forall₂_cons_left_iff]
    constructor
    · intro h
      obtain ⟨carry', stop, tail, ⟨hstop, rfl⟩, htail, rfl⟩ := h
      have := (ih hrest).mp htail
      exact ⟨stop, tail, hstop, this, rfl⟩
    · intro h
      obtain ⟨stop, tail, hstop, htail, rfl⟩ := h
      exact ⟨_, stop, tail, ⟨hstop, rfl⟩, (ih hrest).mpr htail, rfl⟩

theorem pass_cons_of_step {slot : Slot} (h : step s (position = 0) carry slot = .ok (carry', stop))
    (rest : List Slot) :
    pass s position carry (slot :: rest) = (pass s (position + 1) carry' rest).map (stop :: ·) := by
  rw [pass, h]

/-- In front of the first call stops stay as scheduled. -/
theorem pass_front (s : Setting) (position : Nat) {front : List TimedVisit}
    (served : ∀ v ∈ front, ¬ v.visit.isPassedBy) (start : Option Int) (departure : Seconds)
    (slots : List Slot) :
    ∃ departure', pass s position ⟨start, departure, .none⟩ (front.map .bare ++ slots) =
      (pass s (position + front.length) ⟨start, departure', .none⟩ slots).map
        ((front.map fun v => .ofTimetable v.visit v.passage) ++ ·) := by
  induction front generalizing position departure with
  | nil =>
    refine ⟨departure, ?_⟩
    show pass s position _ slots = (pass s position _ slots).map id
    cases pass s position ⟨start, departure, .none⟩ slots with
    | error e => rfl
    | ok stops => rfl
  | cons v front ih =>
    have hv := served v List.mem_cons_self
    have hfront := fun w hw => served w (List.mem_cons_of_mem v hw)
    have stays : Delayed .none v (.ofTimetable v.visit v.passage) :=
      ⟨rfl, Passage.delayFrom_self v.passage⟩
    obtain ⟨departure', hpass⟩ := ih (position + 1) hfront v.passage.departure
    refine ⟨departure', ?_⟩
    have hstep : step s (decide (position = 0)) ⟨start, departure, .none⟩ (.bare v) =
        .ok (⟨start, v.passage.departure, .none⟩, .ofTimetable v.visit v.passage) :=
      (step_bare_eq_ok_iff hv).mpr ⟨stays, rfl⟩
    have next : position + (v :: front).length = position + 1 + front.length := by
      rw [List.length_cons]
      omega
    rw [List.map_cons, List.cons_append, pass_cons_of_step hstep, hpass, next]
    cases pass s (position + 1 + front.length) ⟨start, departure', .none⟩ slots with
    | error e => rfl
    | ok stops => rfl

/-- On the record of a timetable no slot brings a delay. -/
theorem slots_record (t : Timetable) (m : Matching) :
    slots t m t.record = List.zipWith (fun v found => ⟨v, found, .none⟩) t.visits m := by
  have none : ∀ v : TimedVisit, (StopRecord.ofTimetable v.visit v.passage).delay = .none :=
    fun v => Passage.delayFrom_self v.passage
  rw [slots, Timetable.record]
  generalize t.visits = visits
  induction visits generalizing m with
  | nil => rfl
  | cons v rest ih =>
    cases m with
    | nil => rfl
    | cons found m => simp only [List.map_cons, List.zip_cons_cons, List.zipWith_cons_cons, ih, none]

end Propagation

end LiveTimetable
