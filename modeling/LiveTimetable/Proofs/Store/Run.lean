import LiveTimetable.Store.Basic
import LiveTimetable.Proofs.Outcome

/-!
# Runs of a store

A store is written to in two ways: it is handed a message, or purged. A run is any list of such
writes. A message that is refused leaves the store as it was, and so does one whose calculations
leave the calendar.

A message reads one record and writes one: `apply_eq` says which, and that the schedule decides
the rest. Hence a property that updates keep holds of every record that any run publishes
(`published?_run`, `inEffect?_run`); proofs about runs are proofs about one update each.
-/

namespace LiveTimetable

/-- What a writer does to a store. -/
inductive Write
  | message (message : Message)
  | purge (before : Date)
deriving DecidableEq, Repr

/-! ## One message -/

namespace Timetable

/-- The record that a message makes of the one in effect. -/
def afterMessage (t : Timetable) (schedule : Schedule) (current : TripRecord) :
    Message → Except UpdateFailure TripRecord
  | .journey _ journey => t.afterJourney current journey schedule.stop? schedule.zone
  | .report _ report => (t.afterReport current report schedule.stop?).mapError .rejected

end Timetable

/-- The record that a message makes of the one published for its trip and date, or of the
timetable's where none is. -/
def Schedule.successor (s : Schedule) (m : Message) (published : Option TripRecord) :
    Except UpdateFailure TripRecord :=
  match s.trip? m.key.tripId with
  | none => .error (.rejected (.tripNotFound m.key.tripId))
  | some t => t.afterMessage s (published.getD t.record) m

namespace Store

/-- The store with a record published. -/
def withRecord (s : Store) (key : TripKey) (r : TripRecord) : Store :=
  { s with published := s.published.insert key r }

@[simp] theorem published?_withRecord (s : Store) (key k : TripKey) (r : TripRecord) :
    (s.withRecord key r).published? k = if k = key then some r else s.published? k :=
  Table.find?_insert ..

@[simp] theorem published?_empty (schedule : Schedule) (k : TripKey) :
    (empty schedule).published? k = none := rfl

theorem published?_purge (s : Store) (before : Date) (k : TripKey) :
    (s.purge before).published? k = if before ≤ k.date then s.published? k else none := by
  simp only [published?, purge, Table.find?_keep, decide_eq_true_eq]

/-- **A message reads the record of its own trip and date**, and publishes what the schedule makes
of it. -/
theorem apply_eq (s : Store) (m : Message) :
    s.apply m =
      (s.schedule.successor m (s.published? m.key)).map fun r => (s.withRecord m.key r, r) := by
  cases m with
  | journey date journey =>
    simp only [apply, applyJourney, publish, Schedule.successor, Message.key]
    cases s.schedule.trip? journey.tripRef with
    | none => rfl
    | some t => rfl
  | report date report =>
    simp only [apply, applyReport, publish, Schedule.successor, Message.key]
    cases s.schedule.trip? report.tripRef with
    | none => rfl
    | some t => rfl

/-- A message that is taken up publishes the successor of what it read. -/
theorem apply_eq_ok_iff {s s' : Store} {m : Message} {r : TripRecord} :
    s.apply m = .ok (s', r) ↔
      s.schedule.successor m (s.published? m.key) = .ok r ∧ s' = s.withRecord m.key r := by
  rw [apply_eq, Outcome.map_eq_ok]
  constructor
  · intro h
    obtain ⟨_, made, same⟩ := h
    cases same
    exact ⟨made, rfl⟩
  · intro h
    obtain ⟨made, rfl⟩ := h
    exact ⟨r, made, rfl⟩

/-- The record in effect of a trip is what a message reads. -/
theorem inEffect?_of_trip {s : Store} {key : TripKey} {t : Timetable}
    (trip : s.schedule.trip? key.tripId = some t) :
    s.inEffect? key = some ((s.published? key).getD t.record) := by
  rw [inEffect?, trip]
  cases s.published? key with
  | none => rfl
  | some r => rfl

/-- A message is refused for a trip that the schedule does not have. -/
theorem apply_of_unknown {s : Store} {m : Message} (unknown : s.schedule.trip? m.key.tripId = none) :
    s.apply m = .error (.rejected (.tripNotFound m.key.tripId)) := by
  rw [apply_eq, Schedule.successor, unknown]
  rfl

/-- A message for a known trip is laid on the record in effect. -/
theorem apply_of_trip {s : Store} {m : Message} {t : Timetable} {current : TripRecord}
    (trip : s.schedule.trip? m.key.tripId = some t) (inEffect : s.inEffect? m.key = some current) :
    s.apply m =
      (t.afterMessage s.schedule current m).map fun r => (s.withRecord m.key r, r) := by
  cases (inEffect?_of_trip trip).symm.trans inEffect
  rw [apply_eq, Schedule.successor, trip]

/-! ## Runs -/

/-- The store after a write. -/
def after (s : Store) : Write → Store
  | .message m =>
    match s.apply m with
    | .ok (s, _) => s
    | .error _ => s
  | .purge before => s.purge before

def run (s : Store) (writes : List Write) : Store := writes.foldl after s

theorem run_append (s : Store) (first others : List Write) :
    s.run (first ++ others) = (s.run first).run others :=
  List.foldl_append ..

/-- A store in which a message was taken up is one that a run leads to. -/
theorem run_append_of_apply {s s' : Store} {writes : List Write} {m : Message} {r : TripRecord}
    (taken : (s.run writes).apply m = .ok (s', r)) : s.run (writes ++ [.message m]) = s' := by
  rw [run_append]
  show (s.run writes).after (.message m) = s'
  rw [after, taken]

/-- What a write can do: publish the successor of a record under its key, nothing, or a purge. -/
theorem after_cases (s : Store) (w : Write) :
    (∃ m r, s.schedule.successor m (s.published? m.key) = .ok r ∧
        s.after w = s.withRecord m.key r) ∨
      s.after w = s ∨ ∃ before, s.after w = s.purge before := by
  cases w with
  | purge before => exact Or.inr (Or.inr ⟨before, rfl⟩)
  | message m =>
    simp only [after, apply_eq]
    cases h : s.schedule.successor m (s.published? m.key) with
    | error e => exact Or.inr (Or.inl rfl)
    | ok r => exact Or.inl ⟨m, r, h, rfl⟩

/-- An invariant that every write keeps holds after every run. -/
theorem run_keeps {P : Store → Prop} {s : Store} (start : P s)
    (kept : ∀ s w, P s → P (s.after w)) (writes : List Write) : P (s.run writes) := by
  induction writes generalizing s with
  | nil => exact start
  | cons w rest ih => exact ih (kept s w start)

@[simp] theorem after_schedule (s : Store) (w : Write) : (s.after w).schedule = s.schedule := by
  rcases after_cases s w with ⟨m, r, -, h⟩ | h | ⟨before, h⟩ <;> rw [h] <;> rfl

@[simp] theorem run_schedule (s : Store) (writes : List Write) :
    (s.run writes).schedule = s.schedule :=
  run_keeps (P := fun s' => s'.schedule = s.schedule) rfl
    (fun s' w h => (after_schedule s' w).trans h) writes

/-! ## What updates keep -/

section Kept

variable {schedule : Schedule} {P : Timetable → TripRecord → Prop}

/-- **A property of records that every update keeps holds of every published record**, in every
run. An update may start from the record of the timetable, which need not have the property. -/
theorem published?_run
    (kept : ∀ t current m r, schedule.trip? m.key.tripId = some t →
      current = t.record ∨ P t current → t.afterMessage schedule current m = .ok r → P t r)
    {writes : List Write} {key : TripKey} {r : TripRecord}
    (h : ((empty schedule).run writes).published? key = some r) :
    ∃ t, schedule.trip? key.tripId = some t ∧ P t r := by
  -- the invariant speaks of the schedule too, since a write reads the one in its store
  suffices inv : ((empty schedule).run writes).schedule = schedule ∧
      ∀ key r, ((empty schedule).run writes).published? key = some r →
        ∃ t, schedule.trip? key.tripId = some t ∧ P t r from inv.2 key r h
  refine run_keeps (P := fun s => s.schedule = schedule ∧ ∀ key r, s.published? key = some r →
    ∃ t, schedule.trip? key.tripId = some t ∧ P t r) ⟨rfl, by simp⟩ ?_ writes
  rintro s w ⟨rfl, made⟩
  refine ⟨after_schedule s w, ?_⟩
  rcases after_cases s w with ⟨m, r, hr, h⟩ | h | ⟨before, h⟩
  · rw [h]
    intro key r' hpub
    rw [published?_withRecord] at hpub
    split at hpub
    next hkey =>
      cases hpub
      subst hkey
      unfold Schedule.successor at hr
      cases ht : s.schedule.trip? m.key.tripId with
      | none => simp [ht] at hr
      | some t =>
        rw [ht] at hr
        refine ⟨t, rfl, kept t _ m r ht ?_ hr⟩
        cases hbase : s.published? m.key with
        | none => exact Or.inl rfl
        | some current =>
          obtain ⟨t', ht', hmade⟩ := made m.key current hbase
          cases ht.symm.trans ht'
          exact Or.inr hmade
    next => exact made key r' hpub
  · rw [h]
    exact made
  · rw [h]
    intro key r' hpub
    rw [published?_purge] at hpub
    split at hpub
    next => exact made key r' hpub
    next => cases hpub

/-- **The same for every record in effect**, if the record of a timetable has the property. -/
theorem inEffect?_run (scheduled : ∀ t, P t t.record)
    (kept : ∀ t current m r, P t current → t.afterMessage schedule current m = .ok r → P t r)
    {writes : List Write} {key : TripKey} {r : TripRecord}
    (h : ((empty schedule).run writes).inEffect? key = some r) :
    ∃ t, schedule.trip? key.tripId = some t ∧ P t r := by
  unfold inEffect? at h
  cases hpub : ((empty schedule).run writes).published? key with
  | some published =>
    rw [hpub] at h
    cases h
    refine published?_run (fun t current m r _ hcurrent made => ?_) hpub
    rcases hcurrent with rfl | hcurrent
    · exact kept t _ m r (scheduled t) made
    · exact kept t current m r hcurrent made
  | none =>
    rw [hpub, run_schedule] at h
    obtain ⟨t, ht, rfl⟩ := Option.map_eq_some_iff.mp h
    exact ⟨t, ht, scheduled t⟩

end Kept

end Store

end LiveTimetable
