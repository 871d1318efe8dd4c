import LiveTimetable.Proofs.Batch.Usual
import LiveTimetable.Proofs.Columns.Batch

/-!
# Runs that do not crash

An updater is asked for four things: to hand a message to its store, to purge it, to apply a batch,
and to show a board. With the records in columns each of them looks up positions and places that
nobody has checked, and takes differences that nobody has checked to be held. None of these lookups
fails and all the differences are held, whatever was asked for before
(`ColumnUpdater.perform_of`): each step does to columns what it does to records.

What is left is the calendar and the limit. A step with instants and dates of usual years stays
inside the calendar, and a batch has its places under every limit that is not beyond `mostPlaces`
(`LimitedUpdater.exists_perform`). So a run of such steps has an answer to each of them, and all
groups of its batches are carried through: `performAll_usual`. Beyond, each batch is the end of its
run (`performAll_crowded`).
-/

namespace LiveTimetable

open Columns

/-- What an updater is asked for. -/
inductive Step
  /-- A message for the store, outside any batch. -/
  | message (message : Message)
  | purge (before : Date)
  | batch (messages : List Message)
  | board (stopId : String) (date : Date) (query : BoardQuery)
deriving DecidableEq, Repr

/-- **The step has instants of usual years, and shows the board of a usual date.** -/
def Step.Usual : Step → Prop
  | message m => m.Usual
  | purge _ => True
  | batch messages => ∀ m ∈ messages, m.Usual
  | board _ date _ => date.Usual

instance : DecidablePred Step.Usual
  | .message m => inferInstanceAs (Decidable m.Usual)
  | .purge _ => inferInstanceAs (Decidable True)
  | .batch messages => inferInstanceAs (Decidable (∀ m ∈ messages, m.Usual))
  | .board _ date _ => inferInstanceAs (Decidable date.Usual)

/-- **There are places for the step**, if it needs any. -/
def Step.HasPlaces (limit : Nat) : Step → Prop
  | batch _ => limit ≤ mostPlaces
  | _ => True

instance (limit : Nat) : DecidablePred (Step.HasPlaces limit)
  | .message _ => inferInstanceAs (Decidable True)
  | .purge _ => inferInstanceAs (Decidable True)
  | .batch _ => inferInstanceAs (Decidable (limit ≤ mostPlaces))
  | .board .. => inferInstanceAs (Decidable True)

/-- What comes back, over one kind of record and of row. -/
inductive Answer (ρ δ : Type)
  | published (record : ρ)
  | refused (reason : UpdateError)
  /-- So many records were dropped. -/
  | purged (count : Nat)
  | applied (summary : Summary)
  | board (rows : List δ)
deriving DecidableEq, Repr

namespace Answer

/-- The same with its record and its rows laid out in columns. -/
def laid : Answer TripRecord Departure → Answer TripColumns BoardRow
  | published r => published (.of r)
  | refused e => refused e
  | purged count => purged count
  | applied summary => applied summary
  | board rows => board (rows.map Departure.row)

end Answer

/-- The state behind a list of steps, with the answers to them, as long as each of them returns. -/
def performAll {σ α ε : Type} (perform : σ → Step → Except ε (σ × α)) (s : σ) :
    List Step → Except ε (σ × List α)
  | [] => .ok (s, [])
  | step :: rest => do
    let (s, answer) ← perform s step
    let (s, answers) ← performAll perform s rest
    return (s, answer :: answers)

/-- What ends a run that does not crash. -/
inductive StepFailure
  | calendar (reason : OffCalendar)
  | places (reason : TooManyPlaces)
deriving DecidableEq, Repr

namespace LimitedUpdater

/-- The updater after a step, with the answer. -/
def perform (u : LimitedUpdater) :
    Step → Except StepFailure (LimitedUpdater × Answer TripRecord Departure)
  | .message m =>
    match u.store.apply m with
    | .ok (store, r) => .ok ({ u with store }, .published r)
    | .error (.rejected e) => .ok (u, .refused e)
    | .error .offCalendar => .error (.calendar .offCalendar)
  | .purge before =>
    .ok ({ u with store := u.store.purge before }, .purged (u.store.expired before))
  | .batch messages => do
    let (u, summary) ← (u.applyBatch messages).mapError .places
    return (u, .applied summary)
  | .board stopId date query => do
    let rows ← (u.store.departures stopId date query).mapError .calendar
    return (u, .board rows)

end LimitedUpdater

namespace ColumnUpdater

/-- The same with the records in columns: a step may crash as well. -/
def perform (u : ColumnUpdater) :
    Step → Except (Halt StepFailure) (ColumnUpdater × Answer TripColumns BoardRow)
  | .message m =>
    match u.store.apply m with
    | .ok (store, r) => .ok ({ u with store }, .published r)
    | .error (.told (.rejected e)) => .ok (u, .refused e)
    | .error (.told .offCalendar) => .error (.told (.calendar .offCalendar))
    | .error .crash => .error .crash
  | .purge before =>
    .ok ({ u with store := u.store.purge before }, .purged (u.store.expired before))
  | .batch messages => do
    let (u, summary) ← (u.applyBatch messages).mapError (Halt.map .places)
    return (u, .applied summary)
  | .board stopId date query => do
    let rows ← (u.store.departures stopId date query).mapError (Halt.map .calendar)
    return (u, .board rows)

variable {schedule : Schedule} {u u' : LimitedUpdater} {answer : Answer TripRecord Departure}

/-- A step leaves a store that writes lead to. -/
theorem reached_perform (h : u.store.Reached schedule) {step : Step}
    (performed : u.perform step = .ok (u', answer)) : u'.store.Reached schedule := by
  cases step with
  | message m =>
    rw [LimitedUpdater.perform] at performed
    cases taken : u.store.apply m with
    | ok made =>
      rw [taken] at performed
      cases performed
      exact h.apply taken
    | error failure =>
      rw [taken] at performed
      cases failure with
      | rejected e =>
        cases performed
        exact h
      | offCalendar => cases performed
  | purge before =>
    cases performed
    exact h.purge before
  | batch messages =>
    obtain ⟨⟨after, summary⟩, begun, made⟩ := Outcome.bind_eq_ok.mp performed
    cases made
    unfold LimitedUpdater.applyBatch at begun
    split at begun
    next => cases begun
    next =>
      cases begun
      exact reached_applyBatch h messages
  | board stopId date query =>
    obtain ⟨rows, -, made⟩ := Outcome.bind_eq_ok.mp performed
    cases made
    exact h

/-- **A step does to columns what it does to records**: it does not crash. -/
theorem perform_of (h : u.store.Reached schedule) (step : Step) :
    (of u).perform step = lift ((u.perform step).map fun (u, answer) => (of u, answer.laid)) := by
  cases step with
  | message m =>
    have applied : (of u).store.apply m = _ := ColumnStore.apply_of h m
    rw [perform, applied, LimitedUpdater.perform]
    cases u.store.apply m with
    | ok made => rfl
    | error failure =>
      cases failure with
      | rejected e => rfl
      | offCalendar => rfl
  | purge before =>
    have purged : (of u).store.purge before = _ := ColumnStore.purge_of u.store before
    have expired : (of u).store.expired before = _ := ColumnStore.expired_of u.store before
    rw [perform, purged, expired]
    rfl
  | batch messages =>
    rw [perform, applyBatch_of h messages, LimitedUpdater.perform]
    cases u.applyBatch messages with
    | error crowded => rfl
    | ok made => rfl
  | board stopId date query =>
    have shown : (of u).store.departures stopId date query = _ :=
      ColumnStore.departures_of h stopId date query
    rw [perform, shown, LimitedUpdater.perform]
    cases u.store.departures stopId date query with
    | error off => rfl
    | ok rows => rfl

/-- The same of all steps in turn. -/
theorem performAll_of (h : u.store.Reached schedule) (steps : List Step) :
    performAll perform (of u) steps =
      lift ((performAll LimitedUpdater.perform u steps).map fun (u, answers) =>
        (of u, answers.map Answer.laid)) := by
  induction steps generalizing u with
  | nil => rfl
  | cons step rest ih =>
    rw [performAll, performAll, perform_of h]
    cases performed : u.perform step with
    | error failure => rfl
    | ok made =>
      obtain ⟨mid, answer⟩ := made
      have others := ih (reached_perform h performed)
      simp only [Except.map, lift_ok, bind, Except.bind, others]
      cases performAll LimitedUpdater.perform mid rest with
      | error failure => rfl
      | ok last => rfl

/-- So the two updaters of a schedule answer alike. -/
theorem performAll_ofSchedule (schedule : Schedule) (limit : Nat) (steps : List Step) :
    performAll perform (ofSchedule schedule limit) steps =
      lift ((performAll LimitedUpdater.perform (.ofSchedule schedule limit) steps).map
        fun (u, answers) => (of u, answers.map Answer.laid)) :=
  performAll_of (u := .ofSchedule schedule limit) (Store.reached_empty schedule) steps

end ColumnUpdater

namespace LimitedUpdater

variable {schedule : Schedule} {limit : Nat} {steps : List Step}

/-- **A usual step that has its places has an answer**, and no group of it is not carried
through. -/
theorem exists_perform {u : LimitedUpdater} {step : Step} (usual : step.Usual)
    (room : step.HasPlaces u.limit) :
    ∃ u' answer, u.perform step = .ok (u', answer) ∧ u'.limit = u.limit ∧
      ∀ summary, answer = .applied summary → summary.failedTasks = 0 := by
  cases step with
  | message m =>
    have inside := Store.apply_ne_offCalendar usual u.store
    rw [perform]
    cases taken : u.store.apply m with
    | ok made => exact ⟨_, _, rfl, rfl, by simp⟩
    | error failure =>
      cases failure with
      | rejected e => exact ⟨_, _, rfl, rfl, by simp⟩
      | offCalendar => exact absurd taken inside
  | purge before => exact ⟨_, _, rfl, rfl, by simp⟩
  | batch messages =>
    rw [perform, applyBatch_of_le room]
    refine ⟨_, _, rfl, rfl, fun summary told => ?_⟩
    cases told
    exact Updater.failedTasks_of_usual usual u.toUpdater
  | board stopId date query =>
    obtain ⟨rows, shown⟩ := Store.departures_of_inner u.store stopId query (Date.Usual.inner usual)
    refine ⟨u, .board rows, ?_, rfl, by simp⟩
    rw [perform, shown]
    rfl

theorem exists_performAll {u : LimitedUpdater} (usual : ∀ step ∈ steps, step.Usual)
    (room : ∀ step ∈ steps, step.HasPlaces u.limit) :
    ∃ u' answers, performAll perform u steps = .ok (u', answers) ∧
      ∀ summary, .applied summary ∈ answers → summary.failedTasks = 0 := by
  induction steps generalizing u with
  | nil => exact ⟨u, [], rfl, by simp⟩
  | cons step rest ih =>
    rw [List.forall_mem_cons] at usual room
    obtain ⟨mid, answer, performed, same, carried⟩ := exists_perform usual.1 room.1
    obtain ⟨last, answers, others, carriedOthers⟩ := ih (u := mid) usual.2 (same ▸ room.2)
    refine ⟨last, answer :: answers, ?_, fun summary told => ?_⟩
    · rw [performAll, performed]
      simp only [bind, Except.bind, others]
      rfl
    · rcases List.mem_cons.mp told with told | told
      · exact carried summary told.symm
      · exact carriedOthers summary told

/-- **The first batch without places ends the run.** -/
theorem performAll_of_lt {u : LimitedUpdater} (usual : ∀ step ∈ steps, step.Usual)
    (crowded : mostPlaces < u.limit) {messages : List Message} (mem : .batch messages ∈ steps) :
    performAll perform u steps = .error (.places .tooManyPlaces) := by
  induction steps generalizing u with
  | nil => cases mem
  | cons step rest ih =>
    rw [List.forall_mem_cons] at usual
    by_cases room : step.HasPlaces u.limit
    · -- the step is not a batch, and others follow
      obtain ⟨mid, answer, performed, same, -⟩ := exists_perform usual.1 room
      have later : .batch messages ∈ rest := by
        refine (List.mem_cons.mp mem).resolve_left ?_
        rintro rfl
        exact Nat.not_le.mpr crowded room
      rw [performAll, performed]
      simp only [bind, Except.bind, ih usual.2 (same ▸ crowded) later]
    · cases step with
      | batch first =>
        rw [performAll, perform, applyBatch_of_lt crowded]
        rfl
      | _ => exact absurd trivial room

end LimitedUpdater

namespace ColumnUpdater

/-- **No step of usual years crashes or leaves the calendar**, over any schedule and after any
others. With its records in columns an updater comes to the end of the run as long as there are
places for the batches in it. There it shows and has answered what it does with records stop by
stop, and no group of a batch has failed. -/
theorem performAll_usual (schedule : Schedule) {limit : Nat} {steps : List Step}
    (usual : ∀ step ∈ steps, step.Usual) (room : ∀ step ∈ steps, step.HasPlaces limit) :
    ∃ u answers,
      performAll LimitedUpdater.perform (.ofSchedule schedule limit) steps = .ok (u, answers) ∧
      performAll perform (ofSchedule schedule limit) steps = .ok (of u, answers.map Answer.laid) ∧
      ∀ summary, .applied summary ∈ answers → summary.failedTasks = 0 := by
  have places : ∀ step ∈ steps,
      step.HasPlaces (LimitedUpdater.ofSchedule schedule limit).limit := by
    intro step mem
    cases step with
    | batch messages => exact LimitedUpdater.limit_ofSchedule_le_iff.mpr (room _ mem)
    | _ => trivial
  obtain ⟨u, answers, performed, carried⟩ := LimitedUpdater.exists_performAll usual places
  refine ⟨u, answers, performed, ?_, carried⟩
  rw [performAll_ofSchedule, performed]
  rfl

/-- The places are needed: beyond the most that can be made, a run has no end if there is a batch in
it. -/
theorem performAll_crowded (schedule : Schedule) {limit : Nat} {steps : List Step}
    (usual : ∀ step ∈ steps, step.Usual) (crowded : mostPlaces < limit) {messages : List Message}
    (mem : .batch messages ∈ steps) :
    performAll perform (ofSchedule schedule limit) steps =
      .error (.told (.places .tooManyPlaces)) := by
  have beyond : mostPlaces < (LimitedUpdater.ofSchedule schedule limit).limit :=
    Nat.not_le.mp (mt LimitedUpdater.limit_ofSchedule_le_iff.mp (Nat.not_le.mpr crowded))
  rw [performAll_ofSchedule, LimitedUpdater.performAll_of_lt usual beyond mem]
  rfl

end ColumnUpdater

namespace Sample

/-- A batch, the board of the platform that a journey of it moves the trip to, one more message and
a purge. -/
def day : List Step :=
  [.batch batch, .board "B2" date ⟨false, true, none⟩, .message (.journey tomorrow late),
   .purge tomorrow]

end Sample

namespace ColumnUpdater

/-- All of the day is answered, its batch with four messages taken up and two refused. -/
theorem performAll_usual_sample :
    (∀ step ∈ Sample.day, step.Usual) ∧ (∀ step ∈ Sample.day, step.HasPlaces mostPlaces) ∧
      ∃ u answers, performAll LimitedUpdater.perform (.ofSchedule Sample.schedule mostPlaces)
          Sample.day = .ok (u, answers) ∧
        performAll perform (ofSchedule Sample.schedule mostPlaces) Sample.day =
          .ok (of u, answers.map Answer.laid) ∧
        answers.head? = some (.applied ⟨4, 1, 1, 0⟩) ∧ answers.length = 4 := by
  have usual : ∀ step ∈ Sample.day, step.Usual := by decide
  have room : ∀ step ∈ Sample.day, step.HasPlaces mostPlaces := by decide
  have told : (performAll LimitedUpdater.perform (.ofSchedule Sample.schedule mostPlaces)
      Sample.day).toOption.map (fun made => (made.2.head?, made.2.length)) =
      some (some (.applied ⟨4, 1, 1, 0⟩), 4) := by decide
  obtain ⟨u, answers, performed, same, -⟩ := performAll_usual Sample.schedule usual room
  rw [performed] at told
  obtain ⟨head, length⟩ := Prod.mk.inj (Option.some.inj told)
  exact ⟨usual, room, u, answers, performed, same, head, length⟩

/-- With one place more even a batch without messages is not begun, and no instant or date is to
blame. -/
theorem performAll_crowded_empty :
    (∀ step ∈ [Step.batch []], step.Usual) ∧
      performAll perform (ofSchedule Sample.schedule 2305843009213693952) [.batch []] =
        .error (.told (.places .tooManyPlaces)) := by
  have usual : ∀ step ∈ [Step.batch []], step.Usual := by decide
  exact ⟨usual, performAll_crowded Sample.schedule usual (by decide) List.mem_cons_self⟩

end ColumnUpdater

end LiveTimetable
