import LiveTimetable.Proofs.Batch.Groups
import LiveTimetable.Proofs.Update.Refusal
import Mathlib.Algebra.Ring.Nat

/-!
# Accounts of batches

An updater counts its messages twice. The summary of a batch tells a sender what became of the messages
in it, and a tally, kept over all batches, sorts refusals by their cause. Both count the outcomes of
the messages taken one after another (`Store.outcomes`): a batch that is carried through adds its
outcomes to the tally and gives them as its summary (`Updater.applyBatch_counts`), in whatever order
its groups were applied.

So the two accounts agree, message by message and over any number of batches
(`Updater.accounts_agree`). The tally keeps one count more than it needs: no message of a single
writer is given up for contention (`Store.apply_ne_contended`).

A message is applied in one go here, while a writer publishes only where nobody has come in between,
and tries again otherwise. For a writer that nobody disturbs the two are one
(`Store.submit_eq_apply`), and so they are for the workers of a batch, who never share a trip and
date (`Pool.agree_of_done`). Their accounts, with the contention that they might have counted, are
those here: `Pool.accounts_of_delivers`.
-/

namespace LiveTimetable

/-! ## Kinds of errors -/

namespace UpdateError

def isUnknownTrip : UpdateError → Bool
  | tripNotFound _ => true
  | _ => false

def isContention : UpdateError → Bool
  | contended .. => true
  | _ => false

/-- What is left for the message itself to be blamed for. -/
def isInputFault (e : UpdateError) : Bool :=
  !e.isUnknownTrip && !e.isContention && !e.isIntegrityViolation

end UpdateError

/-- What becomes of a message: the record that it publishes, or why it publishes none. -/
abbrev MessageOutcome := Except UpdateFailure TripRecord

/-- The message is refused, and for an error of the given kind. -/
def MessageOutcome.refusedFor (kind : UpdateError → Bool) : MessageOutcome → Bool
  | .error (.rejected e) => kind e
  | _ => false

/-! ## What outcomes count as -/

/-- What a summary makes of outcomes. -/
def Summary.ofOutcomes (os : List MessageOutcome) : Summary where
  applied := os.countP (·.isOk)
  rejected := os.countP (MessageOutcome.refusedFor fun e => !e.isUnknownTrip)
  unknownTrips := os.countP (MessageOutcome.refusedFor (·.isUnknownTrip))
  failedTasks := 0

/-- What a tally makes of outcomes. -/
def Tally.ofOutcomes (os : List MessageOutcome) : Tally where
  applied := os.countP (·.isOk)
  rejectedIntegrity := os.countP (MessageOutcome.refusedFor (·.isIntegrityViolation))
  rejectedInput := os.countP (MessageOutcome.refusedFor (·.isInputFault))
  unknownTrip := os.countP (MessageOutcome.refusedFor (·.isUnknownTrip))
  contended := os.countP (MessageOutcome.refusedFor (·.isContention))

section Counts

variable (o : MessageOutcome) (os : List MessageOutcome)

theorem Summary.ofOutcomes_cons : ofOutcomes (o :: os) = (ofOutcomes [o]).merge (ofOutcomes os) := by
  simp only [ofOutcomes, merge, ← List.countP_append, List.singleton_append, Nat.zero_add]

theorem Tally.ofOutcomes_cons : ofOutcomes (o :: os) = (ofOutcomes [o]).add (ofOutcomes os) := by
  simp only [ofOutcomes, add, ← List.countP_append, List.singleton_append]

theorem Summary.ofOutcomes_refused (e : UpdateError) :
    ofOutcomes [.error (.rejected e)] = ofError e := by
  cases e <;> rfl

theorem Tally.ofOutcomes_refused (e : UpdateError) :
    ofOutcomes [.error (.rejected e)] = empty.countError e := by
  cases e <;> rfl

/-- **A summary counts each message once**, if none of them is left without an outcome of its own. -/
theorem Summary.total_ofOutcomes {os : List MessageOutcome}
    (carried : Except.error .offCalendar ∉ os) : (ofOutcomes os).total = os.length := by
  induction os with
  | nil => rfl
  | cons o rest ih =>
    rw [List.mem_cons, not_or] at carried
    have one : (ofOutcomes [o]).total = 1 := by
      cases o with
      | ok r => rfl
      | error failure =>
        cases failure with
        | rejected e => cases e <;> rfl
        | offCalendar => exact absurd rfl carried.1
    have rest := ih carried.2
    rw [ofOutcomes_cons, List.length_cons]
    simp only [merge, total] at one rest ⊢
    omega

/-- **A tally sorts the refusals of a summary**: the errors that are neither for an unknown trip nor
for contention are those of the record and those of the message. -/
theorem Tally.refusals_ofOutcomes :
    (ofOutcomes os).rejectedIntegrity + (ofOutcomes os).rejectedInput + (ofOutcomes os).contended =
      (Summary.ofOutcomes os).rejected := by
  induction os with
  | nil => rfl
  | cons o rest ih =>
    have one : (ofOutcomes [o]).rejectedIntegrity + (ofOutcomes [o]).rejectedInput +
        (ofOutcomes [o]).contended = (Summary.ofOutcomes [o]).rejected := by
      cases o with
      | ok r => rfl
      | error failure =>
        cases failure with
        | rejected e => cases e <;> rfl
        | offCalendar => rfl
    rw [ofOutcomes_cons, Summary.ofOutcomes_cons]
    simp only [add, Summary.merge] at one ih ⊢
    omega

end Counts

theorem Tally.add_assoc (a b c : Tally) : (a.add b).add c = a.add (b.add c) := by
  simp only [add, Nat.add_assoc]

/-! ## No contention -/

section Contended

variable {t : Timetable} {current : TripRecord} {schedule : Schedule} {m : Message} {tripId : String}
  {attempts : Nat}

theorem Timetable.checkRecord_ne_contended :
    t.checkRecord current ≠ .error (.contended tripId attempts) := by
  unfold checkRecord
  split
  · simp
  · split <;> simp

/-- An update has no other writers to speak of. -/
theorem Timetable.afterMessage_ne_contended :
    t.afterMessage schedule current m ≠ .error (.rejected (.contended tripId attempts)) := by
  intro h
  cases m with
  | journey date journey =>
    simp only [afterMessage, afterJourney, Outcome.bind_eq_error, Outcome.mapError_eq_error] at h
    rcases h with ⟨e, checked, told⟩ | ⟨_, -, h⟩
    · cases told
      exact checkRecord_ne_contended checked
    · split at h
      next => cases h
      next =>
        split at h
        next => cases h
        next => cases propagate_eq_rejected_iff.mp h
  | report date report =>
    obtain ⟨e, h, told⟩ := Outcome.mapError_eq_error.mp h
    cases told
    simp only [afterReport, Outcome.bind_eq_error] at h
    rcases h with checked | ⟨_, -, h⟩
    · exact checkRecord_ne_contended checked
    · split at h
      next => cases h
      next =>
        simp only [Outcome.bind_eq_error, Outcome.mapError_eq_error,
          TripRecord.checkOrder_eq_error_iff] at h
        rcases h with ⟨_, -, told⟩ | ⟨_, -, ⟨_, -, told⟩ | ⟨_, -, told⟩⟩ <;> cases told

/-- **A store never gives up on a message** that it is handed by its only writer. -/
theorem Store.apply_ne_contended (s : Store) :
    s.apply m ≠ .error (.rejected (.contended tripId attempts)) := by
  intro h
  rw [apply_eq, Outcome.map_eq_error] at h
  unfold Schedule.successor at h
  split at h
  next => cases h
  next => exact Timetable.afterMessage_ne_contended h

end Contended

/-! ## Outcomes of messages -/

namespace Store

/-- What becomes of messages that a store is handed one after another. -/
def outcomes (s : Store) : List Message → List MessageOutcome
  | [] => []
  | m :: rest => (s.apply m).map Prod.snd :: (s.after (.message m)).outcomes rest

@[simp] theorem length_outcomes (s : Store) (messages : List Message) :
    (s.outcomes messages).length = messages.length := by
  induction messages generalizing s with
  | nil => rfl
  | cons m rest ih => simp [outcomes, ih]

theorem not_contention_of_mem_outcomes {s : Store} {messages : List Message} {o : MessageOutcome}
    (h : o ∈ s.outcomes messages) : ¬ o.refusedFor (·.isContention) := by
  induction messages generalizing s with
  | nil => cases h
  | cons m rest ih =>
    rcases List.mem_cons.mp h with rfl | h
    · cases taken : s.apply m with
      | ok made => simp [Except.map, MessageOutcome.refusedFor]
      | error failure =>
        cases failure with
        | offCalendar => simp [Except.map, MessageOutcome.refusedFor]
        | rejected e =>
          cases e with
          | contended tripId attempts => exact absurd taken s.apply_ne_contended
          | _ => simp [Except.map, MessageOutcome.refusedFor, UpdateError.isContention]
    · exact ih h

end Store

namespace Updater

variable {u : Updater} {m : Message} {messages : List Message}

/-- A message with an outcome of its own is counted by it. -/
theorem takeUp?_eq (carried : (u.store.apply m).map Prod.snd ≠ .error .offCalendar) :
    u.takeUp? m = some (⟨u.store.after (.message m),
      u.tally.add (.ofOutcomes [(u.store.apply m).map Prod.snd])⟩,
      .ofOutcomes [(u.store.apply m).map Prod.snd]) := by
  simp only [takeUp?, Store.after]
  cases taken : u.store.apply m with
  | ok made => rfl
  | error failure =>
    cases failure with
    | offCalendar =>
      rw [taken] at carried
      exact absurd rfl carried
    | rejected e =>
      simp only [Except.map, Tally.ofOutcomes_refused, Summary.ofOutcomes_refused,
        ← Tally.countError_eq_add]

/-- The same of messages in turn. -/
theorem inTurn?_eq_outcomes (carried : Except.error .offCalendar ∉ u.store.outcomes messages) :
    inTurn? takeUp? u messages = some (⟨u.store.run (messages.map .message),
      u.tally.add (.ofOutcomes (u.store.outcomes messages))⟩,
      .ofOutcomes (u.store.outcomes messages)) := by
  induction messages generalizing u with
  | nil => rfl
  | cons m rest ih =>
    rw [Store.outcomes, List.mem_cons, not_or] at carried
    have tally := Tally.ofOutcomes_cons ((u.store.apply m).map Prod.snd)
      ((u.store.after (.message m)).outcomes rest)
    have summary := Summary.ofOutcomes_cons ((u.store.apply m).map Prod.snd)
      ((u.store.after (.message m)).outcomes rest)
    rw [inTurn?, takeUp?_eq (Ne.symm carried.1), Option.bind_some, ih carried.2, Option.map_some,
      Store.outcomes, tally, summary, Tally.add_assoc]
    rfl

/-- Messages can be taken up in turn just when each has an outcome of its own. -/
theorem isSome_inTurn?_iff :
    (inTurn? takeUp? u messages).isSome ↔ Except.error .offCalendar ∉ u.store.outcomes messages := by
  constructor
  · intro carried
    induction messages generalizing u with
    | nil => simp [Store.outcomes]
    | cons m rest ih =>
      obtain ⟨⟨after, summary⟩, carried⟩ := Option.isSome_iff_exists.mp carried
      obtain ⟨mid, first, others, taken, carried, -⟩ := inTurn?_cons_eq_some_iff.mp carried
      have own : (u.store.apply m).map Prod.snd ≠ .error .offCalendar := by
        intro off
        rw [Outcome.map_eq_error] at off
        simp [takeUp?, off] at taken
      rw [takeUp?_eq own] at taken
      cases taken
      rw [Store.outcomes, List.mem_cons, not_or]
      exact ⟨Ne.symm own, ih (Option.isSome_of_eq_some carried)⟩
  · intro carried
    rw [inTurn?_eq_outcomes carried]
    rfl

/-- **A batch counts the outcomes of its messages**: the tally adds them, and the summary is theirs. -/
theorem applyBatch_counts (carried : Except.error .offCalendar ∉ u.store.outcomes messages) :
    (u.applyBatch messages).1.tally = u.tally.add (.ofOutcomes (u.store.outcomes messages)) ∧
      (u.applyBatch messages).2 = .ofOutcomes (u.store.outcomes messages) := by
  -- The groups are applied in another order than the messages came in, which does not show.
  obtain ⟨view, summary⟩ := applyBatch_of_inTurn? (inTurn?_eq_outcomes carried)
  exact ⟨congrArg View.tally view, summary⟩

/-! ## Many batches -/

/-- A batch, and what else its store is handed before it. -/
structure Delivery where
  others : List Write
  batch : List Message
deriving DecidableEq, Repr

/-- The updater that a batch finds. -/
def before (u : Updater) (d : Delivery) : Updater := { u with store := u.store.run d.others }

/-- The updater after batches in turn, with their summaries. -/
def applyBatches (u : Updater) : List Delivery → Updater × List Summary
  | [] => (u, [])
  | d :: rest =>
    let (u, summary) := (u.before d).applyBatch d.batch
    let (u, summaries) := u.applyBatches rest
    (u, summary :: summaries)

/-- What becomes of the messages of each batch. -/
def outcomes (u : Updater) : List Delivery → List (List MessageOutcome)
  | [] => []
  | d :: rest => (u.before d).store.outcomes d.batch ::
    ((u.before d).applyBatch d.batch).1.outcomes rest

variable {deliveries : List Delivery}

/-- **Batches count what becomes of all their messages.** -/
theorem applyBatches_counts
    (carried : ∀ os ∈ u.outcomes deliveries, Except.error .offCalendar ∉ os) :
    (u.applyBatches deliveries).1.tally =
        u.tally.add (.ofOutcomes (u.outcomes deliveries).flatten) ∧
      (u.applyBatches deliveries).2 = (u.outcomes deliveries).map .ofOutcomes := by
  induction deliveries generalizing u with
  | nil => exact ⟨rfl, rfl⟩
  | cons d rest ih =>
    rw [outcomes, List.forall_mem_cons] at carried
    obtain ⟨tally, summary⟩ := applyBatch_counts carried.1
    obtain ⟨tallies, summaries⟩ := ih carried.2
    constructor
    · show (((u.before d).applyBatch d.batch).1.applyBatches rest).1.tally = _
      rw [tallies, tally, Tally.add_assoc, outcomes, List.flatten_cons]
      simp only [Tally.add, Tally.ofOutcomes, List.countP_append, before]
    · show ((u.before d).applyBatch d.batch).2 ::
        (((u.before d).applyBatch d.batch).1.applyBatches rest).2 = _
      rw [summary, summaries, outcomes, List.map_cons]

/-- **Each batch has its messages counted once.** -/
theorem total_outcomes (carried : ∀ os ∈ u.outcomes deliveries, Except.error .offCalendar ∉ os) :
    List.Forall₂ (fun (d : Delivery) os => (Summary.ofOutcomes os).total = d.batch.length) deliveries
      (u.outcomes deliveries) := by
  induction deliveries generalizing u with
  | nil => exact .nil
  | cons d rest ih =>
    rw [outcomes, List.forall_mem_cons] at carried
    refine .cons ?_ (ih carried.2)
    rw [Summary.total_ofOutcomes carried.1, Store.length_outcomes]

theorem not_contention_of_mem_outcomes {o : MessageOutcome}
    (h : o ∈ (u.outcomes deliveries).flatten) : ¬ o.refusedFor (·.isContention) := by
  induction deliveries generalizing u with
  | nil => cases h
  | cons d rest ih =>
    rw [outcomes, List.flatten_cons, List.mem_append] at h
    rcases h with h | h
    · exact Store.not_contention_of_mem_outcomes h
    · exact ih h

/-- **A tally agrees with summaries** of batches whose messages had the outcomes given. -/
structure Accounts (deliveries : List Delivery) (outcomes : List (List MessageOutcome))
    (tally : Tally) (summaries : List Summary) : Prop where
  counted : List.Forall₂ (fun (d : Delivery) summary =>
    summary.applied + summary.rejected + summary.unknownTrips = d.batch.length ∧
      summary.failedTasks = 0) deliveries summaries
  applied : tally.applied = (summaries.map (·.applied)).sum
  unknownTrip : tally.unknownTrip = (summaries.map (·.unknownTrips)).sum
  rejected : tally.rejectedIntegrity + tally.rejectedInput + tally.contended =
    (summaries.map (·.rejected)).sum
  integrity : tally.rejectedIntegrity =
    outcomes.flatten.countP (MessageOutcome.refusedFor (·.isIntegrityViolation))
  contended : tally.contended = 0

/-- Whoever counts just the outcomes keeps accounts that agree. -/
theorem accounts_of_outcomes
    (carried : ∀ os ∈ u.outcomes deliveries, Except.error .offCalendar ∉ os) :
    Accounts deliveries (u.outcomes deliveries) (.ofOutcomes (u.outcomes deliveries).flatten)
      ((u.outcomes deliveries).map .ofOutcomes) := by
  have sums : ∀ p : MessageOutcome → Bool,
      (u.outcomes deliveries).flatten.countP p =
        ((u.outcomes deliveries).map (·.countP p)).sum := fun p => List.countP_flatten
  exact
    { counted := by
        rw [List.forall₂_map_right_iff]
        exact (total_outcomes carried).imp fun d os total => ⟨total, rfl⟩
      applied := by
        rw [List.map_map]
        exact sums _
      unknownTrip := by
        rw [List.map_map]
        exact sums _
      rejected := by
        rw [List.map_map, Tally.refusals_ofOutcomes]
        exact sums _
      integrity := rfl
      contended := List.countP_eq_zero.mpr fun o h => not_contention_of_mem_outcomes h }

/-- The same from the first batch on. -/
theorem applyBatches_accounts (s : Store)
    (carried : ∀ os ∈ (Updater.mk s .empty).outcomes deliveries, Except.error .offCalendar ∉ os) :
    Accounts deliveries ((Updater.mk s .empty).outcomes deliveries)
      ((Updater.mk s .empty).applyBatches deliveries).1.tally
      ((Updater.mk s .empty).applyBatches deliveries).2 := by
  obtain ⟨tally, summaries⟩ := applyBatches_counts carried
  have counted : ((Updater.mk s .empty).applyBatches deliveries).1.tally =
      .ofOutcomes ((Updater.mk s .empty).outcomes deliveries).flatten := by
    rw [tally]
    simp only [Tally.add, Tally.empty, Nat.zero_add]
  rw [counted, summaries]
  exact accounts_of_outcomes carried

/-- **The two accounts of an updater agree.** After any batches, of which none ran off the calendar,
each summary has counted every message of its batch once and no failure. The tally, kept from the
first of them on, holds the sums over the summaries, its refusals sorted into those for an invalid
record, as many as there were, and all others, of which none is for contention. -/
theorem accounts_agree (s : Store) (deliveries : List Delivery)
    (carried : ∀ os ∈ (Updater.mk s .empty).outcomes deliveries, Except.error .offCalendar ∉ os) :
    ∃ u summaries, (Updater.mk s .empty).applyBatches deliveries = (u, summaries) ∧
      List.Forall₂ (fun (d : Delivery) summary =>
        summary.applied + summary.rejected + summary.unknownTrips = d.batch.length ∧
          summary.failedTasks = 0) deliveries summaries ∧
      u.tally.applied = (summaries.map (·.applied)).sum ∧
      u.tally.unknownTrip = (summaries.map (·.unknownTrips)).sum ∧
      u.tally.rejectedIntegrity + u.tally.rejectedInput + u.tally.contended =
        (summaries.map (·.rejected)).sum ∧
      u.tally.rejectedIntegrity = ((Updater.mk s .empty).outcomes deliveries).flatten.countP
        (MessageOutcome.refusedFor (·.isIntegrityViolation)) ∧
      u.tally.contended = 0 := by
  have agree := applyBatches_accounts s carried
  exact ⟨_, _, rfl, agree.counted, agree.applied, agree.unknownTrip, agree.rejected,
    agree.integrity, agree.contended⟩

end Updater

namespace Sample

/-- The trip leaves a stop before it gets there. -/
def backwards : Journey :=
  { late with estimated := [⟨"B2", none, none, ⟨none, clock 8 6⟩, ⟨clock 8 14, clock 8 13⟩, none, none,
    none, none, []⟩] }

/-- A batch of two days, and behind a purge one with a journey that makes no sense. -/
def deliveries : List Updater.Delivery :=
  [⟨[], batch⟩, ⟨[.purge tomorrow], [.journey tomorrow backwards, .report tomorrow report]⟩]

end Sample

/-- Five of the eight messages are taken up, one is for an unknown trip, and of the two refusals one
is for the record that the message makes. -/
theorem Updater.accounts_agree_deliveries :
    (∀ os ∈ (Updater.mk (.empty Sample.schedule) .empty).outcomes Sample.deliveries,
        Except.error .offCalendar ∉ os) ∧
      ∃ u summaries, (Updater.mk (.empty Sample.schedule) .empty).applyBatches Sample.deliveries =
          (u, summaries) ∧
        summaries = [⟨4, 1, 1, 0⟩, ⟨1, 1, 0, 0⟩] ∧ u.tally.applied = 5 ∧ u.tally.unknownTrip = 1 ∧
        u.tally.rejectedIntegrity + u.tally.rejectedInput + u.tally.contended = 2 ∧
        u.tally.rejectedIntegrity = 1 := by
  have carried : ∀ os ∈ (Updater.mk (.empty Sample.schedule) .empty).outcomes Sample.deliveries,
      Except.error .offCalendar ∉ os := by decide
  obtain ⟨u, summaries, made, -, applied, unknown, refused, integrity, -⟩ :=
    accounts_agree (.empty Sample.schedule) Sample.deliveries carried
  have told : summaries = [⟨4, 1, 1, 0⟩, ⟨1, 1, 0, 0⟩] := by
    have counted : ((Updater.mk (.empty Sample.schedule) .empty).applyBatches Sample.deliveries).2 =
        [⟨4, 1, 1, 0⟩, ⟨1, 1, 0, 0⟩] := by decide
    rw [made] at counted
    exact counted
  subst told
  refine ⟨carried, u, _, made, rfl, applied, unknown, refused, integrity.trans ?_⟩
  decide

end LiveTimetable
