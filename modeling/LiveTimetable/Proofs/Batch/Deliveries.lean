import LiveTimetable.Proofs.Batch.Pool

/-!
# Accounts of workers

The workers of a batch count as they go on, and a message that one of them gives up for contention
is counted as such. Batches can be handed to workers one after another, with other writes to the
store in front of each: `Delivers` says which updater and which summaries this leads to. What shows
of them is what the batches lead to when they are applied group by group (`Delivers.agree`), and so
are the accounts (`Pool.accounts_of_delivers`): every message is counted once in the summaries and
once in the tally, none of them for contention.

What is needed for this beyond `Pool.agree_of_done` is that a batch does not tell apart updaters that
show the same, nor do the writes in front of it.
-/

namespace LiveTimetable

/-! ## Updaters that show the same -/

namespace Store

variable {s s' : Store}

theorem published?_after_congr (schedule : s'.schedule = s.schedule)
    (published : s'.published? = s.published?) (w : Write) :
    (s'.after w).published? = (s.after w).published? := by
  funext key
  cases w with
  | purge before => simp only [after, published?_purge, published]
  | message m =>
    simp only [after, apply_eq, schedule, published]
    cases s.schedule.successor m (s.published? m.key) with
    | error failure => exact congrFun published key
    | ok r => simp only [Except.map, published?_withRecord, published]

/-- Stores that show the same are led to stores that do. -/
theorem published?_run_congr (schedule : s'.schedule = s.schedule)
    (published : s'.published? = s.published?) (writes : List Write) :
    (s'.run writes).published? = (s.run writes).published? := by
  induction writes generalizing s s' with
  | nil => exact published
  | cons w rest ih =>
    refine ih ?_ (published?_after_congr schedule published w)
    rw [after_schedule, after_schedule, schedule]

end Store

namespace Updater

variable {u v : Updater}

theorem view_before_congr (same : u.view = v.view) (d : Delivery) :
    (u.before d).view = (v.before d).view := by
  obtain ⟨schedule, published, tally⟩ := View.mk.inj same
  simp only [view, before, Store.run_schedule, Store.published?_run_congr schedule published, schedule,
    tally]

/-- A batch that is carried through does not tell apart updaters that show the same. -/
theorem applyBatch_congr {messages : List Message} (same : u.view = v.view)
    (carried : (inTurn? takeUp? v messages).isSome) :
    (inTurn? takeUp? u messages).isSome ∧ Agree (u.applyBatch messages) (v.applyBatch messages) := by
  obtain ⟨⟨after, summary⟩, taken⟩ := Option.isSome_iff_exists.mp carried
  have shows : inTurn? View.takeUp? v.view messages = some (after.view, summary) := by
    rw [← inTurn?_view, taken]
    rfl
  have own := applyBatch_of_view shows
  rw [← same] at shows
  have other := applyBatch_of_view shows
  refine ⟨?_, other.1.trans own.1.symm, other.2.trans own.2.symm⟩
  rw [← inTurn?_view] at shows
  obtain ⟨made, taken, -⟩ := Option.map_eq_some_iff.mp shows
  exact Option.isSome_of_eq_some taken

end Updater

/-! ## Batches among workers, one after another -/

open Updater Pool

/-- **Batches are delivered by workers**, with so many places: an updater is led to another and to
the summaries of the batches. -/
inductive Delivers (limit : Nat) : Updater → List Delivery → Updater → List Summary → Prop
  | nil {u : Updater} : Delivers limit u [] u []
  /-- All workers of a batch have come to their ends before the next one. -/
  | cons {u last : Updater} {d : Delivery} {rest : List Delivery} {p : Pool}
      {summaries : List Summary} (reached : Reaches limit (u.before d) d.batch p)
      (ended : p.Done (keysOf d.batch)) (others : Delivers limit p.updater rest last summaries) :
    Delivers limit u (d :: rest) last (p.summary (keysOf d.batch) :: summaries)

namespace Delivers

variable {limit : Nat} {u v last : Updater} {deliveries : List Delivery} {summaries : List Summary}

/-- **Workers lead to what the batches lead to**, from any updater that shows the same. -/
theorem agree (run : Delivers limit u deliveries last summaries) (same : u.view = v.view)
    (carried : ∀ os ∈ v.outcomes deliveries, Except.error .offCalendar ∉ os) :
    last.view = (v.applyBatches deliveries).1.view ∧ summaries = (v.applyBatches deliveries).2 := by
  induction run generalizing v with
  | nil => exact ⟨same, rfl⟩
  | @cons u last d rest p summaries reached ended others ih =>
    rw [outcomes, List.forall_mem_cons] at carried
    obtain ⟨isSome, batches⟩ :=
      applyBatch_congr (view_before_congr same d) (isSome_inTurn?_iff.mpr carried.1)
    obtain ⟨view, summary⟩ := agree_of_done isSome reached ended
    obtain ⟨lastView, lastSummaries⟩ := ih (view.trans batches.1) carried.2
    exact ⟨lastView, congrArg₂ List.cons (summary.trans batches.2) lastSummaries⟩

end Delivers

/-- Workers can deliver all batches, if there is a place at all. -/
theorem Pool.exists_delivers {limit : Nat} (room : 0 < limit) {u v : Updater}
    {deliveries : List Delivery} (same : u.view = v.view)
    (carried : ∀ os ∈ v.outcomes deliveries, Except.error .offCalendar ∉ os) :
    ∃ last summaries, Delivers limit u deliveries last summaries := by
  induction deliveries generalizing u v with
  | nil => exact ⟨u, [], .nil⟩
  | cons d rest ih =>
    rw [outcomes, List.forall_mem_cons] at carried
    obtain ⟨isSome, batches⟩ :=
      applyBatch_congr (view_before_congr same d) (isSome_inTurn?_iff.mpr carried.1)
    obtain ⟨p, reached, ended⟩ := exists_done isSome room .refl
    have view := (agree_of_done isSome reached ended).1
    obtain ⟨last, summaries, others⟩ := ih (view.trans batches.1) carried.2
    exact ⟨last, _, .cons reached ended others⟩

/-- **The accounts that workers keep agree**, however many places there are, and whichever worker
goes on when: each message is counted once by the summaries and once by the tally, and none is given
up for contention. -/
theorem Pool.accounts_of_delivers {limit : Nat} {s : Store} {deliveries : List Delivery}
    {last : Updater} {summaries : List Summary}
    (carried : ∀ os ∈ (Updater.mk s .empty).outcomes deliveries, Except.error .offCalendar ∉ os)
    (run : Delivers limit (Updater.mk s .empty) deliveries last summaries) :
    Accounts deliveries ((Updater.mk s .empty).outcomes deliveries) last.tally summaries := by
  obtain ⟨view, rfl⟩ := run.agree rfl carried
  have tally : last.tally = ((Updater.mk s .empty).applyBatches deliveries).1.tally :=
    congrArg View.tally view
  rw [tally]
  exact applyBatches_accounts s carried

end LiveTimetable
