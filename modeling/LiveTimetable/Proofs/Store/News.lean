import LiveTimetable.Proofs.Store.Published
import Mathlib.Data.List.DropRight

/-!
# The news of one trip

A store takes up news of many trips and dates, some of it refused, and is purged in between. Yet
what it holds for one trip on one date is decided by the news of just these (`newsOf`): it is what
that news makes of the timetable's record in turn, from the last purge that reached the date on
(`Timetable.replay`). Nothing else that the store was handed counts.

Main statement: `Store.published?_run_replay`. It follows a run from its end, since the last purge
decides how far back news counts.
-/

namespace LiveTimetable

/-! ## The news that counts -/

namespace Write

/-- The write drops the records of a date. -/
def drops (date : Date) : Write → Bool
  | message _ => false
  | purge before => date < before

/-- The message of the write, if it is news of the trip and date. -/
def newsOf? (key : TripKey) : Write → Option Message
  | message m => if m.key = key then some m else none
  | purge _ => none

/-- The write is no news of another trip or date. -/
def concerns (key : TripKey) : Write → Bool
  | message m => m.key = key
  | purge _ => true

end Write

/-- The news of a trip on a date that counts at the end of a run: all of it behind the last purge
that drops the date. -/
def newsOf (key : TripKey) (writes : List Write) : List Message :=
  (writes.rtakeWhile fun w => !w.drops key.date).filterMap (Write.newsOf? key)

section News

variable {key : TripKey} {writes : List Write}

theorem newsOf_concat (w : Write) :
    newsOf key (writes ++ [w]) =
      if w.drops key.date then [] else newsOf key writes ++ (w.newsOf? key).toList := by
  unfold newsOf
  rw [List.rtakeWhile_concat]
  cases w.drops key.date with
  | true => rfl
  | false =>
    rw [Bool.not_false, if_pos rfl, if_neg Bool.false_ne_true, List.filterMap_append]
    cases h : w.newsOf? key <;> simp [h]

/-- News of other trips and dates can be left out of a run. -/
theorem newsOf_filter_concerns :
    newsOf key (writes.filter (·.concerns key)) = newsOf key writes := by
  induction writes using List.reverseRecOn with
  | nil => rfl
  | append_singleton writes w ih =>
    rw [List.filter_append, newsOf_concat, ← ih]
    by_cases own : w.concerns key
    · rw [List.filter_cons_of_pos own, List.filter_nil, newsOf_concat]
    · -- what does not concern the key is a message of another one
      rw [List.filter_cons_of_neg own, List.filter_nil, List.append_nil]
      cases w with
      | purge before => exact absurd rfl own
      | message m =>
        have other : ¬ m.key = key := by simpa [Write.concerns] using own
        simp [Write.drops, Write.newsOf?, other]

end News

/-! ## What news makes of a record -/

namespace Timetable

/-- The record that news of the trip makes in turn, each piece of the record before it. News that
is refused is passed over; where none is taken up there is no record. -/
def replay (t : Timetable) (schedule : Schedule) (current : TripRecord) :
    List Message → Option TripRecord
  | [] => none
  | m :: rest =>
    match t.afterMessage schedule current m with
    | .ok r => (t.replay schedule r rest).or (some r)
    | .error _ => t.replay schedule current rest

/-- The last piece of news is taken up behind all others. -/
theorem replay_concat (t : Timetable) (schedule : Schedule) (current : TripRecord)
    (news : List Message) (m : Message) :
    t.replay schedule current (news ++ [m]) =
      (t.afterMessage schedule ((t.replay schedule current news).getD current) m).toOption.or
        (t.replay schedule current news) := by
  induction news generalizing current with
  | nil =>
    simp only [List.nil_append, replay, Option.getD_none]
    cases t.afterMessage schedule current m with
    | ok r => rfl
    | error e => rfl
  | cons first rest ih =>
    simp only [List.cons_append, replay]
    cases t.afterMessage schedule current first with
    | error e => exact ih current
    | ok r =>
      have read : ((t.replay schedule r rest).or (some r)).getD current =
          (t.replay schedule r rest).getD r := by
        cases t.replay schedule r rest <;> rfl
      simp only [ih, read, Option.or_assoc]

/-- There is no record just when all news is refused, and so every piece of it finds the record
that was there at first. -/
theorem replay_eq_none_iff (t : Timetable) (schedule : Schedule) (current : TripRecord)
    (news : List Message) :
    t.replay schedule current news = none ↔
      ∀ m ∈ news, ∃ failure, t.afterMessage schedule current m = .error failure := by
  induction news with
  | nil => simp [replay]
  | cons first rest ih =>
    simp only [replay, List.forall_mem_cons]
    cases t.afterMessage schedule current first with
    | ok r => simp
    | error e => simp [ih]

end Timetable

/-! ## Runs -/

namespace Store

variable {s : Store} {key : TripKey} {m : Message}

/-- What a store holds for a key after a message: if it is news of the key and taken up, the record
made of it, and what was there otherwise. -/
theorem published?_after_message :
    (s.after (.message m)).published? key =
      if m.key = key then (s.schedule.successor m (s.published? key)).toOption.or (s.published? key)
      else s.published? key := by
  simp only [after, apply_eq]
  by_cases own : m.key = key
  · subst own
    cases s.schedule.successor m (s.published? m.key) with
    | error e => simp [Except.map, Except.toOption]
    | ok r => simp [Except.map, Except.toOption]
  · have other : ¬ key = m.key := Ne.symm own
    cases s.schedule.successor m (s.published? m.key) with
    | error e => simp [Except.map, own]
    | ok r => simp [Except.map, own, other]

theorem run_concat (s : Store) (writes : List Write) (w : Write) :
    s.run (writes ++ [w]) = (s.run writes).after w := by
  simp [run]

/-- **A run holds for a key what the news of the key makes of its timetable.** -/
theorem published?_run_eq (schedule : Schedule) (writes : List Write) (key : TripKey) :
    ((empty schedule).run writes).published? key =
      (schedule.trip? key.tripId).bind fun t => t.replay schedule t.record (newsOf key writes) := by
  induction writes using List.reverseRecOn with
  | nil => cases h : schedule.trip? key.tripId <;> simp [run, newsOf, Timetable.replay]
  | append_singleton writes w ih =>
    rw [run_concat, newsOf_concat]
    cases w with
    | purge before =>
      show (((empty schedule).run writes).purge before).published? key = _
      rw [published?_purge, ih]
      by_cases kept : before ≤ key.date
      · have reached : ¬ key.date < before := Int.not_lt.mpr kept
        simp [Write.drops, Write.newsOf?, kept, reached]
      · have reached : key.date < before := Int.not_le.mp kept
        cases schedule.trip? key.tripId <;> simp [Write.drops, kept, reached, Timetable.replay]
    | message m =>
      rw [published?_after_message, ih, run_schedule]
      by_cases own : m.key = key
      · subst own
        unfold Schedule.successor
        cases h : schedule.trip? m.key.tripId with
        | none => simp [empty, h, Except.toOption]
        | some t => simp [empty, h, Write.drops, Write.newsOf?, Timetable.replay_concat]
      · simp [Write.drops, Write.newsOf?, own]

/-- **What a store holds for a trip and date is the work of its own news**: what this makes of the
timetable's record in turn, and nothing if it was all refused. News of other trips and dates can be
left out of the run or put into it. A message that is refused changes nothing, and one that is taken
up changes the record of its own trip and date to the one that was made. -/
theorem published?_run_replay (schedule : Schedule) (writes : List Write) (key : TripKey) :
    ((empty schedule).run writes).published? key =
        ((schedule.trip? key.tripId).bind fun t =>
          t.replay schedule t.record (newsOf key writes)) ∧
      (((empty schedule).run writes).published? key = none ↔
        ∀ t, schedule.trip? key.tripId = some t → ∀ m ∈ newsOf key writes,
          ∃ failure, t.afterMessage schedule t.record m = .error failure) ∧
      (∀ others : List Write,
        others.filter (·.concerns key) = writes.filter (·.concerns key) →
        ((empty schedule).run others).published? key =
          ((empty schedule).run writes).published? key) ∧
      ∀ m : Message,
        (schedule.trip? m.key.tripId = none →
          ((empty schedule).run writes).apply m =
            .error (.rejected (.tripNotFound m.key.tripId))) ∧
        (∀ failure, ((empty schedule).run writes).apply m = .error failure →
          (empty schedule).run (writes ++ [.message m]) = (empty schedule).run writes) ∧
        ∀ s r, ((empty schedule).run writes).apply m = .ok (s, r) →
          (empty schedule).run (writes ++ [.message m]) = s ∧
            ∀ k, s.published? k =
              if k = m.key then some r else ((empty schedule).run writes).published? k := by
  refine ⟨published?_run_eq schedule writes key, ?_, fun others same => ?_, fun m =>
    ⟨fun unknown => ?_, fun failure refused => ?_, fun s r taken => ⟨run_append_of_apply taken, ?_⟩⟩⟩
  · rw [published?_run_eq]
    cases schedule.trip? key.tripId with
    | none => simp
    | some t => simpa using t.replay_eq_none_iff schedule t.record (newsOf key writes)
  · rw [published?_run_eq, published?_run_eq, ← newsOf_filter_concerns, same,
      newsOf_filter_concerns]
  · rw [apply_eq, run_schedule, Schedule.successor]
    simp [empty, unknown, Except.map]
  · rw [run_concat, after, refused]
  · intro k
    obtain ⟨-, rfl⟩ := apply_eq_ok_iff.mp taken
    rw [published?_withRecord]

end Store

/-! ## A busy day -/

namespace Sample

/-- A report that names no stop. -/
def unplaced : VehicleReport := ⟨"t", none, none, Seconds.of? 60⟩

/-- News of two days and of an unknown trip, some of it refused, with the first of it purged. -/
def busy : List Write :=
  [.message (.journey date late), .purge tomorrow, .message (.report date unplaced),
   .message (.journey tomorrow late), .message (.report date ⟨"u", none, none, none⟩),
   .message (.report date report), .purge date]

/-- The same day's news alone. -/
def quiet : List Write :=
  [.message (.journey date late), .purge tomorrow, .message (.report date unplaced),
   .message (.report date report), .purge date]

end Sample

/-- One report of the day is refused and one is taken up behind the purge, which has undone the move
to another platform. A further report that is refused changes nothing, and one that is taken up
is there afterwards, next to the news of the other day. -/
theorem Store.published?_run_replay_busy :
    ∃ r s r', Sample.schedule.trip? "t" = some Sample.timetable ∧
      newsOf ⟨"t", Sample.date⟩ Sample.busy =
        [.report Sample.date Sample.unplaced, .report Sample.date Sample.report] ∧
      ((empty Sample.schedule).run Sample.busy).published? ⟨"t", Sample.date⟩ = some r ∧
      Sample.timetable.replay Sample.schedule Sample.timetable.record
        (newsOf ⟨"t", Sample.date⟩ Sample.busy) = some r ∧
      r.stops.map (fun s => (s.visit.stop.id, s.delay)) =
        [("A", .none), ("B1", .none), ("C", .both 60)] ∧
      ((empty Sample.schedule).run Sample.quiet).published? ⟨"t", Sample.date⟩ = some r ∧
      (empty Sample.schedule).run (Sample.busy ++ [.message (.report Sample.date Sample.unplaced)]) =
        (empty Sample.schedule).run Sample.busy ∧
      ((empty Sample.schedule).run Sample.busy).apply (.report Sample.tomorrow Sample.report) =
        .ok (s, r') ∧
      s.published? ⟨"t", Sample.tomorrow⟩ = some r' ∧
      s.published? ⟨"t", Sample.date⟩ = some r := by
  have trip : Sample.schedule.trip? "t" = some Sample.timetable := (Option.some_get _).symm
  have found : (((empty Sample.schedule).run Sample.busy).published? ⟨"t", Sample.date⟩).map
      (·.stops.map fun s => (s.visit.stop.id, s.delay)) =
        some [("A", .none), ("B1", .none), ("C", .both 60)] := by decide
  obtain ⟨r, held, stops⟩ := Option.map_eq_some_iff.mp found
  obtain ⟨⟨s, r'⟩, taken⟩ : ∃ result, ((empty Sample.schedule).run Sample.busy).apply
      (.report Sample.tomorrow Sample.report) = .ok result := ⟨_, rfl⟩
  obtain ⟨replayed, -, apart, onward⟩ :=
    published?_run_replay Sample.schedule Sample.busy ⟨"t", Sample.date⟩
  have published := ((onward _).2.2 s r' taken).2
  refine ⟨r, s, r', trip, by decide, held, ?_, stops, ?_, ?_, taken, ?_, ?_⟩
  · rw [trip, held] at replayed
    exact replayed.symm
  · rw [apart Sample.quiet (by decide), held]
  · exact (onward (.report Sample.date Sample.unplaced)).2.1
      (.rejected (.missingMonitoredCall "t")) rfl
  · exact (published _).trans (if_pos rfl)
  · exact ((published _).trans (if_neg (by decide))).trans held

end LiveTimetable
