import LiveTimetable.Proofs.Batch.Order
import LiveTimetable.Proofs.Lists
import LiveTimetable.Proofs.Store.Published

/-!
# Batches in groups

A batch is applied group by group. The groups one behind another are the messages in another order,
which is the given one for each trip and date. So a batch that is carried through leaves what its
messages leave in turn, in the given order or in any other that keeps the order of each trip and
date, and a batch in two parts leaves what the parts leave: `applyBatch_agrees`. Whether it was
carried through can be told from the summary (`failedTasks_applyBatch_eq_zero_iff`).

The limit of an updater shows in none of this, as long as there are places for a batch at all
(`LimitedUpdater.applyBatch_of_le`).
-/

namespace LiveTimetable

/-- The groups together are the messages, each trip and date in its own order. -/
theorem sameOrder_groupByTrip (messages : List Message) :
    SameOrder ((groupByTrip messages).flatMap Prod.snd) messages := by
  intro key
  have groups : (groupByTrip messages).flatMap Prod.snd =
      (messages.map Message.key).eraseDups.flatMap fun key => messages.filter (·.key = key) := by
    rw [groupByTrip, List.flatMap_map]
  have own : ∀ key, ∀ m ∈ messages.filter (·.key = key), m.key = key := by
    intro key m hm
    exact of_decide_eq_true (List.mem_filter.mp hm).2
  rw [groups]
  by_cases mem : key ∈ (messages.map Message.key).eraseDups
  · exact Lists.filter_flatMap_of_nodup own (Lists.nodup_eraseDups _) mem
  · -- a key that no message has
    have absent := mem
    rw [List.mem_eraseDups] at mem
    have other : ∀ m ∈ messages, ¬ decide (m.key = key) = true := by
      intro m hm h
      exact mem (List.mem_map.mpr ⟨m, hm, of_decide_eq_true h⟩)
    rw [List.filter_eq_nil_iff.mpr other]
    exact Lists.filter_flatMap_of_not_mem own absent

namespace Updater

variable {u u' : Updater} {counted summary : Summary} {messages : List Message}
  {groups : List (TripKey × List Message)}

/-! ## One group -/

theorem applyGroup_cons (u : Updater) (counted : Summary) (m : Message) (rest : List Message) :
    u.applyGroup counted (m :: rest) = match u.takeUp? m with
      | some (u', first) => u'.applyGroup (counted.merge first) rest
      | none => (u, .ofFailure) := by
  rw [applyGroup, takeUp?]
  cases u.store.apply m with
  | ok => rfl
  | error e =>
    cases e with
    | rejected => rfl
    | offCalendar => rfl

/-- A group that is carried through is its messages in turn. -/
theorem applyGroup_eq_of_some (h : inTurn? takeUp? u messages = some (u', summary)) :
    u.applyGroup counted messages = (u', counted.merge summary) := by
  induction messages generalizing u counted summary with
  | nil =>
    cases h
    rfl
  | cons m rest ih =>
    obtain ⟨mid, first, others, hfirst, hothers, rfl⟩ := inTurn?_cons_eq_some_iff.mp h
    rw [applyGroup_cons, hfirst, ← Summary.merge_assoc]
    exact ih hothers

theorem applyGroup_eq_of_none (h : inTurn? takeUp? u messages = none) :
    (u.applyGroup counted messages).2 = .ofFailure := by
  induction messages generalizing u counted with
  | nil => cases h
  | cons m rest ih =>
    rw [applyGroup_cons]
    rw [inTurn?] at h
    cases hfirst : u.takeUp? m with
    | none => rfl
    | some first =>
      rw [hfirst, Option.bind_some, Option.map_eq_none_iff] at h
      exact ih h

/-! ## All groups -/

theorem applyGroups_cons (u : Updater) (key : TripKey) (messages : List Message)
    (groups : List (TripKey × List Message)) :
    u.applyGroups ((key, messages) :: groups) =
      (((u.applyGroup .empty messages).1.applyGroups groups).1,
        (u.applyGroup .empty messages).2.merge
          ((u.applyGroup .empty messages).1.applyGroups groups).2) := rfl

/-- Groups that are carried through are all their messages in turn. -/
theorem applyGroups_eq_of_some
    (h : inTurn? takeUp? u (groups.flatMap Prod.snd) = some (u', summary)) :
    u.applyGroups groups = (u', summary) := by
  induction groups generalizing u summary with
  | nil =>
    cases h
    rfl
  | cons group groups ih =>
    obtain ⟨key, messages⟩ := group
    rw [List.flatMap_cons, inTurn?_append, Option.bind_eq_some_iff] at h
    obtain ⟨⟨mid, first⟩, hfirst, hrest⟩ := h
    obtain ⟨⟨last, others⟩, hothers, hlast⟩ := Option.map_eq_some_iff.mp hrest
    cases hlast
    rw [applyGroups_cons, applyGroup_eq_of_some hfirst, ih hothers, Summary.empty_merge]

theorem failedTasks_pos_of_none (h : inTurn? takeUp? u (groups.flatMap Prod.snd) = none) :
    0 < (u.applyGroups groups).2.failedTasks := by
  induction groups generalizing u with
  | nil => cases h
  | cons group groups ih =>
    obtain ⟨key, messages⟩ := group
    rw [applyGroups_cons]
    show 0 < (u.applyGroup .empty messages).2.failedTasks +
      ((u.applyGroup .empty messages).1.applyGroups groups).2.failedTasks
    cases hfirst : inTurn? takeUp? u messages with
    | none =>
      rw [applyGroup_eq_of_none hfirst]
      exact Nat.add_pos_left Nat.one_pos _
    | some first =>
      rw [List.flatMap_cons, inTurn?_append, hfirst, Option.bind_some,
        Option.map_eq_none_iff] at h
      rw [applyGroup_eq_of_some hfirst]
      exact Nat.add_pos_right _ (ih h)

/-- No message in turn counts as a failure. -/
theorem failedTasks_inTurn? (h : inTurn? takeUp? u messages = some (u', summary)) :
    summary.failedTasks = 0 := by
  induction messages generalizing u summary with
  | nil =>
    cases h
    rfl
  | cons m rest ih =>
    obtain ⟨mid, first, others, hfirst, hothers, rfl⟩ := inTurn?_cons_eq_some_iff.mp h
    have hzero : first.failedTasks = 0 := by
      unfold takeUp? at hfirst
      split at hfirst
      next =>
        cases hfirst
        rfl
      next e _ =>
        cases hfirst
        cases e <;> rfl
      next => cases hfirst
    show first.failedTasks + others.failedTasks = 0
    rw [hzero, ih hothers]

/-! ## A batch -/

/-- **Two outcomes agree**: they show the same and count the same. -/
def Agree (a b : Updater × Summary) : Prop := a.1.view = b.1.view ∧ a.2 = b.2

/-- What a batch leaves depends on what shows of the updater. -/
theorem applyBatch_of_view {v : View}
    (h : inTurn? View.takeUp? u.view messages = some (v, summary)) :
    (u.applyBatch messages).1.view = v ∧ (u.applyBatch messages).2 = summary := by
  rw [← View.inTurn?_eq_of_sameOrder (sameOrder_groupByTrip messages), ← inTurn?_view] at h
  obtain ⟨⟨u', summary'⟩, hgroups, hview⟩ := Option.map_eq_some_iff.mp h
  cases hview
  rw [applyBatch, applyGroups_eq_of_some hgroups]
  exact ⟨rfl, rfl⟩

/-- A batch agrees with its messages taken up in turn. -/
theorem applyBatch_of_inTurn? {after : Updater}
    (taken : inTurn? takeUp? u messages = some (after, summary)) :
    Agree (u.applyBatch messages) (after, summary) := by
  refine applyBatch_of_view ?_
  rw [← inTurn?_view, taken]
  rfl

/-- A batch has no failure exactly when its messages could be taken up in turn. -/
theorem failedTasks_applyBatch_eq_zero_iff :
    (u.applyBatch messages).2.failedTasks = 0 ↔ (inTurn? takeUp? u messages).isSome := by
  have views : (inTurn? takeUp? u ((groupByTrip messages).flatMap Prod.snd)).isSome =
      (inTurn? takeUp? u messages).isSome := by
    rw [← Option.isSome_map (f := fun after : Updater × Summary => (after.1.view, after.2)),
      inTurn?_view, View.inTurn?_eq_of_sameOrder (sameOrder_groupByTrip messages),
      ← inTurn?_view, Option.isSome_map]
  rw [← views, applyBatch]
  cases h : inTurn? takeUp? u ((groupByTrip messages).flatMap Prod.snd) with
  | none =>
    have := failedTasks_pos_of_none h
    simp only [Option.isSome_none, Bool.false_eq_true, iff_false]
    omega
  | some after =>
    rw [applyGroups_eq_of_some h]
    simp only [Option.isSome_some, iff_true]
    exact failedTasks_inTurn? h

/-- **A batch does what its messages do in turn**, as does every order that keeps the order of each
trip and date, and as do the parts of the batch one after the other. -/
theorem applyBatch_agrees {after : Updater}
    (carried : inTurn? takeUp? u messages = some (after, summary)) :
    Agree (u.applyBatch messages) (after, summary) ∧
      (∀ order, SameOrder order messages →
        ∃ other, inTurn? takeUp? u order = some other ∧ Agree other (after, summary)) ∧
      ∀ a b, a ++ b = messages →
        Agree (((u.applyBatch a).1.applyBatch b).1,
          (u.applyBatch a).2.merge ((u.applyBatch a).1.applyBatch b).2) (u.applyBatch messages) := by
  have shows : inTurn? View.takeUp? u.view messages = some (after.view, summary) := by
    rw [← inTurn?_view, carried]
    rfl
  have whole := applyBatch_of_view shows
  refine ⟨whole, ?_, ?_⟩
  · intro order same
    rw [← View.inTurn?_eq_of_sameOrder same, ← inTurn?_view] at shows
    obtain ⟨other, hother, hview⟩ := Option.map_eq_some_iff.mp shows
    exact ⟨other, hother, (Prod.mk.inj hview).1, (Prod.mk.inj hview).2⟩
  · rintro a b rfl
    rw [inTurn?_append, Option.bind_eq_some_iff] at shows
    obtain ⟨⟨mid, first⟩, hfirst, hrest⟩ := shows
    obtain ⟨⟨last, others⟩, hothers, hlast⟩ := Option.map_eq_some_iff.mp hrest
    cases hlast
    obtain ⟨hmid, hcount⟩ := applyBatch_of_view hfirst
    rw [← hmid] at hothers
    obtain ⟨hend, hcounts⟩ := applyBatch_of_view hothers
    refine ⟨hend.trans whole.1.symm, ?_⟩
    show (u.applyBatch a).2.merge _ = _
    rw [hcount, hcounts, whole.2]

end Updater

/-! ## Limits -/

namespace LimitedUpdater

variable {u : LimitedUpdater}

/-- A batch that has its places is applied as without a limit. -/
theorem applyBatch_of_le (room : u.limit ≤ mostPlaces) (messages : List Message) :
    u.applyBatch messages = .ok (⟨(u.toUpdater.applyBatch messages).1, u.limit⟩,
      (u.toUpdater.applyBatch messages).2) :=
  if_neg (Nat.not_lt.mpr room)

/-- A batch for which no places can be made is not begun, whatever its messages. -/
theorem applyBatch_of_lt (crowded : mostPlaces < u.limit) (messages : List Message) :
    u.applyBatch messages = .error .tooManyPlaces :=
  if_pos crowded

/-- The place that there always is can be made. -/
theorem limit_ofSchedule_le_iff {schedule : Schedule} {limit : Nat} :
    (ofSchedule schedule limit).limit ≤ mostPlaces ↔ limit ≤ mostPlaces := by
  have one : 1 ≤ mostPlaces := by decide
  rw [ofSchedule, Nat.max_le]
  exact and_iff_left one

end LimitedUpdater

namespace Sample

/-- News of two days in turn, with a report that names no place and one of an unknown trip. -/
def batch : List Message :=
  [.report date report, .journey tomorrow late, .journey date late,
   .report tomorrow ⟨"t", none, none, Seconds.of? 60⟩, .report date report,
   .report tomorrow ⟨"u", none, none, none⟩]

end Sample

/-- The batch has groups of three messages, two and one, and is carried through. -/
theorem Updater.applyBatch_agrees_sample :
    ∃ after summary, inTurn? takeUp? (ofSchedule Sample.schedule) Sample.batch =
        some (after, summary) ∧
      summary = ⟨4, 1, 1, 0⟩ ∧ (groupByTrip Sample.batch).map (·.2.length) = [3, 2, 1] ∧
      Agree ((ofSchedule Sample.schedule).applyBatch Sample.batch) (after, summary) := by
  have counted : (inTurn? takeUp? (ofSchedule Sample.schedule) Sample.batch).map (·.2) =
      some ⟨4, 1, 1, 0⟩ := by decide
  obtain ⟨⟨after, summary⟩, carried, hsummary⟩ := Option.map_eq_some_iff.mp counted
  exact ⟨after, summary, carried, hsummary, by decide, (applyBatch_agrees carried).1⟩

end LiveTimetable
