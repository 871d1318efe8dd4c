import LiveTimetable.Proofs.Store.Run

/-!
# Publishing among other writers

A writer reads the record of a trip, makes its successor and puts that in its place. Others may have
written in the meantime. The successor is put in place only where the entry that was read is still
the one held; otherwise the writer starts over from what it then finds, and after a number of
attempts it gives up. `Store.exchange` is told what the others write during each attempt.

A message that comes through was taken up as if its writer had waited for the others
(`Store.exchange_eq_ok`), so no news is lost, and what is published is what some run of single
writes publishes. A writer that nobody disturbs needs one attempt (`Store.exchange_alone`), and
`Store.apply` is all there is to it.
-/

namespace LiveTimetable

namespace Store

/-- The attempts after which a writer gives up. -/
def maxAttempts : Nat := 8

/-- The write puts another entry in the place of the one held for a trip and date, or drops it. -/
def disturbs (s : Store) (key : TripKey) : Write → Bool
  | .message m => m.key = key && (s.apply m).isOk
  | .purge before => key.date < before && (s.published? key).isSome

/-- One of the writes does. -/
def disturbed (s : Store) (key : TripKey) : List Write → Bool
  | [] => false
  | w :: rest => s.disturbs key w || (s.after w).disturbed key rest

/-- The entry that was read before the writes is the one held after them, or there is none now as
there was none then. -/
def unchanged (s : Store) (key : TripKey) (others : List Write) : Bool :=
  !s.disturbed key others || (s.published? key).isNone && ((s.run others).published? key).isNone

/-- A message handed to the store by a writer that has so many attempts left, while others write
what the list holds for each attempt. -/
def exchange (m : Message) : Nat → Store → List (List Write) →
    Except UpdateFailure (Store × TripRecord)
  | 0, _, _ => .error (.rejected (.contended m.key.tripId maxAttempts))
  | attempts + 1, s, meantimes => do
    let record ← s.schedule.successor m (s.published? m.key)
    let others := meantimes.headD []
    if s.unchanged m.key others then return ((s.run others).withRecord m.key record, record)
    else exchange m attempts (s.run others) meantimes.tail

/-- A message handed to the store by its only writer. -/
def submit (s : Store) (m : Message) : Except UpdateFailure (Store × TripRecord) :=
  exchange m maxAttempts s []

variable {s : Store} {key : TripKey} {m : Message} {others : List Write}

/-! ## Entries left alone -/

theorem published?_after_of_not_disturbs {w : Write} (h : s.disturbs key w = false) :
    (s.after w).published? key = s.published? key := by
  cases w with
  | purge before =>
    show (s.purge before).published? key = _
    rw [published?_purge]
    split
    next => rfl
    next expired =>
      -- the purge reaches the date, so there was nothing to drop
      have reached : key.date < before := Int.not_le.mp expired
      simp only [disturbs, reached, decide_true, Bool.true_and,
        Option.isSome_eq_false_iff, Option.isNone_iff_eq_none] at h
      exact h.symm
  | message m =>
    simp only [after]
    split
    next s' r taken =>
      obtain ⟨-, rfl⟩ := apply_eq_ok_iff.mp taken
      have other : ¬ m.key = key := by simpa [disturbs, taken, Except.isOk, Except.toBool] using h
      rw [published?_withRecord, if_neg (Ne.symm other)]
    next => rfl

theorem published?_run_of_not_disturbed (h : s.disturbed key others = false) :
    (s.run others).published? key = s.published? key := by
  induction others generalizing s with
  | nil => rfl
  | cons w rest ih =>
    simp only [disturbed, Bool.or_eq_false_iff] at h
    exact (ih h.2).trans (published?_after_of_not_disturbs h.1)

/-- Where the entry is as it was, so is the record read from it. -/
theorem published?_run_of_unchanged (h : s.unchanged key others) :
    (s.run others).published? key = s.published? key := by
  simp only [unchanged, Bool.or_eq_true, Bool.not_eq_true', Bool.and_eq_true,
    Option.isNone_iff_eq_none] at h
  rcases h with alone | ⟨before, now⟩
  · exact published?_run_of_not_disturbed alone
  · rw [before, now]

/-! ## One attempt -/

/-- The attempt at which the entry is still there puts the message behind the other writes. -/
theorem exchange_of_unchanged {attempts : Nat} {meantimes : List (List Write)}
    (h : s.unchanged m.key (meantimes.headD [])) :
    exchange m (attempts + 1) s meantimes = (s.run (meantimes.headD [])).apply m := by
  rw [apply_eq, run_schedule, published?_run_of_unchanged h, exchange]
  cases s.schedule.successor m (s.published? m.key) with
  | error failure => rfl
  | ok record =>
    simp only [bind, Except.bind, h, if_true]
    rfl

/-- **A writer that nobody disturbs has its message applied.** -/
theorem exchange_alone (m : Message) (s : Store) (attempts : Nat) {meantimes : List (List Write)}
    (alone : meantimes.headD [] = []) : exchange m (attempts + 1) s meantimes = s.apply m := by
  have h : s.unchanged m.key (meantimes.headD []) := by
    rw [alone]
    rfl
  rw [exchange_of_unchanged h, alone]
  rfl

@[simp] theorem submit_eq_apply (s : Store) (m : Message) : s.submit m = s.apply m :=
  exchange_alone m s 7 rfl

/-- An attempt that is disturbed is made for nothing, unless the message fails. -/
theorem exchange_of_changed {attempts : Nat} {meantimes : List (List Write)}
    (h : ¬ s.unchanged m.key (meantimes.headD [])) :
    exchange m (attempts + 1) s meantimes =
      (s.schedule.successor m (s.published? m.key)).bind fun _ =>
        exchange m attempts (s.run (meantimes.headD [])) meantimes.tail := by
  rw [exchange]
  simp only [bind, h, Bool.false_eq_true, if_false]

/-! ## All attempts -/

theorem headD_append_flatten_tail (meantimes : List (List Write)) (n : Nat) :
    meantimes.headD [] ++ (meantimes.tail.take n).flatten = (meantimes.take (n + 1)).flatten := by
  cases meantimes with
  | nil => simp
  | cons others later => simp

/-- **A message that comes through was taken up behind what the others wrote** during the attempts
that it took. -/
theorem exchange_eq_ok {attempts : Nat} {meantimes : List (List Write)} {s' : Store}
    {r : TripRecord} (h : exchange m attempts s meantimes = .ok (s', r)) :
    ∃ used ≤ attempts, (s.run (meantimes.take used).flatten).apply m = .ok (s', r) := by
  induction attempts generalizing s meantimes with
  | zero => cases h
  | succ attempts ih =>
    by_cases still : s.unchanged m.key (meantimes.headD [])
    · refine ⟨1, Nat.le_add_left 1 attempts, ?_⟩
      rw [← headD_append_flatten_tail, List.take_zero, List.flatten_nil, List.append_nil,
        ← exchange_of_unchanged still]
      exact h
    · rw [exchange_of_changed still] at h
      obtain ⟨_, -, h⟩ := Outcome.bind_eq_ok.mp h
      obtain ⟨used, hused, taken⟩ := ih h
      refine ⟨used + 1, Nat.succ_le_succ hused, ?_⟩
      rw [← headD_append_flatten_tail, run_append]
      exact taken

end Store

end LiveTimetable
