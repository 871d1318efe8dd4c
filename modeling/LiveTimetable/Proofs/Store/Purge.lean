import LiveTimetable.Proofs.Store.Published

/-!
# Purges

A purge drops the records of past dates. It is a projection of the store onto the dates that are left:
two purges are the one that reaches further, and a message commutes with a purge that leaves its date
alone. A message of a date that the purge drops might as well not have come.

Main statement: `Store.purge_projects`. The laws hold of the table itself, its entries in their order
(`Table.keep_insert`), so they hold of every store, however it came about.
-/

namespace LiveTimetable

/-! ## Tables -/

namespace Table

variable {κ α : Type}

theorem keep_keep (t : Table κ α) (p q : κ → Bool) :
    (t.keep p).keep q = t.keep fun k => p k && q k := by
  simp [keep, List.filter_filter, Bool.and_comm]

/-- The entries that are kept and those that are not are all there are. -/
theorem size_keep (t : Table κ α) (p : κ → Bool) :
    (t.keep p).size + t.entries.countP (fun e => !p e.1) = t.size := by
  rw [size, size, keep, ← List.countP_eq_length_filter]
  simpa using (List.length_eq_countP_add_countP fun e : κ × α => p e.1).symm

variable [DecidableEq κ]

theorem filter_put (p : κ → Bool) (key : κ) (value : α) (es : List (κ × α)) :
    (put key value es).filter (fun e => p e.1) =
      if p key then put key value (es.filter fun e => p e.1) else es.filter fun e => p e.1 := by
  induction es with
  | nil => cases h : p key <;> simp [put, h]
  | cons e rest ih =>
    obtain ⟨k, v⟩ := e
    by_cases same : k = key
    · subst same
      cases h : p k <;> simp [put, h]
    · have behind : put key value ((k, v) :: rest) = (k, v) :: put key value rest := by
        simp [put, same]
      rw [behind, List.filter_cons, List.filter_cons, ih]
      cases p k <;> cases p key <;> simp [put, same]

/-- An entry is put among those that are kept, if it is one of them, and else not at all. -/
theorem keep_insert (t : Table κ α) (p : κ → Bool) (key : κ) (value : α) :
    (t.insert key value).keep p = if p key then (t.keep p).insert key value else t.keep p := by
  have entries := filter_put p key value t.entries
  split at entries
  next kept => simpa [kept, insert, keep] using entries
  next dropped => simpa [dropped, insert, keep] using entries

end Table

/-! ## Dates -/

namespace Date

/-- The later of two dates. -/
instance : Max Date := maxOfLe

theorem max_le_iff {a b d : Date} : max a b ≤ d ↔ a ≤ d ∧ b ≤ d := by
  have hle : ∀ {a b : Date}, (a ≤ b) = (a.day ≤ b.day) := rfl
  show (if a ≤ b then b else a) ≤ d ↔ _
  split <;> simp only [hle] at * <;> omega

theorem not_le_iff {a b : Date} : ¬ a ≤ b ↔ b < a := Int.not_le

end Date

namespace Store

variable {s : Store} {before before' : Date} {m : Message}

/-! ## Purges alone -/

/-- A record is held after a purge if it was before and its date is left. -/
theorem published?_purge_eq (s : Store) (before : Date) (key : TripKey) :
    (s.purge before).published? key = if key.date < before then none else s.published? key := by
  rw [published?_purge]
  by_cases kept : before ≤ key.date
  · have left : ¬ key.date < before := Int.not_lt.mpr kept
    rw [if_pos kept, if_neg left]
  · rw [if_neg kept, if_pos (Date.not_le_iff.mp kept)]

/-- A purge counts what it drops. -/
theorem size_purge (s : Store) (before : Date) :
    (s.purge before).published.size + s.expired before = s.published.size := by
  have counted : s.expired before =
      s.published.entries.countP fun e => !decide (before ≤ e.1.date) := by
    unfold expired
    congr 1
    funext e
    simp [Date.not_le_iff, ← decide_not]
  rw [counted]
  exact s.published.size_keep _

/-- **Two purges are the one that reaches further.** -/
theorem purge_purge (s : Store) (before before' : Date) :
    (s.purge before).purge before' = s.purge (max before before') := by
  simp only [purge, Table.keep_keep, Date.max_le_iff, Bool.decide_and]

theorem expired_add_expired (s : Store) (before before' : Date) :
    s.expired before + (s.purge before).expired before' = s.expired (max before before') := by
  have first := s.size_purge before
  have second := (s.purge before).size_purge before'
  have both := s.size_purge (max before before')
  rw [purge_purge] at second
  omega

/-- Where all records of a date are dropped, its trips run as scheduled. -/
theorem inEffect?_purge {tripId : String} {date : Date} (dropped : date < before) :
    (s.purge before).inEffect? ⟨tripId, date⟩ = (s.schedule.trip? tripId).map (·.record) := by
  rw [inEffect?, published?_purge_eq, if_pos dropped]
  rfl

/-! ## Purges and messages -/

theorem purge_withRecord (s : Store) (before : Date) (key : TripKey) (r : TripRecord) :
    (s.withRecord key r).purge before =
      if before ≤ key.date then (s.purge before).withRecord key r else s.purge before := by
  unfold purge withRecord
  rw [Table.keep_insert]
  split <;> simp_all

/-- **A message of a date that a purge leaves** is taken up or refused as before it, and leads to the
same store. -/
theorem apply_purge (kept : before ≤ m.key.date) :
    (s.purge before).apply m = (s.apply m).map fun (s', r) => (s'.purge before, r) := by
  have read : (s.purge before).published? m.key = s.published? m.key := by
    rw [published?_purge, if_pos kept]
  rw [apply_eq, apply_eq, read]
  show (s.schedule.successor m _).map _ = _
  cases s.schedule.successor m (s.published? m.key) with
  | error e => rfl
  | ok r => simp [Except.map, purge_withRecord, kept]

theorem after_purge (kept : before ≤ m.key.date) :
    (s.purge before).after (.message m) = (s.after (.message m)).purge before := by
  simp only [after, apply_purge kept]
  cases s.apply m with
  | error e => rfl
  | ok made => rfl

/-- **A message of a date that a purge drops** leaves nothing behind it. -/
theorem purge_after (dropped : m.key.date < before) :
    (s.after (.message m)).purge before = s.purge before := by
  simp only [after]
  cases taken : s.apply m with
  | error e => rfl
  | ok made =>
    obtain ⟨s', r⟩ := made
    obtain ⟨-, rfl⟩ := apply_eq_ok_iff.mp taken
    show (s.withRecord m.key r).purge before = _
    rw [purge_withRecord, if_neg (Date.not_le_iff.mpr dropped)]

/-- **A purge projects a store onto the dates that it leaves.** It drops just the records of earlier
dates, counts them, and lets their trips run as scheduled; two purges make one; news of a date that is
left may come before or behind it, and news of one that is dropped not at all. -/
theorem purge_projects (s : Store) (before : Date) :
    (∀ key, (s.purge before).published? key =
        if key.date < before then none else s.published? key) ∧
      s.expired before = s.published.size - (s.purge before).published.size ∧
      (s.purge before).published.size ≤ s.published.size ∧
      (∀ tripId date, date < before →
        (s.purge before).inEffect? ⟨tripId, date⟩ = (s.schedule.trip? tripId).map (·.record)) ∧
      (∀ before', (s.purge before).purge before' = s.purge (max before before') ∧
        s.expired before + (s.purge before).expired before' = s.expired (max before before')) ∧
      (∀ m, before ≤ m.key.date →
        (s.purge before).apply m = (s.apply m).map (fun (s', r) => (s'.purge before, r)) ∧
          (s.purge before).after (.message m) = (s.after (.message m)).purge before) ∧
      ∀ m, m.key.date < before → (s.after (.message m)).purge before = s.purge before := by
  have counted := s.size_purge before
  refine ⟨s.published?_purge_eq before, by omega, by omega, fun tripId date dropped => ?_,
    fun before' => ?_, fun m kept => ?_, fun m dropped => ?_⟩
  · exact inEffect?_purge dropped
  · exact ⟨s.purge_purge before before', s.expired_add_expired before before'⟩
  · exact ⟨apply_purge kept, after_purge kept⟩
  · exact purge_after dropped

end Store

namespace Sample

/-- The store with a record for each of two days. -/
def twoDays : Store :=
  (Store.empty schedule).run [.message (.journey date late), .message (.report tomorrow report)]

end Sample

namespace Store

/-- The purge drops the first day, of which a further report leaves nothing; one of the second day
may come before or behind it. -/
theorem purge_projects_twoDays :
    Sample.twoDays.expired Sample.tomorrow = 1 ∧ Sample.date < Sample.tomorrow ∧
      (Sample.twoDays.purge Sample.tomorrow).published? ⟨"t", Sample.date⟩ = none ∧
      (Sample.twoDays.purge Sample.tomorrow).inEffect? ⟨"t", Sample.date⟩ =
        some Sample.timetable.record ∧
      (Sample.twoDays.apply (.report Sample.tomorrow Sample.report)).isOk ∧
      (Sample.twoDays.purge Sample.tomorrow).apply (.report Sample.tomorrow Sample.report) =
        (Sample.twoDays.apply (.report Sample.tomorrow Sample.report)).map
          (fun (s, r) => (s.purge Sample.tomorrow, r)) ∧
      (Sample.twoDays.after (.message (.report Sample.date Sample.report))).purge Sample.tomorrow =
        Sample.twoDays.purge Sample.tomorrow := by
  obtain ⟨dropped, -, -, asScheduled, -, kept, gone⟩ :=
    purge_projects Sample.twoDays Sample.tomorrow
  have past : Sample.date < Sample.tomorrow := by decide
  refine ⟨by decide, past, ?_, ?_, by decide, ?_, ?_⟩
  · exact (dropped ⟨"t", Sample.date⟩).trans (if_pos past)
  · refine (asScheduled "t" Sample.date past).trans ?_
    have trip : Sample.schedule.trip? "t" = some Sample.timetable := (Option.some_get _).symm
    rw [Sample.twoDays, run_schedule]
    exact congrArg (Option.map _) trip
  · exact (kept (.report Sample.tomorrow Sample.report) (by decide)).1
  · exact gone (.report Sample.date Sample.report) past

end Store

end LiveTimetable
