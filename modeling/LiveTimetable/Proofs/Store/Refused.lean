import LiveTimetable.Proofs.Store.CalledOff
import LiveTimetable.Proofs.Store.Contention
import LiveTimetable.Proofs.Store.Reported
import LiveTimetable.Proofs.Update.Refusal

/-!
# What a store tells of the messages that it refuses

A message that a store does not take up is answered with an error, and the error is one that a
sender can act on (`Store.TellsFaults`): it says exactly what is wrong with the message, or that the
times made of it do not fit. The errors that would speak of the store itself are never met by a
single writer. A record is always one of the trip that it is kept for, with as many stops
(`Timetable.Sound`), so none is found to be of another trip; and nobody exchanges it while the
writer is at work. Among several writers one gives up only where it was disturbed each time
(`Store.meantimes_of_contended`).

Main statement: `Store.tellsFaults_run`.
-/

namespace LiveTimetable

/-- The errors that a kind of message can be answered with. -/
def Message.canMeet : Message → UpdateError → Bool
  | _, .tripNotFound _ => true
  | .journey .., .missingStopRef .. => true
  | .report .., .missingMonitoredCall _ => true
  | _, .timeOutOfRange .. => true
  | .journey .., .nonIncreasingTimes .. => true
  | _, _ => false

/-- A report has no anchor just when the stop that it monitors is left out or blank. -/
theorem VehicleReport.anchor?_eq_none_iff {v : VehicleReport} :
    v.anchor? = none ↔
      ∀ call ref, v.monitored = some call → call.stopRef = some ref → Text.allBlank ref := by
  unfold anchor?
  cases v.monitored with
  | none => simp
  | some call =>
    cases h : call.stopRef with
    | none =>
      simp only [Option.bind_eq_bind, Option.bind_some, h, Option.bind_none, true_iff]
      rintro _ ref ⟨rfl⟩ named
      cases h.symm.trans named
    | some ref =>
      simp only [Option.bind_eq_bind, Option.bind_some, h, ite_eq_left_iff, reduceCtorEq, imp_false,
        not_not]
      constructor
      · rintro blank _ _ ⟨rfl⟩ named
        cases h.symm.trans named
        exact blank
      · intro blank
        exact blank call ref rfl h

theorem Journey.firstBlankRef?_eq_some_iff {journey : Journey} {call : Nat} :
    journey.firstBlankRef? = some call ↔ ∃ h : call < journey.stopRefs.length,
      Text.allBlank journey.stopRefs[call] ∧
        ∀ earlier (he : earlier < call), ¬ Text.allBlank journey.stopRefs[earlier] :=
  List.findIdx?_eq_some_iff_getElem

namespace Store

variable {schedule : Schedule} {writes : List Write} {date : Date} {journey : Journey}
  {e : UpdateError}

/-! ## Journeys -/

/-- The record that a message for a known trip finds in effect, and that it is sound. -/
theorem exists_inEffect (writes : List Write) (date : Date) {t : Timetable} {tripId : String}
    (trip : schedule.trip? tripId = some t) :
    ∃ current, ((empty schedule).run writes).inEffect? ⟨tripId, date⟩ = some current ∧
      t.Sound current := by
  have read : ((empty schedule).run writes).schedule.trip? tripId = some t := by
    rw [run_schedule]
    exact trip
  exact ⟨_, inEffect?_of_trip read, sound_read read⟩

/-- **Why a store refuses a journey**: its trip is not known, or it runs and is refused for the
record in effect. -/
theorem applyJourney_eq_rejected_iff (coherent : schedule.Coherent) :
    ((empty schedule).run writes).applyJourney date journey = .error (.rejected e) ↔
      schedule.trip? journey.tripRef = none ∧ e = .tripNotFound journey.tripRef ∨
        ∃ t current, schedule.trip? journey.tripRef = some t ∧
          ((empty schedule).run writes).inEffect? ⟨journey.tripRef, date⟩ = some current ∧
          ¬ journey.isCancellation ∧
          t.RefusesJourney current journey schedule.stop? schedule.zone e := by
  have known : ((empty schedule).run writes).schedule = schedule := run_schedule ..
  show ((empty schedule).run writes).apply (.journey date journey) = _ ↔ _
  cases trip : schedule.trip? journey.tripRef with
  | none =>
    rw [apply_of_unknown (by rw [known]; exact trip)]
    constructor
    · intro h
      cases h
      exact .inl ⟨rfl, rfl⟩
    · intro h
      rcases h with ⟨-, rfl⟩ | ⟨t, _, unknown, -⟩
      · rfl
      · cases unknown
  | some t =>
    obtain ⟨current, inEffect, sound⟩ := exists_inEffect writes date trip
    rw [apply_of_trip (by rw [known]; exact trip) inEffect, Outcome.map_eq_error, known]
    show t.afterJourney current journey schedule.stop? schedule.zone = _ ↔ _
    rw [Timetable.afterJourney_eq_rejected_iff sound (coherent.trip_id trip).symm]
    constructor
    · intro h
      exact .inr ⟨t, current, rfl, inEffect, h⟩
    · intro h
      rcases h with ⟨unknown, -⟩ | ⟨_, _, own, found, h⟩
      · cases unknown
      · cases own
        cases inEffect.symm.trans found
        exact h

/-! ## All messages -/

/-- Whatever a message is refused for is an error that its kind can meet. -/
theorem canMeet_of_apply (coherent : schedule.Coherent) {m : Message}
    (refused : ((empty schedule).run writes).apply m = .error (.rejected e)) : m.canMeet e := by
  cases m with
  | journey date journey =>
    rcases (applyJourney_eq_rejected_iff coherent).mp refused with ⟨-, rfl⟩ | ⟨_, _, -, -, -, reason⟩
    · rfl
    · cases reason <;> rfl
  | report date report => cases applyReport_eq_error_iff.mp refused <;> rfl

/-- **A writer gives up only where others have written during each of its attempts.** -/
theorem meantimes_of_contended (coherent : schedule.Coherent) {m : Message} {attempts : Nat}
    {meantimes : List (List Write)} {tripId : String} {n : Nat}
    (contended : exchange m attempts ((empty schedule).run writes) meantimes =
      .error (.rejected (.contended tripId n))) :
    attempts ≤ meantimes.length ∧ ∀ others ∈ meantimes.take attempts, others ≠ [] := by
  induction attempts generalizing writes meantimes with
  | zero => simp
  | succ attempts ih =>
    -- no record is made in vain: an error of the update would be another one
    have applied : ((empty schedule).run writes).apply m ≠ .error (.rejected (.contended tripId n)) :=
      fun refused => by cases m <;> cases canMeet_of_apply coherent refused
    cases meantimes with
    | nil => exact absurd ((exchange_alone m _ attempts rfl).symm.trans contended) applied
    | cons others later =>
      have busy : others ≠ [] := by
        rintro rfl
        exact applied ((exchange_alone m _ attempts rfl).symm.trans contended)
      by_cases still : ((empty schedule).run writes).unchanged m.key others
      · rw [exchange_of_unchanged still, List.headD_cons, ← run_append] at contended
        cases m <;> cases canMeet_of_apply coherent contended
      · rw [exchange_of_changed still] at contended
        rcases Outcome.bind_eq_error.mp contended with made | ⟨_, -, contended⟩
        · rw [apply_eq, made] at applied
          exact absurd rfl applied
        · rw [List.headD_cons, ← run_append] at contended
          obtain ⟨enough, each⟩ := ih contended
          exact ⟨Nat.succ_le_succ enough, List.forall_mem_cons.mpr ⟨busy, each⟩⟩

/-- **What a store tells its writer of the messages that it refuses.** -/
structure TellsFaults (s : Store) : Prop where
  /-- A trip is not found just when the schedule has none of that id. -/
  unknownTrip : ∀ m tripId, s.submit m = .error (.rejected (.tripNotFound tripId)) ↔
    s.schedule.trip? m.key.tripId = none ∧ tripId = m.key.tripId
  /-- A known trip can always be cancelled, whatever the calls of the journey look like. -/
  cancellation : ∀ date journey, (s.schedule.trip? journey.tripRef).isSome →
    journey.isCancellation → ∃ s' r, s.submit (.journey date journey) = .ok (s', r)
  /-- Any other journey of a known trip is refused for a blank stop where there is one. -/
  blank : ∀ date journey, (s.schedule.trip? journey.tripRef).isSome → ¬ journey.isCancellation →
    ((∃ tripId call, s.submit (.journey date journey) =
        .error (.rejected (.missingStopRef tripId call))) ↔
      ∃ ref ∈ journey.stopRefs, Text.allBlank ref)
  /-- The blank stop that it is told of is the first one. -/
  firstBlank : ∀ date journey tripId call, s.submit (.journey date journey) =
      .error (.rejected (.missingStopRef tripId call)) →
    tripId = journey.tripRef ∧ ∃ h : call < journey.stopRefs.length,
      Text.allBlank journey.stopRefs[call] ∧
        ∀ earlier (he : earlier < call), ¬ Text.allBlank journey.stopRefs[earlier]
  /-- A report of a known trip is refused for a missing stop where it names none. -/
  noAnchor : ∀ date report tripId, s.submit (.report date report) =
      .error (.rejected (.missingMonitoredCall tripId)) ↔
    (s.schedule.trip? report.tripRef).isSome ∧ tripId = report.tripRef ∧
      ∀ call ref, report.monitored = some call → call.stopRef = some ref → Text.allBlank ref
  /-- There are no other errors than these, and those of times. -/
  canMeet : ∀ m e, s.submit m = .error (.rejected e) → m.canMeet e
  /-- A time that is not held is told of, whatever the order of the times. -/
  outOfRange : ∀ date journey t current, s.schedule.trip? journey.tripRef = some t →
    s.inEffect? ⟨journey.tripRef, date⟩ = some current → ¬ journey.isCancellation →
    (∀ ref ∈ journey.stopRefs, ¬ Text.allBlank ref) →
    ((∃ position, t.draft current journey s.schedule.stop? s.schedule.zone =
        .error (position, .outOfRange)) ∨
      ∃ draft, t.draft current journey s.schedule.stop? s.schedule.zone = .ok draft ∧
        ∃ stop ∈ draft.stops, ¬ stop.delay.Held) →
    ∃ position, s.submit (.journey date journey) =
      .error (.rejected (.timeOutOfRange journey.tripRef position))
  /-- Times that run backwards are told of only where all of them are held. -/
  disorder : ∀ date journey tripId line position, s.submit (.journey date journey) =
      .error (.rejected (.nonIncreasingTimes tripId line position)) →
    ∃ t current draft, s.schedule.trip? journey.tripRef = some t ∧
      s.inEffect? ⟨journey.tripRef, date⟩ = some current ∧
      t.draft current journey s.schedule.stop? s.schedule.zone = .ok draft ∧
      (∀ stop ∈ draft.stops, stop.delay.Held) ∧ draft.firstDisorder? = some position

/-- A journey that cancels a known trip is taken up. -/
theorem applyJourney_of_cancellation (coherent : schedule.Coherent) {t : Timetable}
    (trip : schedule.trip? journey.tripRef = some t) (canceled : journey.isCancellation) :
    ∃ s r, ((empty schedule).run writes).applyJourney date journey = .ok (s, r) := by
  obtain ⟨current, inEffect, sound⟩ := exists_inEffect writes date trip
  have made : t.afterJourney current journey schedule.stop? schedule.zone = .ok current.cancel :=
    Timetable.afterJourney_eq_ok_iff.mpr ⟨⟨sound.tripId, sound.length_stops⟩,
      (coherent.trip_id trip).symm, .inl ⟨canceled, rfl⟩⟩
  have known : ((empty schedule).run writes).schedule = schedule := run_schedule ..
  have applied := apply_of_trip (s := (empty schedule).run writes) (m := .journey date journey)
    (by rw [known]; exact trip) inEffect
  rw [known, Timetable.afterMessage, made] at applied
  exact ⟨_, _, applied⟩

/-- A journey that runs is refused for its first blank stop. -/
theorem applyJourney_of_blank (coherent : schedule.Coherent) {t : Timetable}
    (trip : schedule.trip? journey.tripRef = some t) (runs : ¬ journey.isCancellation) {call : Nat}
    (blank : journey.firstBlankRef? = some call) :
    ((empty schedule).run writes).applyJourney date journey =
      .error (.rejected (.missingStopRef journey.tripRef call)) := by
  obtain ⟨current, inEffect, -⟩ := exists_inEffect writes date trip
  exact (applyJourney_eq_rejected_iff coherent).mpr
    (.inr ⟨t, current, trip, inEffect, runs, .blankRef blank⟩)

theorem applyJourney_eq_missingStopRef (coherent : schedule.Coherent) {tripId : String} {call : Nat}
    (refused : ((empty schedule).run writes).applyJourney date journey =
      .error (.rejected (.missingStopRef tripId call))) :
    tripId = journey.tripRef ∧ journey.firstBlankRef? = some call := by
  rcases (applyJourney_eq_rejected_iff coherent).mp refused with ⟨-, h⟩ | ⟨_, _, -, -, -, reason⟩
  · cases h
  · cases reason with
    | blankRef blank => exact ⟨rfl, blank⟩

/-- A journey is refused for a time or a delay of its draft that is not held, before the order of its
times is looked at. -/
theorem applyJourney_of_outOfRange (coherent : schedule.Coherent) {t : Timetable}
    {current : TripRecord} (trip : schedule.trip? journey.tripRef = some t)
    (inEffect : ((empty schedule).run writes).inEffect? ⟨journey.tripRef, date⟩ = some current)
    (runs : ¬ journey.isCancellation) (named : journey.firstBlankRef? = none)
    (unheld : (∃ position, t.draft current journey schedule.stop? schedule.zone =
        .error (position, .outOfRange)) ∨
      ∃ draft, t.draft current journey schedule.stop? schedule.zone = .ok draft ∧
        ∃ stop ∈ draft.stops, ¬ stop.delay.Held) :
    ∃ position, ((empty schedule).run writes).applyJourney date journey =
      .error (.rejected (.timeOutOfRange journey.tripRef position)) := by
  suffices reason : ∃ position, t.RefusesJourney current journey schedule.stop? schedule.zone
      (.timeOutOfRange t.tripId position) by
    obtain ⟨position, reason⟩ := reason
    rw [← coherent.trip_id trip]
    exact ⟨position, (applyJourney_eq_rejected_iff coherent).mpr
      (.inr ⟨t, current, trip, inEffect, runs, reason⟩)⟩
  rcases unheld with ⟨position, stuck⟩ | ⟨draft, made, stop, hstop, unheld⟩
  · exact ⟨position, .noTime named stuck⟩
  · cases first : draft.firstDelayNotHeld? with
    | none => exact absurd (TripRecord.firstDelayNotHeld?_eq_none_iff.mp first stop hstop) unheld
    | some position => exact ⟨position, .noDelay named made first⟩

theorem apply_eq_tripNotFound_iff (coherent : schedule.Coherent) {m : Message} {tripId : String} :
    ((empty schedule).run writes).apply m = .error (.rejected (.tripNotFound tripId)) ↔
      schedule.trip? m.key.tripId = none ∧ tripId = m.key.tripId := by
  constructor
  · intro refused
    cases m with
    | journey date journey =>
      rcases (applyJourney_eq_rejected_iff coherent).mp refused with
        ⟨unknown, h⟩ | ⟨_, _, -, -, -, reason⟩
      · cases h
        exact ⟨unknown, rfl⟩
      · cases reason
    | report date report =>
      cases applyReport_eq_error_iff.mp refused with
      | unknownTrip unknown =>
        rw [run_schedule] at unknown
        exact ⟨unknown, rfl⟩
  · intro h
    obtain ⟨unknown, rfl⟩ := h
    exact apply_of_unknown (by rw [run_schedule]; exact unknown)

theorem applyReport_eq_missingMonitoredCall_iff (coherent : schedule.Coherent)
    {report : VehicleReport} {tripId : String} :
    ((empty schedule).run writes).applyReport date report =
        .error (.rejected (.missingMonitoredCall tripId)) ↔
      (schedule.trip? report.tripRef).isSome ∧ tripId = report.tripRef ∧ report.anchor? = none := by
  rw [applyReport_eq_error_iff]
  constructor
  · intro h
    cases h with
    | noAnchor trip anchor =>
      rw [run_schedule] at trip
      exact ⟨Option.isSome_of_eq_some trip, coherent.trip_id trip, anchor⟩
  · intro h
    obtain ⟨known, rfl, anchor⟩ := h
    obtain ⟨t, trip⟩ := Option.isSome_iff_exists.mp known
    rw [← coherent.trip_id trip]
    exact .noAnchor (by rw [run_schedule]; exact trip) anchor

/-- **A store tells its writer exactly what is wrong** with a message that it refuses, after every
run over the schedule of a feed. -/
theorem tellsFaults_run {file : ScheduleFile} {zone : Zone} {schedule : Schedule}
    (built : Schedule.ofFile file zone = .ok schedule) (writes : List Write) :
    ((empty schedule).run writes).TellsFaults := by
  have coherent := Schedule.ofFile_coherent built
  have known : ((empty schedule).run writes).schedule = schedule := run_schedule ..
  constructor <;> simp only [submit_eq_apply, known]
  case unknownTrip =>
    intro m tripId
    exact apply_eq_tripNotFound_iff coherent
  case cancellation =>
    intro date journey trip canceled
    obtain ⟨t, trip⟩ := Option.isSome_iff_exists.mp trip
    exact applyJourney_of_cancellation coherent trip canceled
  case blank =>
    intro date journey trip runs
    obtain ⟨t, trip⟩ := Option.isSome_iff_exists.mp trip
    constructor
    · rintro ⟨tripId, call, refused⟩
      obtain ⟨-, first⟩ := applyJourney_eq_missingStopRef coherent refused
      obtain ⟨h, blank, -⟩ := Journey.firstBlankRef?_eq_some_iff.mp first
      exact ⟨_, List.getElem_mem h, blank⟩
    · rintro ⟨ref, mem, blank⟩
      cases first : journey.firstBlankRef? with
      | none => exact absurd blank (Journey.firstBlankRef?_eq_none_iff.mp first ref mem)
      | some call => exact ⟨_, call, applyJourney_of_blank coherent trip runs first⟩
  case firstBlank =>
    intro date journey tripId call refused
    obtain ⟨own, first⟩ := applyJourney_eq_missingStopRef coherent refused
    exact ⟨own, Journey.firstBlankRef?_eq_some_iff.mp first⟩
  case noAnchor =>
    intro date report tripId
    rw [← VehicleReport.anchor?_eq_none_iff]
    exact applyReport_eq_missingMonitoredCall_iff coherent
  case canMeet =>
    intro m e refused
    exact canMeet_of_apply coherent refused
  case outOfRange =>
    intro date journey t current trip inEffect runs named unheld
    exact applyJourney_of_outOfRange coherent trip inEffect runs
      (Journey.firstBlankRef?_eq_none_iff.mpr named) unheld
  case disorder =>
    intro date journey tripId line position refused
    rcases (applyJourney_eq_rejected_iff coherent).mp refused with
      ⟨-, h⟩ | ⟨t, current, trip, inEffect, -, reason⟩
    · cases h
    · cases reason with
      | disorder named made held first => exact ⟨t, current, _, trip, inEffect, made, held, first⟩

end Store

/-! ## A journey that leaves a stop blank -/

namespace Sample

/-- The second call of the journey names no stop. -/
def unnamed : Journey where
  tripRef := "t"
  line := none
  cancellation := none
  inaccuracy := none
  recorded := [skipped]
  estimated := [closedAt " " none none]

end Sample

namespace Store

/-- It is refused for that call; the same journey may cancel the trip, and no other trip is known. -/
theorem tellsFaults_run_unnamed :
    ∃ s r, Schedule.ofFile Sample.feed .utc = .ok Sample.schedule ∧
      ((empty Sample.schedule).run Sample.writes).submit (.journey Sample.date Sample.unnamed) =
        .error (.rejected (.missingStopRef "t" 1)) ∧
      ((empty Sample.schedule).run Sample.writes).submit
        (.journey Sample.date { Sample.unnamed with cancellation := some true }) = .ok (s, r) ∧
      ((empty Sample.schedule).run Sample.writes).submit
        (.journey Sample.date { Sample.unnamed with tripRef := "u" }) =
          .error (.rejected (.tripNotFound "u")) := by
  have built : Schedule.ofFile Sample.feed .utc = .ok Sample.schedule := by rfl
  have faults := tellsFaults_run built Sample.writes
  obtain ⟨tripId, call, refused⟩ :=
    (faults.blank Sample.date Sample.unnamed (by decide) (by decide)).mpr ⟨" ", by decide, by decide⟩
  obtain ⟨rfl, inside, blank, -⟩ := faults.firstBlank _ _ _ _ refused
  have second : call = 1 := by
    match call, inside, blank with
    | 0, _, blank => exact absurd blank (show ¬ Text.allBlank "A" by decide)
    | 1, _, _ => rfl
  subst second
  obtain ⟨s, r, taken⟩ := faults.cancellation Sample.date
    { Sample.unnamed with cancellation := some true } (by decide) (by decide)
  exact ⟨s, r, built, refused, taken, (faults.unknownTrip _ "u").mpr ⟨by decide, rfl⟩⟩

end Store

end LiveTimetable
