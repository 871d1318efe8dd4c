import LiveTimetable.Proofs.Store.Published
import LiveTimetable.Proofs.Update.Clamped

/-!
# Reports that are refused

A store refuses a vehicle report for three reasons and no other: the trip is not known, the report
names no stop, or a time would not be held (`Store.RefusesReport`). Its check of the order of times
never fails: the records that a store holds have their times in order, and a report keeps them so
(`VehicleReport.inOrder_withDelays`).

Main statement: `Store.applyReport_refused_iff`.
-/

namespace LiveTimetable

namespace Timetable

variable {t : Timetable} {current : TripRecord} {report : VehicleReport} {lookup : StopLookup}

/-- A sound record with the delays of a report has its times in order. -/
theorem Sound.inOrder_withDelays (sound : t.Sound current) {anchor : String} {delay : Int}
    {stops : List StopRecord}
    (h : VehicleReport.withDelays (current.stops.zip
      (VehicleReport.delays anchor delay lookup current.stops)) = .ok stops) :
    ({ current with stops } : TripRecord).firstDisorder? = none := by
  refine VehicleReport.inOrder_withDelays ?_ sound.inOrder h
  rw [sound.scheduled]
  exact t.inOrder

/-- **Why a report of a sound record is refused**: it names no stop, or a time does not fit. -/
theorem afterReport_eq_error_iff (sound : t.Sound current) {e : UpdateError} :
    t.afterReport current report lookup = .error e ↔
      report.anchor? = none ∧ e = .missingMonitoredCall t.tripId ∨
        ∃ anchor position, report.anchor? = some anchor ∧
          VehicleReport.FirstUnfit anchor report.delaySeconds.val lookup current.stops position ∧
          e = .timeOutOfRange t.tripId position := by
  have checked : t.checkRecord current = .ok () :=
    checkRecord_eq_ok_iff.mpr ⟨sound.tripId, sound.length_stops⟩
  unfold afterReport
  rw [checked]
  simp only [Outcome.bind_eq_error, reduceCtorEq, false_or, true_and, exists_const]
  cases report.anchor? with
  | none => simp [throw, throwThe, MonadExceptOf.throw, eq_comm]
  | some anchor =>
    simp only [Outcome.bind_eq_error, Outcome.mapError_eq_error, Outcome.mapError_eq_ok,
      VehicleReport.withDelays_delays_eq_error_iff, sound.tripId]
    constructor
    · intro h
      rcases h with ⟨position, unfit, rfl⟩ | ⟨stops, hstops, h | ⟨_, -, h⟩⟩
      · exact .inr ⟨anchor, position, rfl, unfit, rfl⟩
      · -- the order is checked, and it is there
        have ordered : ({ current with stops := stops } : TripRecord).checkOrder
            (t.lineName report.line) = .ok { current with stops := stops } :=
          TripRecord.checkOrder_eq_ok_iff.mpr ⟨sound.inOrder_withDelays hstops, rfl⟩
        rw [← sound.tripId, ordered] at h
        cases h
      · cases h
    · intro h
      rcases h with ⟨h, -⟩ | ⟨_, position, h, unfit, rfl⟩
      · cases h
      · cases h
        exact .inl ⟨position, unfit, rfl⟩

end Timetable

namespace Store

/-- **The reasons for which a store refuses a report.** -/
inductive RefusesReport (s : Store) (date : Date) (report : VehicleReport) : UpdateFailure → Prop
  | unknownTrip (trip : s.schedule.trip? report.tripRef = none) :
    RefusesReport s date report (.rejected (.tripNotFound report.tripRef))
  | noAnchor {t : Timetable} (trip : s.schedule.trip? report.tripRef = some t)
      (anchor : report.anchor? = none) :
    RefusesReport s date report (.rejected (.missingMonitoredCall t.tripId))
  | unfit {t : Timetable} {anchor : String} {current : TripRecord} {position : Nat}
      (trip : s.schedule.trip? report.tripRef = some t) (hanchor : report.anchor? = some anchor)
      (inEffect : s.inEffect? ⟨report.tripRef, date⟩ = some current)
      (first : VehicleReport.FirstUnfit anchor report.delaySeconds.val s.schedule.stop?
        current.stops position) :
    RefusesReport s date report (.rejected (.timeOutOfRange t.tripId position))

/-- The reasons are all that a store can refuse a report for, after any run. -/
theorem applyReport_eq_error_iff {schedule : Schedule} {writes : List Write} {date : Date}
    {report : VehicleReport} {failure : UpdateFailure} :
    ((empty schedule).run writes).applyReport date report = .error failure ↔
      ((empty schedule).run writes).RefusesReport date report failure := by
  have applied := apply_eq ((empty schedule).run writes) (.report date report)
  rw [apply, Schedule.successor] at applied
  rw [applied, Outcome.map_eq_error]
  dsimp only [Message.key, Timetable.afterMessage]
  cases trip : ((empty schedule).run writes).schedule.trip? report.tripRef with
  | none =>
    constructor
    · intro h
      cases h
      exact .unknownTrip trip
    · intro h
      cases h with
      | unknownTrip => rfl
      | noAnchor known => cases trip.symm.trans known
      | unfit known => cases trip.symm.trans known
  | some t =>
    have current : ((empty schedule).run writes).inEffect? ⟨report.tripRef, date⟩ = _ :=
      inEffect?_of_trip trip
    have sound : t.Sound ((((empty schedule).run writes).published?
        ⟨report.tripRef, date⟩).getD t.record) := sound_read trip
    rw [Outcome.mapError_eq_error]
    simp only [Timetable.afterReport_eq_error_iff sound]
    constructor
    · intro h
      obtain ⟨e, ⟨anchor, rfl⟩ | ⟨anchor, position, hanchor, first, rfl⟩, rfl⟩ := h
      · exact .noAnchor trip anchor
      · exact .unfit trip hanchor current first
    · intro h
      cases h with
      | unknownTrip unknown =>
        rw [trip] at unknown
        cases unknown
      | noAnchor known anchor =>
        rw [trip] at known
        cases known
        exact ⟨_, .inl ⟨anchor, rfl⟩, rfl⟩
      | unfit known hanchor inEffect first =>
        rw [trip] at known
        cases known
        cases current.symm.trans inEffect
        exact ⟨_, .inr ⟨_, _, hanchor, first, rfl⟩, rfl⟩

/-- **A report is never refused for the order of its times.** A store refuses it for one of three
reasons, in any state that a run leads to; and where it finds room for the delays, times that ran
forward still do. -/
theorem applyReport_ordered (schedule : Schedule) (writes : List Write) (date : Date)
    (report : VehicleReport) :
    (∀ failure, ((empty schedule).run writes).applyReport date report = .error failure ↔
      ((empty schedule).run writes).RefusesReport date report failure) ∧
    (∀ tripId line position, ((empty schedule).run writes).applyReport date report ≠
      .error (.rejected (.nonIncreasingTimes tripId line position))) ∧
    ∀ (anchor : String) (delay : Int) (lookup : StopLookup) (stops stops' : List StopRecord),
      Passage.firstDisorder? (stops.map (·.scheduled)) = none →
      Passage.firstDisorder? (stops.map (·.passage)) = none →
      VehicleReport.withDelays (stops.zip (VehicleReport.delays anchor delay lookup stops)) =
        .ok stops' →
      Passage.firstDisorder? (stops'.map (·.passage)) = none := by
  refine ⟨fun failure => applyReport_eq_error_iff, fun tripId line position refused => ?_,
    fun anchor delay lookup stops stops' => VehicleReport.inOrder_withDelays⟩
  cases applyReport_eq_error_iff.mp refused

end Store

/-! ## A vehicle that is hours late, and one that is early -/

namespace Sample

/-- The vehicle is later than times are held. -/
def far : VehicleReport := ⟨"t", none, some ⟨some "C"⟩, Seconds.of? 2147483647⟩

/-- The stops of the trip as they stand after the sample's writes. -/
def stopsInEffect : List StopRecord :=
  (((Store.empty schedule).run writes).inEffect? ⟨"t", date⟩).elim [] (·.stops)

def stopsEarly : List StopRecord :=
  (VehicleReport.withDelays (stopsInEffect.zip
    (VehicleReport.delays "B2" (-90) schedule.stop? stopsInEffect))).toOption.getD []

end Sample

/-- The one is refused for its last stop; the other leaves times in order. -/
theorem Store.applyReport_ordered_sample :
    (((empty Sample.schedule).run Sample.writes).applyReport Sample.date Sample.far =
        .error (.rejected (.timeOutOfRange "t" 2)) ∧
      ((empty Sample.schedule).run Sample.writes).RefusesReport Sample.date Sample.far
        (.rejected (.timeOutOfRange "t" 2))) ∧
    Sample.stopsEarly.map (·.delay) = [.both (-90), .both (-90), .both (-90)] ∧
      Passage.firstDisorder? (Sample.stopsEarly.map (·.passage)) = none := by
  have refused : ((empty Sample.schedule).run Sample.writes).applyReport Sample.date Sample.far =
      .error (.rejected (.timeOutOfRange "t" 2)) := by rfl
  have ordered := applyReport_ordered Sample.schedule Sample.writes Sample.date Sample.far
  refine ⟨⟨refused, (ordered.1 _).mp refused⟩, by decide, ?_⟩
  exact ordered.2.2 "B2" (-90) Sample.schedule.stop? Sample.stopsInEffect Sample.stopsEarly
    (by decide) (by decide) (by rfl)

end LiveTimetable
