import LiveTimetable.Store.Basic

/-!
# What an update reads of a journey

A journey says more than an update reads. Of a time only the point on the time line counts, and not
the offset under which it was written. Of the status of a side only one thing counts: whether it is
cancelled. The gist of a journey keeps just this.

Each part of an update can be fed the gist in place of the journey. What it returns is the same, or
for a call or a match the gist of what it would have returned. So an update does not tell a journey
from its gist (`Timetable.afterJourney_gist`), nor two journeys of one gist
(`Store.applyJourney_of_gist`).
-/

namespace LiveTimetable

/-! ## The gist -/

theorem Instant.zero_offset_lt : -86400 < (0 : Int) ∧ (0 : Int) < 86400 := by decide

/-- The clock in UTC reads as the time line does. -/
theorem Instant.inCalendar_utc (a : Instant) : Calendar.HasSecond (a.second + 0) := by
  rw [Int.add_zero]
  exact a.inCalendar

/-- The same point, written in UTC. -/
def Instant.inUtc (a : Instant) : Instant :=
  { a with
    offset := 0
    offset_lt := zero_offset_lt
    localInCalendar := a.inCalendar_utc }

/-- Instants are written alike in UTC just if they are one point. -/
theorem Instant.inUtc_eq_iff {a b : Instant} : a.inUtc = b.inUtc ↔ a.SamePoint b := by
  cases a
  cases b
  simp [inUtc, SamePoint]

def CallTimes.inUtc (t : CallTimes) : CallTimes :=
  ⟨t.arrival.map Instant.inUtc, t.departure.map Instant.inUtc⟩

/-- Of the statuses a side may have, an update knows cancelled alone. -/
def CallStatus.gist? (status : Option CallStatus) : Option CallStatus :=
  status.filter (· = .cancelled)

def RecordedCall.gist (c : RecordedCall) : RecordedCall :=
  { c with aimed := c.aimed.inUtc, expected := c.expected.inUtc, actual := c.actual.inUtc }

def EstimatedCall.gist (c : EstimatedCall) : EstimatedCall :=
  { c with
    aimed := c.aimed.inUtc
    expected := c.expected.inUtc
    arrivalStatus := CallStatus.gist? c.arrivalStatus
    departureStatus := CallStatus.gist? c.departureStatus }

/-- **What an update reads of a journey.** -/
def Journey.gist (j : Journey) : Journey :=
  { j with
    recorded := j.recorded.map RecordedCall.gist
    estimated := j.estimated.map EstimatedCall.gist }

def MatchedCall.gist : MatchedCall → MatchedCall
  | recorded index call => recorded index call.gist
  | estimated index call => estimated index call.gist

def Match.gist (m : Match) : Match := { m with call := m.call.gist }

/-! ## Calls -/

namespace CallTimes

variable (t : CallTimes)

@[simp] theorem arrival_inUtc : t.inUtc.arrival = t.arrival.map Instant.inUtc := rfl

@[simp] theorem departure_inUtc : t.inUtc.departure = t.departure.map Instant.inUtc := rfl

@[simp] theorem forArrival_inUtc (first : Bool) :
    t.inUtc.forArrival first = (t.forArrival first).map Instant.inUtc := by
  cases first <;> simp [forArrival, Option.map_or]

@[simp] theorem forDeparture_inUtc (last : Bool) :
    t.inUtc.forDeparture last = (t.forDeparture last).map Instant.inUtc := by
  cases last <;> simp [forDeparture, Option.map_or]

@[simp] theorem either_inUtc : t.inUtc.either = t.either.map Instant.inUtc := by
  simp [either, Option.map_or]

end CallTimes

theorem RecordedCall.wasObserved_gist (c : RecordedCall) : c.gist.wasObserved = c.wasObserved := by
  simp [wasObserved, gist]

theorem CallStatus.gist?_eq_cancelled_iff {status : Option CallStatus} :
    gist? status = some .cancelled ↔ status = some .cancelled := by
  cases status <;> simp [gist?, Option.filter_eq_some_iff]

namespace EstimatedCall

variable (c : EstimatedCall)

@[simp] theorem arrivalCancelled_gist : c.gist.arrivalCancelled = c.arrivalCancelled := by
  simp [arrivalCancelled, gist, CallStatus.gist?_eq_cancelled_iff]

@[simp] theorem departureCancelled_gist : c.gist.departureCancelled = c.departureCancelled := by
  simp [departureCancelled, gist, CallStatus.gist?_eq_cancelled_iff]

end EstimatedCall

namespace MatchedCall

variable (c : MatchedCall)

theorem reference?_gist : c.gist.reference? = c.reference?.map Instant.inUtc := by
  cases c <;>
    simp [gist, reference?, RecordedCall.reference?, EstimatedCall.reference?, RecordedCall.gist,
      EstimatedCall.gist, Option.map_or]

theorem isCancelled_gist : c.gist.isCancelled = c.isCancelled := by
  cases c <;> rfl

theorem arrival?_gist (first : Bool) :
    c.gist.arrival? first = (c.arrival? first).map Instant.inUtc := by
  cases c <;> simp [gist, arrival?, RecordedCall.gist, EstimatedCall.gist, Option.map_or]

theorem departure?_gist (last : Bool) :
    c.gist.departure? last = (c.departure? last).map Instant.inUtc := by
  cases c <;> simp [gist, departure?, RecordedCall.gist, EstimatedCall.gist, Option.map_or]

end MatchedCall

/-! ## Matching and revision -/

namespace Matching

/-- A call that names the same stop is taken alike. -/
theorem take?_map {α : Type} (ref : α → String) {f : α → α} (names : ∀ a, ref (f a) = ref a)
    (stop : Stop) (lookup : StopLookup) (calls : List (α × Nat)) :
    take? stop lookup ref (calls.map (Prod.map f id)) =
      (take? stop lookup ref calls).map (Prod.map (Prod.map f id) (List.map (Prod.map f id))) := by
  induction calls with
  | nil => rfl
  | cons call rest ih =>
    obtain ⟨call, index⟩ := call
    simp only [List.map_cons, Prod.map_apply, id_eq, take?, names, ih]
    cases stop.serving? lookup (ref call) with
    | some serving => rfl
    | none => simp [Function.comp_def]

theorem along_gist (lookup : StopLookup) (pattern : Pattern)
    (recorded : List (RecordedCall × Nat)) (estimated : List (EstimatedCall × Nat)) :
    along lookup pattern (recorded.map (Prod.map RecordedCall.gist id))
        (estimated.map (Prod.map EstimatedCall.gist id)) =
      (along lookup pattern recorded estimated).map (Option.map Match.gist) := by
  -- a stop may take a call of either kind, so both lists of those that remain are generalized
  induction pattern generalizing recorded estimated with
  | nil => rfl
  | cons visit rest ih =>
    have takeRecorded := take?_map RecordedCall.stopRef (f := RecordedCall.gist) (fun _ => rfl)
      visit.stop lookup recorded
    have takeEstimated := take?_map EstimatedCall.stopRef (f := EstimatedCall.gist) (fun _ => rfl)
      visit.stop lookup estimated
    rw [along, along, takeRecorded, takeEstimated]
    cases take? visit.stop lookup (·.stopRef) recorded with
    | some taken => exact congrArg (_ :: ·) (ih ..)
    | none =>
      cases take? visit.stop lookup (·.stopRef) estimated with
      | some taken => exact congrArg (_ :: ·) (ih ..)
      | none => exact congrArg (none :: ·) (ih ..)

end Matching

theorem Journey.stopRefs_gist (j : Journey) : j.gist.stopRefs = j.stopRefs := by
  simp only [stopRefs, gist, List.map_map]
  rfl

theorem Matching.ofJourney_gist (pattern : Pattern) (j : Journey) (lookup : StopLookup) :
    ofJourney pattern j.gist lookup =
      (ofJourney pattern j lookup).map (List.map (Option.map Match.gist)) := by
  simp only [ofJourney, Journey.firstBlankRef?, j.stopRefs_gist]
  cases j.stopRefs.findIdx? Text.allBlank with
  | some call => rfl
  | none =>
    simp only [Journey.gist, List.zipIdx_map]
    exact congrArg Except.ok (along_gist ..)

theorem Visit.revised_gist (v : Visit) (found : Match) : v.revised found.gist = v.revised found := by
  obtain ⟨call, serving⟩ := found
  cases call with
  | recorded index call => rfl
  | estimated index call =>
    show (v.servedBy serving).afterEstimated call.gist = (v.servedBy serving).afterEstimated call
    simp only [afterEstimated, call.arrivalCancelled_gist, call.departureCancelled_gist]
    rfl

theorem Visit.after_gist (v : Visit) (found : Option Match) :
    v.after (found.map Match.gist) = v.after found := by
  cases found with
  | none => rfl
  | some found => exact v.revised_gist found

def Revision.gist (r : Revision) : Revision :=
  { r with matching := r.matching.map (Option.map Match.gist) }

/-- A gist revises the pattern as its journey does. -/
theorem Revision.ofJourney_gist (t : Timetable) (j : Journey) (lookup : StopLookup) :
    ofJourney t j.gist lookup = (ofJourney t j lookup).map gist := by
  unfold ofJourney
  rw [Matching.ofJourney_gist]
  cases Matching.ofJourney t.pattern j lookup with
  | error e => rfl
  | ok matching =>
    have same : List.zipWith Visit.after t.pattern (matching.map (Option.map Match.gist)) =
        List.zipWith Visit.after t.pattern matching := by
      simp only [List.zipWith_map_right, Visit.after_gist]
    exact congrArg (fun pattern => Except.ok (Revision.mk pattern _)) same

/-! ## The pass -/

theorem Journey.isLast_gist (j : Journey) (call : MatchedCall) :
    j.gist.isLast call.gist = j.isLast call := by
  cases call <;> simp [isLast, gist, MatchedCall.gist]

namespace Propagation

variable (s : Setting) (first : Bool) (start : Option Int) (carry : Carry) (call : MatchedCall)

def Setting.gist (s : Setting) : Setting := { s with journey := s.journey.gist }

def Slot.gist (slot : Slot) : Slot := { slot with found := slot.found.map Match.gist }

/-- The date on which the trip runs is told by the point alone: it is the one that the clock of the
zone shows there. -/
theorem serviceStart_inUtc (reference : Option Instant) (firstDeparture : Seconds) (zone : Zone) :
    serviceStart (reference.map Instant.inUtc) firstDeparture zone =
      serviceStart reference firstDeparture zone := by
  cases reference <;> rfl

theorem onDay_inUtc (told : Option Instant) :
    onDay start (told.map Instant.inUtc) = onDay start told := by
  cases start <;> cases told <;> rfl

theorem dayAfter_gist : dayAfter s.gist start call.gist = dayAfter s start call := by
  simp only [dayAfter, call.reference?_gist, serviceStart_inUtc]
  rfl

theorem passageAt_gist (scheduled : Passage) :
    passageAt s.gist first start call.gist scheduled = passageAt s first start call scheduled := by
  have last : s.gist.journey.isLast call.gist = s.journey.isLast call := s.journey.isLast_gist call
  simp only [passageAt, call.arrival?_gist, call.departure?_gist, onDay_inUtc, last]
  cases call <;> rfl

theorem stopWith_gist (slot : Slot) (found : Match) (passage : Passage) :
    stopWith s.gist slot.gist found.gist passage = stopWith s slot found passage := by
  have visit := slot.scheduled.visit.revised_gist found
  have cancelled := found.call.isCancelled_gist
  obtain ⟨call, serving⟩ := found
  cases call with
  | recorded index call =>
    rw [stopWith, stopWith, StopRecord.mk.injEq]
    exact ⟨visit, rfl, rfl, call.wasObserved_gist, cancelled, rfl⟩
  | estimated index call =>
    rw [stopWith, stopWith, StopRecord.mk.injEq]
    exact ⟨visit, rfl, rfl, rfl, cancelled, rfl⟩

theorem matchedStep_gist (slot : Slot) (found : Match) :
    matchedStep s.gist first carry slot.gist found.gist = matchedStep s first carry slot found := by
  have call : found.gist.call = found.call.gist := rfl
  have scheduled : slot.gist.scheduled = slot.scheduled := rfl
  simp only [matchedStep, call, scheduled, dayAfter_gist, passageAt_gist, stopWith_gist]

theorem step_gist (slot : Slot) : step s.gist first carry slot.gist = step s first carry slot := by
  obtain ⟨scheduled, found, delay⟩ := slot
  cases found with
  | none => rfl
  | some found => exact matchedStep_gist s first carry _ found

/-- The pass along the stops makes the same records of a gist. -/
theorem pass_gist (position : Nat) (slots : List Slot) :
    pass s.gist position carry (slots.map Slot.gist) = pass s position carry slots := by
  induction slots generalizing position carry with
  | nil => rfl
  | cons slot rest ih =>
    simp only [List.map_cons, pass, step_gist, ih]

theorem slots_gist (t : Timetable) (matching : Matching) (current : TripRecord) :
    slots t (matching.map (Option.map Match.gist)) current =
      (slots t matching current).map Slot.gist := by
  simp only [slots, List.map_map, List.zip_map_left, List.zip_map_right]
  rfl

end Propagation

/-! ## The update -/

namespace Timetable

variable (t : Timetable) (current : TripRecord) (j : Journey) (lookup : StopLookup) (zone : Zone)

theorem propagate_gist :
    t.propagate current j.gist lookup zone = t.propagate current j lookup zone := by
  unfold propagate
  rw [Revision.ofJourney_gist]
  cases Revision.ofJourney t j lookup with
  | error e => rfl
  | ok revision =>
    have stops :
        Propagation.pass ⟨zone, t.firstDeparture, j.gist⟩ 0 .initial
            (Propagation.slots t revision.gist.matching current) =
          Propagation.pass ⟨zone, t.firstDeparture, j⟩ 0 .initial
            (Propagation.slots t revision.matching current) := by
      rw [Revision.gist, Propagation.slots_gist]
      exact Propagation.pass_gist ⟨zone, t.firstDeparture, j⟩ .initial 0 _
    -- behind the pass only the revised pattern is read, which is the same
    show (Propagation.pass _ 0 .initial _).mapError _ >>= _ = _
    rw [stops]
    rfl

/-- **An update does not tell a journey from its gist.** -/
theorem afterJourney_gist :
    t.afterJourney current j.gist lookup zone = t.afterJourney current j lookup zone := by
  unfold afterJourney
  rw [propagate_gist]
  rfl

/-- Journeys of one gist make one record, or fail alike. -/
theorem afterJourney_of_gist {j j' : Journey} (same : j.gist = j'.gist) :
    t.afterJourney current j lookup zone = t.afterJourney current j' lookup zone := by
  rw [← afterJourney_gist, same, afterJourney_gist]

end Timetable

/-- Journeys of one gist do the same to a store. -/
theorem Store.applyJourney_of_gist (s : Store) (date : Date) {j j' : Journey}
    (same : j.gist = j'.gist) : s.applyJourney date j = s.applyJourney date j' := by
  have trip : j.gist.tripRef = j'.gist.tripRef := congrArg Journey.tripRef same
  simp only [Journey.gist] at trip
  simp only [applyJourney, trip, Timetable.afterJourney_of_gist _ _ _ _ same]

end LiveTimetable
