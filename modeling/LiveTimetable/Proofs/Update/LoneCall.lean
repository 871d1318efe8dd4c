import LiveTimetable.Proofs.Timetable.Shift
import LiveTimetable.Proofs.Update.Journey
import LiveTimetable.Proofs.Update.Matching

/-!
# Calls that tell of one departure

The least that a journey can tell: a single call with a single time, its departure, expected or
observed, and the departure that was aimed at. Where the stops of a trip can be told apart
(`Timetable.Apart`) the call is taken by the stop that it names and by no other
(`Timetable.matching_lone`).

What such a call says of the arrival depends on its kind (`LoneCall.delay`). An estimated call has
its arrival follow its departure, so the vehicle is later on arrival than on departure, by the wait
at the stop. A recorded call leaves the scheduled arrival, save at the first stop of the trip.
-/

namespace LiveTimetable

/-! ## Whole seconds -/

/-- The instant is a whole second of the time line. -/
def Instant.IsAt (t : Instant) (second : Int) : Prop := t.second = second ∧ t.nano = 0

theorem Instant.secondsSince_of_isAt {t : Instant} {second : Int} (h : t.IsAt second)
    (start : Int) : t.secondsSince start = second - start := by
  obtain ⟨hsecond, hnano⟩ := h
  simp [secondsSince, IsLeap, hsecond, hnano]

/-! ## The call -/

/-- A call with a departure alone: the one aimed at, and the one that is expected or, if the call
is recorded, was observed. -/
structure LoneCall where
  observed : Bool
  stopRef : String
  aimed : Instant
  told : Instant

namespace LoneCall

def asRecorded (c : LoneCall) : RecordedCall :=
  ⟨c.stopRef, none, ⟨none, some c.aimed⟩, ⟨none, none⟩, ⟨none, some c.told⟩⟩

def asEstimated (c : LoneCall) : EstimatedCall :=
  ⟨c.stopRef, none, none, ⟨none, some c.aimed⟩, ⟨none, some c.told⟩, none, none, none, none, []⟩

def recorded (c : LoneCall) : List RecordedCall := if c.observed then [c.asRecorded] else []

def estimated (c : LoneCall) : List EstimatedCall := if c.observed then [] else [c.asEstimated]

/-- The call as a stop takes it. -/
def matched (c : LoneCall) : MatchedCall :=
  if c.observed then .recorded 0 c.asRecorded else .estimated 0 c.asEstimated

/-- The delay at the stop of a call that tells that the vehicle leaves `late` seconds late. -/
def delay (c : LoneCall) (first : Bool) (scheduled : Passage) (late : Int) : Delay :=
  ⟨if c.observed && !first then 0 else scheduled.wait + late, late⟩

variable {c : LoneCall}

theorem reference?_matched (c : LoneCall) : c.matched.reference? = some c.aimed := by
  obtain ⟨observed, stopRef, aimed, told⟩ := c
  cases observed with
  | true => rfl
  | false => rfl

/-- The call changes neither the stop nor its rules. -/
theorem after_matched (c : LoneCall) (v : Visit) : v.after (some ⟨c.matched, .itself⟩) = v := by
  obtain ⟨observed, stopRef, aimed, told⟩ := c
  cases observed with
  | true => rfl
  | false => rfl

/-- Of an arrival the call tells at the first stop alone, where its departure stands in. -/
theorem arrival?_matched (c : LoneCall) (first : Bool) :
    c.matched.arrival? first = if first then some c.told else none := by
  obtain ⟨observed, stopRef, aimed, told⟩ := c
  cases observed with
  | true => cases first <;> rfl
  | false => cases first <;> rfl

theorem departure?_matched (c : LoneCall) (last : Bool) :
    c.matched.departure? last = some c.told := by
  obtain ⟨observed, stopRef, aimed, told⟩ := c
  cases observed with
  | true => rfl
  | false => rfl

/-- The passage that the call makes of the scheduled one. -/
theorem passageAt_matched (s : Propagation.Setting) (first : Bool) {start : Int}
    (scheduled : Passage) {time : Seconds} (htime : Service.timeAt? start c.told = some time) :
    Propagation.passageAt s first (some start) c.matched scheduled =
      .ok ⟨if c.observed && !first then scheduled.arrival else time, time⟩ := by
  have told : Propagation.onDay (some start) (some c.told) = .ok (some time) := by
    simp only [Propagation.onDay, htime]
  have untold : Propagation.onDay (some start) none = .ok none := rfl
  rw [Propagation.passageAt, arrival?_matched, departure?_matched, told]
  cases first with
  | true =>
    rw [if_pos rfl, told, Bool.not_true, Bool.and_false]
    rfl
  | false =>
    rw [if_neg Bool.false_ne_true, untold]
    obtain ⟨observed, stopRef, aimed, told⟩ := c
    cases observed with
    | true => rfl
    | false => rfl

/-- Told that a vehicle leaves late, the stop has the call's delay. -/
theorem delayFrom_matched {first : Bool} {scheduled : Passage} {time : Seconds} {late : Int}
    (htime : time.val = scheduled.departure.val + late) :
    Passage.delayFrom ⟨if c.observed && !first then scheduled.arrival else time, time⟩ scheduled =
      c.delay first scheduled late := by
  rw [Passage.delayFrom_eq_iff, delay]
  refine ⟨?_, htime⟩
  show (if c.observed && !first then scheduled.arrival else time).val =
    scheduled.arrival.val + if c.observed && !first then 0 else scheduled.wait + late
  split
  · exact (Int.add_zero _).symm
  · rw [htime, Passage.wait]
    omega

end LoneCall

/-! ## The stop that takes it -/

/-- The journey runs and has this call alone. -/
structure Journey.Makes (j : Journey) (c : LoneCall) : Prop where
  recorded : j.recorded = c.recorded
  estimated : j.estimated = c.estimated
  runs : ¬ j.isCancellation

/-- **The stops of a trip can be told apart**: ids differ, no two stops are in one station, and the
stations are those that are known. Somebody may get on or off at each. -/
structure Timetable.Apart (t : Timetable) (lookup : StopLookup) : Prop where
  ids : (t.visits.map (·.visit.stop.id)).Nodup
  stations : t.visits.Pairwise fun a b => ¬ a.visit.stop.sharesStation b.visit.stop
  known : ∀ v ∈ t.visits, ∀ stop, lookup v.visit.stop.id = some stop →
    stop.station = v.visit.stop.station
  served : ∀ v ∈ t.visits, ¬ v.visit.isPassedBy

namespace Matching

variable {lookup : StopLookup}

theorem along_nil (lookup : StopLookup) (pattern : Pattern) :
    along lookup pattern [] [] = pattern.map fun _ => none := by
  induction pattern with
  | nil => rfl
  | cons v rest ih => simp only [along, take?, ih, List.map_cons]

/-- The call goes past stops that it does not serve, and behind its own nothing is left. -/
theorem along_lone {c : LoneCall} {v : Visit} {front : Pattern}
    (past : ∀ w ∈ front, w.stop.serving? lookup c.stopRef = none) (own : v.stop.id = c.stopRef)
    (later : Pattern) :
    along lookup (front ++ v :: later) c.recorded.zipIdx c.estimated.zipIdx =
      front.map (fun _ => none) ++ some ⟨c.matched, .itself⟩ :: later.map fun _ => none := by
  have serves : v.stop.serving? lookup c.stopRef = some .itself :=
    own ▸ v.stop.serving?_self lookup
  obtain ⟨observed, stopRef, aimed, told⟩ := c
  induction front with
  | nil =>
    cases observed with
    | true => simp [LoneCall.recorded, LoneCall.estimated, LoneCall.matched, LoneCall.asRecorded,
        along, take?, serves, along_nil]
    | false => simp [LoneCall.recorded, LoneCall.estimated, LoneCall.matched, LoneCall.asEstimated,
        along, take?, serves, along_nil]
  | cons w front ih =>
    have hw := past w List.mem_cons_self
    have hfront := ih fun x hx => past x (List.mem_cons_of_mem w hx)
    rw [List.cons_append, List.map_cons, List.cons_append, ← hfront]
    cases observed with
    | true => simp [LoneCall.recorded, LoneCall.estimated, LoneCall.asRecorded, along, take?, hw]
    | false => simp [LoneCall.recorded, LoneCall.estimated, LoneCall.asEstimated, along, take?, hw]

end Matching

namespace Timetable

variable {t : Timetable} {lookup : StopLookup} {front later : List TimedVisit} {v : TimedVisit}

/-- No stop is served by a call that names another one. -/
theorem Apart.serving?_eq_none (apart : t.Apart lookup) (split : t.visits = front ++ v :: later) :
    ∀ w ∈ front, w.visit.stop.serving? lookup v.visit.stop.id = none := by
  intro w hw
  have hv : v ∈ t.visits := by
    rw [split]
    exact List.mem_append_right _ List.mem_cons_self
  have ids := apart.ids
  have stations := apart.stations
  rw [split, List.map_append, List.nodup_append] at ids
  rw [split, List.pairwise_append] at stations
  rw [Option.eq_none_iff_forall_ne_some]
  intro serving hserving
  rcases Stop.serving?_eq_some_iff.mp hserving with ⟨hid, -⟩ | ⟨-, other, hother, hshares, -⟩
  · exact ids.2.2 _ (List.mem_map_of_mem hw) _ List.mem_cons_self hid
  · -- what is known under the id is in the station of the stop itself
    obtain ⟨station, hstation, hotherStation⟩ := Stop.sharesStation_iff.mp hshares
    refine stations.2.2 w hw v List.mem_cons_self (Stop.sharesStation_iff.mpr ⟨station, hstation, ?_⟩)
    rw [← apart.known v hv other hother]
    exact hotherStation

/-- **The stop that the call names takes it**, and no other stop has a call. -/
theorem matching_lone (apart : t.Apart lookup) (split : t.visits = front ++ v :: later)
    {journey : Journey} {c : LoneCall} (makes : journey.Makes c)
    (own : c.stopRef = v.visit.stop.id) :
    t.matching journey lookup =
      front.map (fun _ => none) ++ some ⟨c.matched, .itself⟩ :: later.map fun _ => none := by
  have past : ∀ w ∈ front.map (·.visit), w.stop.serving? lookup c.stopRef = none := by
    intro w hw
    obtain ⟨u, hu, rfl⟩ := List.mem_map.mp hw
    rw [own]
    exact apart.serving?_eq_none split u hu
  rw [matching, makes.recorded, makes.estimated, pattern, split, List.map_append, List.map_cons,
    Matching.along_lone past own.symm, List.map_map, List.map_map]
  rfl

/-- The call leaves the record updated, and not modified. -/
theorem stateAfter_lone (apart : t.Apart lookup) (split : t.visits = front ++ v :: later)
    {journey : Journey} {c : LoneCall} (makes : journey.Makes c)
    (own : c.stopRef = v.visit.stop.id) : t.stateAfter journey lookup = .updated := by
  have unmoved : ∀ visits : List TimedVisit,
      List.zipWith Visit.after (visits.map (·.visit)) (visits.map fun _ => none) =
        visits.map (·.visit) := by
    intro visits
    rw [List.zipWith_map, List.zipWith_self]
    rfl
  have same : t.revised journey lookup = t.pattern := by
    rw [revised, matching_lone apart split makes own, pattern, split, List.map_append, List.map_cons,
      List.zipWith_append (by simp), List.zipWith_cons_cons, LoneCall.after_matched, unmoved, unmoved]
  rw [stateAfter, same, Pattern.sameService_self, if_pos rfl]

end Timetable

end LiveTimetable
