import LiveTimetable.Proofs.Update.Revision

/-!
# Journeys in running order

A journey in running order names the stops of its trip one after another: those in front of some
position in its recorded calls, and those from there on in its estimated ones. Each stop is then the
first to ask for its own call, so the calls that are left are always those of the stops that are
left (`Matching.along_of_inOrder`). No platform is mistaken for another of its station, however
often the trip comes there, and a call that tells nothing but times leaves its visit as it is
scheduled.

Main statement: `Matching.ofJourney_runningOrder`.
-/

namespace LiveTimetable

/-- **A journey in running order**: its recorded calls name the stops in front of a position, its
estimated calls those from there on, and no call leaves its stop blank. -/
structure Journey.InRunningOrder (journey : Journey) (pattern : Pattern) (split : Nat) : Prop where
  made : journey.recorded.map (·.stopRef) = (pattern.take split).map (·.stop.id)
  due : journey.estimated.map (·.stopRef) = (pattern.drop split).map (·.stop.id)
  named : ∀ ref ∈ journey.stopRefs, ¬ Text.allBlank ref

/-! ## The walk -/

namespace Matching

variable {lookup : StopLookup} {pattern : Pattern}

/-- **Where the calls that are left name the stops that are left**, each stop takes its own. The
first stop takes the first call, and so the others find their own calls left. -/
theorem along_of_inOrder {recorded : List (RecordedCall × Nat)}
    {estimated : List (EstimatedCall × Nat)}
    (inOrder : (left recorded estimated).map (·.stopRef) = pattern.map (·.stop.id)) :
    along lookup pattern recorded estimated =
      (left recorded estimated).map fun call => some ⟨call, .itself⟩ := by
  induction pattern generalizing recorded estimated with
  | nil =>
    rw [List.map_nil, List.map_eq_nil_iff] at inOrder
    rw [inOrder]
    rfl
  | cons v rest ih =>
    cases recorded with
    | cons c recorded =>
      obtain ⟨call, index⟩ := c
      obtain ⟨own, behind⟩ := List.cons_eq_cons.mp inOrder
      have taken : take? v.stop lookup RecordedCall.stopRef ((call, index) :: recorded) =
        some ((call, index, .itself), recorded) := take?_cons_self own
      have walk := @ih recorded estimated behind
      simp only [along, taken, walk]
      rfl
    | nil =>
      cases estimated with
      | cons c estimated =>
        obtain ⟨call, index⟩ := c
        obtain ⟨own, behind⟩ := List.cons_eq_cons.mp inOrder
        have bare : take? v.stop lookup RecordedCall.stopRef [] = none := rfl
        have taken : take? v.stop lookup EstimatedCall.stopRef ((call, index) :: estimated) =
          some ((call, index, .itself), estimated) := take?_cons_self own
        have walk := @ih [] estimated behind
        simp only [along, bare, taken, walk]
        rfl
      | nil => cases inOrder

end Matching

namespace Journey.InRunningOrder

open Matching

variable {pattern : Pattern} {journey : Journey} {split i : Nat}

theorem length_recorded (h : journey.InRunningOrder pattern split) :
    journey.recorded.length = min split pattern.length := by
  simpa using congrArg List.length h.made

theorem length_estimated (h : journey.InRunningOrder pattern split) :
    journey.estimated.length = pattern.length - split := by
  simpa using congrArg List.length h.due

/-- Recorded and estimated calls together name the stops of the pattern. -/
theorem stopRefs_left (h : journey.InRunningOrder pattern split) :
    (left journey.recorded.zipIdx journey.estimated.zipIdx).map (·.stopRef) =
      pattern.map (·.stop.id) :=
  calc (left journey.recorded.zipIdx journey.estimated.zipIdx).map (·.stopRef)
    _ = (journey.recorded.zipIdx.map Prod.fst).map (·.stopRef) ++
          (journey.estimated.zipIdx.map Prod.fst).map (·.stopRef) := by
        simp only [left, List.map_append, List.map_map]
        rfl
    _ = (pattern.take split).map (·.stop.id) ++ (pattern.drop split).map (·.stop.id) := by
        simp only [List.zipIdx_map_fst, h.made, h.due]
    _ = pattern.map (·.stop.id) := by
        rw [← List.map_append, List.take_append_drop]

/-- The calls are matched in the order in which they come. -/
theorem ofJourney_eq (h : journey.InRunningOrder pattern split) (lookup : StopLookup) :
    ofJourney pattern journey lookup =
      .ok ((left journey.recorded.zipIdx journey.estimated.zipIdx).map
        fun call => some ⟨call, .itself⟩) :=
  ofJourney_eq_ok_iff.mpr ⟨Journey.firstBlankRef?_eq_none_iff.mpr h.named,
    (along_of_inOrder h.stopRefs_left).symm⟩

/-- A stop in front of the position has been called at. -/
theorem left_getElem?_front (h : journey.InRunningOrder pattern split) (inside : i < pattern.length)
    (front : i < split) : ∃ call, journey.recorded[i]? = some call ∧
      (left journey.recorded.zipIdx journey.estimated.zipIdx)[i]? = some (.recorded i call) := by
  have made : i < journey.recorded.length := by
    rw [h.length_recorded]
    exact Nat.lt_min.mpr ⟨front, inside⟩
  refine ⟨_, List.getElem?_eq_getElem made, ?_⟩
  rw [left, List.getElem?_append_left (by simpa using made)]
  simp [made]

/-- A stop from the position on is yet to be called at. -/
theorem left_getElem?_behind (h : journey.InRunningOrder pattern split)
    (inside : i < pattern.length) (behind : split ≤ i) :
    ∃ call, journey.estimated[i - split]? = some call ∧
      (left journey.recorded.zipIdx journey.estimated.zipIdx)[i]? =
        some (.estimated (i - split) call) := by
  have due : i - split < journey.estimated.length := by
    rw [h.length_estimated]
    omega
  have made : journey.recorded.length = split := by
    rw [h.length_recorded]
    omega
  refine ⟨_, List.getElem?_eq_getElem due, ?_⟩
  rw [left, List.getElem?_append_right (by simpa [made] using behind)]
  simp [made, due]

end Journey.InRunningOrder

/-! ## What is left as scheduled -/

/-- **A call that tells nothing but times**, as far as rules go: neither the call nor a side of it is
cancelled, and it tells no activity. -/
def MatchedCall.LeavesRules : MatchedCall → Prop
  | recorded _ call => ¬ call.isCancelled
  | estimated _ call => ¬ call.isCancelled ∧
      (¬ call.arrivalCancelled ∧ call.arrivalActivity = none) ∧
      ¬ call.departureCancelled ∧ call.departureActivity = none

/-- At its own stop such a call leaves the visit as it is, but for the headsign. -/
theorem Visit.sameService_revised (v : Visit) {call : MatchedCall} (leaves : call.LeavesRules) :
    (v.revised ⟨call, .itself⟩).SameService v := by
  cases call with
  | recorded index call =>
    have runs : ¬ call.isCancelled := leaves
    simp [revised, servedBy, afterRecorded, runs, SameService]
  | estimated index call =>
    obtain ⟨runs, ⟨arrives, noArrival⟩, departs, noDeparture⟩ := leaves
    simp only [Bool.not_eq_true] at runs arrives departs
    simp only [revised, servedBy, afterEstimated_eq, SameService, EstimatedCall.pickup,
      EstimatedCall.dropOff, runs, arrives, noArrival, departs, noDeparture,
      BoardingRule.told_nothing, and_self]

/-- Where each call names its stop and leaves its rules, the service is the scheduled one. -/
theorem Timetable.sameService_of_leavesRules {t : Timetable} {journey : Journey}
    {lookup : StopLookup} (leaves : ∀ found, some found ∈ t.matching journey lookup →
      found.serving = .itself ∧ found.call.LeavesRules) :
    List.Forall₂ Visit.SameService (t.revised journey lookup) t.pattern := by
  rw [← Pattern.sameService_iff_forall₂]
  by_contra other
  obtain ⟨p, w, v, hw, hv, differ⟩ :=
    (Pattern.not_sameService_iff (length_revised t journey lookup)).mp other
  obtain ⟨v', found, hv', hfound, rfl⟩ := revised_getElem?_eq_some_iff.mp hw
  cases hv.symm.trans hv'
  cases found with
  | none => exact differ ⟨rfl, rfl, rfl⟩
  | some found =>
    obtain ⟨call, serving⟩ := found
    obtain ⟨rfl, rules⟩ := leaves _ (List.mem_of_getElem? hfound)
    exact differ (v.sameService_revised rules)

namespace Matching

/-- **A journey in running order is matched one to one**, whichever stops the trip comes to again and
whichever share a station: the stop at a position has the recorded call of that place, or from the
split on the estimated call that is as far behind it, and none is served by a substitute. If no call
tells more than times, stops and rules stay as they are scheduled. -/
theorem ofJourney_runningOrder (pattern : Pattern) (journey : Journey) (lookup : StopLookup)
    (split : Nat) (inOrder : journey.InRunningOrder pattern split) :
    ∃ m, ofJourney pattern journey lookup = .ok m ∧ m.length = pattern.length ∧
      (∀ i < pattern.length,
        (i < split → ∃ call, journey.recorded[i]? = some call ∧
          m[i]? = some (some ⟨.recorded i call, .itself⟩)) ∧
        (split ≤ i → ∃ call, journey.estimated[i - split]? = some call ∧
          m[i]? = some (some ⟨.estimated (i - split) call, .itself⟩))) ∧
      ¬ m.hasSubstitution ∧
      ∀ t : Timetable, t.pattern = pattern → (∀ call, journey.HasCall call → call.LeavesRules) →
        ∃ r, Revision.ofJourney t journey lookup = .ok r ∧ r.matching = m ∧
          List.Forall₂ Visit.SameService r.pattern pattern ∧ ¬ r.isModified t := by
  have made := inOrder.ofJourney_eq lookup
  obtain ⟨blank, walk⟩ := ofJourney_eq_ok_iff.mp made
  refine ⟨_, made, ?_, fun i inside => ⟨fun front => ?_, fun behind => ?_⟩, ?_, ?_⟩
  · rw [walk, length_along]
  · obtain ⟨call, own, placed⟩ := inOrder.left_getElem?_front inside front
    exact ⟨call, own, by rw [List.getElem?_map, placed, Option.map_some]⟩
  · obtain ⟨call, own, placed⟩ := inOrder.left_getElem?_behind inside behind
    exact ⟨call, own, by rw [List.getElem?_map, placed, Option.map_some]⟩
  · simp [hasSubstitution, Serving.substitute?]
  · rintro t rfl leaves
    have same : List.Forall₂ Visit.SameService (t.revised journey lookup) t.pattern := by
      refine t.sameService_of_leavesRules fun found mem => ?_
      rw [Timetable.matching, ← walk, List.mem_map] at mem
      obtain ⟨call, has, ⟨⟩⟩ := mem
      exact ⟨rfl, leaves call (mem_left_iff.mp has)⟩
    refine ⟨_, Timetable.revision_eq_ok_iff.mpr ⟨blank, rfl⟩, walk.symm, same, ?_⟩
    rw [← Pattern.sameService_iff_forall₂] at same
    simp [Revision.isModified, same]

end Matching

/-! ## Around the loop -/

namespace Sample

theorem leavesRules_calling {recorded estimated : List String} {call : MatchedCall}
    (has : (calling recorded estimated).HasCall call) : call.LeavesRules := by
  cases call with
  | recorded index call =>
    obtain ⟨stop, -, rfl⟩ := List.mem_map.mp (List.mem_of_getElem? has)
    exact Bool.false_ne_true
  | estimated index call =>
    obtain ⟨stop, -, rfl⟩ := List.mem_map.mp (List.mem_of_getElem? has)
    exact ⟨Bool.false_ne_true, ⟨Bool.false_ne_true, rfl⟩, Bool.false_ne_true, rfl⟩

/-- The vehicle has been at the first two stops of the loop. -/
def around : Journey := calling ["B1", "A"] ["B2", "B1", "A"]

end Sample

/-- Neither does the second platform take the call at the first one, nor the other way round. -/
theorem Matching.ofJourney_runningOrder_around :
    Sample.around.InRunningOrder Sample.loop 2 ∧
      (∀ call, Sample.around.HasCall call → call.LeavesRules) ∧
      ∃ r, Revision.ofJourney Sample.loopLine Sample.around Sample.platforms = .ok r ∧
        r.matching[2]? = some (some ⟨.estimated 0 (Sample.dueAt "B2"), .itself⟩) ∧
        r.matching[3]? = some (some ⟨.estimated 1 (Sample.dueAt "B1"), .itself⟩) ∧
        ¬ r.isModified Sample.loopLine := by
  have inOrder : Sample.around.InRunningOrder Sample.loop 2 := ⟨by decide, by decide, by decide⟩
  have leaves : ∀ call, Sample.around.HasCall call → call.LeavesRules :=
    fun _ => Sample.leavesRules_calling
  obtain ⟨m, -, -, placed, -, revised⟩ :=
    ofJourney_runningOrder Sample.loop Sample.around Sample.platforms 2 inOrder
  obtain ⟨r, made, rfl, -, same⟩ := revised Sample.loopLine rfl leaves
  obtain ⟨_, second, hsecond⟩ := (placed 2 (by decide)).2 (by decide)
  obtain ⟨_, first, hfirst⟩ := (placed 3 (by decide)).2 (by decide)
  cases second
  cases first
  exact ⟨inOrder, leaves, r, made, hsecond, hfirst, same⟩

end LiveTimetable
