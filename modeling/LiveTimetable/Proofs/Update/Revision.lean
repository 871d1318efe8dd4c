import LiveTimetable.Proofs.Columns.Revision
import LiveTimetable.Proofs.Update.Substitution

/-!
# What a journey revises

The visits of a trip are revised one by one, each by the call that its stop has taken, and a visit
without a call stays as it is. What a call leaves of its visit is told by `Visit.RevisedBy`: nothing
of another visit and nothing of another call comes into it. The changes to a visit are made one
after another, and later ones count for more; what they come to is one table for the rule on either
side (`BoardingRule.told`).

Main statement: `Timetable.revision_told`. The one comparison that is made at the end, whether the
revised pattern offers the same service, sees every stop and every rule that was changed, and no
headsign.
-/

namespace LiveTimetable

/-! ## Rules -/

/-- **The rule that an estimated call leaves** on one side of its visit. A cancelled call closes the
side, else the activity on this side decides, and the status only where no activity is told. -/
def BoardingRule.told (rule : BoardingRule) (callOff sideOff : Bool) (activity : Option Activity) :
    BoardingRule :=
  if callOff then .cancelled
  else
    match activity with
    | some .allowed => .scheduled
    | some .refused => .notOffered
    | some .passedThrough => .cancelled
    | none => if sideOff then .cancelled else rule

theorem BoardingRule.told_nothing (rule : BoardingRule) : rule.told false false none = rule := rfl

namespace EstimatedCall

/-- The rule for getting on, from the scheduled one and the call. -/
def pickup (call : EstimatedCall) (rule : BoardingRule) : BoardingRule :=
  rule.told call.isCancelled call.departureCancelled call.departureActivity

/-- The rule for getting off. -/
def dropOff (call : EstimatedCall) (rule : BoardingRule) : BoardingRule :=
  rule.told call.isCancelled call.arrivalCancelled call.arrivalActivity

end EstimatedCall

namespace Visit

/-- An activity that allows leaves the rule as it is scheduled, whether it had to be lifted or
not. -/
theorem ruleAfter_eq_told (rule : BoardingRule) (off : Bool) (activity : Option Activity) :
    ruleAfter rule off activity = rule.told false off activity := by
  cases activity with
  | none => rfl
  | some activity =>
    cases activity with
    | allowed => cases off <;> cases rule <;> rfl
    | refused => rfl
    | passedThrough => rfl

theorem afterEstimated_eq (v : Visit) (call : EstimatedCall) :
    v.afterEstimated call =
      { v with
        pickup := call.pickup v.pickup
        dropOff := call.dropOff v.dropOff
        headsign := call.destinations.head?.or v.headsign } := by
  simp only [afterEstimated, ruleAfter_eq_told, EstimatedCall.pickup, EstimatedCall.dropOff,
    Option.orElse_eq_orElse, Option.orElse_eq_or]
  cases call.isCancelled <;> rfl

/-! ## Visits -/

/-- **A visit as its call leaves it.** It is at the scheduled stop if the call names that, and else
at the known stop of its station that the call names. A cancelled call closes both sides, a recorded
one leaves them otherwise, and an estimated one decides them by itself. A headsign is taken from the
first destination of an estimated call. -/
structure RevisedBy (w v : Visit) (found : Match) (lookup : StopLookup) : Prop where
  stop : found.call.stopRef = v.stop.id ∧ w.stop = v.stop ∨
    found.call.stopRef ≠ v.stop.id ∧ w.stop.id = found.call.stopRef ∧
      lookup w.stop.id = some w.stop ∧ v.stop.sharesStation w.stop
  off : found.call.isCancelled → w.pickup = .cancelled ∧ w.dropOff = .cancelled
  recorded : ∀ index call, found.call = .recorded index call →
    (¬ call.isCancelled → w.pickup = v.pickup ∧ w.dropOff = v.dropOff) ∧ w.headsign = v.headsign
  estimated : ∀ index call, found.call = .estimated index call →
    w.pickup = call.pickup v.pickup ∧ w.dropOff = call.dropOff v.dropOff ∧
      w.headsign = call.destinations.head?.or v.headsign

variable {v : Visit} {found : Match} {lookup : StopLookup}

/-- The stop that a call leaves its visit at. -/
theorem stop_revised (ids : ∀ {id stop}, lookup id = some stop → stop.id = id)
    (serves : found.Serves lookup v.stop) :
    found.call.stopRef = v.stop.id ∧ (v.revised found).stop = v.stop ∨
      found.call.stopRef ≠ v.stop.id ∧ (v.revised found).stop.id = found.call.stopRef ∧
        lookup (v.revised found).stop.id = some (v.revised found).stop ∧
        v.stop.sharesStation (v.revised found).stop := by
  have stop : (v.revised found).stop = found.serving.substitute?.getD v.stop :=
    v.stop_after (some found)
  rw [stop]
  cases told : found.serving.substitute? with
  | none =>
    have same : ¬ v.stop.id ≠ found.call.stopRef := by
      rw [← serves.isSome_substitute?_iff, told]
      exact Bool.false_ne_true
    exact .inl ⟨(not_not.mp same).symm, rfl⟩
  | some other =>
    obtain ⟨different, known, shares⟩ := serves.substitute?_eq_some_iff.mp told
    have named := ids known
    exact .inr ⟨different.symm, named, named.symm ▸ known, shares⟩

/-- **A call revises its visit, and nothing but its call does.** -/
theorem revisedBy_revised (ids : ∀ {id stop}, lookup id = some stop → stop.id = id)
    (serves : found.Serves lookup v.stop) : (v.revised found).RevisedBy v found lookup := by
  have stop := stop_revised ids serves
  obtain ⟨call, serving⟩ := found
  -- a substitute takes the place of the stop only, so rules and headsign are the scheduled ones
  have rules : (v.servedBy serving).pickup = v.pickup ∧ (v.servedBy serving).dropOff = v.dropOff ∧
      (v.servedBy serving).headsign = v.headsign := by cases serving <;> exact ⟨rfl, rfl, rfl⟩
  obtain ⟨pickup, dropOff, headsign⟩ := rules
  cases call with
  | recorded index call =>
    refine ⟨stop, fun off => ?_, ?_, ?_⟩
    · have off : call.isCancelled := off
      simp [revised, afterRecorded, off, cancel]
    · rintro _ _ ⟨⟩
      constructor
      · intro runs
        simp [revised, afterRecorded, runs, pickup, dropOff]
      · simp only [revised, afterRecorded]
        split <;> exact headsign
    · rintro _ _ ⟨⟩
  | estimated index call =>
    have told : v.revised ⟨.estimated index call, serving⟩ = _ :=
      afterEstimated_eq (v.servedBy serving) call
    refine ⟨stop, fun off => ?_, ?_, ?_⟩
    · have off : call.isCancelled := off
      simp [told, EstimatedCall.pickup, EstimatedCall.dropOff, BoardingRule.told, off]
    · rintro _ _ ⟨⟩
    · rintro _ _ ⟨⟩
      rw [told, ← pickup, ← dropOff, ← headsign]
      exact ⟨rfl, rfl, rfl⟩

end Visit

/-! ## Patterns -/

namespace Pattern

theorem sameService_iff_forall₂ {p q : Pattern} :
    p.sameService q ↔ List.Forall₂ Visit.SameService p q := by
  induction p generalizing q with
  | nil => cases q <;> simp [sameService]
  | cons v p ih =>
    cases q with
    | nil => simp [sameService]
    | cons w q => simp [sameService, ih]

/-- Two patterns of one length offer another service just where two of their visits do. -/
theorem not_sameService_iff {p q : Pattern} (length : p.length = q.length) :
    ¬ p.sameService q ↔ ∃ (i : Nat) (w v : Visit), p[i]? = some w ∧ q[i]? = some v ∧
      ¬ w.SameService v := by
  rw [sameService_iff_forall₂, List.forall₂_iff_get]
  simp only [length, true_and, not_forall, List.get_eq_getElem]
  constructor
  · rintro ⟨i, hp, hq, differ⟩
    exact ⟨i, _, _, List.getElem?_eq_getElem (length ▸ hp), List.getElem?_eq_getElem hq, differ⟩
  · rintro ⟨i, w, v, hw, hv, differ⟩
    obtain ⟨hp, rfl⟩ := List.getElem?_eq_some_iff.mp hw
    obtain ⟨hq, rfl⟩ := List.getElem?_eq_some_iff.mp hv
    exact ⟨i, length ▸ hp, hq, differ⟩

end Pattern

namespace Timetable

variable {t : Timetable} {journey : Journey} {lookup : StopLookup} {r : Revision} {p : Nat}
  {v w : Visit}

theorem length_revised (t : Timetable) (journey : Journey) (lookup : StopLookup) :
    (t.revised journey lookup).length = t.pattern.length := by
  simp [revised, length_pattern]

/-- **A revised visit is told by the visit and by its match alone.** -/
theorem revised_getElem?_eq_some_iff :
    (t.revised journey lookup)[p]? = some w ↔ ∃ v found, t.pattern[p]? = some v ∧
      (t.matching journey lookup)[p]? = some found ∧ w = v.after found := by
  simp only [revised, List.getElem?_zipWith_eq_some, eq_comm (b := w)]

/-- A stop that is served by another one is not offered the same service. -/
theorem not_sameService_of_hasSubstitution
    (ids : ∀ {id stop}, lookup id = some stop → stop.id = id)
    (substituted : (t.matching journey lookup).hasSubstitution) :
    ¬ (t.revised journey lookup).sameService t.pattern := by
  rw [Pattern.not_sameService_iff (length_revised t journey lookup)]
  simp only [Matching.hasSubstitution, List.any_eq_true] at substituted
  obtain ⟨found, mem, told⟩ := substituted
  obtain ⟨p, hp⟩ := List.mem_iff_getElem?.mp mem
  cases found with
  | none => cases told
  | some found =>
    obtain ⟨v, hv, serves⟩ := Matching.serves_along hp
    refine ⟨p, _, v, revised_getElem?_eq_some_iff.mpr ⟨v, _, hv, hp, rfl⟩, hv, fun same => ?_⟩
    have different : v.stop.id ≠ found.call.stopRef := serves.isSome_substitute?_iff.mp told
    rcases Visit.stop_revised ids serves with ⟨own, -⟩ | ⟨-, named, -⟩
    · exact different own.symm
    · have stop : (v.revised found).stop = v.stop := same.1
      exact different (stop ▸ named)

/-- **What a journey revises.** A journey whose calls all name a stop revises every pattern to one of
the same length. A visit without a call stays as it is scheduled, and one with a call is as that call
leaves it. The revision is modified just where some stop or rule is not the scheduled one: wherever
a call is served by a substitute, and nowhere for a headsign alone. Columns that are changed one by
one come out the same. -/
theorem revision_told (t : Timetable) (journey : Journey) (lookup : StopLookup)
    (named : ∀ ref ∈ journey.stopRefs, ¬ Text.allBlank ref)
    (ids : ∀ id stop, lookup id = some stop → stop.id = id) :
    ∃ r, Revision.ofJourney t journey lookup = .ok r ∧
      Matching.ofJourney t.pattern journey lookup = .ok r.matching ∧
      r.pattern.length = t.pattern.length ∧
      (∀ (p : Nat) (v : Visit), t.pattern[p]? = some v →
        (r.matching[p]? = some none → r.pattern[p]? = some v) ∧
        ∀ found, r.matching[p]? = some (some found) →
          ∃ w, r.pattern[p]? = some w ∧ w.RevisedBy v found lookup) ∧
      (r.isModified t ↔ ∃ (p : Nat) (w v : Visit), r.pattern[p]? = some w ∧
        t.pattern[p]? = some v ∧ (w.stop ≠ v.stop ∨ w.pickup ≠ v.pickup ∨ w.dropOff ≠ v.dropOff)) ∧
      (r.matching.hasSubstitution → r.isModified t) ∧
      ((∀ (p : Nat) (w v : Visit), r.pattern[p]? = some w → t.pattern[p]? = some v →
        ∃ headsign, w = { v with headsign }) → ¬ r.isModified t) ∧
      t.reviseColumns journey lookup =
        .ok (.of r.pattern, r.matching.map (Option.map Match.placed), r.isModified t) := by
  have blank := Journey.firstBlankRef?_eq_none_iff.mpr named
  have made : Revision.ofJourney t journey lookup = .ok _ := revision_eq_ok_iff.mpr ⟨blank, rfl⟩
  have columns := reviseColumns_eq t journey lookup
  rw [made] at columns
  have modified : (Revision.mk (t.revised journey lookup) (t.matching journey lookup)).isModified t ↔
      ∃ (p : Nat) (w v : Visit), (t.revised journey lookup)[p]? = some w ∧
        t.pattern[p]? = some v ∧ (w.stop ≠ v.stop ∨ w.pickup ≠ v.pickup ∨ w.dropOff ≠ v.dropOff) := by
    rw [Revision.isModified, Bool.not_eq_true', ← Bool.not_eq_true,
      Pattern.not_sameService_iff (length_revised t journey lookup)]
    simp only [Visit.SameService, not_and_or, ne_eq]
  refine ⟨_, made, Matching.ofJourney_eq_ok_iff.mpr ⟨blank, rfl⟩, length_revised .., fun p v hv =>
    ⟨fun bare => ?_, fun found hfound => ?_⟩, modified, fun substituted => ?_, fun headsigns => ?_,
    columns⟩
  · exact revised_getElem?_eq_some_iff.mpr ⟨v, _, hv, bare, rfl⟩
  · obtain ⟨v', hv', serves⟩ := Matching.serves_along hfound
    cases hv.symm.trans hv'
    exact ⟨_, revised_getElem?_eq_some_iff.mpr ⟨v, _, hv, hfound, rfl⟩,
      Visit.revisedBy_revised (fun known => ids _ _ known) serves⟩
  · have differ := not_sameService_of_hasSubstitution (fun known => ids _ _ known) substituted
    simpa [Revision.isModified] using differ
  · rw [modified]
    rintro ⟨p, w, v, hw, hv, differ⟩
    obtain ⟨headsign, rfl⟩ := headsigns p w v hw hv
    simp at differ

end Timetable

/-! ## A journey that changes much -/

namespace Sample

theorem id_platforms (id : String) (stop : Stop) (known : platforms id = some stop) :
    stop.id = id := by
  simpa using List.find?_some known

/-- The line as a trip; how long it takes does not matter here. -/
def loopLine : Timetable where
  tripId := "t"
  serviceCode := 0
  line := none
  visits := loop.map (⟨·, ⟨.zero, .zero⟩⟩)
  nonempty := List.cons_ne_nil _ _
  inOrder := by decide

/-- The first call was left out. At `A` the departure is cancelled but passengers get on, and another
destination is shown. The call at the second platform is made at the first one, and nobody gets
off. -/
def revising : Journey where
  tripRef := "t"
  line := none
  cancellation := none
  inaccuracy := none
  recorded := [{ madeAt "B1" with cancellation := some true }]
  estimated := [
    { dueAt "A" with
      departureStatus := some .cancelled
      departureActivity := some .allowed
      destinations := ["C", "D"] },
    { dueAt "B1" with arrivalActivity := some .refused }]

def revisedTo : Revision where
  pattern := [⟨platform1, .cancelled, .cancelled, none⟩, ⟨stopA, .scheduled, .scheduled, some "C"⟩,
    ⟨platform1, .scheduled, .notOffered, none⟩, ⟨platform1, .scheduled, .scheduled, none⟩,
    ⟨stopA, .scheduled, .scheduled, none⟩]
  matching := [some ⟨.recorded 0 { madeAt "B1" with cancellation := some true }, .itself⟩,
    some ⟨.estimated 0 { dueAt "A" with
      departureStatus := some .cancelled
      departureActivity := some .allowed
      destinations := ["C", "D"] }, .itself⟩,
    some ⟨.estimated 1 { dueAt "B1" with arrivalActivity := some .refused },
      .substitute platform1⟩, none, none]

end Sample

/-- The third visit is at the first platform, which its call names and its station has. -/
theorem Timetable.revision_told_revising :
    (∀ ref ∈ Sample.revising.stopRefs, ¬ Text.allBlank ref) ∧
      (∀ id stop, Sample.platforms id = some stop → stop.id = id) ∧
      Revision.ofJourney Sample.loopLine Sample.revising Sample.platforms = .ok Sample.revisedTo ∧
      Sample.revisedTo.isModified Sample.loopLine ∧
      ∃ v w found, Sample.loopLine.pattern[2]? = some v ∧ Sample.revisedTo.pattern[2]? = some w ∧
        w.RevisedBy v found Sample.platforms ∧ w.stop = Sample.platform1 ∧
        w.dropOff = .notOffered := by
  have named : ∀ ref ∈ Sample.revising.stopRefs, ¬ Text.allBlank ref := by decide
  obtain ⟨r, made, -, -, told, -, modified, -⟩ :=
    revision_told Sample.loopLine Sample.revising Sample.platforms named Sample.id_platforms
  have own : Revision.ofJourney Sample.loopLine Sample.revising Sample.platforms =
      .ok Sample.revisedTo := by decide
  cases made.symm.trans own
  obtain ⟨w, hw, revised⟩ := (told 2 _ rfl).2 _ rfl
  cases hw
  exact ⟨named, Sample.id_platforms, own, modified (by decide), _, _, _, rfl, rfl, revised, rfl, rfl⟩

end LiveTimetable
