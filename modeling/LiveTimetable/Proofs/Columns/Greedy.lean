import LiveTimetable.Proofs.Columns.Matching

/-!
# What the flags and the count come to

The walk with flags counts how many recorded calls are left, and asks for none of them once the
count is down to zero (`takeCall`). The count saves work and changes nothing: a walk that looks
through the recorded calls at every stop matches the same calls (`matchUncounted_eq`). For a count
of zero says that every flag is up (`Flags.length_unused`), and where no call is found the flags
stay as they are (`takeFirst_of_none`).

Main statement: `Matching.ofJourney_greedy`. With either walk, a journey all of whose calls name a
stop has the one greedy matching with a pattern.
-/

namespace LiveTimetable

variable {ε : Type}

/-! ## A walk that does not count -/

/-- The call that a stop takes, where the recorded calls are looked through whether one is left or
not. -/
def takeUncounted (stop : Stop) (lookup : StopLookup) (journey : Journey)
    (recorded estimated : List Bool) :
    Except (Halt ε) (Option Placed × List Bool × List Bool) := do
  let (found, recorded) ← takeFirst stop lookup (·.stopRef) 0 journey.recorded recorded
  match found with
  | some (index, serving) => return (some ⟨true, index, serving.substitute?⟩, recorded, estimated)
  | none =>
    let (found, estimated) ← takeEstimated stop lookup journey estimated
    return (found, recorded, estimated)

/-- The matches of the stops without a count. -/
def matchUncounted (lookup : StopLookup) (journey : Journey) :
    List Stop → List Bool → List Bool → Except (Halt ε) (List (Option Placed))
  | [], _, _ => .ok []
  | stop :: rest, recorded, estimated => do
    let (found, recorded, estimated) ← takeUncounted stop lookup journey recorded estimated
    return found :: (← matchUncounted lookup journey rest recorded estimated)

/-- `matchCalls` without a count. -/
def matchCallsUncounted (pattern : PatternColumns) (journey : Journey) (lookup : StopLookup) :
    Except (Halt UpdateError) (List (Option Placed)) :=
  match journey.firstBlankRef? with
  | some call => .error (.told (.missingStopRef journey.tripRef call))
  | none =>
    matchUncounted lookup journey pattern.stops (List.replicate journey.recorded.length false)
      (List.replicate journey.estimated.length false)

/-- Flags stay as they are where no call is found. -/
theorem takeFirst_of_none {α : Type} {stop : Stop} {lookup : StopLookup} {ref : α → String}
    {index : Nat} {calls : List α} {used used' : List Bool}
    (h : takeFirst stop lookup ref index calls used = (.ok (none, used') : Except (Halt ε) _)) :
    used' = used := by
  induction calls generalizing index with
  | nil =>
    cases h
    rfl
  | cons call rest ih =>
    simp only [takeFirst, Outcome.bind_eq_ok] at h
    obtain ⟨flag, -, h⟩ := h
    split at h
    next => exact ih h
    next =>
      split at h
      next =>
        obtain ⟨_, -, h⟩ := Outcome.bind_eq_ok.mp h
        cases h
      next => exact ih h

section Flags

variable {journey : Journey} {recorded estimated : List Bool} {left : Nat}

/-- **A stop takes the same call whether it is counted or not.** -/
theorem takeUncounted_eq (lookup : StopLookup) (stop : Stop)
    (h : Flags journey recorded estimated left) :
    takeUncounted stop lookup journey recorded estimated =
      (takeCall stop lookup journey recorded estimated left :
        Except (Halt ε) _).map fun (found, recorded, estimated, _) =>
          (found, recorded, estimated) := by
  obtain ⟨recorded', taken, -, -⟩ :=
    takeFirst_start (ε := ε) stop lookup RecordedCall.stopRef h.length_recorded
  cases left with
  | zero =>
    -- no recorded call is left, so none is found and the flags are those that are passed by
    rw [List.length_eq_zero_iff.mp h.length_unused] at taken
    cases takeFirst_of_none taken
    simp only [takeUncounted, takeCall, taken, Nat.lt_irrefl, if_false, bind, Except.bind]
    cases takeEstimated (ε := ε) stop lookup journey estimated <;> rfl
  | succ left =>
    simp only [takeUncounted, takeCall, taken, Nat.zero_lt_succ, if_true, bind, Except.bind]
    cases Matching.take? stop lookup RecordedCall.stopRef (unused 0 journey.recorded recorded) with
    | some given => rfl
    | none => cases takeEstimated (ε := ε) stop lookup journey estimated <;> rfl

/-- **The count never changes the matches.** -/
theorem matchUncounted_eq (lookup : StopLookup) (pattern : Pattern)
    (h : Flags journey recorded estimated left) :
    matchUncounted lookup journey (pattern.map (·.stop)) recorded estimated =
      (matchStops lookup journey (pattern.map (·.stop)) recorded estimated left :
        Except (Halt ε) _) := by
  induction pattern generalizing recorded estimated left with
  | nil => rfl
  | cons v rest ih =>
    obtain ⟨found, recorded', estimated', left', taken, flags, -⟩ := takeCall_eq (ε := ε) lookup h v
    rw [List.map_cons, matchUncounted, matchStops, takeUncounted_eq lookup v.stop h, taken]
    simp only [bind, Except.bind, Except.map, ih flags]

end Flags

theorem matchCallsUncounted_eq (pattern : Pattern) (journey : Journey) (lookup : StopLookup) :
    matchCallsUncounted (.of pattern) journey lookup =
      matchCalls (.of pattern) journey lookup := by
  unfold matchCallsUncounted matchCalls
  cases journey.firstBlankRef? with
  | some call => rfl
  | none => exact matchUncounted_eq lookup pattern (flags_start journey)

/-! ## The matching of a journey -/

namespace Matching

/-- **A journey whose calls all name a stop is matched greedily**, with one entry for each stop, and
in no other way. So no call is matched twice, each match holds the place of a call, a stop is left
without a call only where all that serve it were taken in front, and a substitute is told just where
a call names another stop. A walk with flags finds the same, with a count of the recorded calls or
without. -/
theorem ofJourney_greedy (pattern : Pattern) (journey : Journey) (lookup : StopLookup)
    (named : ∀ ref ∈ journey.stopRefs, ¬ Text.allBlank ref) :
    ∃ m, ofJourney pattern journey lookup = .ok m ∧ m.length = pattern.length ∧
      (∀ m', Greedy m' pattern journey lookup ↔ m' = m) ∧
      (∀ (p q : Nat) (a b : Match), m[p]? = some (some a) → m[q]? = some (some b) →
        a.call.observed = b.call.observed → a.call.index = b.call.index → p = q) ∧
      (∀ (p : Nat) (v : Visit), pattern[p]? = some v →
        (m[p]? = some none → ∀ c, journey.HasCall c → v.stop.IsServed lookup c.stopRef →
          ∃ q < p, m.TakenAt q c) ∧
        ∀ a : Match, m[p]? = some (some a) → journey.HasCall a.call ∧
          (a.serving.substitute?.isSome ↔ v.stop.id ≠ a.call.stopRef) ∧
          ∀ other, a.serving.substitute? = some other →
            lookup a.call.stopRef = some other ∧ v.stop.sharesStation other) ∧
      matchCalls (.of pattern) journey lookup = .ok (m.map (Option.map Match.placed)) ∧
      matchCallsUncounted (.of pattern) journey lookup =
        .ok (m.map (Option.map Match.placed)) := by
  have made : ofJourney pattern journey lookup = .ok _ :=
    ofJourney_eq_ok_iff.mpr ⟨Journey.firstBlankRef?_eq_none_iff.mpr named, rfl⟩
  have greedy := greedy_of_ofJourney made
  have flagged := matchCalls_eq pattern journey lookup
  rw [made] at flagged
  refine ⟨_, made, greedy.length, fun m' => ⟨fun h => h.unique greedy, ?_⟩,
    fun p q a b ha hb kind index => ?_, fun p v hv => ⟨fun bare c has serves => ?_, fun a ha => ?_⟩,
    flagged, (matchCallsUncounted_eq pattern journey lookup).trans flagged⟩
  · rintro rfl
    exact greedy
  · have same : a.call = b.call :=
      (greedy.hasCall ⟨a, ha, rfl⟩).ext (greedy.hasCall ⟨b, hb, rfl⟩) kind index
    exact greedy.position_unique ⟨a, ha, rfl⟩ ⟨b, hb, same.symm⟩
  · exact greedy.taken_of_bare hv bare has serves
  · have serves := greedy.serves hv ha
    exact ⟨greedy.hasCall ⟨a, ha, rfl⟩, serves.isSome_substitute?_iff,
      fun other told => (serves.substitute?_eq_some_iff.mp told).2⟩

end Matching

/-! ## Calls at the wrong platforms -/

namespace Sample

/-- The vehicle was at the second platform first, and is to come to the first one only once. -/
def astray : Journey := calling ["B2"] ["B1", "A"]

def strayed : Matching :=
  [some ⟨.recorded 0 (madeAt "B2"), .substitute platform2⟩, some ⟨.estimated 1 (dueAt "A"), .itself⟩,
    some ⟨.estimated 0 (dueAt "B1"), .substitute platform1⟩, none, none]

end Sample

/-- The second platform has the call that names the first one, so that none is left for the first
platform on the way back. -/
theorem Matching.ofJourney_greedy_astray :
    (∀ ref ∈ Sample.astray.stopRefs, ¬ Text.allBlank ref) ∧
      Greedy Sample.strayed Sample.loop Sample.astray Sample.platforms ∧
      (∃ q < 3, Sample.strayed.TakenAt q (.estimated 0 (Sample.dueAt "B1"))) ∧
      matchCallsUncounted (.of Sample.loop) Sample.astray Sample.platforms =
        .ok (Sample.strayed.map (Option.map Match.placed)) := by
  have named : ∀ ref ∈ Sample.astray.stopRefs, ¬ Text.allBlank ref := by decide
  obtain ⟨m, made, -, greedy, -, matched, -, uncounted⟩ :=
    ofJourney_greedy Sample.loop Sample.astray Sample.platforms named
  have own : ofJourney Sample.loop Sample.astray Sample.platforms = .ok Sample.strayed := by decide
  cases made.symm.trans own
  refine ⟨named, (greedy _).mpr rfl, ?_, uncounted⟩
  exact (matched 3 _ rfl).1 rfl (.estimated 0 (Sample.dueAt "B1")) rfl (.inl rfl)

end LiveTimetable
