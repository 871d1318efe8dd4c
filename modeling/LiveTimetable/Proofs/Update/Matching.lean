import LiveTimetable.Update.Matching

/-!
# What a match says of its stop

A matching gives each stop of a pattern at most one call. Which call that is depends on the calls
taken before, but that the call serves the stop does not: `serves_along` reads it off position by
position. A call serves a stop at that stop itself or at a known one of its station, and nowhere
else (`Stop.standsFor_of_serving`).
-/

namespace LiveTimetable

theorem Journey.firstBlankRef?_eq_none_iff {journey : Journey} :
    journey.firstBlankRef? = none ↔ ∀ ref ∈ journey.stopRefs, ¬ Text.allBlank ref := by
  simp only [firstBlankRef?, List.findIdx?_eq_none_iff, Bool.not_eq_true]

def MatchedCall.stopRef : MatchedCall → String
  | recorded _ call => call.stopRef
  | estimated _ call => call.stopRef

/-- The call of a match serves the stop in the way that the match says. -/
def Match.Serves (m : Match) (lookup : StopLookup) (stop : Stop) : Prop :=
  stop.serving? lookup m.call.stopRef = some m.serving

/-- A stop takes the place of the scheduled one: it is the same, or a known one of its station. -/
def Stop.StandsFor (stop scheduled : Stop) (lookup : StopLookup) : Prop :=
  stop = scheduled ∨ lookup stop.id = some stop ∧ scheduled.sharesStation stop

theorem Stop.standsFor_self (stop : Stop) (lookup : StopLookup) : stop.StandsFor stop lookup :=
  Or.inl rfl

theorem Stop.serving?_eq_some_iff {scheduled : Stop} {lookup : StopLookup} {ref : String}
    {serving : Serving} :
    scheduled.serving? lookup ref = some serving ↔
      scheduled.id = ref ∧ serving = .itself ∨
        scheduled.id ≠ ref ∧ ∃ other, lookup ref = some other ∧ scheduled.sharesStation other ∧
          serving = .substitute other := by
  unfold serving?
  split
  next h =>
    constructor
    · intro e
      cases e
      exact Or.inl ⟨h, rfl⟩
    · intro h
      rcases h with ⟨-, rfl⟩ | ⟨hne, -⟩
      · rfl
      · exact absurd h hne
  next h =>
    constructor
    · intro e
      split at e
      next other hother =>
        split at e
        next hshares =>
          cases e
          exact Or.inr ⟨h, other, hother, hshares, rfl⟩
        next => cases e
      next => cases e
    · intro h
      rcases h with ⟨heq, -⟩ | ⟨-, other, hother, hshares, rfl⟩
      · exact absurd heq h
      · simp only [hother, hshares, if_true]

theorem Stop.serving?_self (stop : Stop) (lookup : StopLookup) :
    stop.serving? lookup stop.id = some .itself :=
  serving?_eq_some_iff.mpr (.inl ⟨rfl, rfl⟩)

/-- A substitute stands for the stop that it was matched for, if stops are known by their ids. -/
theorem Stop.standsFor_of_serving {scheduled other : Stop} {lookup : StopLookup} {ref : String}
    (ids : ∀ {id stop}, lookup id = some stop → stop.id = id)
    (h : scheduled.serving? lookup ref = some (.substitute other)) :
    other.StandsFor scheduled lookup := by
  rcases serving?_eq_some_iff.mp h with ⟨-, h⟩ | ⟨-, stop, hknown, hshares, h⟩
  · cases h
  · cases h
    exact Or.inr ⟨ids hknown ▸ hknown, hshares⟩

namespace Match.Serves

variable {m : Match} {lookup : StopLookup} {stop other : Stop}

/-- A match has a substitute just where its call names another stop. -/
theorem substitute?_eq_some_iff (h : m.Serves lookup stop) :
    m.serving.substitute? = some other ↔ stop.id ≠ m.call.stopRef ∧
      lookup m.call.stopRef = some other ∧ stop.sharesStation other := by
  rcases Stop.serving?_eq_some_iff.mp h with ⟨same, serving⟩ | ⟨different, s, known, shares, serving⟩
  · simp [serving, Serving.substitute?, same]
  · simp only [serving, Serving.substitute?, known, Option.some.injEq]
    constructor
    · rintro rfl
      exact ⟨different, rfl, shares⟩
    · rintro ⟨-, same, -⟩
      exact same

theorem isSome_substitute?_iff (h : m.Serves lookup stop) :
    m.serving.substitute?.isSome ↔ stop.id ≠ m.call.stopRef := by
  rcases Stop.serving?_eq_some_iff.mp h with ⟨same, serving⟩ | ⟨different, s, -, -, serving⟩
  · simp [serving, Serving.substitute?, same]
  · simp [serving, Serving.substitute?, different]

end Match.Serves

namespace Matching

variable {lookup : StopLookup} {stop : Stop}

/-- **The call that is taken is the first that serves the stop**, and all others remain. -/
theorem exists_split_of_take? {α : Type} {ref : α → String} {calls rest : List (α × Nat)} {call : α}
    {index : Nat} {serving : Serving}
    (h : take? stop lookup ref calls = some ((call, index, serving), rest)) :
    ∃ front back, calls = front ++ (call, index) :: back ∧ rest = front ++ back ∧
      (∀ c ∈ front, stop.serving? lookup (ref c.1) = none) ∧
      stop.serving? lookup (ref call) = some serving := by
  induction calls generalizing rest with
  | nil => cases h
  | cons c calls ih =>
    obtain ⟨c, i⟩ := c
    simp only [take?] at h
    split at h
    next serving' hserving =>
      cases h
      exact ⟨[], calls, rfl, rfl, fun _ hc => absurd hc List.not_mem_nil, hserving⟩
    next hnone =>
      obtain ⟨⟨taken, rest'⟩, htake, hret⟩ := Option.map_eq_some_iff.mp h
      cases hret
      obtain ⟨front, back, rfl, rfl, first, serves⟩ := ih htake
      exact ⟨(c, i) :: front, back, rfl, rfl, List.forall_mem_cons.mpr ⟨hnone, first⟩, serves⟩

/-- A stop takes the call in front if that names it. -/
theorem take?_cons_self {α : Type} {ref : α → String} {call : α} {index : Nat}
    {rest : List (α × Nat)} (same : ref call = stop.id) :
    take? stop lookup ref ((call, index) :: rest) = some ((call, index, .itself), rest) := by
  simp only [take?, same, Stop.serving?_self]

theorem take?_eq_none_iff {α : Type} {ref : α → String} {calls : List (α × Nat)} :
    take? stop lookup ref calls = none ↔ ∀ c ∈ calls, stop.serving? lookup (ref c.1) = none := by
  induction calls with
  | nil => simp [take?]
  | cons c calls ih =>
    obtain ⟨c, i⟩ := c
    simp only [take?, List.forall_mem_cons]
    split
    next serving hserving => simp [hserving]
    next hnone => simp [hnone, ih]

/-- The call that is taken serves the stop. -/
theorem serving_of_take? {α : Type} {ref : α → String} {calls rest : List (α × Nat)} {call : α}
    {index : Nat} {serving : Serving}
    (h : take? stop lookup ref calls = some ((call, index, serving), rest)) :
    stop.serving? lookup (ref call) = some serving := by
  obtain ⟨front, back, -, -, -, serves⟩ := exists_split_of_take? h
  exact serves

/-- **Every match serves the stop at its position.** -/
theorem serves_along {pattern : Pattern} {recorded : List (RecordedCall × Nat)}
    {estimated : List (EstimatedCall × Nat)} {i : Nat} {m : Match}
    (h : (along lookup pattern recorded estimated)[i]? = some (some m)) :
    ∃ v, pattern[i]? = some v ∧ m.Serves lookup v.stop := by
  induction pattern generalizing recorded estimated i with
  | nil => simp [along] at h
  | cons visit rest ih =>
    -- what a visit takes decides which calls remain, and so how the rest is matched
    simp only [along] at h
    split at h
    next call index serving recorded' htake =>
      have serves := serving_of_take? htake
      cases i with
      | zero =>
        cases h
        exact ⟨visit, rfl, serves⟩
      | succ i => exact ih h
    next =>
      split at h
      next call index serving estimated' htake =>
        have serves := serving_of_take? htake
        cases i with
        | zero =>
          cases h
          exact ⟨visit, rfl, serves⟩
        | succ i => exact ih h
      next =>
        cases i with
        | zero => cases h
        | succ i => exact ih h

end Matching

end LiveTimetable
