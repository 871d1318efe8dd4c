import LiveTimetable.Proofs.Update.Journey
import LiveTimetable.Proofs.Update.Matching

/-!
# Greedy matchings

Calls are laid along the stops of a trip greedily. A stop takes the first recorded call that serves
it and that no stop in front has taken; where there is none, the first such estimated call; and
where there is neither, none (`Matching.Greedy`). There is one greedy matching at most
(`Matching.Greedy.unique`), and the walk along the stops finds it (`Matching.greedy_along`).

The walk does not know what was taken: it passes on the calls that are left. So the calls that are
left when it comes to a position must be those that no stop in front has taken. One stop keeps this
for those behind it (`Matching.along_cons`), because no two calls stand at one place.

Of two visits to a stop, the one in front gets the call that comes first
(`Matching.ofJourney_repeated`): what is open to the later visit was open to the earlier one.
-/

namespace LiveTimetable

/-- **A call serves a stop** that it names, and a stop of a station if it names a known stop of that
station. -/
def Stop.IsServed (stop : Stop) (lookup : StopLookup) (ref : String) : Prop :=
  stop.id = ref ∨ ∃ station other, stop.station = some station ∧ lookup ref = some other ∧
    other.station = some station

theorem Stop.isServed_iff {stop : Stop} {lookup : StopLookup} {ref : String} :
    stop.IsServed lookup ref ↔ ∃ serving, stop.serving? lookup ref = some serving := by
  simp only [serving?_eq_some_iff, sharesStation_iff]
  constructor
  · rintro (same | ⟨station, other, hstation, known, hother⟩)
    · exact ⟨.itself, .inl ⟨same, rfl⟩⟩
    · by_cases same : stop.id = ref
      · exact ⟨.itself, .inl ⟨same, rfl⟩⟩
      · exact ⟨.substitute other, .inr ⟨same, other, known, ⟨station, hstation, hother⟩, rfl⟩⟩
  · rintro ⟨serving, ⟨same, -⟩ | ⟨-, other, known, ⟨station, hstation, hother⟩, -⟩⟩
    · exact .inl same
    · exact .inr ⟨station, other, hstation, known, hother⟩

theorem Stop.not_isServed_iff {stop : Stop} {lookup : StopLookup} {ref : String} :
    ¬ stop.IsServed lookup ref ↔ stop.serving? lookup ref = none := by
  simp [isServed_iff, ← Option.isSome_iff_exists]

/-! ## Places of calls -/

namespace MatchedCall

/-- The call is one that the vehicle has made. -/
def observed : MatchedCall → Bool
  | recorded .. => true
  | estimated .. => false

/-- The place of the call among those of its kind. -/
def index : MatchedCall → Nat
  | recorded index _ => index
  | estimated index _ => index

/-- **The call is asked for before another**: recorded calls before estimated ones, and those of a
kind in their order. -/
def Precedes : MatchedCall → MatchedCall → Prop
  | recorded i _, recorded j _ => i < j
  | recorded .., estimated .. => True
  | estimated .., recorded .. => False
  | estimated i _, estimated j _ => i < j

variable {a b : MatchedCall}

theorem precedes_iff :
    a.Precedes b ↔ a.observed ∧ ¬ b.observed ∨ a.observed = b.observed ∧ a.index < b.index := by
  cases a <;> cases b <;> simp [Precedes, observed, index]

theorem Precedes.not_precedes (h : a.Precedes b) : ¬ b.Precedes a := by
  rw [precedes_iff] at h ⊢
  rcases h with ⟨front, behind⟩ | ⟨kind, lt⟩
  · simp [front, behind]
  · simp only [kind, and_not_self_iff, true_and, false_or]
    exact Nat.lt_asymm lt

theorem Precedes.ne (h : a.Precedes b) : a ≠ b := by
  rintro rfl
  exact h.not_precedes h

/-- Of two calls at different places one is asked for first. -/
theorem same_place_of_not_precedes (h : ¬ a.Precedes b) (h' : ¬ b.Precedes a) :
    a.observed = b.observed ∧ a.index = b.index := by
  rw [precedes_iff, not_or] at h h'
  have kind : a.observed = b.observed := by
    cases ha : a.observed <;> cases hb : b.observed <;> simp_all
  exact ⟨kind, Nat.le_antisymm (Nat.le_of_not_lt fun lt => h'.2 ⟨kind.symm, lt⟩)
    (Nat.le_of_not_lt fun lt => h.2 ⟨kind, lt⟩)⟩

end MatchedCall

namespace Journey

/-- The journey has the call at its place. -/
def HasCall (j : Journey) : MatchedCall → Prop
  | .recorded index call => j.recorded[index]? = some call
  | .estimated index call => j.estimated[index]? = some call

/-- No two calls of a journey stand at one place. -/
theorem HasCall.ext {j : Journey} {a b : MatchedCall} (ha : j.HasCall a) (hb : j.HasCall b)
    (kind : a.observed = b.observed) (index : a.index = b.index) : a = b := by
  cases a with
  | recorded i call =>
    cases b with
    | recorded j call' =>
      obtain rfl : i = j := index
      cases Option.some.inj (ha.symm.trans hb)
      rfl
    | estimated j call' => cases kind
  | estimated i call =>
    cases b with
    | recorded j call' => cases kind
    | estimated j call' =>
      obtain rfl : i = j := index
      cases Option.some.inj (ha.symm.trans hb)
      rfl

end Journey

/-! ## The greedy choice -/

/-- **The greedy choice** among calls: the first recorded one; where there is none, the first
estimated one; and where there is neither, none. -/
inductive Picks (P : MatchedCall → Prop) : Option MatchedCall → Prop
  | recorded {index : Nat} {call : RecordedCall} (here : P (.recorded index call))
      (first : ∀ i < index, ∀ c, ¬ P (.recorded i c)) : Picks P (some (.recorded index call))
  | estimated {index : Nat} {call : EstimatedCall} (unrecorded : ∀ i c, ¬ P (.recorded i c))
      (here : P (.estimated index call)) (first : ∀ i < index, ∀ c, ¬ P (.estimated i c)) :
      Picks P (some (.estimated index call))
  | bare (nothing : ∀ c, ¬ P c) : Picks P none

namespace Picks

variable {P Q : MatchedCall → Prop} {a b : Option MatchedCall} {call : MatchedCall}

/-- What is picked is not preceded by any other call. -/
theorem some_iff : Picks P (some call) ↔ P call ∧ ∀ c, P c → ¬ c.Precedes call := by
  constructor
  · intro h
    cases h with
    | recorded here first =>
      refine ⟨here, fun c hc before => ?_⟩
      cases c with
      | recorded i c => exact first i before c hc
      | estimated i c => exact before
    | estimated unrecorded here first =>
      refine ⟨here, fun c hc before => ?_⟩
      cases c with
      | recorded i c => exact unrecorded i c hc
      | estimated i c => exact first i before c hc
  · rintro ⟨here, first⟩
    cases call with
    | recorded index call => exact .recorded here fun i before c hc => first _ hc before
    | estimated index call =>
      exact .estimated (fun i c hc => first _ hc trivial) here fun i before c hc => first _ hc before

theorem none_iff : Picks P none ↔ ∀ c, ¬ P c := by
  constructor
  · intro h
    cases h with
    | bare nothing => exact nothing
  · exact .bare

theorem congr (same : ∀ c, P c ↔ Q c) (h : Picks P a) : Picks Q a := by
  have : P = Q := funext fun c => propext (same c)
  rwa [← this]

/-- One call is picked at most, if no two of them stand at one place. -/
theorem unique (apart : ∀ c d, P c → P d → c.observed = d.observed → c.index = d.index → c = d)
    (ha : Picks P a) (hb : Picks P b) : a = b := by
  cases a with
  | none =>
    cases b with
    | none => rfl
    | some d => exact absurd (some_iff.mp hb).1 (none_iff.mp ha d)
  | some c =>
    cases b with
    | none => exact absurd (some_iff.mp ha).1 (none_iff.mp hb c)
    | some d =>
      obtain ⟨hc, firstC⟩ := some_iff.mp ha
      obtain ⟨hd, firstD⟩ := some_iff.mp hb
      obtain ⟨kind, index⟩ := MatchedCall.same_place_of_not_precedes (firstD c hc) (firstC d hd)
      rw [apart c d hc hd kind index]

end Picks

namespace Matching

/-- The stop at the position has taken the call. -/
def TakenAt (m : Matching) (position : Nat) (call : MatchedCall) : Prop :=
  ∃ found, m[position]? = some (some found) ∧ found.call = call

/-- **The call is open to a stop** at a position: the journey has it, it serves the stop, and no stop
in front has taken it. -/
structure Open (m : Matching) (journey : Journey) (lookup : StopLookup) (position : Nat)
    (stop : Stop) (call : MatchedCall) : Prop where
  has : journey.HasCall call
  serves : stop.IsServed lookup call.stopRef
  free : ∀ q < position, ¬ m.TakenAt q call

/-- **A greedy matching** of a pattern with a journey: each stop has what is picked of the calls
that are open to it. -/
structure Greedy (m : Matching) (pattern : Pattern) (journey : Journey) (lookup : StopLookup) :
    Prop where
  length : m.length = pattern.length
  picks : ∀ {p : Nat} {v : Visit} {found : Option Match}, pattern[p]? = some v →
    m[p]? = some found → Picks (m.Open journey lookup p v.stop) (found.map (·.call))
  serves : ∀ {p : Nat} {v : Visit} {found : Match}, pattern[p]? = some v →
    m[p]? = some (some found) → found.Serves lookup v.stop

variable {m m' : Matching} {pattern : Pattern} {journey : Journey} {lookup : StopLookup}
  {position p q : Nat} {call : MatchedCall} {stop : Stop} {v : Visit}

/-- What is open to a stop was open to it further in front. -/
theorem Open.front (h : m.Open journey lookup q stop call) (front : p ≤ q) :
    m.Open journey lookup p stop call :=
  ⟨h.has, h.serves, fun k hk => h.free k (Nat.lt_of_lt_of_le hk front)⟩

theorem Open.congr (same : ∀ k < position, m[k]? = m'[k]?)
    (h : m.Open journey lookup position stop call) : m'.Open journey lookup position stop call := by
  refine ⟨h.has, h.serves, fun k hk => ?_⟩
  rw [TakenAt, ← same k hk]
  exact h.free k hk

namespace Greedy

theorem exists_found (h : m.Greedy pattern journey lookup) (hv : pattern[p]? = some v) :
    ∃ found, m[p]? = some found := by
  obtain ⟨inside, -⟩ := List.getElem?_eq_some_iff.mp hv
  rw [← h.length] at inside
  exact ⟨_, List.getElem?_eq_getElem inside⟩

theorem exists_visit (h : m.Greedy pattern journey lookup) {found : Option Match}
    (hfound : m[p]? = some found) : ∃ v, pattern[p]? = some v := by
  obtain ⟨inside, -⟩ := List.getElem?_eq_some_iff.mp hfound
  rw [h.length] at inside
  exact ⟨_, List.getElem?_eq_getElem inside⟩

/-- What a stop has taken was open to it. -/
theorem open_of_found (h : m.Greedy pattern journey lookup) {found : Match}
    (hv : pattern[p]? = some v) (hfound : m[p]? = some (some found)) :
    m.Open journey lookup p v.stop found.call :=
  (Picks.some_iff.mp (h.picks hv hfound)).1

/-- A call that is taken is one of the journey. -/
theorem hasCall (h : m.Greedy pattern journey lookup) (taken : m.TakenAt p call) :
    journey.HasCall call := by
  obtain ⟨found, hfound, rfl⟩ := taken
  obtain ⟨v, hv⟩ := h.exists_visit hfound
  exact (h.open_of_found hv hfound).has

/-- **No call is taken twice.** -/
theorem position_unique (h : m.Greedy pattern journey lookup) (hp : m.TakenAt p call)
    (hq : m.TakenAt q call) : p = q := by
  have later : ∀ {p q}, m.TakenAt p call → m.TakenAt q call → ¬ p < q := by
    rintro p q hp ⟨found, hfound, rfl⟩ before
    obtain ⟨v, hv⟩ := h.exists_visit hfound
    exact (h.open_of_found hv hfound).free p before hp
  exact Nat.le_antisymm (Nat.le_of_not_lt (later hq hp)) (Nat.le_of_not_lt (later hp hq))

/-- A stop is left without a call only where each call that serves it was taken in front. -/
theorem taken_of_bare (h : m.Greedy pattern journey lookup) (hv : pattern[p]? = some v)
    (bare : m[p]? = some none) (has : journey.HasCall call)
    (serves : v.stop.IsServed lookup call.stopRef) : ∃ q < p, m.TakenAt q call := by
  by_contra free
  exact Picks.none_iff.mp (h.picks hv bare) call
    ⟨has, serves, fun q before taken => free ⟨q, before, taken⟩⟩

/-- **There is one greedy matching at most.** The induction is on the position: what is open there
is settled by what the stops in front have taken. -/
theorem unique (h : m.Greedy pattern journey lookup) (h' : m'.Greedy pattern journey lookup) :
    m = m' := by
  refine List.ext_getElem? fun p => ?_
  induction p using Nat.strongRecOn with
  | ind p same =>
    cases hfound : m[p]? with
    | none =>
      rw [List.getElem?_eq_none_iff, h.length, ← h'.length] at hfound
      exact (List.getElem?_eq_none_iff.mpr hfound).symm
    | some found =>
      obtain ⟨v, hv⟩ := h.exists_visit hfound
      obtain ⟨found', hfound'⟩ := h'.exists_found hv
      have picked : Picks (m.Open journey lookup p v.stop) (found'.map (·.call)) :=
        (h'.picks hv hfound').congr fun c =>
          ⟨.congr fun k hk => (same k hk).symm, .congr same⟩
      have calls := Picks.unique (fun c d hc hd => hc.has.ext hd.has) (h.picks hv hfound) picked
      rw [hfound']
      cases found with
      | none =>
        rw [Option.map_none, eq_comm, Option.map_eq_none_iff] at calls
        rw [calls]
      | some a =>
        obtain ⟨b, rfl, hcall⟩ := Option.map_eq_some_iff.mp calls.symm
        have servesA := h.serves hv hfound
        have servesB := h'.serves hv hfound'
        obtain ⟨call, serving⟩ := a
        obtain ⟨call', serving'⟩ := b
        cases hcall
        cases Option.some.inj (servesA.symm.trans servesB)
        rfl

end Greedy

/-! ## The walk -/

/-- The calls that are left, in the order in which they are asked for. -/
def left (recorded : List (RecordedCall × Nat)) (estimated : List (EstimatedCall × Nat)) :
    List MatchedCall :=
  recorded.map (fun c => .recorded c.2 c.1) ++ estimated.map (fun c => .estimated c.2 c.1)

theorem forall_mem_left_iff {recorded : List (RecordedCall × Nat)}
    {estimated : List (EstimatedCall × Nat)} {P : MatchedCall → Prop} :
    (∀ c ∈ left recorded estimated, P c) ↔
      (∀ c ∈ recorded, P (.recorded c.2 c.1)) ∧ ∀ c ∈ estimated, P (.estimated c.2 c.1) := by
  simp only [left, List.forall_mem_append, List.forall_mem_map]

/-- **What one stop takes of the calls that are left**, and what it leaves. -/
structure Takes (stop : Stop) (lookup : StopLookup) (calls : List MatchedCall) (found : Option Match)
    (rest : List MatchedCall) : Prop where
  picks : Picks (fun c => c ∈ calls ∧ stop.IsServed lookup c.stopRef) (found.map (·.call))
  mem_rest : ∀ c, c ∈ rest ↔ c ∈ calls ∧ ∀ m, found = some m → m.call ≠ c
  order : rest.Pairwise MatchedCall.Precedes

/-- A stop takes the first call that serves it. -/
theorem takes_of_first {calls front back : List MatchedCall} {found : Match}
    (order : calls.Pairwise MatchedCall.Precedes) (split : calls = front ++ found.call :: back)
    (serves : found.Serves lookup stop)
    (first : ∀ c ∈ front, stop.serving? lookup c.stopRef = none) :
    Takes stop lookup calls (some found) (front ++ back) := by
  subst split
  obtain ⟨inFront, behind, across⟩ := List.pairwise_append.mp order
  obtain ⟨own, behind⟩ := List.pairwise_cons.mp behind
  refine ⟨Picks.some_iff.mpr ⟨⟨by simp, Stop.isServed_iff.mpr ⟨_, serves⟩⟩, ?_⟩, fun c => ?_, ?_⟩
  · rintro c ⟨mem, served⟩ before
    rcases List.mem_append.mp mem with mem | mem
    · exact Stop.not_isServed_iff.mpr (first c mem) served
    · rcases List.mem_cons.mp mem with rfl | mem
      · exact before.ne rfl
      · exact before.not_precedes (own c mem)
  · simp only [List.mem_append, List.mem_cons, Option.some.injEq, forall_eq']
    constructor
    · rintro (mem | mem)
      · exact ⟨.inl mem, fun same => (across c mem _ List.mem_cons_self).ne same.symm⟩
      · exact ⟨.inr (.inr mem), (own c mem).ne⟩
    · rintro ⟨mem | rfl | mem, other⟩
      · exact .inl mem
      · exact absurd rfl other
      · exact .inr mem
  · exact List.pairwise_append.mpr
      ⟨inFront, behind, fun a ha b hb => across a ha b (List.mem_cons_of_mem _ hb)⟩

/-- A stop that no call serves leaves them all. -/
theorem takes_none {calls : List MatchedCall} (order : calls.Pairwise MatchedCall.Precedes)
    (unserved : ∀ c ∈ calls, stop.serving? lookup c.stopRef = none) :
    Takes stop lookup calls none calls where
  picks := .bare fun c ⟨mem, served⟩ => Stop.not_isServed_iff.mpr (unserved c mem) served
  mem_rest := by simp
  order := order

/-- **One step of the walk**: the first stop takes a call, and the others go on with what it
leaves. -/
theorem along_cons (lookup : StopLookup) (v : Visit) (rest : Pattern)
    {recorded : List (RecordedCall × Nat)} {estimated : List (EstimatedCall × Nat)}
    (order : (left recorded estimated).Pairwise MatchedCall.Precedes) :
    ∃ found recorded' estimated', along lookup (v :: rest) recorded estimated =
        found :: along lookup rest recorded' estimated' ∧
      Takes v.stop lookup (left recorded estimated) found (left recorded' estimated') := by
  simp only [along]
  cases served : take? v.stop lookup RecordedCall.stopRef recorded with
  | some given =>
    obtain ⟨⟨call, index, serving⟩, recorded'⟩ := given
    obtain ⟨front, back, rfl, rfl, first, serves⟩ := exists_split_of_take? served
    have takes := @takes_of_first lookup v.stop _ (left front []) (left back estimated)
      ⟨.recorded index call, serving⟩ order (by simp [left]) serves
      (forall_mem_left_iff.mpr ⟨first, List.forall_mem_nil _⟩)
    refine ⟨some ⟨.recorded index call, serving⟩, front ++ back, estimated, rfl, ?_⟩
    simpa [left] using takes
  | none =>
    have unrecorded := take?_eq_none_iff.mp served
    cases served : take? v.stop lookup EstimatedCall.stopRef estimated with
    | some given =>
      obtain ⟨⟨call, index, serving⟩, estimated'⟩ := given
      obtain ⟨front, back, rfl, rfl, first, serves⟩ := exists_split_of_take? served
      have takes := @takes_of_first lookup v.stop _ (left recorded front) (left [] back)
        ⟨.estimated index call, serving⟩ order (by simp [left]) serves
        (forall_mem_left_iff.mpr ⟨unrecorded, first⟩)
      refine ⟨some ⟨.estimated index call, serving⟩, recorded, front ++ back, rfl, ?_⟩
      simpa [left] using takes
    | none =>
      exact ⟨none, recorded, estimated, rfl,
        takes_none order (forall_mem_left_iff.mpr ⟨unrecorded, take?_eq_none_iff.mp served⟩)⟩

/-- **Each stop of the walk has what is picked** of the calls that the stops in front have left. -/
theorem picks_along {recorded : List (RecordedCall × Nat)} {estimated : List (EstimatedCall × Nat)}
    (order : (left recorded estimated).Pairwise MatchedCall.Precedes) {found : Option Match}
    (hv : pattern[p]? = some v) (hfound : (along lookup pattern recorded estimated)[p]? = some found) :
    Picks (fun c => (c ∈ left recorded estimated ∧ v.stop.IsServed lookup c.stopRef) ∧
      ∀ q < p, ¬ (along lookup pattern recorded estimated).TakenAt q c) (found.map (·.call)) := by
  induction pattern generalizing recorded estimated p with
  | nil => cases hv
  | cons head rest ih =>
    obtain ⟨taken, recorded', estimated', walk, takes⟩ := along_cons lookup head rest order
    rw [walk] at hfound ⊢
    cases p with
    | zero =>
      cases hv
      cases hfound
      exact takes.picks.congr fun c => (and_iff_left fun q hq => absurd hq (Nat.not_lt_zero q)).symm
    | succ p =>
      refine (ih takes.order hv hfound).congr fun c => ?_
      -- free of the stops in front is free of the first one and of the others
      have free : (∀ q < p + 1, ¬ TakenAt (taken :: along lookup rest recorded' estimated') q c) ↔
          (∀ m, taken = some m → m.call ≠ c) ∧
            ∀ q < p, ¬ TakenAt (along lookup rest recorded' estimated') q c := by
        rw [Nat.forall_lt_succ_left]
        simp [TakenAt]
      rw [takes.mem_rest, free]
      tauto

theorem mem_left_iff {c : MatchedCall} :
    c ∈ left journey.recorded.zipIdx journey.estimated.zipIdx ↔ journey.HasCall c := by
  cases c <;> simp [left, Journey.HasCall, List.mem_zipIdx_iff_getElem?]

/-- The calls of a journey come in the order in which they are asked for. -/
theorem pairwise_left (journey : Journey) :
    (left journey.recorded.zipIdx journey.estimated.zipIdx).Pairwise MatchedCall.Precedes := by
  have inOrder : ∀ {α : Type} (calls : List α), calls.zipIdx.Pairwise (·.2 < ·.2) := by
    intro α calls
    have places : (calls.zipIdx.map Prod.snd).Pairwise (· < ·) := by
      rw [List.zipIdx_map_snd]
      exact List.pairwise_lt_range' 1
    exact List.pairwise_map.mp places
  refine List.pairwise_append.mpr ⟨List.pairwise_map.mpr (inOrder _),
    List.pairwise_map.mpr (inOrder _), ?_⟩
  exact List.forall_mem_map.mpr fun _ _ => List.forall_mem_map.mpr fun _ _ => trivial

/-- **The walk along a journey is greedy.** -/
theorem greedy_along (pattern : Pattern) (journey : Journey) (lookup : StopLookup) :
    Greedy (along lookup pattern journey.recorded.zipIdx journey.estimated.zipIdx) pattern journey
      lookup := by
  refine ⟨length_along .., fun {p v found} hv hfound => ?_, fun {p v found} hv hfound => ?_⟩
  · refine (picks_along (pairwise_left journey) hv hfound).congr fun c => ?_
    rw [mem_left_iff]
    exact ⟨fun ⟨⟨has, serves⟩, free⟩ => ⟨has, serves, free⟩,
      fun ⟨has, serves, free⟩ => ⟨⟨has, serves⟩, free⟩⟩
  · obtain ⟨v', hv', serves⟩ := serves_along hfound
    cases hv.symm.trans hv'
    exact serves

theorem greedy_of_ofJourney (h : ofJourney pattern journey lookup = .ok m) :
    m.Greedy pattern journey lookup := by
  obtain ⟨-, rfl⟩ := ofJourney_eq_ok_iff.mp h
  exact greedy_along pattern journey lookup

/-! ## Repeated visits -/

namespace Greedy

variable {w : Visit}

/-- Where a stop has found no call, it finds none later. -/
theorem bare_of_front (h : m.Greedy pattern journey lookup) (before : p < q)
    (hv : pattern[p]? = some v) (hw : pattern[q]? = some w) (same : v.stop = w.stop)
    (bare : m[p]? = some none) : m[q]? = some none := by
  obtain ⟨found, hfound⟩ := h.exists_found hw
  cases found with
  | none => exact hfound
  | some b =>
    have later := (h.open_of_found hw hfound).front (Nat.le_of_lt before)
    rw [← same] at later
    exact absurd later (Picks.none_iff.mp (h.picks hv bare) b.call)

/-- The call that a stop takes is asked for before the one that it takes later. -/
theorem precedes (h : m.Greedy pattern journey lookup) (before : p < q)
    (hv : pattern[p]? = some v) (hw : pattern[q]? = some w) (same : v.stop = w.stop)
    {a b : Match} (ha : m[p]? = some (some a)) (hb : m[q]? = some (some b)) :
    a.call.Precedes b.call := by
  have there := h.open_of_found hw hb
  have here : m.Open journey lookup p v.stop b.call := by
    rw [same]
    exact there.front (Nat.le_of_lt before)
  obtain ⟨own, first⟩ := Picks.some_iff.mp (h.picks hv ha)
  by_contra behind
  obtain ⟨kind, index⟩ := MatchedCall.same_place_of_not_precedes behind (first _ here)
  exact there.free p before ⟨a, ha, own.has.ext there.has kind index⟩

end Greedy

/-- **Repeated visits get their calls in order.** A stop that is visited again finds no call if it
found none before. If it finds one, that is a later one of the same kind, or an estimated call after
a recorded one; never a recorded call after an estimated one. -/
theorem ofJourney_repeated (matched : ofJourney pattern journey lookup = .ok m) {w : Visit}
    (before : p < q) (hv : pattern[p]? = some v) (hw : pattern[q]? = some w)
    (same : v.stop = w.stop) :
    (m[p]? = some none → m[q]? = some none) ∧
      ∀ a b, m[p]? = some (some a) → m[q]? = some (some b) →
        (a.call.observed = b.call.observed → a.call.index < b.call.index) ∧
          (¬ a.call.observed → ¬ b.call.observed) := by
  have greedy := greedy_of_ofJourney matched
  refine ⟨greedy.bare_of_front before hv hw same, fun a b ha hb => ?_⟩
  have order := greedy.precedes before hv hw same ha hb
  rw [MatchedCall.precedes_iff] at order
  rcases order with ⟨made, due⟩ | ⟨kind, index⟩
  · exact ⟨fun kind => absurd (kind ▸ made) due, fun due => absurd made due⟩
  · exact ⟨fun _ => index, fun due made => due (kind ▸ made)⟩

end Matching

/-! ## A line that comes back -/

namespace Sample

/-- A call that the vehicle has made, and of which only the stop is told. -/
def madeAt (stop : String) : RecordedCall := ⟨stop, none, ⟨none, none⟩, ⟨none, none⟩, ⟨none, none⟩⟩

/-- A call that the vehicle is yet to make, and of which only the stop is told. -/
def dueAt (stop : String) : EstimatedCall :=
  ⟨stop, none, none, ⟨none, none⟩, ⟨none, none⟩, none, none, none, none, []⟩

/-- A journey that calls at these stops. -/
def calling (recorded estimated : List String) : Journey where
  tripRef := "t"
  line := none
  cancellation := none
  inaccuracy := none
  recorded := recorded.map madeAt
  estimated := estimated.map dueAt

def stopA : Stop := ⟨"A", none⟩

def platform1 : Stop := ⟨"B1", some "B"⟩

def platform2 : Stop := ⟨"B2", some "B"⟩

def platforms : StopLookup := fun id => [stopA, platform1, platform2].find? (·.id = id)

/-- A line that comes to `A` twice, and to station `B` three times. -/
def loop : Pattern :=
  [platform1, stopA, platform2, platform1, stopA].map (⟨·, .scheduled, .scheduled, none⟩)

/-- The vehicle was at the first platform, and comes to the second one instead of it on its way
back. -/
def returning : Journey := calling ["B1"] ["A", "B2", "B2", "A"]

def returned : Matching :=
  [some ⟨.recorded 0 (madeAt "B1"), .itself⟩, some ⟨.estimated 0 (dueAt "A"), .itself⟩,
    some ⟨.estimated 1 (dueAt "B2"), .itself⟩,
    some ⟨.estimated 2 (dueAt "B2"), .substitute platform2⟩,
    some ⟨.estimated 3 (dueAt "A"), .itself⟩]

end Sample

/-- Of the two calls at `A` the first is matched first; neither has been made. The first platform
has a recorded call on the way out, and one that is estimated for the other platform on the way
back. -/
theorem Matching.ofJourney_repeated_returning :
    ofJourney Sample.loop Sample.returning Sample.platforms = .ok Sample.returned ∧
      (∃ a b, Sample.returned[1]? = some (some a) ∧ Sample.returned[4]? = some (some b) ∧
        a.call.index < b.call.index ∧ ¬ b.call.observed) ∧
      ∃ a b, Sample.returned[0]? = some (some a) ∧ Sample.returned[3]? = some (some b) ∧
        a.call.observed ∧ b.serving = .substitute Sample.platform2 := by
  have matched : ofJourney Sample.loop Sample.returning Sample.platforms = .ok Sample.returned := by
    decide
  have stop := (ofJourney_repeated matched (show 1 < 4 by decide) rfl rfl rfl).2 _ _ rfl rfl
  exact ⟨matched, ⟨_, _, rfl, rfl, stop.1 rfl, stop.2 (by decide)⟩, _, _, rfl, rfl, rfl, rfl⟩

end LiveTimetable
