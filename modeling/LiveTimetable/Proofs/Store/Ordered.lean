import LiveTimetable.Proofs.Store.Board
import LiveTimetable.Proofs.Text.Bytes
import LiveTimetable.Proofs.Update.ServiceDay
import Mathlib.Data.List.Sort
import Mathlib.Data.Prod.Lex

/-!
# The order of a board

A board is sorted by the times of its rows and by their trips, and that leaves no choice. Two visits
of one trip at one time come in the order of their positions, as they were put together, so no two
rows have the same place (`Departure.place`). Rows whose places rise are fixed by which rows they
are: `Departure.eq_of_mem_iff`.

All else follows. What a query leaves out can be left out of the sorted board as well, and it does
not matter in which order a store keeps what it holds: `Store.departures_answers`.
-/

namespace LiveTimetable

/-! ## Places on a board -/

namespace Departure

/-- **The place of a row**: its time, then its trip by the bytes of the id, then its position. -/
def place (d : Departure) : Int ×ₗ List Nat ×ₗ Nat :=
  toLex (d.time.val, toLex (Text.bytes d.key.tripId, d.position))

/-- What the rows of a board are sorted by. -/
def rank (d : Departure) : Int ×ₗ String := toLex (d.time.val, d.key.tripId)

variable {a b : Departure}

theorem comesBefore_iff : a.comesBefore b ↔ a.rank ≤ b.rank := by
  have times : a.time = b.time ↔ a.time.val = b.time.val := by
    rw [Seconds.mk.injEq]
  simp only [comesBefore, Bool.or_eq_true, Bool.and_eq_true, decide_eq_true_eq, rank,
    Prod.Lex.toLex_le_toLex, times]
  rfl

/-- Rows of one rank tell of one trip, and then their positions decide. -/
theorem place_lt_iff :
    a.place < b.place ↔ a.rank < b.rank ∨ a.rank = b.rank ∧ a.position < b.position := by
  simp only [place, rank, Prod.Lex.toLex_lt_toLex, Text.bytes_strictMono.lt_iff_lt,
    Text.bytes_strictMono.injective.eq_iff, toLex_inj, Prod.mk.injEq]
  tauto

/-- **Rows whose places rise are fixed by which rows they are.** -/
theorem eq_of_mem_iff {as bs : List Departure} (has : (as.map place).Pairwise (· < ·))
    (hbs : (bs.map place).Pairwise (· < ·)) (same : ∀ row, row ∈ as ↔ row ∈ bs) : as = bs := by
  rw [List.pairwise_map] at has hbs
  have : Std.Irrefl fun a b : Departure => a.place < b.place := ⟨fun a => lt_irrefl a.place⟩
  have : Std.Antisymm fun a b : Departure => a.place < b.place :=
    ⟨fun _ _ hab hba => absurd hba hab.asymm⟩
  exact has.eq_of_mem_iff hbs same

end Departure

/-! ## What a query leaves of a board -/

namespace BoardQuery

/-- The visits where the timetable lets somebody get on, or all. -/
def boarding (q : BoardQuery) (rows : List Departure) : List Departure :=
  if q.omitNonPickups then rows.filter (·.stop.visit.pickup ≠ .notOffered) else rows

/-- The departures that take place, or all. -/
def takingPlace (q : BoardQuery) (rows : List Departure) : List Departure :=
  if q.includeCancelled then rows else rows.filter (!·.isCancelled)

/-- **What a query leaves of a board**: first it takes rows away, and then it cuts. -/
def restrict (q : BoardQuery) (rows : List Departure) : List Departure :=
  q.cut (q.takingPlace (q.boarding rows))

theorem takingPlace_boarding (q : BoardQuery) (rows : List Departure) :
    q.takingPlace (q.boarding rows) = rows.filter fun row => q.shows row.state row.stop := by
  obtain ⟨omits, includes, limit⟩ := q
  cases omits <;> cases includes <;>
    simp [takingPlace, boarding, shows, Departure.isCancelled, List.filter_filter, Bool.and_comm]

end BoardQuery

/-! ## Stores that hold the same -/

namespace Table

variable {κ α : Type} [DecidableEq κ] {a b : Table κ α}

theorem find?_of_perm (h : a.entries.Perm b.entries) (key : κ) : a.find? key = b.find? key := by
  ext value
  rw [← mem_entries_iff_find?, ← mem_entries_iff_find?, h.mem_iff]

end Table

theorem Index.mem_under_of_perm {a b : Index} (h : a.pairs.Perm b.pairs) {key value : String} :
    value ∈ a.under key ↔ value ∈ b.under key := by
  rw [mem_under_iff, mem_under_iff, h.mem_iff]

/-- **Schedules that hold the same**, each in an order of its own. -/
structure Schedule.Alike (a b : Schedule) : Prop where
  zone : a.zone = b.zone
  stops : a.stops.entries.Perm b.stops.entries
  stations : a.stations.pairs.Perm b.stations.pairs
  trips : a.trips.entries.Perm b.trips.entries
  visitors : a.visitors.pairs.Perm b.visitors.pairs

/-- **Stores that hold the same**, each in an order of its own. -/
structure Store.Alike (a b : Store) : Prop where
  schedule : a.schedule.Alike b.schedule
  published : a.published.entries.Perm b.published.entries

theorem Schedule.Alike.mem_stationSiblings {a b : Schedule} (h : a.Alike b) {stopId id : String} :
    id ∈ a.stationSiblings stopId ↔ id ∈ b.stationSiblings stopId := by
  have stops : a.stop? = b.stop? := funext (Table.find?_of_perm h.stops)
  simp only [mem_stationSiblings_iff, stops, Index.mem_under_of_perm h.stations]

namespace Store

variable {s s' : Store} {stopId : String} {date : Date} {q : BoardQuery} {rows : List Departure}

namespace Alike

theorem mem_candidates (h : s.Alike s') {tripId : String} :
    tripId ∈ s.candidates stopId ↔ tripId ∈ s'.candidates stopId := by
  simp only [mem_candidates_iff, h.schedule.mem_stationSiblings, Schedule.tripsVisiting,
    Index.mem_under_of_perm h.schedule.visitors]

theorem inEffect? (h : s.Alike s') : s.inEffect? = s'.inEffect? := by
  funext key
  simp only [Store.inEffect?, published?, Schedule.trip?, Table.find?_of_perm h.published,
    Table.find?_of_perm h.schedule.trips]

theorem tells_iff (h : s.Alike s') {row : Departure} : row.Tells s stopId ↔ row.Tells s' stopId := by
  have same : ∀ {a b : Store}, a.inEffect? = b.inEffect? → a.schedule.zone = b.schedule.zone →
      row.Tells a stopId → row.Tells b stopId := by
    intro a b records zone tells
    refine ⟨tells.listed, ?_, tells.here, ?_⟩
    · rw [← records]
      exact tells.record
    · rw [← zone]
      exact tells.instant
  exact ⟨same h.inEffect? h.schedule.zone, same h.inEffect?.symm h.schedule.zone.symm⟩

end Alike

/-! ## The order -/

/-- **The places of the rows rise.** Sorting by ranks leaves the rows of one rank as they were put
together. -/
theorem pairwise_place_departures (unlimited : q.limit = none)
    (h : s.departures stopId date q = .ok rows) : (rows.map Departure.place).Pairwise (· < ·) := by
  obtain ⟨parts, hparts, rfl⟩ := (departures_eq_ok_iff unlimited).mp h
  rw [List.pairwise_map]
  refine (Lists.pairwise_mergeSort_ties ?_ ?_ (pairwise_parts hparts)).imp ?_
  · intro a b c
    simp only [Departure.comesBefore_iff]
    exact le_trans
  · intro a b
    rw [Bool.or_eq_true, Departure.comesBefore_iff, Departure.comesBefore_iff]
    exact le_total _ _
  · intro a b hab
    obtain ⟨inOrder, tied⟩ := hab
    rw [Departure.comesBefore_iff] at inOrder tied
    rw [Departure.place_lt_iff]
    refine inOrder.lt_or_eq.imp id fun same => ⟨same, tied same.ge ?_⟩
    exact (Prod.mk.inj (toLex_inj.mp same)).2

/-- **A board is its rows sorted by their places**, by whatever method. -/
theorem departures_eq_insertionSort {parts : List (List Departure)}
    (made : (s.candidates stopId).mapM (fun tripId => s.departuresOf stopId q ⟨tripId, date⟩) =
      .ok parts) :
    s.departures stopId date q =
      .ok (q.cut (parts.flatten.insertionSort fun a b => a.place ≤ b.place)) := by
  have board := (departures_eq_ok_iff (q := { q with limit := none }) rfl).mpr ⟨parts, made, rfl⟩
  have rising := pairwise_place_departures rfl board
  refine departures_limited.mpr ⟨_, board, congrArg q.cut (Departure.eq_of_mem_iff ?_ rising ?_)⟩
  · have : Std.Total fun a b : Departure => a.place ≤ b.place := ⟨fun _ _ => le_total _ _⟩
    have : IsTrans Departure fun a b => a.place ≤ b.place := ⟨fun _ _ _ => le_trans⟩
    have perm := (List.perm_insertionSort (fun a b : Departure => a.place ≤ b.place)
      parts.flatten).trans (List.mergeSort_perm parts.flatten Departure.comesBefore).symm
    have apart := (perm.map Departure.place).nodup_iff.mpr (rising.imp fun hlt => hlt.ne)
    rw [List.Nodup, List.pairwise_map] at apart
    rw [List.pairwise_map]
    exact ((List.pairwise_insertionSort _ _).and apart).imp fun h => lt_of_le_of_ne h.1 h.2
  · intro row
    rw [List.mem_insertionSort, List.mem_mergeSort]

/-- The instants of rows of one date are as far apart as their times. -/
theorem pairwise_instant_departures (unlimited : q.limit = none)
    (h : s.departures stopId date q = .ok rows) :
    (rows.filterMap (·.instant)).Pairwise (· ≤ ·) := by
  rw [List.pairwise_filterMap]
  refine (List.pairwise_map.mp (pairwise_place_departures unlimited h)).imp_of_mem ?_
  intro a b ha hb hab i hi j hj
  obtain ⟨adate, atells, -⟩ := tells_of_mem_departures h ha
  obtain ⟨bdate, btells, -⟩ := tells_of_mem_departures h hb
  have ainstant := atells.instant
  have binstant := btells.instant
  rw [adate, hi] at ainstant
  rw [bdate, hj] at binstant
  refine Service.instantAt_mono ainstant binstant ?_
  rcases Prod.Lex.toLex_lt_toLex.mp hab with earlier | ⟨same, -⟩
  · exact Int.le_of_lt earlier
  · exact Int.le_of_eq same

/-! ## The answer -/

/-- **The answer to a query**, as rows in their order. -/
structure Answers (s : Store) (stopId : String) (date : Date) (q : BoardQuery)
    (rows : List Departure) : Prop where
  /-- No two rows tie. -/
  ordered : (rows.map Departure.place).Pairwise (· < ·)
  /-- The instants, where there are any, do not go back. -/
  forward : (rows.filterMap (·.instant)).Pairwise (· ≤ ·)
  /-- The rows are what the query leaves of the board that leaves nothing out. -/
  restricts : ∃ all, s.departures stopId date .everything = .ok all ∧
    (∀ row, row ∈ all ↔
      row.key.tripId ∈ s.candidates stopId ∧ row.key.date = date ∧ row.Tells s stopId) ∧
    rows = q.restrict all
  /-- Every store that holds the same has this answer. -/
  settled : ∀ s', s.Alike s' → s'.departures stopId date q = .ok rows

/-- A board that leaves nothing out has all rows that tell of a candidate. -/
theorem mem_everything_iff (h : s.departures stopId date .everything = .ok rows)
    {row : Departure} : row ∈ rows ↔
      row.key.tripId ∈ s.candidates stopId ∧ row.key.date = date ∧ row.Tells s stopId := by
  have shown : BoardQuery.everything.shows row.state row.stop := rfl
  rw [mem_departures_iff rfl h]
  simp only [shown, and_true]

/-- A board without a limit is what its query leaves of the full board. -/
theorem takingPlace_boarding_of_departures {all : List Departure} (unlimited : q.limit = none)
    (h : s.departures stopId date q = .ok rows)
    (hall : s.departures stopId date .everything = .ok all) :
    rows = q.takingPlace (q.boarding all) := by
  rw [BoardQuery.takingPlace_boarding]
  have sub : ((all.filter fun row => q.shows row.state row.stop).map Departure.place).Pairwise
      (· < ·) :=
    (pairwise_place_departures rfl hall).sublist (List.filter_sublist.map _)
  refine Departure.eq_of_mem_iff (pairwise_place_departures unlimited h) sub fun row => ?_
  rw [List.mem_filter, mem_departures_iff unlimited h, mem_everything_iff hall, and_assoc, and_assoc]

/-- Stores that hold the same have the same board. -/
theorem Alike.departures (alike : s.Alike s') {rows' : List Departure} (unlimited : q.limit = none)
    (h : s.departures stopId date q = .ok rows) (h' : s'.departures stopId date q = .ok rows') :
    rows = rows' := by
  refine Departure.eq_of_mem_iff (pairwise_place_departures unlimited h)
    (pairwise_place_departures unlimited h') fun row => ?_
  rw [mem_departures_iff unlimited h, mem_departures_iff unlimited h', alike.mem_candidates,
    alike.tells_iff]

/-- **The answer is in order, and nothing but what was asked decides it**, in any store. -/
theorem departures_answers (s : Store) (stopId : String) (inner : date.Inner) (q : BoardQuery) :
    ∃ rows, s.departures stopId date q = .ok rows ∧ s.Answers stopId date q rows := by
  obtain ⟨all, hall⟩ := departures_of_inner s stopId .everything inner
  obtain ⟨rows, hrows⟩ := departures_of_inner s stopId { q with limit := none } inner
  have cut : (q.cut rows).Sublist rows := q.cut_sublist
  refine ⟨q.cut rows, departures_limited.mpr ⟨rows, hrows, rfl⟩, ?_, ?_,
    ⟨all, hall, fun row => mem_everything_iff hall, ?_⟩, ?_⟩
  · exact (pairwise_place_departures rfl hrows).sublist (cut.map _)
  · exact (pairwise_instant_departures rfl hrows).sublist (cut.filterMap _)
  · rw [takingPlace_boarding_of_departures rfl hrows hall]
    rfl
  · intro s' alike
    obtain ⟨rows', hrows'⟩ := departures_of_inner s' stopId { q with limit := none } inner
    refine departures_limited.mpr ⟨rows', hrows', ?_⟩
    rw [alike.departures rfl hrows hrows']

end Store

/-! ## Departures at one time -/

namespace Sample

/-- A trip from stop A to stop C, at the given times. -/
def leaving (tripId : String) (pickup : BoardingRule) (times : List String) : TripEntry where
  tripId
  serviceCode := 0
  line := none
  stopTimes := times.map (fun time => ⟨"A", time, time, pickup, .scheduled, none⟩) ++
    [⟨"C", "09:00:00", "09:00:00", .scheduled, .scheduled, none⟩]

/-- Four trips that leave at one time. One calls twice in its minute, one lets nobody get on. -/
def atOnce : ScheduleFile where
  stops := [⟨"A", none⟩, ⟨"C", none⟩]
  trips := [
    leaving "d" .scheduled ["08:00:00", "08:00:00"],
    leaving "c" .scheduled ["08:00:00"],
    leaving "b" .notOffered ["08:00:00"],
    leaving "a" .scheduled ["08:00:00"]]

/-- The four trips, of which one has been cancelled. -/
def calledOff : Store :=
  (Store.empty ((Schedule.ofFile atOnce .utc).toOption.getD (.empty .utc))).run
    [.message (.journey date { late with tripRef := "a", cancellation := some true })]

end Sample

/-- Ids decide between trips and positions within one; the trips that are not to be shown do not
count towards the limit. -/
theorem Store.departures_answers_atOnce :
    ∃ rows, Sample.date.Inner ∧
      Sample.calledOff.departures "A" Sample.date ⟨true, false, some 2⟩ = .ok rows ∧
      Sample.calledOff.Answers "A" Sample.date ⟨true, false, some 2⟩ rows ∧
      rows.map (fun row => (row.key.tripId, row.position)) = [("c", 0), ("d", 0)] := by
  have inner : Sample.date.Inner := by decide
  obtain ⟨parts, made, sorted⟩ : ∃ parts,
      (Sample.calledOff.candidates "A").mapM (fun tripId => Sample.calledOff.departuresOf "A"
        ⟨true, false, some 2⟩ ⟨tripId, Sample.date⟩) = .ok parts ∧
      ((parts.flatten.insertionSort fun a b => a.place ≤ b.place).take 2).map
        (fun row => (row.key.tripId, row.position)) = [("c", 0), ("d", 0)] :=
    ⟨_, rfl, by decide +kernel⟩
  obtain ⟨rows, hrows, answers⟩ := departures_answers Sample.calledOff "A" inner ⟨true, false, some 2⟩
  refine ⟨rows, inner, hrows, answers, ?_⟩
  rw [departures_eq_insertionSort made] at hrows
  cases hrows
  exact sorted

end LiveTimetable
