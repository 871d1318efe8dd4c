import LiveTimetable.Proofs.Lists
import LiveTimetable.Proofs.Outcome
import LiveTimetable.Proofs.Service.Day
import LiveTimetable.Store.Departures

/-!
# The rows of a board

A board is put together trip by trip and then sorted. The lemmas here say which rows are on it
(`mem_departures_iff`) and that none is there twice (`nodup_departures`), for any query without a
limit. Each row tells of the record in effect (`Departure.Tells`); which trips are looked at is the
matter of `Store.candidates` alone.
-/

namespace LiveTimetable

namespace TripRecord

/-- The visits of a record that a board shows, each with its position. -/
def shown (r : TripRecord) (stopId : String) (q : BoardQuery) : List (StopRecord × Nat) :=
  r.stops.zipIdx.filter fun (stop, _) => stop.visit.stop.id = stopId && q.shows r.state stop

variable {r : TripRecord} {stopId : String} {q : BoardQuery}

theorem mem_shown_iff {stop : StopRecord} {position : Nat} :
    (stop, position) ∈ r.shown stopId q ↔
      r.stops[position]? = some stop ∧ stop.visit.stop.id = stopId ∧ q.shows r.state stop := by
  simp only [shown, List.mem_filter, List.mk_mem_zipIdx_iff_getElem?, Bool.and_eq_true,
    decide_eq_true_eq]

/-- Visits are shown in the order of their positions. -/
theorem pairwise_shown : ((r.shown stopId q).map Prod.snd).Pairwise (· < ·) := by
  have sub : ((r.shown stopId q).map Prod.snd).Sublist (r.stops.zipIdx.map Prod.snd) :=
    List.filter_sublist.map Prod.snd
  rw [List.zipIdx_map_snd] at sub
  exact List.Pairwise.sublist sub (List.pairwise_lt_range' 1)

end TripRecord

namespace BoardQuery

/-- As many rows as are asked for. -/
def cut (q : BoardQuery) (rows : List Departure) : List Departure :=
  match q.limit with
  | some limit => rows.take limit
  | none => rows

theorem cut_sublist (q : BoardQuery) {rows : List Departure} : (q.cut rows).Sublist rows := by
  unfold cut
  split
  next limit _ => exact List.take_sublist limit rows
  next => exact List.Sublist.refl rows

end BoardQuery

/-- **A row tells of the record in effect**, which calls at the stop there. -/
structure Departure.Tells (row : Departure) (s : Store) (stopId : String) : Prop where
  listed : row.stopId = stopId
  record : ∃ r, s.inEffect? row.key = some r ∧ row.state = r.state ∧
    r.stops[row.position]? = some row.stop
  here : row.stop.visit.stop.id = stopId
  instant : Service.instantAt row.time row.key.date s.schedule.zone = .ok row.instant

namespace Store

variable {s : Store} {stopId : String} {q : BoardQuery} {key : TripKey} {date : Date}
  {rows : List Departure} {row : Departure}

/-! ## One trip -/

theorem departuresOf_eq_ok_iff {r : TripRecord} (hr : s.inEffect? key = some r) :
    s.departuresOf stopId q key = .ok rows ↔
      List.Forall₂ (fun visit row => ∃ instant,
        Service.instantAt visit.1.passage.departure key.date s.schedule.zone = .ok instant ∧
          row = ⟨key, stopId, visit.2, visit.1, r.state, instant⟩) (r.shown stopId q) rows := by
  simp only [departuresOf, hr, Outcome.mapM_eq_ok_iff, Outcome.bind_eq_ok]
  have same : ∀ (visit : StopRecord × Nat) (row : Departure),
      (∃ instant, Service.instantAt visit.1.passage.departure key.date s.schedule.zone = .ok instant ∧
        (return ⟨key, stopId, visit.2, visit.1, r.state, instant⟩ : Except OffCalendar Departure) =
          .ok row) ↔
      ∃ instant, Service.instantAt visit.1.passage.departure key.date s.schedule.zone = .ok instant ∧
        row = ⟨key, stopId, visit.2, visit.1, r.state, instant⟩ := by
    intro visit row
    simp only [pure, Except.pure, Except.ok.injEq, eq_comm]
  simp only [same]
  rfl

theorem departuresOf_of_none (h : s.inEffect? key = none) : s.departuresOf stopId q key = .ok [] := by
  simp only [departuresOf, h]

/-- The rows of a trip are those that tell of its record and are shown. -/
theorem mem_departuresOf_iff (h : s.departuresOf stopId q key = .ok rows) :
    row ∈ rows ↔ row.key = key ∧ row.Tells s stopId ∧ q.shows row.state row.stop := by
  cases hr : s.inEffect? key with
  | none =>
    rw [departuresOf_of_none hr] at h
    cases h
    simp only [List.not_mem_nil, false_iff]
    intro h
    obtain ⟨rfl, htells, -⟩ := h
    obtain ⟨r, hr', -⟩ := htells.record
    rw [hr] at hr'
    cases hr'
  | some r =>
    have made := (departuresOf_eq_ok_iff hr).mp h
    constructor
    · intro hrow
      obtain ⟨i, hi, rfl⟩ := List.getElem_of_mem hrow
      have hshown : i < (r.shown stopId q).length := by rwa [made.length_eq]
      obtain ⟨instant, hinstant, hmade⟩ := made.get hshown hi
      obtain ⟨hstop, hhere, hshows⟩ :=
        TripRecord.mem_shown_iff.mp (List.getElem_mem hshown)
      simp only [List.get_eq_getElem] at hmade hinstant
      rw [hmade]
      exact ⟨rfl, ⟨rfl, ⟨r, hr, rfl, hstop⟩, hhere, hinstant⟩, hshows⟩
    · intro h
      obtain ⟨rfl, htells, hshows⟩ := h
      obtain ⟨r', hr', hstate, hstop⟩ := htells.record
      cases hr.symm.trans hr'
      have hmem : (row.stop, row.position) ∈ r.shown stopId q :=
        TripRecord.mem_shown_iff.mpr ⟨hstop, htells.here, hstate ▸ hshows⟩
      obtain ⟨i, hi, hvisit⟩ := List.getElem_of_mem hmem
      have hrows : i < rows.length := by rwa [← made.length_eq]
      obtain ⟨instant, hinstant, hmade⟩ := made.get hi hrows
      simp only [List.get_eq_getElem, hvisit] at hmade hinstant
      have same : instant = row.instant := Except.ok.inj (hinstant.symm.trans htells.instant)
      obtain ⟨rowKey, rowStopId, position, stop, state, rowInstant⟩ := row
      cases htells.listed
      cases hstate
      cases same
      rw [← hmade]
      exact List.getElem_mem hrows

/-- The rows of a trip stand in the order of their positions. -/
theorem pairwise_departuresOf (h : s.departuresOf stopId q key = .ok rows) :
    (rows.map (·.position)).Pairwise (· < ·) := by
  cases hr : s.inEffect? key with
  | none =>
    rw [departuresOf_of_none hr] at h
    cases h
    exact .nil
  | some r =>
    have made := (departuresOf_eq_ok_iff hr).mp h
    have same : rows.map (·.position) = (r.shown stopId q).map Prod.snd := by
      refine Lists.map_eq_map_iff_forall₂.mpr (made.flip.imp ?_)
      rintro row visit ⟨instant, -, rfl⟩
      rfl
    rw [same]
    exact TripRecord.pairwise_shown

/-- The rows of a date away from the ends of the calendar can all be made. -/
theorem departuresOf_of_inner (s : Store) (stopId : String) (q : BoardQuery) (inner : date.Inner)
    (tripId : String) :
    ∃ rows, s.departuresOf stopId q ⟨tripId, date⟩ = .ok rows := by
  cases hr : s.inEffect? ⟨tripId, date⟩ with
  | none => exact ⟨[], departuresOf_of_none hr⟩
  | some r =>
    simp only [departuresOf, hr]
    refine Outcome.mapM_of_forall fun visit _ => ?_
    obtain ⟨instant, hinstant⟩ :=
      Service.instantAt_of_inner inner s.schedule.zone visit.1.passage.departure
    exact ⟨_, Outcome.bind_eq_ok.mpr ⟨instant, hinstant, rfl⟩⟩

/-! ## All trips -/

/-- The candidates are looked at once each. -/
theorem nodup_candidates (s : Store) (stopId : String) : (s.candidates stopId).Nodup :=
  Lists.nodup_eraseDups _

/-- A board without a limit holds the rows of all candidates. -/
theorem departures_eq_ok_iff (unlimited : q.limit = none) :
    s.departures stopId date q = .ok rows ↔ ∃ parts,
      (s.candidates stopId).mapM (fun tripId => s.departuresOf stopId q ⟨tripId, date⟩) = .ok parts ∧
        rows = parts.flatten.mergeSort Departure.comesBefore := by
  simp only [departures, unlimited, Outcome.bind_eq_ok]
  constructor
  · intro h
    obtain ⟨parts, hparts, hret⟩ := h
    cases hret
    exact ⟨parts, hparts, rfl⟩
  · intro h
    obtain ⟨parts, hparts, rfl⟩ := h
    exact ⟨parts, hparts, rfl⟩

/-- **The rows of a board**: those that tell of a candidate's record on the date and are shown. -/
theorem mem_departures_iff (unlimited : q.limit = none) (h : s.departures stopId date q = .ok rows) :
    row ∈ rows ↔ row.key.tripId ∈ s.candidates stopId ∧ row.key.date = date ∧
      row.Tells s stopId ∧ q.shows row.state row.stop := by
  obtain ⟨parts, hparts, rfl⟩ := (departures_eq_ok_iff unlimited).mp h
  rw [List.mem_mergeSort, List.mem_flatten]
  constructor
  · intro h
    obtain ⟨part, hpart, hrow⟩ := h
    obtain ⟨tripId, hcandidate, hmade⟩ := (Outcome.mem_mapM_iff hparts).mp hpart
    obtain ⟨hkey, htells, hshows⟩ := (mem_departuresOf_iff hmade).mp hrow
    rw [hkey]
    exact ⟨hcandidate, rfl, htells, hshows⟩
  · intro h
    obtain ⟨hcandidate, rfl, htells, hshows⟩ := h
    obtain ⟨i, hi, hid⟩ := List.getElem_of_mem hcandidate
    have made := Outcome.mapM_eq_ok_iff.mp hparts
    have hpart := made.get hi (by rwa [← made.length_eq])
    simp only [List.get_eq_getElem, hid] at hpart
    exact ⟨_, List.getElem_mem _, (mem_departuresOf_iff hpart).mpr ⟨rfl, htells, hshows⟩⟩

/-- **A board has a row for each visit** of a candidate that it is to show. -/
theorem exists_row_of_departures (unlimited : q.limit = none)
    (h : s.departures stopId date q = .ok rows) {tripId : String}
    (candidate : tripId ∈ s.candidates stopId) {r : TripRecord}
    (hr : s.inEffect? ⟨tripId, date⟩ = some r) {position : Nat} {stop : StopRecord}
    (hstop : r.stops[position]? = some stop) (here : stop.visit.stop.id = stopId)
    (shows : q.shows r.state stop) :
    ∃ row ∈ rows, row.key = ⟨tripId, date⟩ ∧ row.position = position ∧ row.stop = stop ∧
      row.Tells s stopId := by
  obtain ⟨parts, hparts, rfl⟩ := (departures_eq_ok_iff unlimited).mp h
  obtain ⟨part, hpart, hmade⟩ :=
    Lists.exists_mem_of_forall₂ (Outcome.mapM_eq_ok_iff.mp hparts) candidate
  obtain ⟨row, hrow, instant, -, rfl⟩ :=
    Lists.exists_mem_of_forall₂ ((departuresOf_eq_ok_iff hr).mp hmade)
      (TripRecord.mem_shown_iff.mpr ⟨hstop, here, shows⟩)
  refine ⟨_, ?_, rfl, rfl, rfl, ((mem_departuresOf_iff hmade).mp hrow).2.1⟩
  rw [List.mem_mergeSort, List.mem_flatten]
  exact ⟨part, hpart, hrow⟩

/-- As they are put together, behind a row of a trip come none of this trip but for later visits. -/
theorem pairwise_parts {parts : List (List Departure)}
    (h : (s.candidates stopId).mapM (fun tripId => s.departuresOf stopId q ⟨tripId, date⟩) =
      .ok parts) :
    parts.flatten.Pairwise fun a b => a.key.tripId = b.key.tripId → a.position < b.position := by
  have made := Outcome.mapM_eq_ok_iff.mp h
  rw [List.pairwise_flatten]
  constructor
  · -- within a trip the positions rise
    intro part hpart
    obtain ⟨tripId, -, hmade⟩ := (Outcome.mem_mapM_iff h).mp hpart
    refine (List.pairwise_map.mp (pairwise_departuresOf hmade)).imp ?_
    exact fun hlt _ => hlt
  · -- between two parts the trips differ
    rw [List.pairwise_iff_getElem]
    intro i j hi hj hij a ha b hb heq
    have hi' : i < (s.candidates stopId).length := by rwa [made.length_eq]
    have hj' : j < (s.candidates stopId).length := by rwa [made.length_eq]
    have hakey := ((mem_departuresOf_iff (made.get hi' hi)).mp ha).1
    have hbkey := ((mem_departuresOf_iff (made.get hj' hj)).mp hb).1
    have same : (s.candidates stopId)[i] = (s.candidates stopId)[j] := by
      rw [hakey, hbkey] at heq
      exact heq
    exact absurd same (List.pairwise_iff_getElem.mp (nodup_candidates s stopId) i j hi' hj' hij)

/-- **No visit of a trip is on a board twice.** -/
theorem nodup_departures (unlimited : q.limit = none) (h : s.departures stopId date q = .ok rows) :
    (rows.map fun row => (row.key, row.position)).Nodup := by
  obtain ⟨parts, hparts, rfl⟩ := (departures_eq_ok_iff unlimited).mp h
  rw [((List.mergeSort_perm ..).map _).nodup_iff, List.Nodup, List.pairwise_map]
  refine (pairwise_parts hparts).imp ?_
  intro a b rises heq
  obtain ⟨hkey, hposition⟩ := Prod.mk.inj heq
  exact Nat.ne_of_lt (rises (congrArg TripKey.tripId hkey)) hposition

/-- A limit cuts the board short, and changes nothing else. -/
theorem departures_limited :
    s.departures stopId date q = .ok rows ↔
      ∃ all, s.departures stopId date { q with limit := none } = .ok all ∧ rows = q.cut all := by
  constructor
  · intro h
    obtain ⟨parts, hparts, hret⟩ := Outcome.bind_eq_ok.mp h
    cases hret
    exact ⟨_, (departures_eq_ok_iff rfl).mpr ⟨parts, hparts, rfl⟩, rfl⟩
  · intro h
    obtain ⟨all, hall, rfl⟩ := h
    obtain ⟨parts, hparts, rfl⟩ := (departures_eq_ok_iff rfl).mp hall
    exact Outcome.bind_eq_ok.mpr ⟨parts, hparts, rfl⟩

/-- **A row on any board** tells of a record on the date of the board, and is to be shown. -/
theorem tells_of_mem_departures (h : s.departures stopId date q = .ok rows) (hrow : row ∈ rows) :
    row.key.date = date ∧ row.Tells s stopId ∧ q.shows row.state row.stop := by
  obtain ⟨all, hall, rfl⟩ := departures_limited.mp h
  exact ((mem_departures_iff rfl hall).mp (q.cut_sublist.subset hrow)).2

/-- A date away from the ends of the calendar has a board. -/
theorem departures_of_inner (s : Store) (stopId : String) (q : BoardQuery) (inner : date.Inner) :
    ∃ rows, s.departures stopId date q = .ok rows := by
  obtain ⟨parts, hparts⟩ := Outcome.mapM_of_forall fun tripId (_ : tripId ∈ s.candidates stopId) =>
    departuresOf_of_inner s stopId q inner tripId
  exact ⟨_, Outcome.bind_eq_ok.mpr ⟨parts, hparts, rfl⟩⟩

end Store

end LiveTimetable
