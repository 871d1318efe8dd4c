import LiveTimetable.Proofs.Timetable.Additions

/-!
# The stops of a station

The station index is a second account of which stop is where, beside the stops themselves. It is
only ever added to: a stop that is added again under another station, or under none, is still
listed under the one that it has left.

Main statement: `Schedule.stationSiblings_tells`. No stop of a station is missing among the siblings
of another one, and those that are too many are just the stops that have left it. So the two
accounts agree as long as no stop has left a station that another one is in, and otherwise they do
not (`Schedule.stationSiblings_stale`).
-/

namespace LiveTimetable

namespace Schedule

/-- Two stops are known, and they are stops of one station. -/
def Together (s : Schedule) (a b : String) : Prop :=
  b ≠ a ∧ ∃ x y, s.stop? a = some x ∧ s.stop? b = some y ∧ x.sharesStation y

/-- Of the stops that were added one was in the station of the first stop. It is not in it now. -/
def HasLeft (s : Schedule) (added : List Stop) (a b : String) : Prop :=
  b ≠ a ∧ ∃ x station, s.stop? a = some x ∧ x.station = some station ∧
    (∃ y ∈ added, y.station = some station ∧ y.id = b) ∧
    ∀ y, s.stop? b = some y → y.station ≠ some station

theorem nodup_stationSiblings (s : Schedule) (a : String) : (s.stationSiblings a).Nodup := by
  unfold stationSiblings
  split
  next => exact (Index.nodup_under ..).filter _
  next => exact List.nodup_nil

/-- **The siblings of a stop are the stops together with it, and those that have left it.** -/
theorem mem_stationSiblings_grow (zone : Zone) (as : List Addition) (a b : String) :
    b ∈ ((empty zone).grow as).stationSiblings a ↔
      ((empty zone).grow as).Together a b ∨ ((empty zone).grow as).HasLeft (stopsOf as) a b := by
  have known := stop?_grow_empty zone as
  have indexed := indexed_grow zone as
  have none : ∀ station, b ∉ (empty zone).stations.under station := fun _ => List.not_mem_nil
  simp only [mem_stationSiblings_iff, mem_stations_grow, none, false_or]
  revert known indexed
  generalize (empty zone).grow as = s
  intro known indexed
  constructor
  · rintro ⟨x, station, hx, hstation, listed, apart⟩
    by_cases still : ∃ y, s.stop? b = some y ∧ y.station = some station
    · obtain ⟨y, hy, hsame⟩ := still
      exact Or.inl ⟨apart, x, y, hx, hy, Stop.sharesStation_iff.mpr ⟨station, hstation, hsame⟩⟩
    · exact Or.inr ⟨apart, x, station, hx, hstation, listed, fun y hy hsame => still ⟨y, hy, hsame⟩⟩
  · rintro (⟨apart, x, y, hx, hy, shared⟩ | ⟨apart, x, station, hx, hstation, listed, -⟩)
    · obtain ⟨station, hstation, hsame⟩ := Stop.sharesStation_iff.mp shared
      have added : y ∈ stopsOf as := by
        rw [known, Stop.last?] at hy
        exact List.mem_reverse.mp (List.mem_of_find?_eq_some hy)
      exact ⟨x, station, hx, hstation, ⟨y, added, hsame, indexed.stop_id hy⟩, apart⟩
    · exact ⟨x, station, hx, hstation, listed, apart⟩

/-- **No stop of a station is missing among the siblings of another**, each is there once, and those
that are too many have left the station. So the index agrees with the stops exactly as long as no
stop has left a station that another one is in. -/
theorem stationSiblings_tells (zone : Zone) (as : List Addition) :
    (∀ a b, b ∈ ((empty zone).grow as).stationSiblings a ↔
      ((empty zone).grow as).Together a b ∨ ((empty zone).grow as).HasLeft (stopsOf as) a b) ∧
    (∀ a, (((empty zone).grow as).stationSiblings a).Nodup) ∧
    ((∀ a b, b ∈ ((empty zone).grow as).stationSiblings a ↔ ((empty zone).grow as).Together a b) ↔
      ∀ a b, ¬ ((empty zone).grow as).HasLeft (stopsOf as) a b) := by
  refine ⟨mem_stationSiblings_grow zone as, nodup_stationSiblings _, ?_⟩
  have apart : ∀ {s : Schedule} {added a b}, s.HasLeft added a b → ¬ s.Together a b := by
    rintro s added a b ⟨-, x, station, hx, hstation, -, gone⟩ ⟨-, x', y, hx', hy, shared⟩
    obtain ⟨station', hstation', hsame⟩ := Stop.sharesStation_iff.mp shared
    cases hx.symm.trans hx'
    cases hstation.symm.trans hstation'
    exact gone y hy hsame
  simp only [mem_stationSiblings_grow]
  constructor
  · intro agree a b left
    exact apart left ((agree a b).mp (Or.inr left))
  · intro stayed a b
    rw [or_iff_left (stayed a b)]

/-- A platform that has been moved to another station is still a sibling of the one that stayed. -/
theorem stationSiblings_stale :
    ¬ ∀ (zone : Zone) (stops : List Stop) (a b : String),
      b ∈ (stops.foldl addStop (empty zone)).stationSiblings a ↔
        (stops.foldl addStop (empty zone)).Together a b := by
  intro agree
  have listed : "B1" ∈ (([⟨"B1", some "B"⟩, ⟨"B2", some "B"⟩, ⟨"B1", some "X"⟩] : List Stop).foldl
      addStop (empty .utc)).stationSiblings "B2" := by decide
  obtain ⟨-, x, y, hx, hy, shared⟩ := (agree _ _ _ _).mp listed
  cases hx
  cases hy
  exact absurd shared (by decide)

end Schedule

end LiveTimetable
