import LiveTimetable.Proofs.Batch.Groups
import LiveTimetable.Proofs.Columns.Store
import Mathlib.Data.List.Nodup

/-!
# Batches by places

The messages of a batch can be put into groups one by one: a table keeps at which place among the
groups the one of a trip and date stands, and a message joins the group at its place. Nothing in the
table says that there is a group at the place. There always is, and the groups that come out are
those of `groupByTrip` (`groupByPlace_eq`).

The groups are then laid on a store of records in columns, where a crash ends its group as running
over an end of the calendar does. None crashes (`ColumnUpdater.applyBatch_of`). What ends a batch
before its groups is the limit of the updater alone.
-/

namespace LiveTimetable

open Columns

variable {ε : Type}

/-! ## Groups at places -/

/-- Groups, with the place of each trip and date among them. -/
structure Grouping where
  places : Table TripKey Nat
  groups : List (TripKey × List Message)

namespace Grouping

def empty : Grouping := ⟨.empty, []⟩

/-- One more message: it joins the group at its place, or opens a group. -/
def add (g : Grouping) (m : Message) : Except (Halt ε) Grouping :=
  match g.places.find? m.key with
  | some place => do
    let (key, messages) ← entry g.groups place
    return { g with groups := ← setEntry g.groups place (key, messages ++ [m]) }
  | none => .ok ⟨g.places.insert m.key g.groups.length, g.groups ++ [(m.key, [m])]⟩

def addAll (g : Grouping) : List Message → Except (Halt ε) Grouping
  | [] => .ok g
  | m :: rest => do (← g.add m).addAll rest

end Grouping

/-- The messages of each trip and date, in the order in which the trips first occur. -/
def groupByPlace (messages : List Message) : Except (Halt ε) (List (TripKey × List Message)) := do
  return (← Grouping.empty.addAll messages).groups

section GroupByTrip

variable {messages : List Message} {m : Message}

theorem keys_groupByTrip (messages : List Message) :
    (groupByTrip messages).map Prod.fst = (messages.map Message.key).eraseDups := by
  rw [groupByTrip, List.map_map]
  exact List.map_id _

/-- A message whose key has a group joins it. -/
theorem groupByTrip_concat_of_mem (known : m.key ∈ (groupByTrip messages).map Prod.fst) :
    groupByTrip (messages ++ [m]) =
      (groupByTrip messages).map fun g => if g.1 = m.key then (g.1, g.2 ++ [m]) else g := by
  rw [keys_groupByTrip, List.mem_eraseDups] at known
  have keys : ((messages ++ [m]).map Message.key).eraseDups =
      (messages.map Message.key).eraseDups := by
    rw [List.map_append]
    exact Lists.eraseDups_concat_of_mem known
  rw [groupByTrip, keys, groupByTrip, List.map_map]
  refine List.map_congr_left fun key _ => ?_
  by_cases own : key = m.key
  · subst own
    simp
  · have other : ¬ m.key = key := fun h => own h.symm
    simp [own, other]

/-- A message whose key has none opens a group behind the others. -/
theorem groupByTrip_concat_of_not_mem (new : m.key ∉ (groupByTrip messages).map Prod.fst) :
    groupByTrip (messages ++ [m]) = groupByTrip messages ++ [(m.key, [m])] := by
  rw [keys_groupByTrip, List.mem_eraseDups] at new
  have keys : ((messages ++ [m]).map Message.key).eraseDups =
      (messages.map Message.key).eraseDups ++ [m.key] := by
    rw [List.map_append]
    exact Lists.eraseDups_concat_of_notMem new
  have unheard : messages.filter (fun x => decide (x.key = m.key)) = [] := by
    rw [List.filter_eq_nil_iff]
    intro x hx own
    exact new (List.mem_map.mpr ⟨x, hx, of_decide_eq_true own⟩)
  rw [groupByTrip, keys, List.map_append, List.map_singleton, List.filter_append, unheard]
  congr 1
  · refine List.map_congr_left fun key mem => ?_
    have other : ¬ m.key = key := by
      rintro rfl
      exact new (List.mem_eraseDups.mp mem)
    simp [other]
  · simp

end GroupByTrip

namespace Grouping

/-- The grouping holds the groups of the messages, and tells the places of them all. -/
structure Holds (g : Grouping) (messages : List Message) : Prop where
  groups_eq : g.groups = groupByTrip messages
  placed : ∀ key place,
    g.places.find? key = some place ↔ (g.groups[place]?).map Prod.fst = some key

variable {g : Grouping} {messages : List Message}

theorem holds_empty : empty.Holds [] where
  groups_eq := rfl
  placed := by simp [empty]

/-- In groups whose keys differ, the one at a place is the one of its key. -/
theorem set_eq_map {groups : List (TripKey × List Message)} (nodup : (groups.map Prod.fst).Nodup)
    {place : Nat} {key : TripKey} {own : List Message} (stands : groups[place]? = some (key, own))
    (m : Message) :
    groups.set place (key, own ++ [m]) =
      groups.map fun g => if g.1 = key then (g.1, g.2 ++ [m]) else g := by
  obtain ⟨hplace, here⟩ := List.getElem?_eq_some_iff.mp stands
  refine List.ext_getElem (by simp) fun i hi hi' => ?_
  rw [List.getElem_set, List.getElem_map]
  by_cases same : place = i
  · subst same
    rw [if_pos rfl, here, if_pos rfl]
  · have hgroups : i < groups.length := by rwa [List.length_set] at hi
    have apart : groups[i].1 ≠ key := by
      intro own
      have hkeys : place < (groups.map Prod.fst).length := by rwa [List.length_map]
      have hkeys' : i < (groups.map Prod.fst).length := by rwa [List.length_map]
      have keys : (groups.map Prod.fst)[place] = (groups.map Prod.fst)[i] := by
        rw [List.getElem_map, List.getElem_map, here, own]
      exact same ((List.Nodup.getElem_inj_iff nodup).mp keys)
    rw [if_neg same, if_neg apart]

/-- A message joins the group at its place. -/
theorem Holds.join (h : g.Holds messages) {m : Message} {place : Nat}
    (found : g.places.find? m.key = some place) :
    ∃ g', g.add m = (.ok g' : Except (Halt ε) _) ∧ g'.Holds (messages ++ [m]) := by
  obtain ⟨groups_eq, placed⟩ := h
  obtain ⟨⟨key, own⟩, stands, named⟩ := Option.map_eq_some_iff.mp ((placed _ _).mp found)
  obtain rfl : key = m.key := named
  have known : m.key ∈ (groupByTrip messages).map Prod.fst :=
    List.mem_map.mpr ⟨_, groups_eq ▸ List.mem_of_getElem? stands, rfl⟩
  have nodup : (g.groups.map Prod.fst).Nodup := by
    rw [groups_eq, keys_groupByTrip]
    exact Lists.nodup_eraseDups _
  have hplace := (List.getElem?_eq_some_iff.mp stands).1
  refine ⟨{ g with groups := g.groups.set place (m.key, own ++ [m]) }, ?_, ?_, ?_⟩
  · simp only [Grouping.add, found, entry, stands, setEntry, if_pos hplace, bind, Except.bind]
    rfl
  · rw [groupByTrip_concat_of_mem known, ← groups_eq]
    exact set_eq_map nodup stands m
  · intro key other
    -- the groups have the keys that they had
    have keys : (g.groups.set place (m.key, own ++ [m])).map Prod.fst = g.groups.map Prod.fst := by
      have hkeys : place < (g.groups.map Prod.fst).length := by rwa [List.length_map]
      have same : (g.groups.map Prod.fst)[place] = m.key := by
        rw [List.getElem_map, (List.getElem?_eq_some_iff.mp stands).2]
      rw [List.map_set, ← same, List.set_getElem_self]
    rw [placed, ← List.getElem?_map, ← List.getElem?_map, keys]

/-- A key that is put behind the others has its place there. -/
theorem find?_insert_length {places : Table TripKey Nat} {keys : List TripKey}
    (placed : ∀ key place, places.find? key = some place ↔ keys[place]? = some key) {new : TripKey}
    (unknown : new ∉ keys) (key : TripKey) (place : Nat) :
    (places.insert new keys.length).find? key = some place ↔ (keys ++ [new])[place]? = some key := by
  have before := placed key place
  rw [Table.find?_insert, List.getElem?_append, List.getElem?_singleton]
  by_cases own : key = new
  · subst own
    rw [if_pos rfl, Option.some.injEq]
    split
    next front =>
      have absent : keys[place]? ≠ some key := fun h => unknown (List.mem_of_getElem? h)
      simp only [absent, iff_false]
      omega
    next behind =>
      by_cases last : place - keys.length = 0
      · simp only [last, if_true, iff_true]
        omega
      · simp only [last, if_false, reduceCtorEq, iff_false]
        omega
  · rw [if_neg own, before]
    split
    next => rfl
    next behind =>
      have other : ¬ new = key := fun h => own h.symm
      rw [List.getElem?_eq_none (Nat.not_lt.mp behind)]
      split
      next => simp [other]
      next => rfl

/-- A message that has no place opens a group behind the others. -/
theorem Holds.opens (h : g.Holds messages) {m : Message} (new : g.places.find? m.key = none) :
    ∃ g', g.add m = (.ok g' : Except (Halt ε) _) ∧ g'.Holds (messages ++ [m]) := by
  obtain ⟨groups_eq, placed⟩ := h
  have unknown : m.key ∉ g.groups.map Prod.fst := by
    intro known
    obtain ⟨place, hplace⟩ := List.getElem?_of_mem known
    rw [List.getElem?_map] at hplace
    cases new.symm.trans ((placed _ _).mpr hplace)
  refine ⟨⟨g.places.insert m.key g.groups.length, g.groups ++ [(m.key, [m])]⟩, ?_, ?_, ?_⟩
  · simp only [Grouping.add, new]
  · rw [groupByTrip_concat_of_not_mem (groups_eq ▸ unknown), groups_eq]
  · intro key place
    rw [← List.getElem?_map, List.map_append, ← List.length_map Prod.fst]
    refine find?_insert_length (fun key place => ?_) unknown key place
    rw [placed, List.getElem?_map]

/-- **A message finds the group at its place**, and joins it as in the groups of all messages. -/
theorem Holds.add (h : g.Holds messages) (m : Message) :
    ∃ g', g.add m = (.ok g' : Except (Halt ε) _) ∧ g'.Holds (messages ++ [m]) := by
  cases found : g.places.find? m.key with
  | some place => exact h.join found
  | none => exact h.opens found

theorem Holds.addAll (h : g.Holds messages) (rest : List Message) :
    ∃ g', g.addAll rest = (.ok g' : Except (Halt ε) _) ∧ g'.Holds (messages ++ rest) := by
  induction rest generalizing g messages with
  | nil =>
    rw [List.append_nil]
    exact ⟨g, rfl, h⟩
  | cons m rest ih =>
    obtain ⟨mid, added, hmid⟩ := h.add (ε := ε) m
    obtain ⟨last, all, hlast⟩ := ih hmid
    rw [List.append_assoc, List.singleton_append] at hlast
    refine ⟨last, ?_, hlast⟩
    rw [Grouping.addAll, added]
    exact all

end Grouping

/-- **Grouping by places finds the groups of the messages.** -/
theorem groupByPlace_eq (messages : List Message) :
    groupByPlace messages = (.ok (groupByTrip messages) : Except (Halt ε) _) := by
  obtain ⟨g, added, holds⟩ := Grouping.holds_empty.addAll (ε := ε) messages
  rw [groupByPlace, added, ← List.nil_append messages, ← holds.groups_eq]
  rfl

/-! ## Groups on columns -/

structure ColumnUpdater where
  store : ColumnStore
  tally : Tally
  limit : Nat

namespace ColumnUpdater

/-- The updater with the records of its store laid out in columns. -/
def of (u : LimitedUpdater) : ColumnUpdater := ⟨.of u.store, u.tally, u.limit⟩

def ofSchedule (schedule : Schedule) (limit : Nat) : ColumnUpdater :=
  ⟨.empty schedule, .empty, max limit 1⟩

/-- The updater after the messages of one group, and the summary of the group. -/
def applyGroup (u : ColumnUpdater) (counted : Summary) : List Message → ColumnUpdater × Summary
  | [] => (u, counted)
  | message :: rest =>
    match u.store.apply message with
    | .ok (store, _) =>
      applyGroup ⟨store, u.tally.countApplied, u.limit⟩ (counted.merge .ofApplied) rest
    | .error (.told (.rejected e)) =>
      applyGroup { u with tally := u.tally.countError e } (counted.merge (.ofError e)) rest
    | .error (.told .offCalendar) => (u, .ofFailure)
    | .error .crash => (u, .ofFailure)

/-- The updater after the groups, and the summary of them all. -/
def applyGroups (u : ColumnUpdater) : List (TripKey × List Message) → ColumnUpdater × Summary
  | [] => (u, .empty)
  | (_, messages) :: rest =>
    let (u, first) := u.applyGroup .empty messages
    let (u, others) := u.applyGroups rest
    (u, first.merge others)

/-- The groups are found before there are places for them. -/
def applyBatch (u : ColumnUpdater) (messages : List Message) :
    Except (Halt TooManyPlaces) (ColumnUpdater × Summary) := do
  let groups ← groupByPlace messages
  if mostPlaces < u.limit then throw (.told .tooManyPlaces) else return u.applyGroups groups

variable {schedule : Schedule} {u : Updater}

/-- **A group does to columns what it does to records**, and leaves a store that its messages lead
to. -/
theorem applyGroup_of (h : u.store.Reached schedule) (limit : Nat) (counted : Summary)
    (messages : List Message) :
    (u.applyGroup counted messages).1.store.Reached schedule ∧
      (of ⟨u, limit⟩).applyGroup counted messages =
        (of ⟨(u.applyGroup counted messages).1, limit⟩, (u.applyGroup counted messages).2) := by
  induction messages generalizing u counted with
  | nil => exact ⟨h, rfl⟩
  | cons m rest ih =>
    have applied : (of ⟨u, limit⟩).store.apply m = _ := ColumnStore.apply_of h m
    rw [Updater.applyGroup, applyGroup, applied]
    cases taken : u.store.apply m with
    | ok made => exact @ih ⟨made.1, u.tally.countApplied⟩ (h.apply taken) _
    | error failure =>
      cases failure with
      | rejected e => exact @ih { u with tally := u.tally.countError e } h _
      | offCalendar => exact ⟨h, rfl⟩

theorem applyGroups_of (h : u.store.Reached schedule) (limit : Nat)
    (groups : List (TripKey × List Message)) :
    (u.applyGroups groups).1.store.Reached schedule ∧
      (of ⟨u, limit⟩).applyGroups groups =
        (of ⟨(u.applyGroups groups).1, limit⟩, (u.applyGroups groups).2) := by
  induction groups generalizing u with
  | nil => exact ⟨h, rfl⟩
  | cons group rest ih =>
    obtain ⟨key, messages⟩ := group
    obtain ⟨reached, first⟩ := applyGroup_of h limit .empty messages
    obtain ⟨last, others⟩ := ih reached
    rw [Updater.applyGroups_cons]
    refine ⟨last, ?_⟩
    rw [applyGroups, first]
    simp only [others]

/-- **A batch does to columns what it does to records**: no group of it crashes, and it is not begun
in the same cases. -/
theorem applyBatch_of {u : LimitedUpdater} (h : u.store.Reached schedule)
    (messages : List Message) :
    (of u).applyBatch messages =
      lift ((u.applyBatch messages).map fun (u, summary) => (of u, summary)) := by
  have same := (applyGroups_of h u.limit (groupByTrip messages)).2
  rw [applyBatch, groupByPlace_eq, LimitedUpdater.applyBatch]
  show (if mostPlaces < u.limit then _ else _) = _
  split
  next => rfl
  next => exact congrArg Except.ok same

theorem reached_applyBatch {u : LimitedUpdater} (h : u.store.Reached schedule)
    (messages : List Message) : (u.toUpdater.applyBatch messages).1.store.Reached schedule :=
  (applyGroups_of h u.limit (groupByTrip messages)).1

end ColumnUpdater

end LiveTimetable
