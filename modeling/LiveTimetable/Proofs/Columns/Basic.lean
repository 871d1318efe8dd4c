import LiveTimetable.Proofs.Outcome
import LiveTimetable.Timetable.Trip

/-!
# Records in columns

A record can be kept in columns: all arrivals, all departures, all rules for getting on, and so on,
each with an entry for every stop. A stop is then a position, and a position is looked up in each
column on its own. Nothing in the columns says that it is found there, nor that the difference of
two times is held. A calculation that relies on it without a look *crashes* where it is not so.

`TripColumns.of` lays a record out. The lemmas here say what reading and writing at a position
does to a record that is given as the stops in front of the position, the one there, and those
behind it: proofs about a walk along the columns are then inductions on the stops.
-/

namespace LiveTimetable

/-- Why a calculation on columns has no value: it crashed, or it says why. -/
inductive Halt (ε : Type)
  | crash
  | told (reason : ε)
deriving DecidableEq, Repr

/-- The same with its reason in other words. -/
def Halt.map {ε ε' : Type} (f : ε → ε') : Halt ε → Halt ε'
  | crash => crash
  | told reason => told (f reason)

namespace Columns

variable {α β ε : Type}

/-- The entry at a position. -/
def entry (column : List α) (position : Nat) : Except (Halt ε) α :=
  match column[position]? with
  | some a => .ok a
  | none => .error .crash

/-- The column with another entry at a position. -/
def setEntry (column : List α) (position : Nat) (a : α) : Except (Halt ε) (List α) :=
  if position < column.length then .ok (column.set position a) else .error .crash

/-- The difference of two times, taken to be held. -/
def minus (a b : Seconds) : Except (Halt ε) Int :=
  if Seconds.Held (a.val - b.val) then .ok (a.val - b.val) else .error .crash

/-- The outcome of a calculation that reads no columns. -/
def lift (x : Except ε α) : Except (Halt ε) α := x.mapError .told

/-- The columns after a change that is made only in some cases. -/
def given (case : Bool) (changed : Except (Halt ε) α) (before : α) : Except (Halt ε) α :=
  if case then changed else .ok before

@[simp] theorem lift_ok (a : α) : (lift (.ok a) : Except (Halt ε) α) = .ok a := rfl

@[simp] theorem lift_error (e : ε) : (lift (.error e) : Except (Halt ε) α) = .error (.told e) := rfl

theorem mapError_lift {ε' : Type} (f : ε → ε') (x : Except ε α) :
    (lift x).mapError (Halt.map f) = lift (x.mapError f) := by
  cases x <;> rfl

/-- A list of calculations that read no columns is one itself. -/
theorem mapM_lift {γ : Type} {f : α → Except ε β} {g : α → Except (Halt ε) γ} {laid : β → γ}
    {as : List α} (same : ∀ a ∈ as, g a = lift ((f a).map laid)) :
    as.mapM g = lift ((as.mapM f).map (List.map laid)) := by
  induction as with
  | nil => rfl
  | cons a rest ih =>
    rw [List.mapM_cons, List.mapM_cons, same a List.mem_cons_self,
      ih fun a ha => same a (List.mem_cons_of_mem _ ha)]
    cases f a with
    | error e => rfl
    | ok b =>
      cases rest.mapM f with
      | error e => rfl
      | ok bs => rfl

variable {front back : List α} {position : Nat}

theorem entry_append (a : α) (h : front.length = position) :
    entry (front ++ a :: back) position = (.ok a : Except (Halt ε) α) := by
  subst h
  simp [entry]

theorem setEntry_append (a b : α) (h : front.length = position) :
    setEntry (front ++ a :: back) position b = (.ok (front ++ b :: back) : Except (Halt ε) (List α)) := by
  subst h
  simp [setEntry]

/-- The same for a column that one field of the entries makes. -/
theorem entry_map (f : α → β) (a : α) (h : front.length = position) :
    entry ((front ++ a :: back).map f) position = (.ok (f a) : Except (Halt ε) β) := by
  rw [List.map_append, List.map_cons]
  exact entry_append (f a) (by rw [List.length_map, h])

theorem setEntry_map (f : α → β) (a : α) (b : β) (h : front.length = position) :
    setEntry ((front ++ a :: back).map f) position b =
      (.ok (front.map f ++ b :: back.map f) : Except (Halt ε) (List β)) := by
  rw [List.map_append, List.map_cons]
  exact setEntry_append (f a) b (by rw [List.length_map, h])

end Columns

open Columns

/-! ## Patterns -/

structure PatternColumns where
  stops : List Stop
  pickups : List BoardingRule
  dropOffs : List BoardingRule
  headsigns : List (Option String)
deriving DecidableEq, Repr

namespace PatternColumns

variable {ε : Type}

def of (p : Pattern) : PatternColumns :=
  ⟨p.map (·.stop), p.map (·.pickup), p.map (·.dropOff), p.map (·.headsign)⟩

/-- Every column has as many entries. -/
structure Full (c : PatternColumns) (count : Nat) : Prop where
  stops : c.stops.length = count
  pickups : c.pickups.length = count
  dropOffs : c.dropOffs.length = count
  headsigns : c.headsigns.length = count

theorem full_of (p : Pattern) : (of p).Full p.length := by
  constructor <;> exact List.length_map ..

def setStop (c : PatternColumns) (position : Nat) (stop : Stop) :
    Except (Halt ε) PatternColumns := do
  return { c with stops := ← setEntry c.stops position stop }

def setPickup (c : PatternColumns) (position : Nat) (rule : BoardingRule) :
    Except (Halt ε) PatternColumns := do
  return { c with pickups := ← setEntry c.pickups position rule }

def setDropOff (c : PatternColumns) (position : Nat) (rule : BoardingRule) :
    Except (Halt ε) PatternColumns := do
  return { c with dropOffs := ← setEntry c.dropOffs position rule }

def setHeadsign (c : PatternColumns) (position : Nat) (headsign : String) :
    Except (Halt ε) PatternColumns := do
  return { c with headsigns := ← setEntry c.headsigns position (some headsign) }

def cancel (c : PatternColumns) (position : Nat) : Except (Halt ε) PatternColumns := do
  (← c.setPickup position .cancelled).setDropOff position .cancelled

/-- Nobody gets on or off at the position. -/
def isPassedBy (c : PatternColumns) (position : Nat) : Except (Halt ε) Bool := do
  return (← entry c.pickups position) = .notOffered && (← entry c.dropOffs position) = .notOffered

/-- The same stops under the same rules, column by column. -/
def sameService (a b : PatternColumns) : Bool :=
  a.stops = b.stops && a.pickups = b.pickups && a.dropOffs = b.dropOffs

theorem sameService_of (p q : Pattern) : (of p).sameService (of q) = p.sameService q := by
  induction p generalizing q with
  | nil => cases q <;> simp [sameService, of, Pattern.sameService]
  | cons v p ih =>
    cases q with
    | nil => simp [sameService, of, Pattern.sameService]
    | cons w q =>
      rw [Pattern.sameService, ← ih]
      simp only [sameService, of, List.map_cons, List.cons.injEq, Visit.SameService]
      grind

section At

variable {front back : List Visit} {v : Visit} {position : Nat}

theorem setStop_of (stop : Stop) (h : front.length = position) :
    (of (front ++ v :: back)).setStop position stop =
      (.ok (of (front ++ { v with stop } :: back)) : Except (Halt ε) _) := by
  simp only [setStop, of, setEntry_map _ v _ h]
  simp [bind, Except.bind, pure, Except.pure]

theorem setPickup_of (pickup : BoardingRule) (h : front.length = position) :
    (of (front ++ v :: back)).setPickup position pickup =
      (.ok (of (front ++ { v with pickup } :: back)) : Except (Halt ε) _) := by
  simp only [setPickup, of, setEntry_map _ v _ h]
  simp [bind, Except.bind, pure, Except.pure]

theorem setDropOff_of (dropOff : BoardingRule) (h : front.length = position) :
    (of (front ++ v :: back)).setDropOff position dropOff =
      (.ok (of (front ++ { v with dropOff } :: back)) : Except (Halt ε) _) := by
  simp only [setDropOff, of, setEntry_map _ v _ h]
  simp [bind, Except.bind, pure, Except.pure]

theorem setHeadsign_of (headsign : String) (h : front.length = position) :
    (of (front ++ v :: back)).setHeadsign position headsign =
      (.ok (of (front ++ { v with headsign := some headsign } :: back)) : Except (Halt ε) _) := by
  simp only [setHeadsign, of, setEntry_map _ v _ h]
  simp [bind, Except.bind, pure, Except.pure]

theorem cancel_of (h : front.length = position) :
    (of (front ++ v :: back)).cancel position =
      (.ok (of (front ++ v.cancel :: back)) : Except (Halt ε) _) := by
  simp only [cancel, setPickup_of _ h, bind, Except.bind, setDropOff_of _ h]
  rfl

theorem isPassedBy_of (h : front.length = position) :
    (of (front ++ v :: back)).isPassedBy position = (.ok v.isPassedBy : Except (Halt ε) _) := by
  simp only [isPassedBy, of, entry_map _ v h]
  rfl

end At

end PatternColumns

/-! ## Records -/

structure TripColumns where
  tripId : String
  serviceCode : Int
  state : RealTimeState
  pattern : PatternColumns
  scheduledArrivals : List Seconds
  scheduledDepartures : List Seconds
  arrivals : List Seconds
  departures : List Seconds
  recorded : List Bool
  cancelled : List Bool
  inaccurate : List Bool
deriving DecidableEq, Repr

namespace TripColumns

variable {ε : Type}

def of (r : TripRecord) : TripColumns where
  tripId := r.tripId
  serviceCode := r.serviceCode
  state := r.state
  pattern := .of r.pattern
  scheduledArrivals := r.stops.map (·.scheduled.arrival)
  scheduledDepartures := r.stops.map (·.scheduled.departure)
  arrivals := r.stops.map (·.passage.arrival)
  departures := r.stops.map (·.passage.departure)
  recorded := r.stops.map (·.recorded)
  cancelled := r.stops.map (·.cancelled)
  inaccurate := r.stops.map (·.inaccurate)

def numStops (c : TripColumns) : Nat := c.arrivals.length

def scheduledAt (c : TripColumns) (position : Nat) : Except (Halt ε) Passage := do
  return ⟨← entry c.scheduledArrivals position, ← entry c.scheduledDepartures position⟩

def passageAt (c : TripColumns) (position : Nat) : Except (Halt ε) Passage := do
  return ⟨← entry c.arrivals position, ← entry c.departures position⟩

/-- The delay at a position: two differences that nobody has checked. -/
def delayAt (c : TripColumns) (position : Nat) : Except (Halt ε) Delay := do
  let passage ← c.passageAt position
  let scheduled ← c.scheduledAt position
  return ⟨← minus passage.arrival scheduled.arrival, ← minus passage.departure scheduled.departure⟩

def setPassage (c : TripColumns) (position : Nat) (passage : Passage) :
    Except (Halt ε) TripColumns := do
  return { c with
    arrivals := ← setEntry c.arrivals position passage.arrival
    departures := ← setEntry c.departures position passage.departure }

/-- The columns with a delay at a position, if its times are then held. -/
def setDelay? (c : TripColumns) (position : Nat) (delay : Delay) :
    Except (Halt ε) (Option TripColumns) := do
  match (← c.scheduledAt position).delayed? delay with
  | none => return none
  | some passage => return some (← c.setPassage position passage)

def setRecorded (c : TripColumns) (position : Nat) (recorded : Bool) :
    Except (Halt ε) TripColumns := do
  return { c with recorded := ← setEntry c.recorded position recorded }

def setCancelled (c : TripColumns) (position : Nat) : Except (Halt ε) TripColumns := do
  return { c with cancelled := ← setEntry c.cancelled position true }

def setInaccurate (c : TripColumns) (position : Nat) (inaccurate : Bool) :
    Except (Halt ε) TripColumns := do
  return { c with inaccurate := ← setEntry c.inaccurate position inaccurate }

@[simp] theorem numStops_of (r : TripRecord) : (of r).numStops = r.stops.length :=
  List.length_map ..

/-- **Every column has as many entries**, those of the pattern among them. -/
structure Full (c : TripColumns) (count : Nat) : Prop where
  pattern : c.pattern.Full count
  scheduledArrivals : c.scheduledArrivals.length = count
  scheduledDepartures : c.scheduledDepartures.length = count
  arrivals : c.arrivals.length = count
  departures : c.departures.length = count
  recorded : c.recorded.length = count
  cancelled : c.cancelled.length = count
  inaccurate : c.inaccurate.length = count

theorem full_of (r : TripRecord) : (of r).Full r.stops.length := by
  have pattern : (PatternColumns.of r.pattern).Full r.stops.length := by
    have full := PatternColumns.full_of r.pattern
    rwa [TripRecord.pattern, List.length_map] at full
  constructor
  · exact pattern
  all_goals exact List.length_map ..

section At

variable {r : TripRecord} {front back : List StopRecord} {s : StopRecord} {position : Nat}
  {α : Type}

/-- Whatever is kept of each stop is found at its position. -/
theorem entry_stops (f : StopRecord → α) (hr : r.stops = front ++ s :: back)
    (h : front.length = position) :
    entry (r.stops.map f) position = (.ok (f s) : Except (Halt ε) _) := by
  rw [hr]
  exact entry_map f s h

/-- The same for what the pattern keeps. -/
theorem entry_visits (f : Visit → α) (hr : r.stops = front ++ s :: back)
    (h : front.length = position) :
    entry (r.pattern.map f) position = (.ok (f s.visit) : Except (Halt ε) _) := by
  rw [TripRecord.pattern, List.map_map]
  exact entry_stops (f ∘ (·.visit)) hr h

theorem scheduledAt_of (hr : r.stops = front ++ s :: back) (h : front.length = position) :
    (of r).scheduledAt position = (.ok s.scheduled : Except (Halt ε) _) := by
  simp only [scheduledAt, of, entry_stops _ hr h]
  rfl

theorem passageAt_of (hr : r.stops = front ++ s :: back) (h : front.length = position) :
    (of r).passageAt position = (.ok s.passage : Except (Halt ε) _) := by
  simp only [passageAt, of, entry_stops _ hr h]
  rfl

theorem delayAt_of (held : s.delay.Held) (hr : r.stops = front ++ s :: back)
    (h : front.length = position) :
    (of r).delayAt position = (.ok s.delay : Except (Halt ε) _) := by
  have arrival : Seconds.Held (s.passage.arrival.val - s.scheduled.arrival.val) := held.1
  have departure : Seconds.Held (s.passage.departure.val - s.scheduled.departure.val) := held.2
  simp only [delayAt, passageAt_of hr h, scheduledAt_of hr h, bind, Except.bind, minus, arrival,
    departure, if_true]
  rfl

theorem setPassage_of (passage : Passage) (h : front.length = position) :
    (of { r with stops := front ++ s :: back }).setPassage position passage =
      (.ok (of { r with stops := front ++ { s with passage } :: back }) : Except (Halt ε) _) := by
  simp only [setPassage, of, setEntry_map _ s _ h]
  simp [bind, Except.bind, pure, Except.pure, TripRecord.pattern]

theorem setDelay?_of (delay : Delay) (h : front.length = position) :
    (of { r with stops := front ++ s :: back }).setDelay? position delay =
      (.ok ((s.withDelay? delay).map fun s => of { r with stops := front ++ s :: back }) :
        Except (Halt ε) _) := by
  have scheduled : (of { r with stops := front ++ s :: back }).scheduledAt position =
      (.ok s.scheduled : Except (Halt ε) _) := scheduledAt_of rfl h
  simp only [setDelay?, scheduled, bind, Except.bind, StopRecord.withDelay?]
  cases s.scheduled.delayed? delay with
  | none => rfl
  | some passage =>
    simp only [setPassage_of passage h]
    rfl

theorem setRecorded_of (recorded : Bool) (h : front.length = position) :
    (of { r with stops := front ++ s :: back }).setRecorded position recorded =
      (.ok (of { r with stops := front ++ { s with recorded } :: back }) : Except (Halt ε) _) := by
  simp only [setRecorded, of, setEntry_map _ s _ h]
  simp [bind, Except.bind, pure, Except.pure, TripRecord.pattern]

theorem setCancelled_of (h : front.length = position) :
    (of { r with stops := front ++ s :: back }).setCancelled position =
      (.ok (of { r with stops := front ++ { s with cancelled := true } :: back }) :
        Except (Halt ε) _) := by
  simp only [setCancelled, of, setEntry_map _ s _ h]
  simp [bind, Except.bind, pure, Except.pure, TripRecord.pattern]

theorem setInaccurate_of (inaccurate : Bool) (h : front.length = position) :
    (of { r with stops := front ++ s :: back }).setInaccurate position inaccurate =
      (.ok (of { r with stops := front ++ { s with inaccurate } :: back }) : Except (Halt ε) _) := by
  simp only [setInaccurate, of, setEntry_map _ s _ h]
  simp [bind, Except.bind, pure, Except.pure, TripRecord.pattern]

end At

end TripColumns

end LiveTimetable
