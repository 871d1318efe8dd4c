import LiveTimetable.Json.Decode

/-!
# Stops

A stop is a place where a trip calls; several stops may belong to one station. Within a station
stops stand in for each other: a vehicle that was to call at one platform may call at another.
-/

namespace LiveTimetable

structure Stop where
  id : String
  station : Option String
deriving DecidableEq, Repr

/-- What is known of stops, by their id. -/
abbrev StopLookup := String → Option Stop

/-- How a call serves a scheduled stop: at the stop itself, or at another one of its station. -/
inductive Serving
  | itself
  | substitute (stop : Stop)
deriving DecidableEq, Repr

def Serving.substitute? : Serving → Option Stop
  | itself => none
  | substitute stop => some stop

namespace Stop

/-- Two stops of one station. A stop outside all stations shares none, not even with itself. -/
def sharesStation (a b : Stop) : Bool :=
  match a.station, b.station with
  | some x, some y => x = y
  | _, _ => false

/-- How a call that names a stop by `ref` serves the scheduled stop, if it does. Only a known stop
can stand in for another. -/
def serving? (scheduled : Stop) (lookup : StopLookup) (ref : String) : Option Serving :=
  if scheduled.id = ref then some .itself
  else
    match lookup ref with
    | some other => if scheduled.sharesStation other then some (.substitute other) else none
    | none => none

theorem sharesStation_iff {a b : Stop} :
    a.sharesStation b ↔ ∃ station, a.station = some station ∧ b.station = some station := by
  unfold sharesStation
  cases a.station <;> cases b.station <;> simp [eq_comm]

/-! ## As JSON -/

open Json

def toJson (s : Stop) : Json := record [("id", text s.id), ("station", opt text s.station)]

def ofJson? (j : Json) : Option Stop := do
  let ms ← j.asFields ["id", "station"]
  return ⟨← ms.required "id" asString, ← ms.optional "station" asString⟩

end Stop

end LiveTimetable
