import LiveTimetable.Json.Decode

/-!
# Boarding rules

What passengers may do at a call: the same four rules hold for getting on and for getting off. A
feed revises a rule by the activity that it reports for a call.
-/

namespace LiveTimetable

inductive BoardingRule
  | scheduled
  /-- The timetable does not offer it here. -/
  | notOffered
  | byArrangement
  | cancelled
deriving DecidableEq, Repr

/-- What a feed reports of getting on or off at a call. -/
inductive Activity
  | allowed
  | refused
  | passedThrough
deriving DecidableEq, Repr

namespace BoardingRule

def all : List BoardingRule := [scheduled, notOffered, byArrangement, cancelled]

def code : BoardingRule → String
  | scheduled => "scheduled"
  | notOffered => "none"
  | byArrangement => "coordinate_with_driver"
  | cancelled => "cancelled"

def ofCode? (code : String) : Option BoardingRule := all.find? (·.code = code)

/-- Passengers need no arrangement. -/
def needsNothing (r : BoardingRule) : Bool := r = scheduled

/-- Passengers can get on or off, if only by arrangement. -/
def isOpen (r : BoardingRule) : Bool := !(r = notOffered || r = cancelled)

/-- The rule that an activity puts in place of the current one; none if it stays. Activities that
close a call always set a rule, and one that opens it only lifts a restriction. -/
def revised? (current : BoardingRule) : Activity → Option BoardingRule
  | .allowed => if current.needsNothing then none else some scheduled
  | .refused => some notOffered
  | .passedThrough => some cancelled

/-- The rule after a call that may report an activity. -/
def after (current : BoardingRule) (activity : Option Activity) : BoardingRule :=
  (activity.bind current.revised?).getD current

@[simp] theorem ofCode?_code (r : BoardingRule) : ofCode? r.code = some r := by
  cases r <;> decide

@[simp] theorem after_none (r : BoardingRule) : r.after none = r := rfl

def toJson (r : BoardingRule) : Json := Json.text r.code

/-- A rule is given by its code. One that is not known is refused. -/
def ofJson? (j : Json) : Option BoardingRule := do ofCode? (← j.asCode false)

end BoardingRule

namespace Activity

/-- The two sides of a call, each with its own codes for an activity. -/
inductive Side
  | arrival
  | departure
deriving DecidableEq, Repr

def all : List Activity := [allowed, refused, passedThrough]

def code : Side → Activity → String
  | .arrival, allowed => "alighting"
  | .arrival, refused => "noAlighting"
  | .departure, allowed => "boarding"
  | .departure, refused => "noBoarding"
  | _, passedThrough => "passThru"

def ofCode? (side : Side) (code : String) : Option Activity := all.find? (·.code side = code)

/-- What is said of a code that is none. -/
def unknownCode : Side → String → String
  | .arrival, code => "unknown arrival boarding activity: " ++ code
  | .departure, code => "unknown departure boarding activity: " ++ code

@[simp] theorem ofCode?_code (side : Side) (a : Activity) : ofCode? side (a.code side) = some a := by
  cases side <;> cases a <;> decide

end Activity

end LiveTimetable
