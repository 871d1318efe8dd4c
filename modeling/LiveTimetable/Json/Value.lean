import LiveTimetable.Json.Numeral

/-!
# JSON values

A value as a text spells it, before anything is made of it: numbers are kept exact, and members of
an object in their order with their repetitions. What a reader refuses only when it needs the
value is kept too: a string with half a surrogate pair, a number too large for a double, nesting
without a limit. `Json.sound` says when a value is free of these.
-/

namespace LiveTimetable

/-- The text of a string, or nothing if its escapes leave half of a surrogate pair. -/
abbrev Json.Text := Option String

inductive Json
  | null
  | bool (value : Bool)
  | number (value : Numeral)
  | string (text : Json.Text)
  | array (items : List Json)
  | object (members : List (Json.Text × Json))
deriving Repr

namespace Json

def text (s : String) : Json := .string (some s)

def int (n : Int) : Json := .number (.integer n)

/-- An absent value is written as null. -/
def opt (write : α → Json) : Option α → Json
  | none => .null
  | some a => write a

def record (members : List (String × Json)) : Json :=
  .object (members.map fun (key, value) => (some key, value))

mutual

/-- The value can be kept as a whole: its strings are texts, its numbers finite, and its arrays and
objects nested at most `depth` deep. -/
def sound (depth : Nat) : Json → Bool
  | .null => true
  | .bool _ => true
  | .number n => n.finite
  | .string s => s.isSome
  | .array items => decide (0 < depth) && soundItems (depth - 1) items
  | .object members => decide (0 < depth) && soundMembers (depth - 1) members

def soundItems (depth : Nat) : List Json → Bool
  | [] => true
  | item :: rest => item.sound depth && soundItems depth rest

def soundMembers (depth : Nat) : List (Json.Text × Json) → Bool
  | [] => true
  | (key, value) :: rest => key.isSome && value.sound depth && soundMembers depth rest

end

/-- The nesting that a text may have where its values are kept. -/
def depthLimit : Nat := 127

end Json

end LiveTimetable
