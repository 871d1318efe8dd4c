import LiveTimetable.Json.Value

/-!
# Decoding JSON values

A decoder either makes a domain value of a JSON value or refuses it; why it refuses is not told.

The members of an object are looked up by key. A key that is asked for may occur once at most; any
other key is ignored with its value, whatever that holds, but must itself be a text.

A record may be spelled in two ways: as an object, or as an array of its values in the order of its
fields, of which the last ones may be left out. A code may be spelled in two ways as well: as a
text, or as the only key of an object.
-/

namespace LiveTimetable.Json

/-! ## Scalars -/

def asString : Json → Option String
  | .string s => s
  | _ => none

def asBool : Json → Option Bool
  | .bool b => some b
  | _ => none

/-- An integer within bounds. A number with a fraction or an exponent is none, whatever its
value. -/
def asIntWithin (least greatest : Int) : Json → Option Int
  | .number (.integer n) => if least ≤ n ∧ n ≤ greatest then some n else none
  | _ => none

/-- An integer that 32 signed bits hold. -/
def asInt32 : Json → Option Int := asIntWithin (-2147483648) 2147483647

/-- A count that 64 bits hold. -/
def asCount (j : Json) : Option Nat := (asIntWithin 0 18446744073709551615 j).map Int.toNat

/-- Nothing stands under a code that is spelled as a key: null, or an empty object in a value that
was `kept` as a whole before it is decoded. -/
def isNothing (kept : Bool) : Json → Bool
  | .null => true
  | .object [] => kept
  | _ => false

/-- The code of a value that has no parts. -/
def asCode (kept : Bool) : Json → Option String
  | .string s => s
  | .object [(key, value)] => if value.isNothing kept then key else none
  | _ => none

/-! ## Arrays and objects -/

def asList (decode : Json → Option α) : Json → Option (List α)
  | .array items => items.mapM decode
  | _ => none

/-- The members of an object whose keys are all texts. -/
abbrev Members := List (String × Json)

def asMembers : Json → Option Members
  | .object members => members.mapM fun (key, value) => key.map (·, value)
  | _ => none

/-- The members of a record with the given fields. -/
def asFields (fields : List String) : Json → Option Members
  | .array items => if items.length ≤ fields.length then some (fields.zip items) else none
  | j => j.asMembers

namespace Members

/-- The value of a key, if any; refused when the key occurs twice. -/
def at? (ms : Members) (key : String) : Option (Option Json) :=
  match ms.filter (·.1 = key) with
  | [] => some none
  | [(_, value)] => some (some value)
  | _ => none

/-- A member that must be there. -/
def required (ms : Members) (key : String) (decode : Json → Option α) : Option α := do
  decode (← (← ms.at? key))

/-- A member that may be missing or null. -/
def optional (ms : Members) (key : String) (decode : Json → Option α) : Option (Option α) := do
  match ← ms.at? key with
  | none => return none
  | some .null => return none
  | some value => return some (← decode value)

/-- A member that may be missing, but not null. -/
def defaulted (ms : Members) (key : String) (decode : Json → Option α) (default : α) :
    Option α := do
  match ← ms.at? key with
  | none => return default
  | some value => decode value

end Members

/-- What tells the kind of a record: a member, or the first item of an array. -/
def tag? (key : String) : Json → Option String
  | .array items => items.head?.bind asString
  | j => do (← j.asMembers).required key asString

end LiveTimetable.Json
