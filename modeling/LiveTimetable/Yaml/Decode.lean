import LiveTimetable.Text.Basic
import LiveTimetable.Yaml.Node

/-!
# Decoding YAML nodes

Any scalar is a text, in the words in which it is written. Numbers, truth values and null are plain
scalars only: a quoted one is always a text.

A record is a mapping from the names of its fields, each of them once; names that are not known are
ignored. A collection that is left out is an empty one.
-/

namespace LiveTimetable.Yaml.Node

open Text

/-! ## Scalars -/

def asText : Node → Option String
  | .scalar _ text => some text
  | _ => none

def asPlain : Node → Option String
  | .scalar true text => some text
  | _ => none

/-- The radixes other than ten, with the letters that announce them after a zero. -/
def radixes : List (Char × Nat) := [('x', 16), ('o', 8), ('b', 2)]

/-- The number that digits spell. Leading zeros are for other radixes only. -/
def natural? : List Char → Option Nat
  | '0' :: [] => some 0
  | '0' :: c :: digits => do Radix.natural? (← radixes.lookup c) digits
  | digits => Decimal.natural? digits

/-- A number up to a limit, perhaps with a plus sign in front. -/
def asCount (limit : Nat) (n : Node) : Option Nat := do
  let cs ← n.asPlain
  let count ← natural? (match cs.toList with
    | '+' :: rest => rest
    | rest => rest)
  if count ≤ limit then some count else none

def asFlag (n : Node) : Option Bool := do
  let word ← n.asPlain
  if ["true", "True", "TRUE"].contains word then some true
  else if ["false", "False", "FALSE"].contains word then some false
  else none

def isNull (n : Node) : Bool :=
  (n.asPlain.map ["", "~", "null", "Null", "NULL"].contains).getD false

/-- A value that may be null. -/
def asOptional (decode : Node → Option α) (n : Node) : Option (Option α) :=
  if n.isNull then some none else (decode n).map some

/-! ## Collections -/

def asList (decode : Node → Option α) : Node → Option (List α)
  | .sequence items => items.mapM decode
  | .scalar true "" => some []
  | _ => none

/-- The fields of a record under their names; a field that is not given is missing. -/
def asFields (names : List String) : Node → Option (List (String × Node))
  | .mapping entries => do
    let fields ← entries.mapM fun (key, value) => key.asText.map (·, value)
    let known := fields.filter fun (key, _) => names.contains key
    if (known.map Prod.fst).Nodup then some known else none
  | .scalar true "" => some []
  | _ => none

def required (fields : List (String × Node)) (name : String) (decode : Node → Option α) :
    Option α := do
  decode (← fields.lookup name)

def defaulted (fields : List (String × Node)) (name : String) (decode : Node → Option α)
    (default : α) : Option α :=
  match fields.lookup name with
  | none => some default
  | some n => decode n

end LiveTimetable.Yaml.Node
