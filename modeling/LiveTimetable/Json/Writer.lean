import LiveTimetable.Json.Value
import LiveTimetable.Text.Basic

/-!
# Writing JSON

A value on one line, or laid out with one item a line. Both write members in their order and leave
all characters as they are that a string may hold as they are.
-/

namespace LiveTimetable.Json

open LiveTimetable.Text

def hexChar (n : Nat) : Char := Nat.digitChar (n % 16)

/-- A character inside a string: quotes, backslashes and control characters are escaped. -/
def writeChar (c : Char) : List Char :=
  match c with
  | '"' => ['\\', '"']
  | '\\' => ['\\', '\\']
  | '\x08' => ['\\', 'b']
  | '\x0c' => ['\\', 'f']
  | '\n' => ['\\', 'n']
  | '\r' => ['\\', 'r']
  | '\t' => ['\\', 't']
  | c =>
    if c.toNat < 0x20 then ['\\', 'u', '0', '0', hexChar (c.toNat / 16), hexChar c.toNat]
    else [c]

/-- A string in quotes. One that has no text is written empty. -/
def writeText (s : Json.Text) : String :=
  "\"" ++ String.ofList ((s.getD "").toList.flatMap writeChar) ++ "\""

def writeNumeral : Numeral → String
  | .integer n => String.ofList (Decimal.signed n)
  | .decimal negative coefficient exponent =>
    (if negative then "-" else "") ++ String.ofList (Decimal.digits coefficient) ++ "e" ++
      String.ofList (Decimal.signed exponent)

mutual

/-- The value on one line. -/
def line : Json → String
  | .null => "null"
  | .bool b => if b then "true" else "false"
  | .number n => writeNumeral n
  | .string s => writeText s
  | .array items => "[" ++ lineItems items ++ "]"
  | .object members => "\x7b" ++ lineMembers members ++ "\x7d"

def lineItems : List Json → String
  | [] => ""
  | [item] => item.line
  | item :: rest => item.line ++ "," ++ lineItems rest

def lineMembers : List (Json.Text × Json) → String
  | [] => ""
  | [(key, value)] => writeText key ++ ":" ++ value.line
  | (key, value) :: rest => writeText key ++ ":" ++ value.line ++ "," ++ lineMembers rest

end

def indent (depth : Nat) : String := "\n" ++ String.ofList (List.replicate (2 * depth) ' ')

mutual

/-- The value over several lines, two blanks deeper for each array or object around it. -/
def page (depth : Nat) : Json → String
  | .array (item :: items) =>
    "[" ++ pageItems (depth + 1) (item :: items) ++ indent depth ++ "]"
  | .object (member :: members) =>
    "\x7b" ++ pageMembers (depth + 1) (member :: members) ++ indent depth ++ "\x7d"
  | value => value.line

def pageItems (depth : Nat) : List Json → String
  | [] => ""
  | [item] => indent depth ++ item.page depth
  | item :: rest => indent depth ++ item.page depth ++ "," ++ pageItems depth rest

def pageMembers (depth : Nat) : List (Json.Text × Json) → String
  | [] => ""
  | [(key, value)] => indent depth ++ writeText key ++ ": " ++ value.page depth
  | (key, value) :: rest =>
    indent depth ++ writeText key ++ ": " ++ value.page depth ++ "," ++ pageMembers depth rest

end

end LiveTimetable.Json
