import LiveTimetable.Calendar.Date
import LiveTimetable.Text.Basic

/-!
# Dates in text

A date is written `2024-05-01`; a year outside 0 to 9999 has its sign and at least four digits.
Reading is more generous: blanks may stand before each part, month and day may have one digit, and
a year with a sign may have any number of digits, one without at most four.
-/

namespace LiveTimetable

open Text

namespace DateText

/-- A number of at most `limit` digits, with blanks in front. -/
def number? (limit : Nat) (cs : List Char) : Option (Nat × List Char) :=
  Decimal.read? limit (trimStart cs)

/-- One certain character, with blanks in front. -/
def mark? (c : Char) (cs : List Char) : Option (List Char) :=
  match trimStart cs with
  | x :: rest => if x = c then some rest else none
  | [] => none

def year? (cs : List Char) : Option (Int × List Char) :=
  match trimStart cs with
  | '-' :: rest => (Decimal.read? rest.length rest).map fun (n, rest) => (-(n : Int), rest)
  | '+' :: rest => (Decimal.read? rest.length rest).map fun (n, rest) => ((n : Int), rest)
  | rest => (Decimal.read? 4 rest).map fun (n, rest) => ((n : Int), rest)

/-- A civil date at the start of a text, whether or not the calendar has it. -/
def read? (cs : List Char) : Option (Civil × List Char) := do
  let (year, cs) ← year? cs
  let cs ← mark? '-' cs
  let (month, cs) ← number? 2 cs
  let cs ← mark? '-' cs
  let (day, cs) ← number? 2 cs
  return (⟨year, month, day⟩, cs)

def writeYear (year : Int) : List Char :=
  if 0 ≤ year ∧ year ≤ 9999 then Decimal.padded 4 year.natAbs
  else (if year < 0 then '-' else '+') :: Decimal.padded 4 year.natAbs

def write (c : Civil) : List Char :=
  writeYear c.year ++ '-' :: (Decimal.padded 2 c.month ++ '-' :: Decimal.padded 2 c.day)

end DateText

namespace Date

/-- The date that a text spells, with nothing but blanks after it. -/
def ofText? (s : String) : Option Date := do
  let (civil, rest) ← DateText.read? s.toList
  if rest.all isBlank then ofCivil? civil else none

def text (d : Date) : String := String.ofList (DateText.write d.civil)

end Date

end LiveTimetable
