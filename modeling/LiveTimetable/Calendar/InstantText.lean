import LiveTimetable.Calendar.DateText
import LiveTimetable.Calendar.Instant

/-!
# Instants in text

An instant is written as its local date and time with a fraction of three, six or nine digits,
none if it is zero, and its offset: `2024-05-01T08:10:30+02:00`. A leap second is written as
second 60. An offset is written to the nearest minute, so not every instant can be told from its
text.

Reading accepts blanks before every part, one or two digits for hour, minute and second, a space
in place of the `T`, any number of digits of a fraction (those past the ninth are dropped) and an
offset with or without its colon.
-/

namespace LiveTimetable

open Text DateText

namespace InstantText

/-! ## Reading -/

/-- What separates the date from the time of day: a letter T or a space. No other blank does. -/
def separator? : List Char → Option (List Char)
  | [] => none
  | c :: rest => if c = 'T' ∨ c = 't' ∨ c = ' ' then some rest else none

/-- The nanoseconds of an optional fraction. A point needs a digit after it. -/
def fraction? : List Char → Option (Nat × List Char)
  | '.' :: rest =>
    (Decimal.read? 9 rest).map fun (n, _) =>
      let digits := rest.takeWhile Char.isDigit
      (n * Nat.pow 10 (9 - digits.length), rest.drop digits.length)
  | rest => some (0, rest)

/-- A time of day: seconds since midnight and nanoseconds. Second 60 is the second before it with
one second more in its fraction. -/
def timeOfDay? (cs : List Char) : Option (Nat × Nat × List Char) := do
  let (hour, cs) ← number? 2 cs
  let cs ← mark? ':' cs
  let (minute, cs) ← number? 2 cs
  let cs ← mark? ':' cs
  let (second, cs) ← number? 2 cs
  let (nano, cs) ← fraction? cs
  if hour ≤ 23 ∧ minute ≤ 59 ∧ second ≤ 59 then
    return (hour * 3600 + minute * 60 + second, nano, cs)
  else if hour ≤ 23 ∧ minute ≤ 59 ∧ second = 60 then
    return (hour * 3600 + minute * 60 + 59, nano + 1000000000, cs)
  else none

/-- Two digits, neither more nor fewer being looked at. -/
def twoDigits? : List Char → Option (Nat × List Char)
  | a :: b :: rest =>
    if a.isDigit ∧ b.isDigit then some (Nat.ofDigitChars 10 [a, b] 0, rest) else none
  | _ => none

/-- Hours and minutes of an offset, as minutes. Colons and blanks between them are passed over. -/
def hoursMinutes? (cs : List Char) : Option (Int × List Char) := do
  let (hours, cs) ← twoDigits? cs
  let (minutes, cs) ← twoDigits? (cs.dropWhile fun c => c = ':' || isBlank c)
  if minutes ≤ 59 then return ((hours * 60 + minutes : Nat), cs) else none

/-- An offset in minutes east of UTC. UTC itself may be given by its name or the letter Z, and
the minus sign may be the typographic one. -/
def offset? : List Char → Option (Int × List Char)
  | [] => none
  | c :: rest =>
    if c = 'Z' ∨ c = 'z' then some (0, rest)
    else if c = '+' then hoursMinutes? rest
    else if c = '-' ∨ c = '\u2212' then (hoursMinutes? rest).map fun (m, rest) => (-m, rest)
    else if (c :: rest.take 2).map Char.toLower = ['u', 't', 'c'] then some (0, rest.drop 2)
    else none

/-! ## Writing -/

def writeFraction (nano : Nat) : List Char :=
  if nano = 0 then []
  else if nano % 1000000 = 0 then '.' :: Decimal.padded 3 (nano / 1000000)
  else if nano % 1000 = 0 then '.' :: Decimal.padded 6 (nano / 1000)
  else '.' :: Decimal.padded 9 nano

/-- An offset in seconds, to the nearest minute. -/
def writeOffset (seconds : Int) : List Char :=
  let minutes := (seconds.natAbs + 30) / 60
  (if seconds < 0 then '-' else '+') ::
    (Decimal.padded 2 (minutes / 60) ++ ':' :: Decimal.padded 2 (minutes % 60))

/-- The local date and time at a UTC second, `offset` seconds east of UTC. -/
def writeLocal (second : Int) (nano : Nat) (offset : Int) : List Char :=
  let reading := second + offset
  let day := (reading % 86400).toNat
  let leap := nano / 1000000000
  write (Civil.ofDays (reading / 86400)) ++ 'T' ::
    (Decimal.padded 2 (day / 3600) ++ ':' ::
      (Decimal.padded 2 (day / 60 % 60) ++ ':' ::
        (Decimal.padded 2 (day % 60 + leap) ++ writeFraction (nano % 1000000000))))

end InstantText

namespace Instant

open InstantText

/-- The instant that a text spells, with nothing but blanks after it. -/
def ofText? (s : String) : Option Instant := do
  let (civil, cs) ← DateText.read? s.toList
  let cs ← separator? cs
  let (time, nano, cs) ← timeOfDay? cs
  let (minutes, cs) ← offset? (trimStart cs)
  let date ← Date.ofCivil? civil
  if cs.all isBlank then
    of? (date.day * 86400 + time - 60 * minutes) nano (60 * minutes)
  else none

/-- The instant as it was written: offset 0 is the letter Z. -/
def text (t : Instant) : String :=
  String.ofList (writeLocal t.second t.nano t.offset ++
    if t.offset = 0 then ['Z'] else writeOffset t.offset)

end Instant

/-- A UTC second as an instant of offset 0. -/
def utcText (second : Int) : String :=
  String.ofList (InstantText.writeLocal second 0 0 ++ ['Z'])

/-- A UTC second as the clock of a place shows it, `offset` seconds east of UTC. The offset is
always written in numbers. -/
def localText (second offset : Int) : String :=
  String.ofList (InstantText.writeLocal second 0 offset ++ InstantText.writeOffset offset)

end LiveTimetable
