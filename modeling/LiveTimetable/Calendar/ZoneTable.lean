import LiveTimetable.Calendar.Zone

/-!
# Some zones

Histories of a few zones, for hosts that have no others. Whatever is said of zones is said of every
`Zone`, so nothing depends on which ones are listed here, or on how far back their histories go.
Yearly rules are written out up to 2099 and no further: from 2100 on a zone keeps the offset of its
last change. Names are compared letter by letter.
-/

namespace LiveTimetable.Zone

/-! ## Days that rules speak of -/

/-- Days since the last Sunday, 0 on a Sunday; day 0 of the count was a Thursday. -/
def weekday (day : Int) : Int := (day + 4) % 7

def firstSunday (year : Int) (month : Nat) : Int :=
  let first := Civil.toDays ⟨year, month, 1⟩
  first + (7 - weekday first) % 7

def lastSunday (year : Int) (month : Nat) : Int :=
  let last := Civil.toDays ⟨year, month, Civil.daysInMonth year month⟩
  last - weekday last

/-- A UTC second, given as a date and a time of day. -/
def second (year : Int) (month day hour minute : Nat) : Int :=
  Civil.toDays ⟨year, month, day⟩ * 86400 + (hour * 3600 + minute * 60 : Nat)

def hours (n : Int) : Int := n * 3600

/-- The changes of the years `first` to `last`, in the order given for one year. -/
def yearly (first last : Nat) (changes : Int → List (Int × Int)) : List (Int × Int) :=
  (List.range (last + 1 - first)).flatMap fun i => changes (first + i : Nat)

/-! ## The zones -/

def utc : Zone := ⟨"UTC", 0, [], by decide⟩

/-- The sign of this name counts hours west of UTC. -/
def fiveWest : Zone := ⟨"Etc/GMT+5", -hours 5, [], by decide⟩

def kathmandu : Zone :=
  ⟨"Asia/Kathmandu", 19800, [(second 1985 12 31 18 30, 20700)], by decide⟩

/-- One hour ahead of UTC, two in summer. Summer ends in September up to 1995 and in October after
that; all clocks change at 01:00 UTC. -/
def centralEurope (name : String) : Zone :=
  let summer (y : Int) (ends : Nat) : List (Int × Int) :=
    [(lastSunday y 3 * 86400 + hours 1, hours 2), (lastSunday y ends * 86400 + hours 1, hours 1)]
  ⟨name, hours 1,
    [(second 1980 4 6 1 0, hours 2), (second 1980 9 28 1 0, hours 1)] ++
      yearly 1981 1995 (summer · 9) ++ yearly 1996 2099 (summer · 10), by decide +kernel⟩

def newYork : Zone :=
  ⟨"America/New_York", -hours 5,
    yearly 2007 2099 fun y =>
      [((firstSunday y 3 + 7) * 86400 + hours 7, -hours 4),
       (firstSunday y 11 * 86400 + hours 6, -hours 5)],
    by decide +kernel⟩

/-- Summer time is half an hour here. The clocks change at two in the morning of a Sunday, which
is Saturday in UTC. -/
def lordHowe : Zone :=
  ⟨"Australia/Lord_Howe", hours 11,
    yearly 2008 2099 fun y =>
      [((firstSunday y 4 - 1) * 86400 + hours 15, 37800),
       ((firstSunday y 10 - 1) * 86400 + hours 15 + 1800, hours 11)],
    by decide +kernel⟩

/-- The islands moved across the date line at the end of 2011 and skipped a day. -/
def apia : Zone :=
  ⟨"Pacific/Apia", -hours 11,
    [(second 2010 9 26 11 0, -hours 10), (second 2011 4 2 14 0, -hours 11),
     (second 2011 9 24 14 0, -hours 10), (second 2011 12 30 10 0, hours 14),
     (second 2012 3 31 14 0, hours 13)] ++
      yearly 2012 2020 fun y =>
        [((lastSunday y 9 - 1) * 86400 + hours 14, hours 14),
         ((firstSunday (y + 1) 4 - 1) * 86400 + hours 14, hours 13)],
    by decide +kernel⟩

/-- The atoll crossed the date line twice: it lived one day twice in 1969 and skipped one in
1993. -/
def kwajalein : Zone :=
  ⟨"Pacific/Kwajalein", hours 11,
    [(second 1969 9 30 13 0, -hours 12), (second 1993 8 21 12 0, hours 12)], by decide⟩

def saoPaulo : Zone :=
  ⟨"America/Sao_Paulo", -hours 3,
    [(second 2017 10 15 3 0, -hours 2), (second 2018 2 18 2 0, -hours 3),
     (second 2018 11 4 3 0, -hours 2), (second 2019 2 17 2 0, -hours 3)],
    by decide⟩

def all : List Zone :=
  [utc, fiveWest, kathmandu, centralEurope "Europe/Oslo", centralEurope "Europe/Berlin", newYork,
   lordHowe, apia, kwajalein, saoPaulo]

def named? (name : String) : Option Zone := all.find? (·.name = name)

end LiveTimetable.Zone
