/-!
# Blanks and numbers in text

A character is blank when it has the White_Space property of the Unicode character database. The
property is a short closed table, so it is kept as one: core's `Char.isWhitespace` knows the ASCII
part only, and a feed may pad a stop reference or a time with any of these.

Reading a decimal number takes the longest run of ASCII digits, up to a limit on its length, and
hands back what follows. Writing pads with zeros on the left. The digits themselves are core's
`Nat.toDigits` and `Nat.ofDigitChars`, whose round trip is a library lemma.

Digits of another radix are the decimal ones and the letters a to f in either case, as far as the
radix goes.
-/

namespace LiveTimetable.Text

/-- The characters with the White_Space property, in code-point order. -/
def blanks : List Char :=
  ['\t', '\n', '\x0b', '\x0c', '\r', ' ', '\u0085', '\u00a0', '\u1680', '\u2000', '\u2001',
   '\u2002', '\u2003', '\u2004', '\u2005', '\u2006', '\u2007', '\u2008', '\u2009', '\u200a',
   '\u2028', '\u2029', '\u202f', '\u205f', '\u3000']

def isBlank (c : Char) : Bool := blanks.contains c

def trimStart (cs : List Char) : List Char := cs.dropWhile isBlank

def trimEnd (cs : List Char) : List Char := (trimStart cs.reverse).reverse

/-- The text without the blanks at its two ends; blanks inside stay. -/
def trim (cs : List Char) : List Char := trimEnd (trimStart cs)

/-- A text with nothing to read in it: empty, or blanks only. -/
def allBlank (s : String) : Bool := s.toList.all isBlank

end LiveTimetable.Text

namespace LiveTimetable.Text.Decimal

/-- The number that the first digits spell, at most `limit` of them, and the text after them;
nothing if the text does not start with a digit. -/
def read? (limit : Nat) (cs : List Char) : Option (Nat × List Char) :=
  let run := (cs.take limit).takeWhile Char.isDigit
  if run.isEmpty then none else some (Nat.ofDigitChars 10 run 0, cs.drop run.length)

/-- The number a text spells when it holds digits only, and at least one. -/
def natural? (cs : List Char) : Option Nat :=
  if cs.isEmpty || !cs.all Char.isDigit then none else some (Nat.ofDigitChars 10 cs 0)

/-- The number a text spells with at most one sign in front of its digits. A sign alone spells
nothing, and `-0` is zero. -/
def integer? : List Char → Option Int
  | '-' :: cs => (natural? cs).map fun n => -(n : Int)
  | '+' :: cs => (natural? cs).map Int.ofNat
  | cs => (natural? cs).map Int.ofNat

def digits (n : Nat) : List Char := Nat.toDigits 10 n

/-- The digits of a number with zeros in front up to `width`; longer numbers keep all of theirs. -/
def padded (width n : Nat) : List Char :=
  List.replicate (width - (digits n).length) '0' ++ digits n

def signed (n : Int) : List Char :=
  if n < 0 then '-' :: digits n.natAbs else digits n.natAbs

end LiveTimetable.Text.Decimal

namespace LiveTimetable.Text.Radix

/-- The value of a digit up to fifteen. -/
def value? (c : Char) : Option Nat :=
  if c.isDigit then some (c.toNat - '0'.toNat)
  else if 'a' ≤ c ∧ c ≤ 'f' then some (c.toNat - 'a'.toNat + 10)
  else if 'A' ≤ c ∧ c ≤ 'F' then some (c.toNat - 'A'.toNat + 10)
  else none

def digit? (radix : Nat) (c : Char) : Option Nat := (value? c).filter (· < radix)

/-- The number that a text spells when it holds digits of the radix only, and at least one. -/
def natural? (radix : Nat) (cs : List Char) : Option Nat :=
  if cs.isEmpty then none
  else cs.foldlM (fun n c => (digit? radix c).map (n * radix + ·)) 0

example : natural? 16 "20aC".toList = some 0x20ac := by decide

example : natural? 2 "12".toList = none := by decide

end LiveTimetable.Text.Radix
