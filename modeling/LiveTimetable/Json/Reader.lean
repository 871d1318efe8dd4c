import LiveTimetable.Json.Value
import LiveTimetable.Text.Basic

/-!
# Reading JSON

A strict reader: no comments, no trailing commas, no raw control characters in strings, no leading
zeros, nothing but white space after the value. It looks at the text only; what a value may hold
is judged where the value is used.

Arrays and objects are read by functions that call each other, bounded by a count of steps. A step
that does not end the reading consumes a character, or leads to one that does, so twice the length
of the text is enough.
-/

namespace LiveTimetable.Json

open LiveTimetable.Text

/-- White space between the parts of a value. -/
def isSpace (c : Char) : Bool := c = ' ' || c = '\t' || c = '\n' || c = '\r'

def skipSpace (cs : List Char) : List Char := cs.dropWhile isSpace

/-! ## Strings -/

/-- The character of an escape of one letter. -/
def letterEscape? : Char → Option Char
  | '"' => some '"'
  | '\\' => some '\\'
  | '/' => some '/'
  | 'b' => some '\x08'
  | 'f' => some '\x0c'
  | 'n' => some '\n'
  | 'r' => some '\r'
  | 't' => some '\t'
  | _ => none

/-- A part of a string: a character, or half of a surrogate pair. -/
inductive Piece
  | char (c : Char)
  | high (unit : Nat)
  | low (unit : Nat)

def Piece.ofUnit (unit : Nat) : Piece :=
  if 0xD800 ≤ unit ∧ unit < 0xDC00 then .high unit
  else if 0xDC00 ≤ unit ∧ unit < 0xE000 then .low unit
  else .char (Char.ofNat unit)

/-- The text of the pieces, if every high half stands right before a low one and no low half
stands elsewhere. -/
def joinPieces : List Piece → Option (List Char)
  | [] => some []
  | .char c :: rest => (joinPieces rest).map (c :: ·)
  | .high h :: .low l :: rest =>
    (joinPieces rest).map (Char.ofNat (0x10000 + (h - 0xD800) * 0x400 + (l - 0xDC00)) :: ·)
  | _ => none

/-- The pieces up to the closing quote, and what follows it. -/
def pieces? : List Char → Option (List Piece × List Char)
  | [] => none
  | '"' :: rest => some ([], rest)
  | '\\' :: 'u' :: a :: b :: c :: d :: rest => do
    let unit ← Radix.natural? 16 [a, b, c, d]
    let (found, rest) ← pieces? rest
    return (Piece.ofUnit unit :: found, rest)
  | '\\' :: e :: rest => do
    let c ← letterEscape? e
    let (found, rest) ← pieces? rest
    return (.char c :: found, rest)
  | c :: rest =>
    if c = '\\' ∨ c.toNat < 0x20 then none
    else do
      let (found, rest) ← pieces? rest
      return (.char c :: found, rest)

/-- A string whose opening quote has been read. -/
def string? (cs : List Char) : Option (Json.Text × List Char) :=
  (pieces? cs).map fun (found, rest) => ((joinPieces found).map String.ofList, rest)

/-! ## Numbers -/

/-- The digits of an optional fraction; a point needs one at least. -/
def fraction? : List Char → Option (Option (List Char) × List Char)
  | '.' :: rest =>
    let digits := rest.takeWhile Char.isDigit
    if digits.isEmpty then none else some (some digits, rest.dropWhile Char.isDigit)
  | rest => some (none, rest)

/-- An optional exponent. -/
def exponent? : List Char → Option (Option Int × List Char)
  | c :: rest =>
    if c = 'e' ∨ c = 'E' then
      let (negative, rest) := match rest with
        | '-' :: rest => (true, rest)
        | '+' :: rest => (false, rest)
        | rest => (false, rest)
      (Decimal.read? rest.length rest).map fun (n, rest) =>
        (some (if negative then -(n : Int) else n), rest)
    else some (none, c :: rest)
  | [] => some (none, [])

/-- The integer part: a single zero, or digits that start with another. -/
def whole? (cs : List Char) : Option (List Char × List Char) :=
  let digits := cs.takeWhile Char.isDigit
  if digits.isEmpty ∨ (digits.head? = some '0' ∧ 1 < digits.length) then none
  else some (digits, cs.dropWhile Char.isDigit)

def number? (cs : List Char) : Option (Numeral × List Char) := do
  let (negative, cs) := match cs with
    | '-' :: rest => (true, rest)
    | rest => (false, rest)
  let (whole, cs) ← whole? cs
  let (fraction, cs) ← fraction? cs
  let (exponent, cs) ← exponent? cs
  let digits := fraction.getD []
  let coefficient := Nat.ofDigitChars 10 (whole ++ digits) 0
  if fraction.isNone ∧ exponent.isNone ∧ ¬ (negative ∧ coefficient = 0) then
    return (.integer (if negative then -(coefficient : Int) else coefficient), cs)
  else
    return (.decimal negative coefficient (exponent.getD 0 - digits.length), cs)

/-! ## Values -/

mutual

/-- A value, with white space in front. -/
def value? : Nat → List Char → Option (Json × List Char)
  | 0, _ => none
  | steps + 1, cs =>
    match skipSpace cs with
    | 'n' :: 'u' :: 'l' :: 'l' :: rest => some (.null, rest)
    | 't' :: 'r' :: 'u' :: 'e' :: rest => some (.bool true, rest)
    | 'f' :: 'a' :: 'l' :: 's' :: 'e' :: rest => some (.bool false, rest)
    | '"' :: rest => (string? rest).map fun (s, rest) => (.string s, rest)
    | '[' :: rest =>
      match skipSpace rest with
      | ']' :: rest => some (.array [], rest)
      | _ => (items? steps rest).map fun (items, rest) => (.array items, rest)
    | '\x7b' :: rest =>
      match skipSpace rest with
      | '\x7d' :: rest => some (.object [], rest)
      | _ => (members? steps rest).map fun (members, rest) => (.object members, rest)
    | rest => (number? rest).map fun (n, rest) => (.number n, rest)

/-- The items of an array up to its closing bracket, one at least. -/
def items? : Nat → List Char → Option (List Json × List Char)
  | 0, _ => none
  | steps + 1, cs => do
    let (item, cs) ← value? steps cs
    match skipSpace cs with
    | ',' :: rest =>
      let (items, rest) ← items? steps rest
      return (item :: items, rest)
    | ']' :: rest => return ([item], rest)
    | _ => none

/-- The members of an object up to its closing brace, one at least. -/
def members? : Nat → List Char → Option (List (Json.Text × Json) × List Char)
  | 0, _ => none
  | steps + 1, cs =>
    match skipSpace cs with
    | '"' :: rest => do
      let (key, rest) ← string? rest
      match skipSpace rest with
      | ':' :: rest =>
        let (value, rest) ← value? steps rest
        match skipSpace rest with
        | ',' :: rest =>
          let (members, rest) ← members? steps rest
          return ((key, value) :: members, rest)
        | '\x7d' :: rest => return ([(key, value)], rest)
        | _ => none
      | _ => none
    | _ => none

end

/-- The value that a text spells. -/
def ofText? (s : String) : Option Json := do
  let cs := s.toList
  let (value, rest) ← value? (2 * cs.length + 2) cs
  if (skipSpace rest).isEmpty then some value else none

end LiveTimetable.Json
