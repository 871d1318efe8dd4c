import LiveTimetable.Yaml.ScalarText

/-!
# YAML tokens

A text is read as a row of tokens. Sequences and mappings that are told by their indentation get
tokens for their start and end, so that nothing after this depends on columns.

A colon makes a key of what stands before it, which by then has been read. So wherever a key may
start its place is noted, and the colon resolves the place that it belongs to. Places that no colon
has resolved stand for nothing.

Anchors, tags, directives, block scalars and keys with a question mark are not read.
-/

namespace LiveTimetable.Yaml

inductive Token
  | document (mark : DocumentMark)
  | blockSequence
  | blockMapping
  | blockEnd
  | openBracket
  | closeBracket
  | openBrace
  | closeBrace
  | dash
  | comma
  | key
  | value
  | scalar (plain : Bool) (text : String)
deriving DecidableEq, Repr

namespace Token

/-- A token, or the place of a key. -/
inductive Piece
  | token (t : Token)
  | place (number : Nat)

/-- A place where a key may have started. -/
structure KeyPlace where
  number : Nat
  line : Nat
  column : Nat
  offset : Nat
  /-- Nothing but a key can stand here. -/
  required : Bool

structure Scan where
  cursor : Cursor
  /-- What was read, the last first. -/
  pieces : List Piece
  places : Nat
  /-- The places that turned out to be keys, and whether a mapping starts there. -/
  keys : List (Nat × Bool)
  /-- The column of the innermost indented collection; -1 outside of all. -/
  indent : Int
  outerIndents : List Int
  /-- A key may start here. -/
  keyAllowed : Bool
  key : Option KeyPlace
  /-- The places of the enclosing brackets and braces. -/
  outerKeys : List (Option KeyPlace)

namespace Scan

def start (cs : List Char) : Scan := ⟨.start cs, [], 0, [], -1, [], true, none, []⟩

def inFlow (s : Scan) : Bool := !s.outerKeys.isEmpty

def push (s : Scan) (t : Token) : Scan := { s with pieces := .token t :: s.pieces }

def skip (s : Scan) (count : Nat) : Scan := { s with cursor := s.cursor.past (s.cursor.rest.take count) }

/-- Goes on to the next token, past white space and comments, and past a byte order mark at the
start of a line. Where a key may start, a tab does not count as white space. -/
def toToken : Nat → Scan → Scan
  | 0, s => s
  | steps + 1, s =>
    match s.cursor.rest with
    | [] => s
    | c :: rest =>
      if c = byteOrderMark && s.cursor.column = 0 then toToken steps (s.skip 1)
      else if c = ' ' || (c = '\t' && (s.inFlow || !s.keyAllowed)) then toToken steps (s.skip 1)
      else if c = '#' then
        toToken steps (s.skip ((c :: rest).takeWhile fun c => !isBreak c).length)
      else if isBreak c then
        toToken steps { s.skip 1 with keyAllowed := s.keyAllowed || !s.inFlow }
      else s

/-- A place is left behind when the line ends, or after 1024 bytes. -/
def leaveBehind? (c : Cursor) (key : Option KeyPlace) : Option (Option KeyPlace) :=
  match key with
  | none => some none
  | some k =>
    if k.line < c.line ∨ k.offset + 1024 < c.offset then
      if k.required then none else some none
    else some (some k)

def leaveKeysBehind? (s : Scan) : Option Scan := do
  let key ← leaveBehind? s.cursor s.key
  let outerKeys ← s.outerKeys.mapM (leaveBehind? s.cursor)
  return { s with key, outerKeys }

/-- Gives up the place noted last. -/
def dropKey? (s : Scan) : Option Scan :=
  match s.key with
  | some ⟨_, _, _, _, true⟩ => none
  | _ => some { s with key := none }

/-- Notes that a key may start here. -/
def noteKey? (s : Scan) : Option Scan :=
  if s.keyAllowed then do
    let s ← s.dropKey?
    let required := !s.inFlow && s.indent = s.cursor.column
    return { s with
      pieces := .place s.places :: s.pieces
      places := s.places + 1
      key := some ⟨s.places, s.cursor.line, s.cursor.column, s.cursor.offset, required⟩ }
  else some s

/-- Ends the collections that are indented more than `column`. -/
def unindent (column : Int) : List Int → Scan → Scan
  | [], s => s
  | outer :: rest, s =>
    if s.inFlow || s.indent ≤ column then s
    else unindent column rest ({ s with indent := outer, outerIndents := rest }.push .blockEnd)

def unindentTo (s : Scan) (column : Int) : Scan := unindent column s.outerIndents s

/-- A collection that starts in `column` is a new one if it is indented more. -/
def startsAt (s : Scan) (column : Nat) : Bool := !s.inFlow && decide (s.indent < column)

def indentTo (s : Scan) (column : Nat) : Scan :=
  if s.startsAt column then
    { s with indent := column, outerIndents := s.indent :: s.outerIndents }
  else s

/-! ## The kinds of tokens -/

def documentMark? (s : Scan) (mark : DocumentMark) : Option Scan := do
  let s ← (s.unindentTo (-1)).dropKey?
  return ({ s with keyAllowed := false }.skip 3).push (.document mark)

def openFlow? (s : Scan) (t : Token) : Option Scan := do
  let s ← s.noteKey?
  return ({ s with key := none, outerKeys := s.key :: s.outerKeys, keyAllowed := true }.skip 1).push t

def closeFlow? (s : Scan) (t : Token) : Option Scan := do
  let s ← s.dropKey?
  let s : Scan :=
    match s.outerKeys with
    | [] => s
    | key :: outerKeys => { s with key, outerKeys }
  return ({ s with keyAllowed := false }.skip 1).push t

def comma? (s : Scan) : Option Scan := do
  let s ← s.dropKey?
  return ({ s with keyAllowed := true }.skip 1).push .comma

def dash? (s : Scan) : Option Scan :=
  if !s.inFlow && !s.keyAllowed then none
  else do
    let column := s.cursor.column
    let s := if s.startsAt column then (s.indentTo column).push .blockSequence else s
    let s ← s.dropKey?
    return ({ s with keyAllowed := true }.skip 1).push .dash

/-- A colon after a key, or one that stands for an empty key. -/
def colon? (s : Scan) : Option Scan :=
  match s.key with
  | some k =>
    let s : Scan :=
      { s.indentTo k.column with
        keys := (k.number, s.startsAt k.column) :: s.keys, key := none, keyAllowed := false }
    some ((s.skip 1).push .value)
  | none =>
    if s.inFlow then some (({ s with keyAllowed := false }.skip 1).push .value)
    else if !s.keyAllowed then none
    else
      let column := s.cursor.column
      let s := if s.startsAt column then (s.indentTo column).push .blockMapping else s
      some (({ s with keyAllowed := true }.skip 1).push .value)

def quoted? (s : Scan) (read : Cursor → Option (List Char × Cursor)) : Option Scan := do
  let s ← s.noteKey?
  let (text, cursor) ← read s.cursor.next
  return { s with cursor, keyAllowed := false }.push (.scalar false (String.ofList text))

def plainScalar? (steps : Nat) (s : Scan) : Option Scan := do
  let s ← s.noteKey?
  let plain ← plain? s.inFlow (s.indent + 1) steps s.cursor [] false
  return { s with cursor := plain.after, keyAllowed := plain.broken }.push
    (.scalar true (String.ofList plain.text))

/-- Characters that start no plain scalar. -/
def indicators : List Char :=
  ['-', '?', ':', ',', '[', ']', '\x7b', '\x7d', '#', '&', '*', '!', '|', '>', '\'', '"', '%', '@',
   '\x60']

/-- A plain scalar starts here: with an ordinary character, or with one of three indicators in front
of a word. -/
def startsPlain (s : Scan) : Bool :=
  match s.cursor.rest with
  | [] => false
  | c :: rest =>
    !(isSpace c || indicators.contains c) ||
      (c = '-' && !(rest.head?.map isGap).getD false) ||
      (!s.inFlow && (c = '?' || c = ':') && !endsWord rest)

/-- Reads the token that starts here, in so many steps at most. -/
def token? (steps : Nat) (s : Scan) : Option Scan :=
  match s.cursor.documentMark? with
  | some mark => s.documentMark? mark
  | none =>
    match s.cursor.rest with
    | '[' :: _ => s.openFlow? .openBracket
    | '\x7b' :: _ => s.openFlow? .openBrace
    | ']' :: _ => s.closeFlow? .closeBracket
    | '\x7d' :: _ => s.closeFlow? .closeBrace
    | ',' :: _ => s.comma?
    | '\'' :: _ => s.quoted? (singleQuoted? steps)
    | '"' :: _ => s.quoted? (doubleQuoted? steps)
    | c :: rest =>
      if c = '-' && endsWord rest then s.dash?
      else if c = ':' && (s.inFlow || endsWord rest) then s.colon?
      else if s.startsPlain then s.plainScalar? steps
      else none
    | [] => none

/-- Reads tokens up to the end of the text. A step reads a token, and so one character at least;
while there are more steps than characters, what is left of either is enough for a token too. -/
def run? : Nat → Scan → Option Scan
  | 0, _ => none
  | steps + 1, s => do
    let s ← (s.toToken steps).leaveKeysBehind?
    if s.cursor.rest.isEmpty then (s.unindentTo (-1)).dropKey?
    else run? steps (← (s.unindentTo s.cursor.column).token? (steps + 1))

/-- The tokens that were read, with keys in their places. -/
def tokens (s : Scan) : List Token :=
  s.pieces.reverse.flatMap fun
    | .token t => [t]
    | .place number =>
      match s.keys.lookup number with
      | none => []
      | some true => [.blockMapping, .key]
      | some false => [.key]

end Scan

/-- The tokens of a text. -/
def ofText? (s : String) : Option (List Token) := do
  if s.toList.all isAllowed then
    let cs := withLineFeeds s.toList
    return (← Scan.run? (cs.length + 1) (.start cs)).tokens
  else none

end Token

end LiveTimetable.Yaml
