/-!
# Places in a YAML text

YAML gives a meaning to the column in which a token starts. A cursor is a place in a text: what is
left of it, and the line and column of its first character. Columns count characters; the length of
a key is told in bytes, so these are counted along the line too. Carriage returns and the next-line
character are taken for line feeds before a text is read.
-/

namespace LiveTimetable.Yaml

/-- A character that separates words on a line. -/
def isGap (c : Char) : Bool := c = ' ' || c = '\t'

def isBreak (c : Char) : Bool := c = '\n' || c = '\u2028' || c = '\u2029'

def isSpace (c : Char) : Bool := isGap c || isBreak c

/-- Nothing of a word is left: the text ends, or white space follows. -/
def endsWord : List Char → Bool
  | [] => true
  | c :: _ => isSpace c

/-- The mark that a text or a line of it may start with. Elsewhere it is a character as others. -/
def byteOrderMark : Char := '\ufeff'

/-- Characters that a text may hold: no controls but tabs and line breaks. -/
def isAllowed (c : Char) : Bool :=
  c = '\t' || c = '\n' || c = '\r' || c = '\u0085' ||
    ((' ' ≤ c && c ≤ '~') || ('\u00a0' ≤ c && c ≤ '\ufffd') || '\ufffd'.toNat + 2 < c.toNat)

/-- The text with a line feed for every line break that is written otherwise. -/
def withLineFeeds : List Char → List Char
  | '\r' :: '\n' :: rest => '\n' :: withLineFeeds rest
  | '\r' :: rest => '\n' :: withLineFeeds rest
  | '\u0085' :: rest => '\n' :: withLineFeeds rest
  | c :: rest => c :: withLineFeeds rest
  | [] => []

structure Cursor where
  rest : List Char
  line : Nat
  column : Nat
  /-- The bytes of the line in front of this place. -/
  offset : Nat

namespace Cursor

def start (cs : List Char) : Cursor := ⟨cs, 0, 0, 0⟩

/-- The place after the next character. -/
def next (c : Cursor) : Cursor :=
  match c.rest with
  | [] => c
  | x :: rest =>
    if isBreak x then ⟨rest, c.line + 1, 0, 0⟩
    else ⟨rest, c.line, c.column + 1, c.offset + x.utf8Size⟩

/-- The place after a run of characters that starts here. -/
def past (c : Cursor) (run : List Char) : Cursor := run.foldl (fun c _ => c.next) c

/-- The white space that starts here. -/
def space (c : Cursor) : List Char := c.rest.takeWhile isSpace

end Cursor

end LiveTimetable.Yaml
