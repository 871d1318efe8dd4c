import LiveTimetable.Text.Basic
import LiveTimetable.Yaml.Cursor

/-!
# Text of YAML scalars

A scalar is written plain, or in single or double quotes. In all three forms a line break inside
stands for a blank, and each empty line after it for a line break of its own; the white space around
breaks is dropped.
-/

namespace LiveTimetable.Yaml

open Text

/-- The two marks that stand between documents. -/
inductive DocumentMark
  | start
  | finish
deriving DecidableEq, Repr

namespace Cursor

/-- A mark between documents stands at the beginning of a line, as a word of its own. -/
def documentMark? (c : Cursor) : Option DocumentMark :=
  if c.column ≠ 0 then none
  else
    match c.rest with
    | '-' :: '-' :: '-' :: rest => if endsWord rest then some .start else none
    | '.' :: '.' :: '.' :: rest => if endsWord rest then some .finish else none
    | _ => none

end Cursor

/-- What the white space between two words of a scalar stands for. -/
def folded (space : List Char) : List Char :=
  match space.dropWhile isGap with
  | [] => space
  | first :: rest =>
    let breaks := rest.filter isBreak
    if first ≠ '\n' then first :: breaks
    else if breaks.isEmpty then [' ']
    else breaks

/-! ## Quoted scalars -/

/-- The text of a scalar in single quotes, the first of which has been read. -/
def singleQuoted? : Nat → Cursor → Option (List Char × Cursor)
  | 0, _ => none
  | steps + 1, c =>
    if c.documentMark?.isSome then none
    else
      match c.rest with
      | [] => none
      | '\'' :: '\'' :: _ =>
        (singleQuoted? steps c.next.next).map fun (text, c) => ('\'' :: text, c)
      | '\'' :: _ => some ([], c.next)
      | x :: _ =>
        if isSpace x then
          (singleQuoted? steps (c.past c.space)).map fun (text, d) => (folded c.space ++ text, d)
        else (singleQuoted? steps c.next).map fun (text, c) => (x :: text, c)

/-- The escapes of one letter. -/
def letterEscapes : List (Char × Char) :=
  [('0', '\x00'), ('a', '\x07'), ('b', '\x08'), ('t', '\t'), ('\t', '\t'), ('n', '\n'),
   ('v', '\x0b'), ('f', '\x0c'), ('r', '\r'), ('e', '\x1b'), (' ', ' '), ('"', '"'), ('/', '/'),
   ('\\', '\\'), ('N', '\u0085'), ('_', '\u00a0'), ('L', '\u2028'), ('P', '\u2029')]

/-- The escapes of a letter and so many hexadecimal digits. -/
def digitEscapes : List (Char × Nat) := [('x', 2), ('u', 4), ('U', 8)]

/-- The character of an escape and the text after it; the backslash has been read. -/
def escape? : List Char → Option (Char × List Char)
  | [] => none
  | c :: rest =>
    match letterEscapes.lookup c with
    | some e => some (e, [c])
    | none => do
      let width ← digitEscapes.lookup c
      let digits := rest.take width
      let n ← Radix.natural? 16 digits
      if digits.length = width ∧ n.isValidChar then some (Char.ofNat n, c :: digits) else none

/-- The text of a scalar in double quotes, the first of which has been read. A line break after a
backslash stands for nothing. -/
def doubleQuoted? : Nat → Cursor → Option (List Char × Cursor)
  | 0, _ => none
  | steps + 1, c =>
    if c.documentMark?.isSome then none
    else
      match c.rest with
      | [] => none
      | '"' :: _ => some ([], c.next)
      | '\\' :: rest =>
        if (rest.head?.map isBreak).getD false then
          let c := c.next.next
          (doubleQuoted? steps (c.past c.space)).map fun (text, d) =>
            (c.space.filter isBreak ++ text, d)
        else do
          let (e, written) ← escape? rest
          let (text, c) ← doubleQuoted? steps (c.next.past written)
          return (e :: text, c)
      | x :: _ =>
        if isSpace x then
          (doubleQuoted? steps (c.past c.space)).map fun (text, d) => (folded c.space ++ text, d)
        else (doubleQuoted? steps c.next).map fun (text, c) => (x :: text, c)

/-! ## Plain scalars -/

/-- Characters that end a plain scalar inside brackets or braces. -/
def flowMarks : List Char := [',', '[', ']', '\x7b', '\x7d']

/-- The word of a plain scalar that starts here, perhaps none. Inside brackets or braces a colon
may not stand right before one of their marks. -/
def word? (flow : Bool) : List Char → Option (List Char)
  | [] => some []
  | c :: rest =>
    if isSpace c then some []
    else if flow && c = ':' && (rest.head?.map ('?' :: flowMarks).contains).getD false then none
    else if (c = ':' && endsWord rest) || (flow && flowMarks.contains c) then some []
    else (word? flow rest).map (c :: ·)

/-- A tab stands in front of `indent` on a line after the first. -/
def tabInIndent (indent : Int) (broken : Bool) (column : Nat) : List Char → Bool
  | [] => false
  | c :: rest =>
    if isBreak c then tabInIndent indent true 0 rest
    else
      (broken && c = '\t' && decide ((column : Int) < indent)) ||
        tabInIndent indent broken (column + 1) rest

/-- What a plain scalar is found to be. -/
structure Plain where
  text : List Char
  after : Cursor
  /-- A line break stands between the last word and what follows. -/
  broken : Bool

/-- The plain scalar that starts here, with the white space in front of its next word. Outside
brackets and braces it ends before a line that is indented less than `indent`. -/
def plain? (flow : Bool) (indent : Int) : Nat → Cursor → List Char → Bool → Option Plain
  | 0, _, _, _ => none
  | steps + 1, c, space, broken =>
    if c.documentMark?.isSome || c.rest.head? = some '#' then some ⟨[], c, broken⟩
    else do
      let word ← word? flow c.rest
      let c := c.past word
      let text := if word.isEmpty then [] else folded space ++ word
      let broken := broken && word.isEmpty
      if c.space.isEmpty then return ⟨text, c, broken⟩
      else if tabInIndent indent broken c.column c.space then none
      else
        let after := c.past c.space
        let broken := broken || c.space.any isBreak
        if !flow && decide ((after.column : Int) < indent) then return ⟨text, after, broken⟩
        else
          let more ← plain? flow indent steps after c.space broken
          return { more with text := text ++ more.text }

end LiveTimetable.Yaml
