/-!
# Files

What can be found at a path: a text, or a reason why there is none. A `FileTree` holds files by
their names, so that a replay can be run on files that are given with it; `Place.read` follows a
path through such a tree.

A path is followed name by name. A name can only be looked up in a folder, so a file is the end of
every path through it, even of one that goes on with a slash alone.
-/

namespace LiveTimetable

/-- Why there is no text at a path. -/
inductive ReadFailure
  | notFound
  | notFolder
  | isFolder
  | nameTooLong
  | nulInPath
  | other (reason : String)
deriving DecidableEq, Repr

def ReadFailure.message : ReadFailure → String
  | notFound => "No such file or directory (os error 2)"
  | notFolder => "Not a directory (os error 20)"
  | isFolder => "Is a directory (os error 21)"
  | nameTooLong => "File name too long (os error 36)"
  | nulInPath => "file name contained an unexpected NUL byte"
  | other reason => reason

/-- A path that ends at a NUL names nothing. -/
def hasNul (path : String) : Bool := path.toList.contains '\x00'

inductive FileTree
  | file (text : String)
  | folder (entries : List (String × FileTree))
deriving Repr

namespace FileTree

/-- What a folder holds, by name. -/
abbrev Entries := List (String × FileTree)

/-- Where a path leads. -/
inductive Place
  | file (text : String)
  /-- A folder, and the folders that it lies in, the innermost first. -/
  | folder (entries : Entries) (outer : List Entries)

namespace Place

/-- The outermost of the folders that a folder lies in. -/
def root : Place → Place
  | .file text => .file text
  | .folder entries outer => .folder (outer.getLast?.getD entries) []

/-- The bytes of a name, and of a path with its end, are limited. -/
def nameLimit : Nat := 255

def pathLimit : Nat := 4096

/-- Follows one name of a path. No name, and a dot, stay where they are; two dots lead out of a
folder, but not out of the outermost. -/
def step : Place → String → Except ReadFailure Place
  | .file _, _ => .error .notFolder
  | .folder entries outer, name =>
    if name = "" ∨ name = "." then .ok (.folder entries outer)
    else if name = ".." then
      match outer with
      | [] => .ok (.folder entries [])
      | next :: outer => .ok (.folder next outer)
    else if nameLimit < name.utf8ByteSize then .error .nameTooLong
    else
      match entries.lookup name with
      | none => .error .notFound
      | some (.file text) => .ok (.file text)
      | some (.folder inner) => .ok (.folder inner (entries :: outer))

/-- The text at a path that starts here, or in the outermost folder if a slash comes first. -/
def read (here : Place) (path : String) : Except ReadFailure String := do
  if hasNul path then throw .nulInPath
  if path.isEmpty then throw .notFound
  if pathLimit ≤ path.utf8ByteSize then throw .nameTooLong
  let start := if path.toList.head? = some '/' then here.root else here
  match ← (path.splitOn "/").foldlM step start with
  | .file text => return text
  | .folder .. => throw .isFolder

end Place

end FileTree

end LiveTimetable
