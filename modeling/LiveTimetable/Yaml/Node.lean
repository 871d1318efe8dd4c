import LiveTimetable.Yaml.Token

/-!
# YAML nodes

The tree that the tokens of a document spell. A node that is left out is a plain scalar without
text.

Collections are read by functions that call each other, bounded by a count of steps. A step that
does not end the reading takes a token, or leads within three steps to one that does, so four times
the number of tokens is enough.
-/

namespace LiveTimetable.Yaml

inductive Node
  | scalar (plain : Bool) (text : String)
  | sequence (items : List Node)
  | mapping (entries : List (Node × Node))
deriving Repr

namespace Node

/-- A node that is left out. -/
def absent : Node := .scalar true ""

/-- The tokens before which a node in an indented collection is left out. -/
def endsEntry : List Token → Bool
  | .key :: _ => true
  | .value :: _ => true
  | .dash :: _ => true
  | .blockEnd :: _ => true
  | _ => false

/-- What follows the comma between two entries. -/
def afterComma? : List Token → Option (List Token)
  | .comma :: rest => some rest
  | _ => none

mutual

/-- A node. One inside brackets or braces is not told by its indentation. -/
def node? (inFlow : Bool) : Nat → List Token → Option (Node × List Token)
  | 0, _ => none
  | steps + 1, ts =>
    match ts with
    | .scalar plain text :: rest => some (.scalar plain text, rest)
    | .openBracket :: rest =>
      (flowItems? true steps rest).map fun (items, rest) => (.sequence items, rest)
    | .openBrace :: rest =>
      (flowEntries? true steps rest).map fun (entries, rest) => (.mapping entries, rest)
    | .blockSequence :: rest =>
      if inFlow then none
      else (items? steps rest).map fun (items, rest) => (.sequence items, rest)
    | .blockMapping :: rest =>
      if inFlow then none
      else (entries? steps rest).map fun (entries, rest) => (.mapping entries, rest)
    | _ => none

/-- The items of an indented sequence up to its end. -/
def items? : Nat → List Token → Option (List Node × List Token)
  | 0, _ => none
  | steps + 1, ts =>
    match ts with
    | .blockEnd :: rest => some ([], rest)
    | .dash :: rest => do
      let (item, rest) ←
        match rest with
        | .dash :: _ => some (absent, rest)
        | .blockEnd :: _ => some (absent, rest)
        | _ => node? false steps rest
      let (items, rest) ← items? steps rest
      return (item :: items, rest)
    | _ => none

/-- The items of a sequence that is indented no more than the key it belongs to. -/
def looseItems? : Nat → List Token → Option (List Node × List Token)
  | 0, _ => none
  | steps + 1, ts =>
    match ts with
    | .dash :: rest => do
      let (item, rest) ← if endsEntry rest then some (absent, rest) else node? false steps rest
      let (items, rest) ← looseItems? steps rest
      return (item :: items, rest)
    | rest => some ([], rest)

/-- A key or a value of an indented mapping. -/
def part? : Nat → List Token → Option (Node × List Token)
  | 0, _ => none
  | steps + 1, ts =>
    match ts with
    | .dash :: _ => (looseItems? steps ts).map fun (items, rest) => (.sequence items, rest)
    | ts => if endsEntry ts then some (absent, ts) else node? false steps ts

/-- The entries of an indented mapping up to its end. -/
def entries? : Nat → List Token → Option (List (Node × Node) × List Token)
  | 0, _ => none
  | steps + 1, ts =>
    match ts with
    | .blockEnd :: rest => some ([], rest)
    | .key :: rest => do
      let (key, rest) ← part? steps rest
      let (value, rest) ←
        match rest with
        | .value :: rest => part? steps rest
        | rest => some (absent, rest)
      let (entries, rest) ← entries? steps rest
      return ((key, value) :: entries, rest)
    | _ => none

/-- The items of a sequence in brackets, after its opening bracket or the item before. An item may
be a single entry of a mapping. -/
def flowItems? (first : Bool) : Nat → List Token → Option (List Node × List Token)
  | 0, _ => none
  | steps + 1, ts =>
    match ts with
    | .closeBracket :: rest => some ([], rest)
    | ts => do
      let ts ← if first then some ts else afterComma? ts
      match ts with
      | .closeBracket :: rest => return ([], rest)
      | .key :: rest =>
        let (key, rest) ← flowPart? .closeBracket steps rest
        let (value, rest) ← flowValue? .closeBracket steps rest
        let (items, rest) ← flowItems? false steps rest
        return (.mapping [(key, value)] :: items, rest)
      | ts =>
        let (item, rest) ← node? true steps ts
        let (items, rest) ← flowItems? false steps rest
        return (item :: items, rest)

/-- The entries of a mapping in braces, after its opening brace or the entry before. An entry may be
a key alone. -/
def flowEntries? (first : Bool) : Nat → List Token → Option (List (Node × Node) × List Token)
  | 0, _ => none
  | steps + 1, ts =>
    match ts with
    | .closeBrace :: rest => some ([], rest)
    | ts => do
      let ts ← if first then some ts else afterComma? ts
      match ts with
      | .closeBrace :: rest => return ([], rest)
      | .key :: rest =>
        let (key, rest) ← flowPart? .closeBrace steps rest
        let (value, rest) ← flowValue? .closeBrace steps rest
        let (entries, rest) ← flowEntries? false steps rest
        return ((key, value) :: entries, rest)
      | ts =>
        let (key, rest) ← node? true steps ts
        let (entries, rest) ← flowEntries? false steps rest
        return ((key, absent) :: entries, rest)

/-- A key or a value inside brackets or braces. -/
def flowPart? (close : Token) : Nat → List Token → Option (Node × List Token)
  | 0, _ => none
  | steps + 1, ts =>
    match ts.head? with
    | some t =>
      if t = close ∨ t = .comma ∨ t = .value then some (absent, ts) else node? true steps ts
    | none => none

/-- The value of an entry inside brackets or braces, if it has one. -/
def flowValue? (close : Token) : Nat → List Token → Option (Node × List Token)
  | 0, _ => none
  | steps + 1, ts =>
    match ts with
    | .value :: rest => flowPart? close steps rest
    | ts => some (absent, ts)

end

/-- The node of a text that holds one document. A text without any has a node that is left out. -/
def ofText? (s : String) : Option Node := do
  let tokens ← Token.ofText? s
  let steps := 4 * tokens.length + 4
  let (node, rest) ←
    match tokens with
    | [] => some (absent, [])
    | .document .start :: rest =>
      match rest with
      | [] => some (absent, [])
      | .document _ :: _ => some (absent, rest)
      | _ => node? false steps rest
    | tokens => node? false steps tokens
  if rest.all (· = .document .finish) then some node else none

end Node

end LiveTimetable.Yaml
