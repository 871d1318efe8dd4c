import LiveTimetable.Json.Reader
import LiveTimetable.Json.Writer
import LiveTimetable.Proofs.Text.Decimal

/-!
# What is written on a line is read back

A value whose strings are texts is read back from the line that it is written on
(`ofText?_line`): each string with its escapes, each number as it was given, the items and members
in their order.

The reader stops where a value ends, so the parts are read one after another in front of whatever
follows. After a number that is a comma, a bracket or nothing: a digit, a point or the letter of an
exponent would belong to it (`EndsNumber`).
-/

namespace LiveTimetable.Json

open LiveTimetable.Text

/-! ## Strings -/

/-- A control character is escaped by the four digits of its number. -/
theorem natural?_control {n : Nat} (control : n < 0x20) :
    Radix.natural? 16 ['0', '0', hexChar (n / 16), hexChar n] = some n := by
  have all : ∀ n < 0x20, Radix.natural? 16 ['0', '0', hexChar (n / 16), hexChar n] = some n := by
    decide
  exact all n control

/-- An escape of one letter is read as its character. -/
theorem pieces?_letter {e c : Char} (other : e ≠ 'u') (escape : letterEscape? e = some c)
    (rest : List Char) :
    pieces? ('\\' :: e :: rest) =
      (pieces? rest).map fun (found, rest) => (.char c :: found, rest) := by
  rw [pieces?.eq_def]
  split
  next h => cases h
  next h => cases h
  next h =>
    cases h
    exact absurd rfl other
  next h =>
    cases h
    rw [escape]
    cases pieces? rest <;> rfl
  next alone h =>
    cases h
    exact absurd rfl (alone _ _ rfl)

/-- An escape of four digits is read as the character of their number. -/
theorem pieces?_digits {a b c d : Char} {unit : Nat}
    (spelled : Radix.natural? 16 [a, b, c, d] = some unit) (rest : List Char) :
    pieces? ('\\' :: 'u' :: a :: b :: c :: d :: rest) =
      (pieces? rest).map fun (found, rest) => (Piece.ofUnit unit :: found, rest) := by
  rw [pieces?, spelled]
  cases pieces? rest <;> rfl

/-- A character that needs no escape is read as it is. -/
theorem pieces?_plain {c : Char} (noQuote : c ≠ '"') (noEscape : c ≠ '\\')
    (visible : ¬ c.toNat < 0x20) (rest : List Char) :
    pieces? (c :: rest) = (pieces? rest).map fun (found, rest) => (.char c :: found, rest) := by
  rw [pieces?.eq_def]
  split
  next h => cases h
  next h =>
    cases h
    exact absurd rfl noQuote
  next h =>
    cases h
    exact absurd rfl noEscape
  next h =>
    cases h
    exact absurd rfl noEscape
  next h =>
    cases h
    rw [if_neg (by simp [noEscape, visible])]
    cases pieces? rest <;> rfl

/-- **A character is read back**, escaped or not. -/
theorem pieces?_writeChar (c : Char) (rest : List Char) :
    pieces? (writeChar c ++ rest) =
      (pieces? rest).map fun (found, rest) => (.char c :: found, rest) := by
  unfold writeChar
  split
  case h_8 noQuote noEscape _ _ _ _ _ =>
    split
    next control =>
      have unit : Piece.ofUnit c.toNat = .char c := by
        rw [Piece.ofUnit, if_neg (by omega), if_neg (by omega), Char.ofNat_toNat]
      rw [← unit]
      exact pieces?_digits (natural?_control control) rest
    next visible => exact pieces?_plain noQuote noEscape visible rest
  all_goals exact pieces?_letter (by decide) rfl rest

theorem pieces?_written (cs rest : List Char) :
    pieces? (cs.flatMap writeChar ++ '"' :: rest) = some (cs.map .char, rest) := by
  induction cs with
  | nil => rfl
  | cons c cs ih => simp [pieces?_writeChar, ih]

theorem joinPieces_char (cs : List Char) : joinPieces (cs.map .char) = some cs := by
  induction cs with
  | nil => rfl
  | cons c cs ih => simp [joinPieces, ih]

/-- **A string is read back.** -/
theorem string?_written (s : String) (rest : List Char) :
    string? (s.toList.flatMap writeChar ++ '"' :: rest) = some (some s, rest) := by
  simp [string?, pieces?_written, joinPieces_char]

/-! ## Numbers -/

/-- What follows does not belong to a number in front of it. -/
def EndsNumber (cs : List Char) : Prop :=
  Undigited cs ∧ ∀ c ∈ cs.head?, c ≠ '.' ∧ c ≠ 'e' ∧ c ≠ 'E'

/-- The digits of a number are its integer part: no number but zero starts with a zero. -/
theorem whole?_digits (n : Nat) {rest : List Char} (stop : Undigited rest) :
    whole? (Decimal.digits n ++ rest) = some (Decimal.digits n, rest) := by
  have run := takeWhile_isDigit_append (Decimal.digits_isDigit n) stop
  have after := dropWhile_isDigit_append (Decimal.digits_isDigit n) stop
  have noZero : ¬ ((Decimal.digits n).head? = some '0' ∧ 1 < (Decimal.digits n).length) := by
    rintro ⟨zero, long⟩
    by_cases pos : 0 < n
    · exact Decimal.digits_head pos zero
    · obtain rfl : n = 0 := by omega
      exact absurd long (by decide)
  simp only [whole?, run, after]
  rw [if_neg]
  simp [Decimal.digits_ne_nil, noZero]

theorem fraction?_none {rest : List Char} (ends : EndsNumber rest) :
    fraction? rest = some (none, rest) := by
  unfold fraction?
  split
  next => exact absurd rfl (ends.2 '.' rfl).1
  next => rfl

theorem exponent?_none {rest : List Char} (ends : EndsNumber rest) :
    exponent? rest = some (none, rest) := by
  cases rest with
  | nil => rfl
  | cons c cs =>
    have noLetter := (ends.2 c rfl).2
    simp [exponent?, noLetter]

/-- An exponent is read with its sign. -/
theorem exponent?_signed (n : Int) {rest : List Char} (stop : Undigited rest) :
    exponent? ('e' :: (Decimal.signed n ++ rest)) = some (some n, rest) := by
  have read : Decimal.read? (Decimal.digits n.natAbs ++ rest).length
      (Decimal.digits n.natAbs ++ rest) = some (n.natAbs, rest) := by
    rw [Decimal.read?_append (Decimal.digits_isDigit _) (Decimal.digits_ne_nil _) (by simp) stop,
      Decimal.ofDigitChars_digits]
  unfold Decimal.signed
  split
  next below =>
    simp only [exponent?, List.cons_append, true_or, if_true, read, Option.map_some,
      Option.some.injEq, Prod.mk.injEq, and_true]
    omega
  next above =>
    obtain ⟨c, cs, written, digit⟩ := Decimal.digits_cons n.natAbs
    rw [written, List.cons_append] at read ⊢
    simp only [exponent?, true_or, if_true]
    split
    next minus =>
      cases minus
      exact absurd digit (by decide)
    next plus =>
      cases plus
      exact absurd digit (by decide)
    next =>
      simp only [read, Option.map_some, Option.some.injEq, Prod.mk.injEq, and_true]
      simp only [Bool.false_eq_true, if_false]
      omega

/-- What a number is read as, from its sign, its digits and what follows them. -/
theorem number?_parts (negative : Bool) (n : Nat) {tail rest : List Char} {exponent : Option Int}
    (stop : Undigited tail) (whole : fraction? tail = some (none, tail))
    (power : exponent? tail = some (exponent, rest)) :
    number? ((if negative then ['-'] else []) ++ (Decimal.digits n ++ tail)) =
      some (if exponent.isNone ∧ ¬ (negative ∧ n = 0) then
          .integer (if negative then -(n : Int) else n)
        else .decimal negative n (exponent.getD 0), rest) := by
  have digits := whole?_digits n stop
  cases negative with
  | true =>
    rw [if_pos rfl, List.singleton_append, number?]
    simp only [Option.bind_eq_bind, digits, Option.bind_some, whole, power, Option.getD_none,
      List.append_nil, Decimal.ofDigitChars_digits, Option.isNone_none, true_and]
    split <;> simp
  | false =>
    rw [if_neg Bool.false_ne_true, List.nil_append]
    obtain ⟨c, cs, written, digit⟩ := Decimal.digits_cons n
    simp only [number?]
    split
    next minus =>
      rw [written] at minus
      cases minus
      exact absurd digit (by decide)
    next =>
      simp only [Option.bind_eq_bind, digits, Option.bind_some, whole, power, Option.getD_none,
        List.append_nil, Decimal.ofDigitChars_digits, Option.isNone_none, true_and]
      split <;> simp

theorem toList_integer (n : Int) :
    (writeNumeral (.integer n)).toList =
      (if decide (n < 0) then ['-'] else []) ++ Decimal.digits n.natAbs := by
  by_cases below : n < 0 <;> simp [writeNumeral, Decimal.signed, below]

theorem toList_decimal (negative : Bool) (coefficient : Nat) (exponent : Int) :
    (writeNumeral (.decimal negative coefficient exponent)).toList =
      (if negative then ['-'] else []) ++
        (Decimal.digits coefficient ++ 'e' :: Decimal.signed exponent) := by
  cases negative <;> simp [writeNumeral]

/-- **A number is read back**, an integer as one and any other with its exponent. -/
theorem number?_written (n : Numeral) {rest : List Char} (ends : EndsNumber rest) :
    number? ((writeNumeral n).toList ++ rest) = some (n, rest) := by
  cases n with
  | integer n =>
    have read := number?_parts (n < 0) n.natAbs ends.1 (fraction?_none ends) (exponent?_none ends)
    have plain : (none : Option Int).isNone = true ∧ ¬ (decide (n < 0) = true ∧ n.natAbs = 0) :=
      ⟨rfl, by simp only [decide_eq_true_eq]; omega⟩
    rw [toList_integer, List.append_assoc, read, if_pos plain]
    simp only [decide_eq_true_eq, Option.some.injEq, Prod.mk.injEq, Numeral.integer.injEq, and_true]
    omega
  | decimal negative coefficient exponent =>
    have read := number?_parts negative coefficient (by simp) rfl
      (exponent?_signed exponent ends.1)
    rw [toList_decimal, List.append_assoc, List.append_assoc, List.cons_append, read]
    rfl

/-! ## Values -/

/-- A number starts with its sign or a digit. -/
theorem writeNumeral_head (n : Numeral) :
    ∃ c cs, (writeNumeral n).toList = c :: cs ∧ (c = '-' ∨ c.isDigit = true) := by
  have signed : ∀ negative (m : Nat) tail, ∃ c cs,
      (if negative = true then ['-'] else []) ++ (Decimal.digits m ++ tail) = c :: cs ∧
        (c = '-' ∨ c.isDigit = true) := by
    intro negative m tail
    obtain ⟨c, cs, written, digit⟩ := Decimal.digits_cons m
    cases negative with
    | true => exact ⟨_, _, rfl, .inl rfl⟩
    | false => exact ⟨c, cs ++ tail, by simp [written], .inr digit⟩
  cases n with
  | integer n =>
    have head := signed (n < 0) n.natAbs []
    rwa [List.append_nil, ← toList_integer] at head
  | decimal negative coefficient exponent =>
    rw [toList_decimal]
    exact signed negative coefficient _

theorem skipSpace_cons {c : Char} (solid : isSpace c = false) (cs : List Char) :
    skipSpace (c :: cs) = c :: cs := by
  simp [skipSpace, solid]

/-- No digit is white space. -/
theorem isSpace_of_isDigit {c : Char} (digit : c.isDigit = true) : isSpace c = false := by
  cases space : isSpace c with
  | false => rfl
  | true =>
    simp only [isSpace, Bool.or_eq_true, decide_eq_true_eq] at space
    rcases space with ((rfl | rfl) | rfl) | rfl <;> exact absurd digit (by decide)

/-- A value that starts as a number does is read as one. -/
theorem value?_number {c : Char} (start : c = '-' ∨ c.isDigit = true) (steps : Nat)
    (cs : List Char) :
    value? (steps + 1) (c :: cs) = (number? (c :: cs)).map fun (n, rest) => (.number n, rest) := by
  have solid : isSpace c = false := by
    rcases start with rfl | digit
    · decide
    · exact isSpace_of_isDigit digit
  have other : ∀ c' cs', c :: cs = c' :: cs' → ¬ (c' = '-' ∨ c'.isDigit = true) → False := by
    intro c' cs' same none
    cases same
    exact none start
  simp only [value?, skipSpace_cons solid]
  split
  next h => exact (other _ _ h (by decide)).elim
  next h => exact (other _ _ h (by decide)).elim
  next h => exact (other _ _ h (by decide)).elim
  next h => exact (other _ _ h (by decide)).elim
  next h => exact (other _ _ h (by decide)).elim
  next h => exact (other _ _ h (by decide)).elim
  next => rfl

/-- A written value starts with a character of its own, which closes no array. -/
theorem line_head (j : Json) :
    ∃ c cs, j.line.toList = c :: cs ∧ isSpace c = false ∧ c ≠ ']' := by
  cases j with
  | null => exact ⟨_, _, rfl, by decide⟩
  | bool b => cases b <;> exact ⟨_, _, rfl, by decide⟩
  | number n =>
    obtain ⟨c, cs, written, rfl | digit⟩ := writeNumeral_head n
    · exact ⟨_, _, written, by decide⟩
    · exact ⟨_, _, written, isSpace_of_isDigit digit, ne_of_isDigit digit (by decide)⟩
  | string s => exact ⟨'"', _, by simp [line, writeText]; rfl, by decide⟩
  | array items => exact ⟨'[', _, by simp [line]; rfl, by decide⟩
  | object members => exact ⟨'\x7b', _, by simp [line]; rfl, by decide⟩

/-! ### What one step of the reader does -/

theorem value?_array {steps : Nat} {c : Char} {cs rest : List Char} {items : List Json}
    (solid : isSpace c = false) (more : c ≠ ']')
    (read : items? steps (c :: cs) = some (items, rest)) :
    value? (steps + 1) ('[' :: c :: cs) = some (.array items, rest) := by
  have bracket : skipSpace ('[' :: c :: cs) = '[' :: c :: cs := skipSpace_cons (by decide) _
  simp only [value?, bracket, skipSpace_cons solid]
  split
  next h =>
    cases h
    exact absurd rfl more
  next => simp [read]

theorem value?_object {steps : Nat} {cs rest : List Char} {members : List (Json.Text × Json)}
    (read : members? steps ('"' :: cs) = some (members, rest)) :
    value? (steps + 1) ('\x7b' :: '"' :: cs) = some (.object members, rest) := by
  have brace : skipSpace ('\x7b' :: '"' :: cs) = '\x7b' :: '"' :: cs := skipSpace_cons (by decide) _
  have quote : skipSpace ('"' :: cs) = '"' :: cs := skipSpace_cons (by decide) _
  simp only [value?, brace, quote]
  split
  next h => cases h
  next => simp [read]

theorem items?_last {steps : Nat} {cs rest : List Char} {item : Json}
    (read : value? steps cs = some (item, ']' :: rest)) :
    items? (steps + 1) cs = some ([item], rest) := by
  have close : skipSpace (']' :: rest) = ']' :: rest := skipSpace_cons (by decide) _
  simp [items?, read, close]

theorem items?_more {steps : Nat} {cs rest rest' : List Char} {item : Json} {items : List Json}
    (read : value? steps cs = some (item, ',' :: rest))
    (others : items? steps rest = some (items, rest')) :
    items? (steps + 1) cs = some (item :: items, rest') := by
  have comma : skipSpace (',' :: rest) = ',' :: rest := skipSpace_cons (by decide) _
  simp [items?, read, comma, others]

theorem members?_last {steps : Nat} {key : String} {cs rest : List Char} {value : Json}
    (read : value? steps cs = some (value, '\x7d' :: rest)) :
    members? (steps + 1) ('"' :: (key.toList.flatMap writeChar ++ '"' :: ':' :: cs)) =
      some ([(some key, value)], rest) := by
  have quote : ∀ cs, skipSpace ('"' :: cs) = '"' :: cs := skipSpace_cons (by decide)
  have colon : skipSpace (':' :: cs) = ':' :: cs := skipSpace_cons (by decide) _
  have close : skipSpace ('\x7d' :: rest) = '\x7d' :: rest := skipSpace_cons (by decide) _
  simp [members?, quote, string?_written, colon, read, close]

theorem members?_more {steps : Nat} {key : String} {cs rest rest' : List Char} {value : Json}
    {members : List (Json.Text × Json)} (read : value? steps cs = some (value, ',' :: rest))
    (others : members? steps rest = some (members, rest')) :
    members? (steps + 1) ('"' :: (key.toList.flatMap writeChar ++ '"' :: ':' :: cs)) =
      some ((some key, value) :: members, rest') := by
  have quote : ∀ cs, skipSpace ('"' :: cs) = '"' :: cs := skipSpace_cons (by decide)
  have colon : skipSpace (':' :: cs) = ':' :: cs := skipSpace_cons (by decide) _
  have comma : skipSpace (',' :: rest) = ',' :: rest := skipSpace_cons (by decide) _
  simp [members?, quote, string?_written, colon, read, comma, others]

/-! ### Whole values -/

theorem toList_lineItems (item next : Json) (items : List Json) :
    (lineItems (item :: next :: items)).toList =
      item.line.toList ++ ',' :: (lineItems (next :: items)).toList := by
  simp [lineItems]

theorem toList_lineMember (key : Json.Text) (value : Json) :
    (lineMembers [(key, value)]).toList =
      '"' :: ((key.getD "").toList.flatMap writeChar ++ '"' :: ':' :: value.line.toList) := by
  simp [lineMembers, writeText]

theorem toList_lineMembers (key : Json.Text) (value : Json) (next : Json.Text × Json)
    (members : List (Json.Text × Json)) :
    (lineMembers ((key, value) :: next :: members)).toList =
      '"' :: ((key.getD "").toList.flatMap writeChar ++ '"' :: ':' :: (value.line.toList ++
        ',' :: (lineMembers (next :: members)).toList)) := by
  simp [lineMembers, writeText]

theorem lineItems_head (item : Json) (items : List Json) :
    ∃ c cs, (lineItems (item :: items)).toList = c :: cs ∧ isSpace c = false ∧ c ≠ ']' := by
  obtain ⟨c, cs, head, own⟩ := line_head item
  cases items with
  | nil => exact ⟨c, cs, head, own⟩
  | cons next items => exact ⟨c, _, by rw [toList_lineItems, head, List.cons_append], own⟩

theorem lineMembers_head (member : Json.Text × Json) (members : List (Json.Text × Json)) :
    ∃ cs, (lineMembers (member :: members)).toList = '"' :: cs := by
  obtain ⟨key, value⟩ := member
  cases members with
  | nil => exact ⟨_, toList_lineMember key value⟩
  | cons next members => exact ⟨_, toList_lineMembers key value next members⟩

/-- With so many steps the reader reads each value whose text is not longer, and the parts of an array
or an object whose text is shorter. -/
structure ReadsLines (steps : Nat) : Prop where
  value : ∀ {depth : Nat} {j : Json} {rest : List Char}, j.sound depth = true →
    j.line.toList.length ≤ steps → EndsNumber rest →
      value? steps (j.line.toList ++ rest) = some (j, rest)
  items : ∀ {depth : Nat} {item : Json} {items : List Json} {rest : List Char},
    soundItems depth (item :: items) = true → (lineItems (item :: items)).toList.length < steps →
      items? steps ((lineItems (item :: items)).toList ++ ']' :: rest) = some (item :: items, rest)
  members : ∀ {depth : Nat} {member : Json.Text × Json} {members : List (Json.Text × Json)}
    {rest : List Char}, soundMembers depth (member :: members) = true →
      (lineMembers (member :: members)).toList.length < steps →
        members? steps ((lineMembers (member :: members)).toList ++ '\x7d' :: rest) =
          some (member :: members, rest)

namespace ReadsLines

/-- No value is written as nothing. -/
theorem zero : ReadsLines 0 where
  value {_ j _} _ short _ := by
    obtain ⟨c, cs, head, -⟩ := line_head j
    simp [head] at short
  items _ short := absurd short (Nat.not_lt_zero _)
  members _ short := absurd short (Nat.not_lt_zero _)

variable {steps depth : Nat} {rest : List Char}

theorem value_succ (known : ReadsLines steps) {j : Json} (sound : j.sound depth = true)
    (short : j.line.toList.length ≤ steps + 1) (ends : EndsNumber rest) :
    value? (steps + 1) (j.line.toList ++ rest) = some (j, rest) := by
  cases j with
  | null => rfl
  | bool b => cases b <;> rfl
  | number n =>
    obtain ⟨c, cs, written, start⟩ := writeNumeral_head n
    have read := number?_written n ends
    rw [written, List.cons_append] at read
    rw [line, written, List.cons_append, value?_number start, read, Option.map_some]
  | string s =>
    obtain ⟨s, rfl⟩ := Option.isSome_iff_exists.mp sound
    have quote : ∀ cs, skipSpace ('"' :: cs) = '"' :: cs := skipSpace_cons (by decide)
    simp [line, writeText, value?, quote, string?_written]
  | array items =>
    simp only [Json.sound, Bool.and_eq_true] at sound
    have written : (array items).line.toList = '[' :: ((lineItems items).toList ++ [']']) := by
      simp [line]
    cases items with
    | nil => rfl
    | cons item items =>
      rw [written] at short ⊢
      simp only [List.length_cons, List.length_append, List.length_nil] at short
      have read : items? steps ((lineItems (item :: items)).toList ++ ']' :: rest) =
          some (item :: items, rest) := known.items sound.2 (by omega)
      obtain ⟨c, cs, head, solid, more⟩ := lineItems_head item items
      rw [head] at read ⊢
      rw [List.cons_append] at read
      simpa using value?_array solid more read
  | object members =>
    simp only [Json.sound, Bool.and_eq_true] at sound
    have written : (object members).line.toList =
        '\x7b' :: ((lineMembers members).toList ++ ['\x7d']) := by
      simp [line]
    cases members with
    | nil => rfl
    | cons member members =>
      rw [written] at short ⊢
      simp only [List.length_cons, List.length_append, List.length_nil] at short
      have read : members? steps ((lineMembers (member :: members)).toList ++ '\x7d' :: rest) =
          some (member :: members, rest) := known.members sound.2 (by omega)
      obtain ⟨cs, head⟩ := lineMembers_head member members
      rw [head] at read ⊢
      rw [List.cons_append] at read
      simpa using value?_object read

theorem items_succ (known : ReadsLines steps) {item : Json} {items : List Json}
    (sound : soundItems depth (item :: items) = true)
    (short : (lineItems (item :: items)).toList.length < steps + 1) :
    items? (steps + 1) ((lineItems (item :: items)).toList ++ ']' :: rest) =
      some (item :: items, rest) := by
  rw [soundItems, Bool.and_eq_true] at sound
  cases items with
  | nil => exact items?_last (known.value sound.1 (Nat.le_of_lt_succ short) (by simp [EndsNumber]))
  | cons next items =>
    rw [toList_lineItems] at short ⊢
    simp only [List.length_append, List.length_cons] at short
    rw [List.append_assoc, List.cons_append]
    exact items?_more (known.value sound.1 (by omega) (by simp [EndsNumber]))
      (known.items sound.2 (by omega))

theorem members_succ (known : ReadsLines steps) {member : Json.Text × Json}
    {members : List (Json.Text × Json)} (sound : soundMembers depth (member :: members) = true)
    (short : (lineMembers (member :: members)).toList.length < steps + 1) :
    members? (steps + 1) ((lineMembers (member :: members)).toList ++ '\x7d' :: rest) =
      some (member :: members, rest) := by
  obtain ⟨key, value⟩ := member
  simp only [soundMembers, Bool.and_eq_true] at sound
  obtain ⟨key, rfl⟩ := Option.isSome_iff_exists.mp sound.1.1
  cases members with
  | nil =>
    rw [toList_lineMember] at short ⊢
    simp only [List.length_append, List.length_cons] at short
    simp only [Option.getD_some, List.cons_append, List.append_assoc]
    exact members?_last (known.value sound.1.2 (by omega) (by simp [EndsNumber]))
  | cons next members =>
    rw [toList_lineMembers] at short ⊢
    simp only [List.length_append, List.length_cons] at short
    simp only [Option.getD_some, List.cons_append, List.append_assoc]
    exact members?_more (known.value sound.1.2 (by omega) (by simp [EndsNumber]))
      (known.members sound.2 (by omega))

end ReadsLines

/-- **The reader reads what is written on a line** in as many steps as the line is long: each part is
read with one step less than the whole. -/
theorem readsLines (steps : Nat) : ReadsLines steps := by
  induction steps with
  | zero => exact .zero
  | succ steps known => exact ⟨known.value_succ, known.items_succ, known.members_succ⟩

/-- **A sound value is read back from its line.** -/
theorem ofText?_line {depth : Nat} {j : Json} (sound : j.sound depth = true) :
    ofText? j.line = some j := by
  have nothing : EndsNumber [] := by simp [EndsNumber]
  have read := (readsLines (2 * j.line.toList.length + 2)).value sound (by omega) nothing
  rw [List.append_nil] at read
  rw [ofText?]
  simp only [Option.bind_eq_bind, read, Option.bind_some]
  rfl

end LiveTimetable.Json
