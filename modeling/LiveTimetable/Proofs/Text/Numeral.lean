import LiveTimetable.Proofs.Text.Decimal
import Mathlib.Data.List.TakeWhile

/-!
# Numerals of integers, and the blanks around a text

A numeral is a run of digits with at most one sign in front. `Decimal.Spells` says of which number,
and the reader of integers reads the numerals and nothing else (`Decimal.integer?_eq_some_iff`).
Zeros in front of the digits leave the number as it is, and so does a plus, or a minus in front of
zero (`Decimal.Idle`).

A text is its trimmed text with blanks around (`exists_trim`). The other way round, blanks around a
text without any are all that is trimmed off (`trim_append`).
-/

namespace LiveTimetable.Text

/-! ### Blanks -/

/-- There is nothing in the text but blanks. -/
def Blank (cs : List Char) : Prop := ∀ c ∈ cs, isBlank c = true

/-- There is no blank in the text. -/
def Solid (cs : List Char) : Prop := ∀ c ∈ cs, isBlank c = false

variable {front core back : List Char}

theorem Blank.reverse (blank : Blank back) : Blank back.reverse :=
  fun c mem => blank c (List.mem_reverse.mp mem)

theorem Solid.reverse (solid : Solid core) : Solid core.reverse :=
  fun c mem => solid c (List.mem_reverse.mp mem)

theorem trimStart_append (blank : Blank front) (cs : List Char) :
    trimStart (front ++ cs) = trimStart cs :=
  List.dropWhile_append_of_pos blank

theorem trimStart_of_solid (solid : Solid core) : trimStart core = core := by
  cases core with
  | nil => rfl
  | cons c cs => exact trimStart_cons (solid c (List.mem_cons_self ..)) cs

theorem trimEnd_append (blank : Blank back) (cs : List Char) :
    trimEnd (cs ++ back) = trimEnd cs := by
  rw [trimEnd, List.reverse_append, trimStart_append blank.reverse, trimEnd]

theorem trimEnd_of_solid (solid : Solid core) : trimEnd core = core := by
  rw [trimEnd, trimStart_of_solid solid.reverse, List.reverse_reverse]

/-- **Blanks around a text without any are trimmed off.** -/
theorem trim_append (before : Blank front) (solid : Solid core) (after : Blank back) :
    trim (front ++ core ++ back) = core := by
  rw [List.append_assoc, trim, trimStart_append before]
  cases core with
  | nil =>
    -- With nothing between them the blanks behind are trimmed off in front.
    have nothing : trimStart back = [] := List.dropWhile_eq_nil_iff.mpr after
    rw [List.nil_append, nothing]
    rfl
  | cons c cs =>
    rw [List.cons_append, trimStart_cons (solid c (List.mem_cons_self ..)), ← List.cons_append,
      trimEnd_append after, trimEnd_of_solid solid]

theorem exists_trimStart (cs : List Char) : ∃ front, Blank front ∧ cs = front ++ trimStart cs :=
  ⟨cs.takeWhile isBlank, List.all_eq_true.mp List.all_takeWhile,
    List.takeWhile_append_dropWhile.symm⟩

/-- **A text is its trimmed text with blanks around.** -/
theorem exists_trim (cs : List Char) :
    ∃ front back, Blank front ∧ Blank back ∧ cs = front ++ trim cs ++ back := by
  obtain ⟨front, before, first⟩ := exists_trimStart cs
  obtain ⟨last, after, rest⟩ := exists_trimStart (trimStart cs).reverse
  have whole : trimStart cs = trim cs ++ last.reverse := by
    rw [trim, trimEnd, ← List.reverse_append, ← rest, List.reverse_reverse]
  exact ⟨front, last.reverse, before, after.reverse, by rw [List.append_assoc, ← whole, ← first]⟩

/-! ### Numerals -/

namespace Decimal

/-- Digits only, and at least one. -/
def Run (cs : List Char) : Prop := cs ≠ [] ∧ ∀ c ∈ cs, c.isDigit = true

/-- The text is a numeral of the number. -/
inductive Spells : List Char → Int → Prop
  | unsigned {run : List Char} (digits : Run run) : Spells run (Nat.ofDigitChars 10 run 0 : Nat)
  | plus {run : List Char} (digits : Run run) :
      Spells ('+' :: run) (Nat.ofDigitChars 10 run 0 : Nat)
  | minus {run : List Char} (digits : Run run) :
      Spells ('-' :: run) (-(Nat.ofDigitChars 10 run 0 : Nat))

variable {cs : List Char} {n : Int}

theorem natural?_eq_some_iff {n : Nat} :
    natural? cs = some n ↔ Run cs ∧ Nat.ofDigitChars 10 cs 0 = n := by
  simp [natural?, Run]

/-- **The reader of integers reads the numerals**, each as the number it spells. -/
theorem integer?_eq_some_iff : integer? cs = some n ↔ Spells cs n := by
  constructor
  · intro read
    unfold integer? at read
    split at read
    next run =>
      cases natural : natural? run with
      | none => simp [natural] at read
      | some value =>
        obtain rfl : -(value : Int) = n := by simpa [natural] using read
        obtain ⟨digits, rfl⟩ := natural?_eq_some_iff.mp natural
        exact .minus digits
    next run =>
      obtain ⟨value, natural, rfl⟩ := Option.map_eq_some_iff.mp read
      obtain ⟨digits, rfl⟩ := natural?_eq_some_iff.mp natural
      exact .plus digits
    next =>
      obtain ⟨value, natural, rfl⟩ := Option.map_eq_some_iff.mp read
      obtain ⟨digits, rfl⟩ := natural?_eq_some_iff.mp natural
      exact .unsigned digits
  · rintro (digits | digits | digits)
    · -- A digit in front is no sign.
      obtain ⟨c, rest, rfl, digit⟩ := exists_cons_of_isDigit digits.1 digits.2
      unfold integer?
      split
      next front => exact absurd digit (by rw [(List.cons.inj front).1]; decide)
      next front => exact absurd digit (by rw [(List.cons.inj front).1]; decide)
      next => rw [natural?_eq_some_iff.mpr ⟨digits, rfl⟩]; rfl
    · rw [integer?, natural?_eq_some_iff.mpr ⟨digits, rfl⟩]
      rfl
    · rw [integer?, natural?_eq_some_iff.mpr ⟨digits, rfl⟩]
      rfl

/-- A numeral holds digits and a sign. -/
theorem Spells.mem (spells : Spells cs n) :
    ∀ c ∈ cs, c.isDigit = true ∨ c = '+' ∨ c = '-' := by
  cases spells with
  | unsigned digits => exact fun c mem => Or.inl (digits.2 c mem)
  | plus digits =>
    intro c mem
    rcases List.mem_cons.mp mem with sign | mem
    · exact Or.inr (Or.inl sign)
    · exact Or.inl (digits.2 c mem)
  | minus digits =>
    intro c mem
    rcases List.mem_cons.mp mem with sign | mem
    · exact Or.inr (Or.inr sign)
    · exact Or.inl (digits.2 c mem)

theorem Spells.solid (spells : Spells cs n) : Solid cs := by
  intro c mem
  rcases spells.mem c mem with digit | rfl | rfl
  · exact isBlank_of_isDigit digit
  · decide
  · decide

/-- A character that is no digit and no sign is not in a numeral. -/
theorem Spells.not_mem (spells : Spells cs n) {c : Char} (digit : c.isDigit = false)
    (plus : c ≠ '+') (minus : c ≠ '-') : c ∉ cs := by
  intro mem
  rcases spells.mem c mem with other | other | other
  · exact ne_of_isDigit other digit rfl
  · exact plus other
  · exact minus other

/-- A sign that leaves a number as it is: none, a plus, or a minus in front of zero. -/
inductive Idle : List Char → Nat → Prop
  | none (n : Nat) : Idle [] n
  | plus (n : Nat) : Idle ['+'] n
  | minus : Idle ['-'] 0

/-- **A number may have zeros in front, and an idle sign.** -/
theorem Idle.spells {sign : List Char} {n : Nat} (idle : Idle sign n) (width : Nat) :
    Spells (sign ++ padded width n) n := by
  have digits : ∀ n, Run (padded width n) := fun n => ⟨padded_ne_nil width n, padded_isDigit width n⟩
  cases idle with
  | none => simpa using Spells.unsigned (digits n)
  | plus => simpa using Spells.plus (digits n)
  | minus => simpa using Spells.minus (digits 0)

end Decimal

end LiveTimetable.Text
