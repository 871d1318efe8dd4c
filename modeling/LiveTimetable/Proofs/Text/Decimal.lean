import LiveTimetable.Text.Basic
import Mathlib.Algebra.Ring.Nat
import Mathlib.Data.List.Induction

/-!
# Written numbers are read back

A reader takes the longest run of digits, so what it makes of a written number depends on what
comes after it. A text is `Undigited` when no digit stands in front; a number written before such a
text is read back with the text left over (`Decimal.read?_padded`).
-/

namespace LiveTimetable.Text

/-- The text does not go on with a digit. -/
def Undigited (cs : List Char) : Prop := ∀ c ∈ cs.head?, c.isDigit = false

@[simp] theorem undigited_nil : Undigited [] := by simp [Undigited]

@[simp] theorem undigited_cons (c : Char) (cs : List Char) :
    Undigited (c :: cs) ↔ c.isDigit = false := by
  simp [Undigited]

/-- No digit is blank. -/
theorem isBlank_of_isDigit {c : Char} (digit : c.isDigit = true) : isBlank c = false := by
  cases blank : isBlank c with
  | false => rfl
  | true =>
    have apart : blanks.all (!·.isDigit) = true := by decide
    have other := List.all_eq_true.mp apart c (List.contains_iff_mem.mp blank)
    simp [digit] at other

theorem ne_of_isDigit {c d : Char} (digit : c.isDigit = true) (other : d.isDigit = false) :
    c ≠ d := by
  rintro rfl
  exact Bool.false_ne_true (other.symm.trans digit)

/-- There is nothing to trim where something stands that is not blank. -/
theorem trimStart_cons {c : Char} (solid : isBlank c = false) (cs : List Char) :
    trimStart (c :: cs) = c :: cs := by
  simp [trimStart, solid]

theorem takeWhile_isDigit_append {run : List Char} (digits : ∀ c ∈ run, c.isDigit = true)
    {rest : List Char} (stop : Undigited rest) : (run ++ rest).takeWhile Char.isDigit = run := by
  rw [List.takeWhile_append_of_pos digits]
  cases rest with
  | nil => simp
  | cons c cs => simp [(undigited_cons c cs).mp stop]

theorem dropWhile_isDigit_append {run : List Char} (digits : ∀ c ∈ run, c.isDigit = true)
    {rest : List Char} (stop : Undigited rest) : (run ++ rest).dropWhile Char.isDigit = rest := by
  rw [List.dropWhile_append_of_pos digits]
  cases rest with
  | nil => simp
  | cons c cs => simp [(undigited_cons c cs).mp stop]

theorem exists_cons_of_isDigit {run : List Char} (solid : run ≠ [])
    (digits : ∀ c ∈ run, c.isDigit = true) : ∃ c cs, run = c :: cs ∧ c.isDigit = true := by
  cases run with
  | nil => exact absurd rfl solid
  | cons c cs => exact ⟨c, cs, rfl, digits c (List.mem_cons_self ..)⟩

namespace Decimal

theorem digits_isDigit (n : Nat) : ∀ c ∈ digits n, c.isDigit = true :=
  fun _ mem => Nat.isDigit_of_mem_toDigits (by decide) (by decide) mem

theorem digits_ne_nil (n : Nat) : digits n ≠ [] := Nat.toDigits_ne_nil

@[simp] theorem ofDigitChars_digits (n : Nat) : Nat.ofDigitChars 10 (digits n) 0 = n :=
  Nat.ofDigitChars_toDigits (by decide) (by decide)

theorem length_digits_le_iff {n width : Nat} (pos : 0 < width) :
    (digits n).length ≤ width ↔ n < 10 ^ width :=
  Nat.length_toDigits_le_iff (by decide) pos

theorem padded_isDigit (width n : Nat) : ∀ c ∈ padded width n, c.isDigit = true := by
  intro c mem
  rcases List.mem_append.mp mem with zero | digit
  · rw [(List.mem_replicate.mp zero).2]
    decide
  · exact digits_isDigit n c digit

theorem padded_ne_nil (width n : Nat) : padded width n ≠ [] := by
  simp [padded, digits_ne_nil]

/-- Zeros in front do not change the number. -/
@[simp] theorem ofDigitChars_padded (width n : Nat) :
    Nat.ofDigitChars 10 (padded width n) 0 = n := by
  simp [padded, Nat.ofDigitChars_append, Nat.ofDigitChars_replicate_zero]

/-- A number that its width holds takes up the width. -/
theorem length_padded {width n : Nat} (pos : 0 < width) (held : n < 10 ^ width) :
    (padded width n).length = width := by
  have le := (length_digits_le_iff pos).mpr held
  simp only [padded, List.length_append, List.length_replicate]
  omega

/-- A run of digits spells a number that it has room for. -/
theorem ofDigitChars_lt {run : List Char} (digits : ∀ c ∈ run, c.isDigit = true) :
    Nat.ofDigitChars 10 run 0 < 10 ^ run.length := by
  induction run using List.reverseRecOn with
  | nil => simp
  | append_singleton front c ih =>
    have value : c.toNat - '0'.toNat < 10 := by
      have digit := digits c (by simp)
      simp only [Char.isDigit, Bool.and_eq_true, decide_eq_true_eq] at digit
      have least : '0'.toNat = 48 := rfl
      have greatest : c.toNat ≤ 57 := digit.2
      omega
    have below := ih fun d mem => digits d (List.mem_append_left _ mem)
    rw [Nat.ofDigitChars_append, Nat.ofDigitChars_cons, Nat.ofDigitChars_nil, List.length_append,
      List.length_singleton, Nat.pow_succ]
    omega

/-- What is read is spelled by the digits up to the limit. -/
theorem read?_lt {limit n : Nat} {cs rest : List Char} (read : read? limit cs = some (n, rest)) :
    n < 10 ^ ((cs.takeWhile Char.isDigit).take limit).length := by
  rw [read?] at read
  split at read
  next => cases read
  next =>
    cases read
    rw [List.take_takeWhile]
    refine ofDigitChars_lt fun c mem => ?_
    exact List.all_eq_true.mp List.all_takeWhile c mem

/-- **A run of digits is read as a whole** where the limit or the text after it ends it. -/
theorem read?_append {limit : Nat} {run rest : List Char} (digits : ∀ c ∈ run, c.isDigit = true)
    (solid : run ≠ []) (fits : run.length ≤ limit) (stop : Undigited rest) :
    read? limit (run ++ rest) = some (Nat.ofDigitChars 10 run 0, rest) := by
  have cut : Undigited (rest.take (limit - run.length)) := by
    cases rest with
    | nil => simp
    | cons c cs =>
      cases limit - run.length with
      | zero => simp
      | succ => simpa using stop
  have taken : ((run ++ rest).take limit).takeWhile Char.isDigit = run := by
    rw [List.take_append, List.take_of_length_le fits, takeWhile_isDigit_append digits cut]
  simp [read?, taken, solid]

/-- A number that fills its width is read under that limit. -/
theorem read?_padded {width n : Nat} (pos : 0 < width) (held : n < 10 ^ width) {rest : List Char}
    (stop : Undigited rest) : read? width (padded width n ++ rest) = some (n, rest) := by
  have fits : (padded width n).length ≤ width := Nat.le_of_eq (length_padded pos held)
  rw [read?_append (padded_isDigit width n) (padded_ne_nil width n) fits stop,
    ofDigitChars_padded]

/-- A number of any length is read where no limit stands in the way. -/
theorem read?_padded_all (width n : Nat) {rest : List Char} (stop : Undigited rest) :
    read? (padded width n ++ rest).length (padded width n ++ rest) = some (n, rest) := by
  rw [read?_append (padded_isDigit width n) (padded_ne_nil width n) (by simp) stop,
    ofDigitChars_padded]

theorem digits_cons (n : Nat) : ∃ c cs, digits n = c :: cs ∧ c.isDigit = true :=
  exists_cons_of_isDigit (digits_ne_nil n) (digits_isDigit n)

theorem padded_cons (width n : Nat) : ∃ c cs, padded width n = c :: cs ∧ c.isDigit = true :=
  exists_cons_of_isDigit (padded_ne_nil width n) (padded_isDigit width n)

/-- Nothing is trimmed off a padded number. -/
@[simp] theorem trimStart_padded (width n : Nat) (rest : List Char) :
    trimStart (padded width n ++ rest) = padded width n ++ rest := by
  obtain ⟨c, cs, written, digit⟩ := padded_cons width n
  rw [written, List.cons_append, trimStart_cons (isBlank_of_isDigit digit)]

/-- No number but zero starts with a zero. -/
theorem digits_head {n : Nat} (pos : 0 < n) : (digits n).head? ≠ some '0' := by
  induction n using Nat.strongRecOn with
  | _ n ih =>
    rw [digits, Nat.toDigits_eq_if (by decide)]
    split
    next one =>
      have single : ∀ d < 10, 0 < d → [Nat.digitChar d].head? ≠ some '0' := by decide
      exact single n one pos
    next more =>
      -- The first digit is that of the number without its last one.
      have front := ih (n / 10) (by omega) (by omega)
      rw [List.head?_append]
      cases written : (Nat.toDigits 10 (n / 10)).head? with
      | none => exact absurd (List.head?_eq_none_iff.mp written) (digits_ne_nil (n / 10))
      | some c => simpa [digits, written] using front

end Decimal

end LiveTimetable.Text
