import LiveTimetable.Calendar.InstantText
import LiveTimetable.Proofs.Text.Decimal

/-!
# Written dates and instants are read back

A date that is written is read back (`Date.ofText?_text`), and so is an instant that has been read
(`Instant.ofText?_text`): with its fraction, as a leap second if it is one, and with its offset.
Each part of the text is taken up to the mark that ends it; a mark is no digit, so it stops the
number before it.

A text gives the offset in whole minutes, and a leap second as the last of a minute. These are the
instants that a text can spell (`Instant.spelled_iff`).
-/

namespace LiveTimetable

open Text

namespace Civil

/-- A date that exists has a month and a day of two digits at most. -/
theorem Exists.small {c : Civil} (real : c.Exists) : c.month < 100 ∧ c.day < 100 := by
  obtain ⟨first, last⟩ := real
  unfold daysInMonth at last
  split at last
  next => split at last <;> omega
  next =>
    split at last
    next => omega
    next => split at last <;> omega

end Civil

namespace DateText

theorem number?_padded {n : Nat} (held : n < 100) {rest : List Char} (stop : Undigited rest) :
    number? 2 (Decimal.padded 2 n ++ rest) = some (n, rest) := by
  rw [number?, Decimal.trimStart_padded]
  exact Decimal.read?_padded (by decide) held stop

theorem mark?_cons {c : Char} (solid : isBlank c = false) (rest : List Char) :
    mark? c (c :: rest) = some rest := by
  simp [mark?, trimStart_cons solid]

/-- A text that starts with a digit has a year without a sign. -/
theorem year?_digit {c : Char} (digit : c.isDigit = true) (cs : List Char) :
    year? (c :: cs) = (Decimal.read? 4 (c :: cs)).map fun (n, rest) => ((n : Int), rest) := by
  rw [year?, trimStart_cons (isBlank_of_isDigit digit)]
  split
  next minus =>
    cases minus
    exact absurd digit (by decide)
  next plus =>
    cases plus
    exact absurd digit (by decide)
  next => rfl

/-- **A year is read back**, with its sign and all its digits. -/
theorem year?_writeYear (year : Int) {rest : List Char} (stop : Undigited rest) :
    year? (writeYear year ++ rest) = some (year, rest) := by
  unfold writeYear
  split
  next plain =>
    obtain ⟨c, cs, written, digit⟩ := Decimal.padded_cons 4 year.natAbs
    have four : Decimal.read? 4 (Decimal.padded 4 year.natAbs ++ rest) =
        some (year.natAbs, rest) := Decimal.read?_padded (by decide) (by omega) stop
    rw [written] at four ⊢
    rw [List.cons_append] at four ⊢
    rw [year?_digit digit, four]
    simp only [Option.map_some, Option.some.injEq, Prod.mk.injEq, and_true]
    omega
  next long =>
    have all := Decimal.read?_padded_all 4 year.natAbs stop
    split
    all_goals
      rw [List.cons_append, year?, trimStart_cons (by decide)]
      simp only [all, Option.map_some, Option.some.injEq, Prod.mk.injEq, and_true]
      omega

/-- **A civil date is read back** from in front of what follows it. -/
theorem read?_write {c : Civil} (small : c.month < 100 ∧ c.day < 100) {rest : List Char}
    (stop : Undigited rest) : read? (write c ++ rest) = some (c, rest) := by
  have dash : isBlank '-' = false := by decide
  have text : write c ++ rest = writeYear c.year ++
      '-' :: (Decimal.padded 2 c.month ++ '-' :: (Decimal.padded 2 c.day ++ rest)) := by
    simp [write]
  rw [text, read?, year?_writeYear c.year (by simp)]
  simp only [Option.bind_eq_bind, Option.bind_some, mark?_cons dash]
  rw [number?_padded small.1 (by simp)]
  simp only [Option.bind_some, mark?_cons dash]
  rw [number?_padded small.2 stop]
  rfl

end DateText

/-- **A date that is written is read back.** -/
@[simp] theorem Date.ofText?_text (d : Date) : Date.ofText? d.text = some d := by
  have read : DateText.read? (DateText.write (Civil.ofDays d.day) ++ []) =
      some (Civil.ofDays d.day, []) :=
    DateText.read?_write (Civil.ofDays_exists d.day).small undigited_nil
  rw [List.append_nil] at read
  rw [Date.ofText?, Date.text, String.toList_ofList, Date.civil, read]
  simp only [Option.bind_eq_bind, Option.bind_some, List.all_nil, if_true]
  exact Date.ofCivil?_civil d

namespace InstantText

open DateText

/-- What may follow the seconds of an instant: neither a digit nor a point. -/
def Ends (cs : List Char) : Prop := Undigited cs ∧ cs.head? ≠ some '.'

/-- A fraction of up to nine digits is read in the unit of its last digit. -/
theorem fraction?_point {width n : Nat} (pos : 0 < width) (nine : width ≤ 9) (held : n < 10 ^ width)
    {rest : List Char} (stop : Undigited rest) :
    fraction? ('.' :: (Decimal.padded width n ++ rest)) = some (n * 10 ^ (9 - width), rest) := by
  have length := Decimal.length_padded pos held
  have read : Decimal.read? 9 (Decimal.padded width n ++ rest) =
      some (Nat.ofDigitChars 10 (Decimal.padded width n) 0, rest) :=
    Decimal.read?_append (Decimal.padded_isDigit width n) (Decimal.padded_ne_nil width n)
      (by omega) stop
  have digits := takeWhile_isDigit_append (Decimal.padded_isDigit width n) stop
  simp only [fraction?, read, digits, Option.map_some, Decimal.ofDigitChars_padded, length,
    List.drop_left' length]
  rfl

/-- A fraction is written with three, six or nine digits, or not at all if it is zero. -/
theorem writeFraction_cases {nano : Nat} (proper : nano < 1000000000) :
    nano = 0 ∧ writeFraction nano = [] ∨
      ∃ width n, 0 < width ∧ width ≤ 9 ∧ n < 10 ^ width ∧ n * 10 ^ (9 - width) = nano ∧
        writeFraction nano = '.' :: Decimal.padded width n := by
  unfold writeFraction
  split
  next whole => exact .inl ⟨whole, rfl⟩
  next =>
    split
    next => exact .inr ⟨3, _, by decide, by decide, by omega, by omega, rfl⟩
    next =>
      split
      next => exact .inr ⟨6, _, by decide, by decide, by omega, by omega, rfl⟩
      next => exact .inr ⟨9, _, by decide, by decide, by omega, by omega, rfl⟩

/-- **A fraction is read back.** -/
theorem fraction?_writeFraction {nano : Nat} (proper : nano < 1000000000) {rest : List Char}
    (ends : Ends rest) : fraction? (writeFraction nano ++ rest) = some (nano, rest) := by
  rcases writeFraction_cases proper with ⟨rfl, written⟩ | ⟨width, n, pos, nine, held, value, written⟩
  · rw [written, List.nil_append]
    unfold fraction?
    split
    next => exact absurd rfl ends.2
    next => rfl
  · rw [written, List.cons_append, fraction?_point pos nine held ends.1, value]

theorem undigited_writeFraction {nano : Nat} (proper : nano < 1000000000) {rest : List Char}
    (ends : Ends rest) : Undigited (writeFraction nano ++ rest) := by
  rcases writeFraction_cases proper with ⟨-, written⟩ | ⟨_, _, -, -, -, -, written⟩
  · rw [written]
    exact ends.1
  · simp [written]

/-- A fraction that is read is less than a second. -/
theorem fraction?_lt {cs rest : List Char} {nano : Nat} (read : fraction? cs = some (nano, rest)) :
    nano < 1000000000 := by
  unfold fraction? at read
  split at read
  next rest =>
    obtain ⟨⟨n, _⟩, digits, made⟩ := Option.map_eq_some_iff.mp read
    obtain ⟨rfl, -⟩ := Prod.mk.inj made
    have below := Decimal.read?_lt digits
    generalize rest.takeWhile Char.isDigit = run at below ⊢
    -- the digits that are read and the zeros that stand for those to come are nine
    have nine : 10 ^ (run.take 9).length * 10 ^ (9 - run.length) = 1000000000 := by
      have places : (run.take 9).length + (9 - run.length) = 9 := by
        rw [List.length_take]
        omega
      rw [← Nat.pow_add, places]
    rw [← nine]
    exact Nat.mul_lt_mul_of_pos_right below (Nat.pow_pos (by decide))
  next =>
    cases read
    decide

/-- A leap second that is read is the last second of its minute. -/
theorem leap_of_timeOfDay? {cs rest : List Char} {day nano : Nat}
    (read : timeOfDay? cs = some (day, nano, rest)) (leap : 1000000000 ≤ nano) : day % 60 = 59 := by
  simp only [timeOfDay?, Option.bind_eq_bind, Option.bind_eq_some_iff] at read
  obtain ⟨⟨hour, _⟩, -, _, -, ⟨minute, _⟩, -, _, -, ⟨second, _⟩, -, ⟨fraction, _⟩, told, made⟩ := read
  have proper := fraction?_lt told
  split at made
  next =>
    cases made
    omega
  next =>
    split at made
    next =>
      cases made
      omega
    next => cases made

/-- A second of the day and its nanoseconds, as they are written. -/
def writeClock (day nano : Nat) : List Char :=
  Decimal.padded 2 (day / 3600) ++ ':' :: (Decimal.padded 2 (day / 60 % 60) ++ ':' ::
    (Decimal.padded 2 (day % 60 + nano / 1000000000) ++ writeFraction (nano % 1000000000)))

/-- **The time of day is read back.** A leap second is written as second 60 of its minute, which is
how it is told apart. -/
theorem timeOfDay?_writeClock {day nano : Nat} (inDay : day < 86400) (held : nano < 2000000000)
    (leap : 1000000000 ≤ nano → day % 60 = 59) {rest : List Char} (ends : Ends rest) :
    timeOfDay? (writeClock day nano ++ rest) = some (day, nano, rest) := by
  have colon : isBlank ':' = false := by decide
  have parts : writeClock day nano ++ rest = Decimal.padded 2 (day / 3600) ++ ':' ::
      (Decimal.padded 2 (day / 60 % 60) ++ ':' ::
        (Decimal.padded 2 (day % 60 + nano / 1000000000) ++
          (writeFraction (nano % 1000000000) ++ rest))) := by
    simp [writeClock]
  rw [parts, timeOfDay?, number?_padded (by omega) (by simp)]
  simp only [Option.bind_eq_bind, Option.bind_some, mark?_cons colon]
  rw [number?_padded (by omega) (by simp)]
  simp only [Option.bind_some, mark?_cons colon]
  have proper : nano % 1000000000 < 1000000000 := Nat.mod_lt _ (by decide)
  rw [number?_padded (by omega) (undigited_writeFraction proper ends)]
  simp only [Option.bind_some]
  rw [fraction?_writeFraction proper ends]
  simp only [Option.bind_some]
  by_cases isLeap : 1000000000 ≤ nano
  · have last := leap isLeap
    rw [if_neg (by omega), if_pos (by omega)]
    simp only [pure, Option.some.injEq, Prod.mk.injEq, and_true]
    omega
  · rw [if_pos (by omega)]
    simp only [pure, Option.some.injEq, Prod.mk.injEq, and_true]
    omega

/-! ## Offsets -/

/-- Two digits as they are written. -/
theorem twoDigits?_padded {n : Nat} (held : n < 100) (rest : List Char) :
    twoDigits? (Decimal.padded 2 n ++ rest) = some (n, rest) := by
  have length : (Decimal.padded 2 n).length = 2 := Decimal.length_padded (by decide) held
  have digits := Decimal.padded_isDigit 2 n
  have value := Decimal.ofDigitChars_padded 2 n
  match written : Decimal.padded 2 n, length with
  | [a, b], _ =>
    rw [written] at digits value
    simp [twoDigits?, digits a, digits b, value]

theorem hoursMinutes?_write {minutes : Nat} (held : minutes < 1440) (rest : List Char) :
    hoursMinutes? (Decimal.padded 2 (minutes / 60) ++
      ':' :: (Decimal.padded 2 (minutes % 60) ++ rest)) = some ((minutes : Int), rest) := by
  obtain ⟨c, cs, written, digit⟩ := Decimal.padded_cons 2 (minutes % 60)
  have solid := isBlank_of_isDigit digit
  have noColon : c ≠ ':' := ne_of_isDigit digit (by decide)
  have passed : (':' :: (Decimal.padded 2 (minutes % 60) ++ rest)).dropWhile
      (fun c => c = ':' || isBlank c) = Decimal.padded 2 (minutes % 60) ++ rest := by
    simp [written, solid, noColon]
  rw [hoursMinutes?, twoDigits?_padded (by omega)]
  simp only [Option.bind_eq_bind, Option.bind_some, passed]
  rw [twoDigits?_padded (by omega)]
  simp only [Option.bind_some, pure]
  rw [if_pos (by omega)]
  simp only [Option.some.injEq, Prod.mk.injEq, and_true]
  omega

/-- An offset as it stands at the end of an instant. -/
def writeZone (offset : Int) : List Char := if offset = 0 then ['Z'] else writeOffset offset

/-- An offset starts with its sign, or is the letter Z. -/
theorem writeZone_head (offset : Int) :
    ∃ c cs, writeZone offset = c :: cs ∧ (c = 'Z' ∨ c = '-' ∨ c = '+') := by
  unfold writeZone writeOffset
  split
  next => exact ⟨_, _, rfl, .inl rfl⟩
  next =>
    refine ⟨_, _, rfl, .inr ?_⟩
    split
    next => exact .inl rfl
    next => exact .inr rfl

theorem ends_writeZone (offset : Int) : Ends (writeZone offset) := by
  obtain ⟨c, cs, written, rfl | rfl | rfl⟩ := writeZone_head offset <;> simp [written, Ends]

theorem trimStart_writeZone (offset : Int) : trimStart (writeZone offset) = writeZone offset := by
  obtain ⟨c, cs, written, sign⟩ := writeZone_head offset
  have solid : isBlank c = false := by
    rcases sign with rfl | rfl | rfl <;> decide
  rw [written, trimStart_cons solid]

/-- **An offset of whole minutes is read back** if it is shorter than a day. -/
theorem offset?_writeZone {minutes : Int} (short : -1440 < minutes ∧ minutes < 1440) :
    offset? (writeZone (60 * minutes)) = some (minutes, []) := by
  have whole : ((60 * minutes).natAbs + 30) / 60 = minutes.natAbs := by omega
  have inDay : minutes.natAbs < 1440 := by omega
  have read := hoursMinutes?_write inDay []
  rw [List.append_nil] at read
  unfold writeZone writeOffset
  split
  next zero =>
    obtain rfl : minutes = 0 := by omega
    rfl
  next =>
    simp only [whole]
    split
    next west =>
      have sign : ('-' = 'Z' ∨ '-' = 'z') = False ∧ ('-' = '+') = False := by decide
      simp only [offset?, sign, if_false, true_or, if_true, read, Option.map_some,
        Option.some.injEq, Prod.mk.injEq, and_true]
      omega
    next east =>
      have sign : ('+' = 'Z' ∨ '+' = 'z') = False := by decide
      simp only [offset?, sign, if_false, if_true, read, Option.some.injEq, Prod.mk.injEq,
        and_true]
      omega

end InstantText

namespace Instant

open InstantText

/-- **A text spells the instant**: its offset is one of whole minutes, and if it is a leap second it
is the last second of a minute. -/
def Spelled (t : Instant) : Prop := t.offset % 60 = 0 ∧ (t.IsLeap → t.second % 60 = 59)

instance (t : Instant) : Decidable t.Spelled := inferInstanceAs (Decidable (_ ∧ _))

/-- An instant is written as its local date, its time of day and its offset. -/
theorem toList_text (t : Instant) :
    t.text.toList = DateText.write (Civil.ofDays ((t.second + t.offset) / 86400)) ++
      'T' :: (writeClock ((t.second + t.offset) % 86400).toNat t.nano ++ writeZone t.offset) := by
  simp [text, writeLocal, writeClock, writeZone]

/-- **An instant that is written is read back**, if a text can spell it: its point on the time line,
its fraction, its leap second and its offset. -/
theorem ofText?_text {t : Instant} (spelled : t.Spelled) : ofText? t.text = some t := by
  obtain ⟨whole, leap⟩ := spelled
  have offset := t.offset_lt
  have inside : Calendar.firstDay ≤ (t.second + t.offset) / 86400 ∧
      (t.second + t.offset) / 86400 ≤ Calendar.lastDay := by
    have shown := t.localInCalendar
    unfold Calendar.HasSecond at shown
    omega
  have date : Date.ofCivil? (Civil.ofDays ((t.second + t.offset) / 86400)) =
      some ⟨(t.second + t.offset) / 86400, inside⟩ :=
    Date.ofCivil?_civil ⟨_, inside⟩
  -- An offset of whole minutes leaves the second of the minute as it is in UTC.
  have clock : timeOfDay? (writeClock ((t.second + t.offset) % 86400).toNat t.nano ++
      writeZone t.offset) =
      some (((t.second + t.offset) % 86400).toNat, t.nano, writeZone t.offset) := by
    refine timeOfDay?_writeClock (by omega) t.nano_lt (fun isLeap => ?_) (ends_writeZone t.offset)
    have last := leap isLeap
    omega
  obtain ⟨minutes, counted⟩ : ∃ minutes, t.offset = 60 * minutes := ⟨t.offset / 60, by omega⟩
  have zone : offset? (writeZone t.offset) = some (minutes, []) := by
    rw [counted]
    exact offset?_writeZone (by omega)
  rw [ofText?, toList_text, DateText.read?_write (Civil.ofDays_exists _).small (by simp)]
  simp only [Option.bind_eq_bind, Option.bind_some, separator?, true_or, if_true, clock,
    trimStart_writeZone, zone, date, List.all_nil]
  rw [← of?_parts t, ← counted]
  congr 1
  omega

/-- What is read from a text can be spelled. -/
theorem spelled_of_ofText? {s : String} {t : Instant} (read : ofText? s = some t) : t.Spelled := by
  simp only [ofText?, Option.bind_eq_bind, Option.bind_eq_some_iff] at read
  obtain ⟨⟨civil, _⟩, -, _, -, ⟨time, nano, _⟩, clock, ⟨minutes, _⟩, -, date, -, made⟩ := read
  split at made
  next =>
    obtain ⟨second, fraction, offset⟩ := of?_eq_some made
    refine ⟨by omega, fun leap => ?_⟩
    have last := leap_of_timeOfDay? clock (Nat.le_trans leap (Nat.le_of_eq fraction))
    omega
  next => cases made

/-- **Which instants a text can spell.** -/
theorem spelled_iff {t : Instant} : t.Spelled ↔ ∃ s, ofText? s = some t :=
  ⟨fun spelled => ⟨_, ofText?_text spelled⟩, fun ⟨_, read⟩ => spelled_of_ofText? read⟩

/-- A leap second in the year before the year zero, an hour and a half west of UTC. -/
example : (⟨-62261897101, 1500000000, -5400, by decide, by decide, by decide, by decide⟩ :
    Instant).text = "-0004-12-31T03:04:60.500-01:30" := by decide +kernel

/-- Offsets that a minute does not hold are rounded. -/
example : (⟨0, 0, 1170, by decide, by decide, by decide, by decide⟩ : Instant).text =
    "1970-01-01T00:19:30+00:20" := by decide +kernel

end Instant

end LiveTimetable
