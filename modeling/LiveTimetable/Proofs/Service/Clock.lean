import LiveTimetable.Proofs.Text.Numeral
import LiveTimetable.Service.Day

/-!
# Service times are read exactly

A text shows a service time when it is three numerals with a colon between them, with blanks around
or none (`Service.Shows`). The reader splits the trimmed text, so the two have to be matched: no
numeral holds a blank or a colon, hence nothing is trimmed off a numeral and no numeral is split
(`shows_iff_splitOn`).

The reader checks the sum once, at its end. That is as good as a check at each step
(`total?_eq_of?`), since no part is negative.

Main statement: `Service.ofText?_exact`.
-/

namespace LiveTimetable.Service

open Text Text.Decimal

/-- The text shows hours, minutes and seconds. -/
inductive Shows : List Char → Int → Int → Int → Prop
  | mk {front hours minutes seconds back : List Char} {h m s : Int}
      (before : Blank front) (hour : Spells hours h) (minute : Spells minutes m)
      (second : Spells seconds s) (after : Blank back) :
      Shows (front ++ (hours ++ ':' :: (minutes ++ ':' :: seconds)) ++ back) h m s

/-- What is shown may be a service time: nothing is negative, and the minutes and seconds are less
than 60. The hours have no bound of their own. -/
structure OnClock (h m s : Int) : Prop where
  hours : 0 ≤ h
  minutes : 0 ≤ m ∧ m < 60
  seconds : 0 ≤ s ∧ s < 60

/-- The seconds in steps: those of the hours, then those of the rest on top. Both results have to
be held. -/
def total? (h m s : Int) : Option Seconds := do (← Seconds.of? (3600 * h)).later? (60 * m + s)

variable {cs : List Char} {h m s : Int}

/-! ### The parts of the text -/

private theorem not_mem_colon {n : Int} (spells : Spells cs n) : ':' ∉ cs :=
  spells.not_mem (by decide) (by decide) (by decide)

/-- **A text shows what its trimmed text shows between the colons.** -/
theorem shows_iff_splitOn :
    Shows cs h m s ↔ ∃ hours minutes seconds,
      (trim cs).splitOn ':' = [hours, minutes, seconds] ∧
        Spells hours h ∧ Spells minutes m ∧ Spells seconds s := by
  constructor
  · rintro @⟨front, hours, minutes, seconds, back, _, _, _, before, hour, minute, second, after⟩
    refine ⟨hours, minutes, seconds, ?_, hour, minute, second⟩
    have solid : Solid (hours ++ ':' :: (minutes ++ ':' :: seconds)) := by
      intro c mem
      simp only [List.mem_append, List.mem_cons] at mem
      rcases mem with mem | rfl | mem | rfl | mem
      · exact hour.solid c mem
      · decide
      · exact minute.solid c mem
      · decide
      · exact second.solid c mem
    have whole : hours ++ ':' :: (minutes ++ ':' :: seconds) =
        [':'].intercalate [hours, minutes, seconds] := by simp [List.intercalate]
    have colonless : ∀ part ∈ [hours, minutes, seconds], ':' ∉ part := by
      simpa using ⟨not_mem_colon hour, not_mem_colon minute, not_mem_colon second⟩
    rw [trim_append before solid after, whole]
    exact List.splitOn_intercalate ':' colonless (by simp)
  · rintro ⟨hours, minutes, seconds, split, hour, minute, second⟩
    obtain ⟨front, back, before, after, whole⟩ := exists_trim cs
    have core : trim cs = hours ++ ':' :: (minutes ++ ':' :: seconds) := by
      have joined : [':'].intercalate ((trim cs).splitOn ':') = trim cs :=
        List.intercalate_splitOn ':'
      rw [split] at joined
      simpa [List.intercalate] using joined.symm
    rw [whole, core]
    exact ⟨before, hour, minute, second, after⟩

theorem part?_eq_some_iff {n : Int} : part? cs = some n ↔ Spells cs n ∧ Seconds.Held n := by
  rw [part?, ← integer?_eq_some_iff]
  constructor
  · intro read
    obtain ⟨value, spelt, read⟩ := Option.bind_eq_some_iff.mp read
    obtain ⟨part, held, read⟩ := Option.bind_eq_some_iff.mp read
    cases read
    rw [Seconds.of?_eq_some_iff.mp held]
    exact ⟨spelt, Seconds.of?_eq_some_iff.mp held ▸ part.held⟩
  · rintro ⟨spelt, held⟩
    simp [spelt, Seconds.of?, held]

/-! ### The sum -/

namespace OnClock

/-- The minutes and seconds are far from the bounds of what is held. -/
theorem held_rest (face : OnClock h m s) :
    Seconds.Held (60 * m) ∧ Seconds.Held (60 * m + s) := by
  have := face.minutes
  have := face.seconds
  unfold Seconds.Held
  omega

theorem held_iff (face : OnClock h m s) :
    Seconds.Held (3600 * h + 60 * m + s) ↔ 3600 * h + 60 * m + s ≤ 2147483647 := by
  have := face.hours
  have := face.minutes
  have := face.seconds
  unfold Seconds.Held
  omega

/-- Where the sum is held, so is every part of it. -/
theorem held_parts (face : OnClock h m s) (held : 3600 * h + 60 * m + s ≤ 2147483647) :
    Seconds.Held h ∧ Seconds.Held m ∧ Seconds.Held s ∧ Seconds.Held (3600 * h) := by
  have := face.hours
  have := face.minutes
  have := face.seconds
  unfold Seconds.Held
  omega

/-- **A check at each step finds no more than one of the sum.** -/
theorem total?_eq_of? (face : OnClock h m s) :
    total? h m s = Seconds.of? (3600 * h + 60 * m + s) := by
  by_cases fits : 3600 * h + 60 * m + s ≤ 2147483647
  · simp [total?, Seconds.of?, (face.held_parts fits).2.2.2, Seconds.later?, Int.add_assoc]
  · have beyond : ¬ Seconds.Held (3600 * h + 60 * m + s) := mt face.held_iff.mp fits
    rw [Seconds.of?_eq_none_iff.mpr beyond, total?]
    refine Option.bind_eq_none_iff.mpr fun hours held => Seconds.of?_eq_none_iff.mpr ?_
    rwa [Seconds.of?_eq_some_iff.mp held, ← Int.add_assoc]

end OnClock

/-! ### The reader -/

/-- **A text is read as a service time when it shows one**, and as the one that it shows. -/
theorem ofText?_eq_some_iff {text : String} {time : Seconds} :
    ofText? text = some time ↔ ∃ h m s, Shows text.toList h m s ∧ OnClock h m s ∧
      3600 * h + 60 * m + s ≤ 2147483647 ∧ time.val = 3600 * h + 60 * m + s := by
  constructor
  · intro read
    unfold ofText? at read
    split at read
    next hours minutes seconds split =>
      obtain ⟨h, hour, read⟩ := Option.bind_eq_some_iff.mp read
      obtain ⟨m, minute, read⟩ := Option.bind_eq_some_iff.mp read
      obtain ⟨s, second, read⟩ := Option.bind_eq_some_iff.mp read
      split at read
      next face =>
        have sum := Seconds.of?_eq_some_iff.mp read
        exact ⟨h, m, s, shows_iff_splitOn.mpr ⟨hours, minutes, seconds, split,
          (part?_eq_some_iff.mp hour).1, (part?_eq_some_iff.mp minute).1,
          (part?_eq_some_iff.mp second).1⟩, ⟨face.1, face.2.1, face.2.2⟩,
          sum ▸ time.held.2, sum⟩
      next => cases read
    next => cases read
  · rintro ⟨h, m, s, shown, face, fits, sum⟩
    obtain ⟨hours, minutes, seconds, split, hour, minute, second⟩ := shows_iff_splitOn.mp shown
    obtain ⟨heldHour, heldMinute, heldSecond, -⟩ := face.held_parts fits
    have inside : 0 ≤ h ∧ (0 ≤ m ∧ m < 60) ∧ (0 ≤ s ∧ s < 60) :=
      ⟨face.hours, face.minutes, face.seconds⟩
    rw [ofText?, split]
    simp only [part?_eq_some_iff.mpr ⟨hour, heldHour⟩, part?_eq_some_iff.mpr ⟨minute, heldMinute⟩,
      part?_eq_some_iff.mpr ⟨second, heldSecond⟩, Option.bind_eq_bind, Option.bind_some,
      if_pos inside]
    exact Seconds.of?_eq_some_iff.mpr sum

/-- One second more than is held. -/
example : ofText? "596523:14:08" = none := by decide

/-- Blanks are around the whole only. -/
example : ofText? "08: 30:00" = none := by decide

/-- The hours, minutes and seconds of a number of seconds. -/
theorem onClock_parts (n : Nat) :
    OnClock (n / 3600 : Nat) (n / 60 % 60 : Nat) (n % 60 : Nat) ∧
      3600 * ((n / 3600 : Nat) : Int) + 60 * ((n / 60 % 60 : Nat) : Int) + ((n % 60 : Nat) : Int)
        = n := by
  refine ⟨⟨?_, ?_, ?_⟩, ?_⟩ <;> omega

/-- The text of a number of seconds shows its hours, minutes and seconds. -/
theorem shows_text (n : Nat) :
    Shows (text n).toList (n / 3600 : Nat) (n / 60 % 60 : Nat) (n % 60 : Nat) := by
  have plain : ∀ k, Spells (padded 2 k) k := fun k => (Idle.none k).spells 2
  have nothing : Blank [] := fun c mem => absurd mem List.not_mem_nil
  have shown := Shows.mk nothing (plain (n / 3600)) (plain (n / 60 % 60)) (plain (n % 60)) nothing
  rwa [List.nil_append, List.append_nil, ← String.toList_ofList (l := _ ++ _)] at shown

/-- **What is read, and as what.** A text is read exactly when it shows hours, minutes and seconds
that are on a clock and whose seconds are held, and then as their number, which is never negative.
To show them is to have their numerals between the colons of the trimmed text; zeros in front and
idle signs are no part of a number. No step of the sum is out of bounds unless the sum is. The text
of each number of seconds that is held is read as that number. -/
theorem ofText?_exact :
    (∀ text time, ofText? text = some time ↔
      ∃ h m s, Shows text.toList h m s ∧ OnClock h m s ∧
        3600 * h + 60 * m + s ≤ 2147483647 ∧ time.val = 3600 * h + 60 * m + s) ∧
    (∀ text time, ofText? text = some time → 0 ≤ time.val) ∧
    (∀ cs h m s, Shows cs h m s ↔ ∃ hours minutes seconds,
      (trim cs).splitOn ':' = [hours, minutes, seconds] ∧
        Spells hours h ∧ Spells minutes m ∧ Spells seconds s) ∧
    (∀ sign n, Idle sign n → ∀ width, Spells (sign ++ padded width n) n) ∧
    (∀ h m s, OnClock h m s →
      Seconds.Held (60 * m) ∧ Seconds.Held (60 * m + s) ∧
        total? h m s = Seconds.of? (3600 * h + 60 * m + s) ∧
        (3600 * h + 60 * m + s ≤ 2147483647 →
          Seconds.Held h ∧ Seconds.Held m ∧ Seconds.Held s)) ∧
    (∀ n : Nat, n ≤ 2147483647 → (ofText? (text n)).map (·.val) = some (n : Int)) := by
  refine ⟨fun _ _ => ofText?_eq_some_iff, ?_, fun _ _ _ _ => shows_iff_splitOn,
    fun _ _ idle => idle.spells, ?_, ?_⟩
  · intro text time read
    obtain ⟨h, m, s, -, face, -, sum⟩ := ofText?_eq_some_iff.mp read
    have := face.hours
    have := face.minutes
    have := face.seconds
    omega
  · intro h m s face
    refine ⟨face.held_rest.1, face.held_rest.2, face.total?_eq_of?, fun fits => ?_⟩
    obtain ⟨hour, minute, second, -⟩ := face.held_parts fits
    exact ⟨hour, minute, second⟩
  · intro n fits
    obtain ⟨face, sum⟩ := onClock_parts n
    have read : ofText? (text n) = some ⟨n, by omega⟩ :=
      ofText?_eq_some_iff.mpr ⟨_, _, _, shows_text n, face, by omega, sum.symm⟩
    rw [read]
    rfl

/-- Eight hours with a plus, no minutes with a minus, and blanks around; and the last time held. -/
theorem ofText?_exact_signed :
    ofText? " +8:-0:007\t" = some ⟨28807, by decide⟩ ∧
      Spells ['-', '0', '0'] 0 ∧
      (ofText? "596523:14:07").map (·.val) = some 2147483647 := by
  obtain ⟨read, -, shows, zeros, -, written⟩ := ofText?_exact
  refine ⟨(read _ _).mpr ⟨8, 0, 7, (shows ..).mpr ⟨['+', '8'], ['-', '0'], ['0', '0', '7'],
    by decide, zeros _ 8 (.plus 8) 1, zeros _ 0 .minus 1, zeros _ 7 (.none 7) 3⟩,
    ⟨by decide, by decide, by decide⟩, by decide, rfl⟩, zeros _ 0 .minus 2, ?_⟩
  exact written 2147483647 (by decide)

end LiveTimetable.Service
