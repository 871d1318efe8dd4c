import LiveTimetable.Json.Decode
import Mathlib.Algebra.Ring.Nat

/-!
# What is written is decoded again

A record is written with its keys apart, so each of its members is found under its key. A member
that was written by the writer of its kind is decoded to what it was written from: as it is
(`required_of_mem`, `defaulted_of_mem`), or by way of null if it may be absent (`optional_of_mem`).
The other way round, what a member has been decoded to was decoded from some value (`of_required`,
`of_optional`, `of_defaulted_asList`).

A record is sound when its members are, one level deeper.
-/

namespace LiveTimetable.Json

/-- What `write` makes of the value is decoded to the value. -/
def ReadsBack (decode : Json → Option α) (write : α → Json) (a : α) : Prop :=
  decode (write a) = some a

theorem asString_text (s : String) : ReadsBack asString text s := rfl

theorem asBool_bool (b : Bool) : ReadsBack asBool .bool b := rfl

theorem mapM_map_some {decode : β → Option α} {write : α → β} {items : List α}
    (back : ∀ a ∈ items, decode (write a) = some a) : (items.map write).mapM decode = some items := by
  induction items with
  | nil => rfl
  | cons a rest ih =>
    rw [List.forall_mem_cons] at back
    simp [List.mapM_cons, back.1, ih back.2]

theorem asList_map {decode : Json → Option α} {write : α → Json} {items : List α}
    (back : ∀ a ∈ items, ReadsBack decode write a) :
    ReadsBack (asList decode) (fun items => .array (items.map write)) items :=
  mapM_map_some back

@[simp] theorem asMembers_record (ms : Members) : asMembers (record ms) = some ms := by
  refine mapM_map_some fun m _ => ?_
  rfl

@[simp] theorem asFields_record (fields : List String) (ms : Members) :
    asFields fields (record ms) = some ms := asMembers_record ms

namespace Members

/-- No key is used twice. -/
def Distinct (ms : Members) : Prop := (ms.map Prod.fst).Nodup

instance (ms : Members) : Decidable ms.Distinct := inferInstanceAs (Decidable (List.Nodup _))

theorem filter_of_mem {ms : Members} (distinct : ms.Distinct) {key : String} {value : Json}
    (mem : (key, value) ∈ ms) : ms.filter (·.1 = key) = [(key, value)] := by
  induction ms with
  | nil => simp at mem
  | cons m rest ih =>
    obtain ⟨apart, distinct⟩ := List.nodup_cons.mp distinct
    rcases List.mem_cons.mp mem with rfl | later
    · have others : rest.filter (·.1 = key) = [] := by
        rw [List.filter_eq_nil_iff]
        intro m hm same
        exact apart (List.mem_map.mpr ⟨m, hm, by simpa using same⟩)
      simp [others]
    · have other : m.1 ≠ key := by
        rintro rfl
        exact apart (List.mem_map.mpr ⟨_, later, rfl⟩)
      simp [other, ih distinct later]

variable {ms : Members} (distinct : ms.Distinct) {key : String}
include distinct

theorem at?_of_mem {value : Json} (mem : (key, value) ∈ ms) : ms.at? key = some (some value) := by
  simp [at?, filter_of_mem distinct mem]

theorem required_of_mem {decode : Json → Option α} {write : α → Json} {a : α}
    (back : ReadsBack decode write a) (mem : (key, write a) ∈ ms) :
    ms.required key decode = some a := by
  have read : decode (write a) = some a := back
  simp [required, at?_of_mem distinct mem, read]

theorem defaulted_of_mem {decode : Json → Option α} {write : α → Json} {a default : α}
    (back : ReadsBack decode write a) (mem : (key, write a) ∈ ms) :
    ms.defaulted key decode default = some a := by
  have read : decode (write a) = some a := back
  simp [defaulted, at?_of_mem distinct mem, read]

/-- Null stands for an absent value, so no value may be written as null. -/
theorem optional_of_mem {decode : Json → Option α} {write : α → Json} {a : Option α}
    (back : ∀ x ∈ a, ReadsBack decode write x) (apart : ∀ x, write x ≠ .null)
    (mem : (key, opt write a) ∈ ms) : ms.optional key decode = some a := by
  cases a with
  | none => simp [optional, at?_of_mem distinct mem, opt]
  | some a =>
    have found := at?_of_mem distinct mem
    simp only [opt] at found
    simp only [optional, found, Option.bind_eq_bind, Option.bind_some]
    split
    next e => cases e
    next e => exact absurd (by simpa using e) (apart a)
    next value _ e =>
      obtain rfl : write a = value := by simpa using e
      have read : decode (write a) = some a := back a rfl
      simp [read]

end Members

/-- To decode a record it is enough to know that its keys are apart and which members it has. -/
theorem decode_record {fields : List String} {ms : Members} (distinct : ms.Distinct)
    {decode : Members → Option α} {a : α}
    (decoded : ∀ found : Members, found.Distinct → ms ⊆ found → decode found = some a) :
    (do decode (← (record ms).asFields fields)) = some a := by
  rw [asFields_record]
  exact decoded ms distinct (List.Subset.refl ms)

/-- A record tells its kind. -/
theorem tag?_record {ms : Members} (distinct : ms.Distinct) {key s : String}
    (mem : (key, text s) ∈ ms) : (record ms).tag? key = some s := by
  show (do (← (record ms).asMembers).required key asString) = _
  rw [asMembers_record]
  exact Members.required_of_mem distinct (asString_text s) mem

/-! ## What is decoded was a value -/

theorem of_asList {decode : Json → Option α} {j : Json} {items : List α}
    (read : j.asList decode = some items) : ∀ a ∈ items, ∃ v, decode v = some a := by
  cases j with
  | array values =>
    simp only [asList] at read
    induction values generalizing items with
    | nil =>
      cases read
      exact fun a mem => nomatch mem
    | cons v rest ih =>
      simp only [List.mapM_cons, Option.bind_eq_bind, Option.bind_eq_some_iff] at read
      obtain ⟨first, readFirst, others, readOthers, made⟩ := read
      cases made
      exact List.forall_mem_cons.mpr ⟨⟨v, readFirst⟩, ih readOthers⟩
  | _ => cases read

namespace Members

variable {ms : Members} {key : String} {decode : Json → Option α}

theorem of_required {a : α} (read : ms.required key decode = some a) : ∃ v, decode v = some a := by
  simp only [required, Option.bind_eq_bind, Option.bind_eq_some_iff] at read
  obtain ⟨-, -, v, -, read⟩ := read
  exact ⟨v, read⟩

theorem of_optional {a : Option α} (read : ms.optional key decode = some a) :
    ∀ x ∈ a, ∃ v, decode v = some x := by
  obtain ⟨found, -, read⟩ := Option.bind_eq_some_iff.mp read
  split at read
  next =>
    cases read
    exact fun x mem => nomatch mem
  next =>
    cases read
    exact fun x mem => nomatch mem
  next v _ =>
    obtain ⟨x, decoded, made⟩ := Option.bind_eq_some_iff.mp read
    cases made
    rintro _ ⟨⟩
    exact ⟨v, decoded⟩

/-- Of a list that may be missing each item was decoded from a value. -/
theorem of_defaulted_asList {items : List α}
    (read : ms.defaulted key (asList decode) [] = some items) :
    ∀ a ∈ items, ∃ v, decode v = some a := by
  obtain ⟨found, -, read⟩ := Option.bind_eq_some_iff.mp read
  split at read
  next =>
    cases read
    exact fun a mem => nomatch mem
  next => exact of_asList read

end Members

/-! ## Soundness -/

@[simp] theorem sound_text (depth : Nat) (s : String) : (text s).sound depth = true := rfl

@[simp] theorem sound_bool (depth : Nat) (b : Bool) : (Json.bool b).sound depth = true := rfl

theorem soundItems_eq_all (depth : Nat) (items : List Json) :
    soundItems depth items = items.all (sound depth) := by
  induction items with
  | nil => rfl
  | cons item rest ih => simp [soundItems, ih]

theorem soundMembers_record (depth : Nat) (ms : Members) :
    soundMembers depth (ms.map fun (key, value) => (some key, value)) =
      ms.all fun m => m.2.sound depth := by
  induction ms with
  | nil => rfl
  | cons m rest ih => simp [soundMembers, ih]

@[simp] theorem sound_array (depth : Nat) (items : List Json) :
    (Json.array items).sound (depth + 1) = items.all (sound depth) := by
  simp [sound, soundItems_eq_all]

@[simp] theorem sound_record (depth : Nat) (ms : Members) :
    (record ms).sound (depth + 1) = ms.all fun m => m.2.sound depth := by
  simp [record, sound, soundMembers_record]

@[simp] theorem sound_opt (write : α → Json) (depth : Nat) (a : Option α) :
    (opt write a).sound depth = a.all fun a => (write a).sound depth := by
  cases a with
  | none => rfl
  | some a => rfl

end LiveTimetable.Json

namespace LiveTimetable.Numeral

/-- A number that 53 bits hold is its own nearest double. -/
theorem nearestDouble_of_lt {n : Nat} (held : n < 2 ^ 53) : nearestDouble n = n := by
  have bits : n.log2 - 52 = 0 := by
    by_cases zero : n = 0
    · simp [zero]
    · have := (Nat.log2_lt zero).mpr held
      omega
  simp [nearestDouble, bits, Nat.mod_one]

/-- An integer that 53 bits hold is a finite double. -/
theorem finite_integer {n : Int} (held : n.natAbs < 2 ^ 53) : (integer n).finite = true := by
  have leads : leading n.natAbs 0 = (n.natAbs, 0) := by
    rw [leading, if_pos (by omega)]
  have one : nearestDouble (Nat.pow 10 0) = 1 := by decide
  have below : 2 ^ 53 ≤ doubleLimit := by decide +kernel
  have own : nearestDouble n.natAbs * nearestDouble (Nat.pow 10 (0 : Int).toNat) = n.natAbs := by
    rw [nearestDouble_of_lt held, Int.toNat_zero, one, Nat.mul_one]
  have finite : n.natAbs < doubleLimit := by omega
  rw [Numeral.finite, finiteDecimal, leads]
  simp only [own, finite]
  simp

end LiveTimetable.Numeral
