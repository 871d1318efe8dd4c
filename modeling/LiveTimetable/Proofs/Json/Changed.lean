import LiveTimetable.Json.Decode
import Mathlib.Data.List.Forall2

/-!
# Values that differ in some members

Two records with the same keys in the same order, or with as many values where they are spelled as
arrays, of which some have others in their place. `R` says which values may stand for which under a
key. A decoder that asks for keys of which no value is changed tells no difference
(`Members.Changed.at?_of_untouched`), and what another decoder makes of the two is compared member
by member: a calculation whose steps agree agrees as a whole (`rel_bind`).
-/

namespace LiveTimetable.Json

variable {α β γ δ : Type}

/-! ## Calculations that agree -/

section Rel

variable {S : α → β → Prop} {T : γ → δ → Prop}

/-- Steps that agree, one behind the other. -/
theorem rel_bind {x : Option α} {y : Option β} {f : α → Option γ} {g : β → Option δ}
    (first : Option.Rel S x y) (rest : ∀ a b, S a b → Option.Rel T (f a) (g b)) :
    Option.Rel T (x.bind f) (y.bind g) := by
  cases first with
  | none => exact .none
  | some same => exact rest _ _ same

theorem rel_bind_self {x : Option α} {f : α → Option γ} {g : α → Option δ}
    (rest : ∀ a, Option.Rel T (f a) (g a)) : Option.Rel T (x.bind f) (x.bind g) := by
  cases x with
  | none => exact .none
  | some a => exact rest a

theorem rel_self {S : α → α → Prop} (same : ∀ a, S a a) (x : Option α) : Option.Rel S x x := by
  cases x with
  | none => exact .none
  | some a => exact .some (same a)

/-- Members that are read alike one by one are read alike as a list. -/
theorem rel_mapM {f : α → Option γ} {g : β → Option δ} {as : List α} {bs : List β}
    (each : List.Forall₂ (fun a b => Option.Rel T (f a) (g b)) as bs) :
    Option.Rel (List.Forall₂ T) (as.mapM f) (bs.mapM g) := by
  induction each with
  | nil => exact .some .nil
  | cons first _ ih =>
    rw [List.mapM_cons, List.mapM_cons]
    exact rel_bind first fun _ _ same => rel_bind ih fun _ _ rest => .some (.cons same rest)

end Rel

/-! ## Members and items -/

variable {R : String → Json → Json → Prop}

/-- The same keys in the same order, where a value is as it was or changed as `R` allows under its
key. -/
def Members.Changed (R : String → Json → Json → Prop) (ms ms' : Members) : Prop :=
  List.Forall₂ (fun m m' => m'.1 = m.1 ∧ (m'.2 = m.2 ∨ R m.1 m.2 m'.2)) ms ms'

/-- A record with some of its members changed, spelled as an object or as an array. A key that is
no text keeps its value. -/
inductive InFields (fields : List String) (R : String → Json → Json → Prop) : Json → Json → Prop
  | object {ms ms' : List (Json.Text × Json)}
    (each : List.Forall₂ (fun m m' =>
      m'.1 = m.1 ∧ (m'.2 = m.2 ∨ ∃ key, m.1 = some key ∧ R key m.2 m'.2)) ms ms') :
    InFields fields R (.object ms) (.object ms')
  | array {items items' : List Json} (length : items'.length = items.length)
    (each : Members.Changed R (fields.zip items) (fields.zip items')) :
    InFields fields R (.array items) (.array items')

/-- An array with some of its items changed. -/
inductive InItems (R : Json → Json → Prop) : Json → Json → Prop
  | array {items items' : List Json}
    (each : List.Forall₂ (fun v v' => v' = v ∨ R v v') items items') :
    InItems R (.array items) (.array items')

/-- The members of the two are changed in the same way. -/
theorem InFields.asFields {fields : List String} {j j' : Json} (changed : InFields fields R j j') :
    Option.Rel (Members.Changed R) (j.asFields fields) (j'.asFields fields) := by
  cases changed with
  | object each =>
    refine rel_mapM (each.imp ?_)
    rintro ⟨_, value⟩ ⟨key, value'⟩ ⟨rfl, same⟩
    cases key with
    | none => exact .none
    | some key =>
      refine .some ⟨rfl, same.imp_right ?_⟩
      rintro ⟨_, own, allowed⟩
      cases own
      exact allowed
  | array length each =>
    rw [Json.asFields, Json.asFields, length]
    split
    next => exact .some each
    next => exact .none

/-- A record with some of its members changed. -/
theorem InFields.record {fields : List String} {ms ms' : Members} (changed : ms.Changed R ms') :
    InFields fields R (record ms) (record ms') := by
  refine .object (List.forall₂_map_left_iff.mpr (List.forall₂_map_right_iff.mpr (changed.imp ?_)))
  rintro ⟨key, value⟩ ⟨_, value'⟩ ⟨rfl, same⟩
  exact ⟨rfl, same.imp_right fun allowed => ⟨_, rfl, allowed⟩⟩

/-- Items that are read alike make lists that are. -/
theorem InItems.asList {R : Json → Json → Prop} {T : α → α → Prop} {decode : Json → Option α}
    (same : ∀ a, T a a) (reads : ∀ v v', R v v' → Option.Rel T (decode v) (decode v')) {j j' : Json}
    (changed : InItems R j j') :
    Option.Rel (List.Forall₂ T) (j.asList decode) (j'.asList decode) := by
  cases changed with
  | array each =>
    refine rel_mapM (each.imp fun v v' changed => ?_)
    rcases changed with rfl | allowed
    · exact rel_self same _
    · exact reads v v' allowed

namespace Members.Changed

variable {ms ms' : Members} {key : String}

/-- A key is there as often, and its values stand for each other. -/
theorem filter (changed : ms.Changed R ms') (key : String) :
    List.Forall₂ (fun m m' => m'.2 = m.2 ∨ R key m.2 m'.2) (ms.filter (·.1 = key))
      (ms'.filter (·.1 = key)) := by
  induction changed with
  | nil => exact .nil
  | @cons m m' _ _ first _ ih =>
    obtain ⟨sameKey, value⟩ := first
    by_cases own : m.1 = key
    · rw [List.filter_cons_of_pos (by simpa using own),
        List.filter_cons_of_pos (by simpa [sameKey] using own)]
      exact .cons (own ▸ value) ih
    · rw [List.filter_cons_of_neg (by simpa using own),
        List.filter_cons_of_neg (by simpa [sameKey] using own)]
      exact ih

/-- What is found under a key. -/
theorem at? (changed : ms.Changed R ms') (key : String) :
    Option.Rel (Option.Rel fun v v' => v' = v ∨ R key v v') (ms.at? key) (ms'.at? key) := by
  have found := changed.filter key
  unfold Members.at?
  generalize ms.filter (·.1 = key) = own at found ⊢
  generalize ms'.filter (·.1 = key) = own' at found ⊢
  cases found with
  | nil => exact .some .none
  | cons first rest =>
    cases rest with
    | nil => exact .some (.some first)
    | cons => exact .none

/-- Under a key of which no value is changed the same is found. -/
theorem at?_of_untouched (changed : ms.Changed R ms') (untouched : ∀ v v', ¬ R key v v') :
    ms'.at? key = ms.at? key := by
  have found := changed.at? key
  generalize ms.at? key = x at found ⊢
  generalize ms'.at? key = y at found ⊢
  cases found with
  | none => rfl
  | some found =>
    cases found with
    | none => rfl
    | some value => rw [value.resolve_right (untouched _ _)]

section Untouched

variable (changed : ms.Changed R ms') (untouched : ∀ v v', ¬ R key v v') (decode : Json → Option α)
include changed untouched

theorem required_of_untouched : ms'.required key decode = ms.required key decode := by
  rw [Members.required, Members.required, changed.at?_of_untouched untouched]

theorem optional_of_untouched : ms'.optional key decode = ms.optional key decode := by
  rw [Members.optional, Members.optional, changed.at?_of_untouched untouched]

theorem defaulted_of_untouched (default : α) :
    ms'.defaulted key decode default = ms.defaulted key decode default := by
  rw [Members.defaulted, Members.defaulted, changed.at?_of_untouched untouched]

end Untouched

/-- A member that may be missing is read alike when its changed values are. -/
theorem defaulted {T : α → α → Prop} {decode : Json → Option α} (same : ∀ a, T a a)
    (changed : ms.Changed R ms') (reads : ∀ v v', R key v v' → Option.Rel T (decode v) (decode v'))
    (default : α) :
    Option.Rel T (ms.defaulted key decode default) (ms'.defaulted key decode default) := by
  refine rel_bind (changed.at? key) fun found found' value => ?_
  cases value with
  | none => exact .some (same default)
  | some value =>
    rcases value with rfl | allowed
    · exact rel_self same _
    · exact reads _ _ allowed

/-- Where null stands for an absent value, a value that is changed to null must be read as if there
were none. -/
theorem optional {T : Option α → Option α → Prop} {decode : Json → Option α} (same : ∀ a, T a a)
    (changed : ms.Changed R ms')
    (reads : ∀ v v', R key v v' →
      v ≠ .null ∧ v' = .null ∧ ∃ a, decode v = some a ∧ T (some a) none) :
    Option.Rel T (ms.optional key decode) (ms'.optional key decode) := by
  refine rel_bind (changed.at? key) fun found found' value => ?_
  cases value with
  | none => exact .some (same none)
  | some value =>
    rcases value with rfl | allowed
    · exact rel_self same _
    · obtain ⟨given, rfl, a, decoded, asNone⟩ := reads _ _ allowed
      split
      next none => cases none
      next null => exact absurd (Option.some.inj null) given
      next value _ some =>
        cases some
        rw [decoded]
        exact .some asNone

end Members.Changed

end LiveTimetable.Json
