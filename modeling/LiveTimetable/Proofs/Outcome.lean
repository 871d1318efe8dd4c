import LiveTimetable.Proofs.Lists

/-!
# Outcomes

A calculation that can fail has an outcome: a value, or the reason why there is none. What a chain
of such calculations returns is read off its links. The lemmas here take a chain apart at its
first link, so that proofs about the chain need not open the monad.
-/

namespace LiveTimetable.Outcome

variable {ε ε' α β : Type}

/-- A chain returns what its last link does, if the first one returns. -/
theorem bind_eq_ok {x : Except ε α} {f : α → Except ε β} {b : β} :
    (x >>= f) = .ok b ↔ ∃ a, x = .ok a ∧ f a = .ok b := by
  cases x with
  | error e => simp [bind, Except.bind]
  | ok a => simp [bind, Except.bind]

/-- A chain fails at its first link or, behind it, in what is left. -/
theorem bind_eq_error {x : Except ε α} {f : α → Except ε β} {e : ε} :
    (x >>= f) = .error e ↔ x = .error e ∨ ∃ a, x = .ok a ∧ f a = .error e := by
  cases x with
  | error e => simp [bind, Except.bind]
  | ok a => simp [bind, Except.bind]

theorem exists_of_isOk {x : Except ε α} (h : x.isOk) : ∃ a, x = .ok a := by
  cases x with
  | error e => cases h
  | ok a => exact ⟨a, rfl⟩

theorem map_eq_ok {x : Except ε α} {f : α → β} {b : β} :
    x.map f = .ok b ↔ ∃ a, x = .ok a ∧ f a = b := by
  cases x with
  | error e => simp [Except.map]
  | ok a => simp [Except.map]

theorem map_eq_error {x : Except ε α} {f : α → β} {e : ε} :
    x.map f = .error e ↔ x = .error e := by
  cases x with
  | error e => simp [Except.map]
  | ok a => simp [Except.map]

/-- Reasons told in other words leave a value as it is. -/
theorem mapError_eq_ok {x : Except ε α} {f : ε → ε'} {a : α} :
    x.mapError f = .ok a ↔ x = .ok a := by
  cases x with
  | error e => simp [Except.mapError]
  | ok a => simp [Except.mapError]

theorem mapError_eq_error {x : Except ε α} {f : ε → ε'} {e : ε'} :
    x.mapError f = .error e ↔ ∃ e', x = .error e' ∧ f e' = e := by
  cases x with
  | error e => simp [Except.mapError]
  | ok a => simp [Except.mapError]

/-- Value and reason are changed apart. -/
theorem map_mapError (x : Except ε α) (f : ε → ε') (g : α → β) :
    (x.mapError f).map g = (x.map g).mapError f := by
  cases x <;> rfl

/-- A list of calculations returns when each of them does, with their values in order. -/
theorem mapM_eq_ok_iff {f : α → Except ε β} {as : List α} {bs : List β} :
    as.mapM f = .ok bs ↔ List.Forall₂ (fun a b => f a = .ok b) as bs := by
  induction as generalizing bs with
  | nil =>
    rw [List.forall₂_nil_left_iff]
    exact ⟨fun h => by cases h; rfl, fun h => by rw [h]; rfl⟩
  | cons a rest ih =>
    simp only [List.mapM_cons, bind_eq_ok, ih, List.forall₂_cons_left_iff]
    constructor
    · intro h
      obtain ⟨b, hb, bs', hbs, hret⟩ := h
      cases hret
      exact ⟨b, bs', hb, hbs, rfl⟩
    · intro h
      obtain ⟨b, bs', hb, hbs, rfl⟩ := h
      exact ⟨b, hb, bs', hbs, rfl⟩

/-- The values returned are those of the members. -/
theorem mem_mapM_iff {f : α → Except ε β} {as : List α} {bs : List β} (h : as.mapM f = .ok bs)
    {b : β} : b ∈ bs ↔ ∃ a ∈ as, f a = .ok b := by
  have made := mapM_eq_ok_iff.mp h
  clear h
  induction made with
  | nil => simp
  | @cons a b' as bs hb _ ih =>
    simp only [List.mem_cons, ih, exists_eq_or_imp, hb, Except.ok.injEq, @eq_comm _ b b']

theorem mapM_of_forall {f : α → Except ε β} {as : List α} (h : ∀ a ∈ as, ∃ b, f a = .ok b) :
    ∃ bs, as.mapM f = .ok bs := by
  simp only [mapM_eq_ok_iff]
  exact Lists.exists_forall₂ h

/-- Steps taken one after another fail at the first one that does, in what the steps in front of it
have led to. -/
theorem foldlM_eq_error_iff {f : β → α → Except ε β} {as : List α} {b : β} {e : ε} :
    as.foldlM f b = .error e ↔ ∃ front a back b',
      as = front ++ a :: back ∧ front.foldlM f b = .ok b' ∧ f b' a = .error e := by
  induction as generalizing b with
  | nil =>
    constructor
    · intro h
      cases h
    · rintro ⟨front, a, back, b', h, -⟩
      simp at h
  | cons a rest ih =>
    rw [List.foldlM_cons, bind_eq_error]
    constructor
    · rintro (failed | ⟨b₁, taken, h⟩)
      · exact ⟨[], a, rest, b, rfl, rfl, failed⟩
      · obtain ⟨front, a', back, b', rfl, run, failed⟩ := ih.mp h
        refine ⟨a :: front, a', back, b', rfl, ?_, failed⟩
        rw [List.foldlM_cons, bind_eq_ok]
        exact ⟨b₁, taken, run⟩
    · rintro ⟨front, a', back, b', split, run, failed⟩
      cases front with
      | nil =>
        cases split
        cases run
        exact Or.inl failed
      | cons first front =>
        cases split
        rw [List.foldlM_cons, bind_eq_ok] at run
        obtain ⟨b₁, taken, run⟩ := run
        exact Or.inr ⟨b₁, taken, ih.mpr ⟨front, a', back, b', rfl, run, failed⟩⟩

end LiveTimetable.Outcome
