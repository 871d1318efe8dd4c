/-!
# Seconds of service

Times of a trip are seconds since the start of its service day, and delays are differences of two
such times. Both are kept in 32 signed bits. The library computes with plain integers and keeps a
result only if it is held: nothing wraps and nothing is cut off.
-/

namespace LiveTimetable

/-- A number of seconds that 32 signed bits hold. -/
structure Seconds where
  val : Int
  held : -2147483648 ≤ val ∧ val ≤ 2147483647
deriving DecidableEq, Repr

namespace Seconds

def Held (n : Int) : Prop := -2147483648 ≤ n ∧ n ≤ 2147483647

instance (n : Int) : Decidable (Held n) := inferInstanceAs (Decidable (_ ∧ _))

/-- A number as seconds, when it is held. -/
def of? (n : Int) : Option Seconds := if h : Held n then some ⟨n, h⟩ else none

def zero : Seconds := ⟨0, by decide⟩

def least : Seconds := ⟨-2147483648, by decide⟩

instance : LE Seconds := ⟨fun a b => a.val ≤ b.val⟩

instance : LT Seconds := ⟨fun a b => a.val < b.val⟩

instance (a b : Seconds) : Decidable (a ≤ b) := inferInstanceAs (Decidable (a.val ≤ b.val))

instance (a b : Seconds) : Decidable (a < b) := inferInstanceAs (Decidable (a.val < b.val))

/-- The time that lies `delay` seconds after another, if it is held. -/
def later? (a : Seconds) (delay : Int) : Option Seconds := of? (a.val + delay)

theorem of?_eq_some_iff {n : Int} {s : Seconds} : of? n = some s ↔ s.val = n := by
  unfold of?
  split
  · next h =>
    constructor
    · intro e
      cases e
      rfl
    · intro e
      cases s
      subst e
      rfl
  · next h =>
    refine ⟨fun e => by simp at e, fun e => ?_⟩
    subst e
    exact absurd s.held h

@[simp] theorem of?_val (s : Seconds) : of? s.val = some s := of?_eq_some_iff.mpr rfl

theorem of?_eq_none_iff {n : Int} : of? n = none ↔ ¬ Held n := by
  unfold of?
  split <;> simp_all

theorem later?_eq_some_iff {a b : Seconds} {delay : Int} :
    a.later? delay = some b ↔ b.val = a.val + delay := of?_eq_some_iff

@[ext] theorem ext {a b : Seconds} (h : a.val = b.val) : a = b := by
  cases a
  cases b
  simp_all

/-- The length of a calendar day without a clock change. -/
def perDay : Int := 86400

end Seconds

end LiveTimetable
