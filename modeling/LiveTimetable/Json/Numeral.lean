/-!
# JSON numbers

A number is kept as it is written, without loss. Where a value is kept as a whole its numbers have
to become doubles; `Numeral.finite` says whether one does. The double is not the nearest one: the
leading digits that 64 bits hold are rounded first, then multiplied with the double nearest to a
power of ten. So close to the greatest double a number may be refused although it is less than it.
-/

namespace LiveTimetable

/-- A number as written: an integer, or a coefficient and a power of ten. A negative zero is not an
integer. -/
inductive Numeral
  | integer (value : Int)
  | decimal (negative : Bool) (coefficient : Nat) (exponent : Int)
deriving DecidableEq, Repr

namespace Numeral

/-- The least whole number that rounds to no finite double. -/
def doubleLimit : Nat := Nat.pow 2 1024 - Nat.pow 2 970

/-- The nearest number of 53 bits and a power of two, of two such the one whose bits are even. -/
def nearestDouble (n : Nat) : Nat :=
  let unit := Nat.pow 2 (n.log2 - 52)
  let below := n / unit
  let excess := n % unit
  if unit < 2 * excess ∨ (unit = 2 * excess ∧ below % 2 = 1) then (below + 1) * unit else below * unit

/-- The leading digits that 64 bits hold, with the power of ten that stands for the others. -/
def leading (coefficient : Nat) (exponent : Int) : Nat × Int :=
  if coefficient < 0x10000000000000000 then (coefficient, exponent)
  else leading (coefficient / 10) (exponent + 1)
termination_by coefficient
decreasing_by omega

/-- The double of a coefficient and a power of ten is finite. -/
def finiteDecimal (coefficient : Nat) (exponent : Int) : Bool :=
  let (digits, power) := leading coefficient exponent
  digits = 0 || decide (power < 0) ||
    (decide (power ≤ 308) &&
      decide (nearestDouble digits * nearestDouble (Nat.pow 10 power.toNat) < doubleLimit))

/-- The double that stands for the number is finite. -/
def finite : Numeral → Bool
  | integer value => finiteDecimal value.natAbs 0
  | decimal _ coefficient exponent => finiteDecimal coefficient exponent

end Numeral

end LiveTimetable
