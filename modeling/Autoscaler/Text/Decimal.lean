import Autoscaler.Word

/-!
# Magnitudes of decimal numbers

A decimal number without its sign, and whether it is too large for a 64-bit binary
floating-point number. There are two ways to find the nearest such number: from all digits
at once, or quickly from the leading digits and the power of ten, each rounded by itself.
They disagree close to the largest number only.
-/

namespace Autoscaler.Text

/-- `mantissa * 10 ^ scale`. -/
structure Decimal where
  mantissa : Nat
  scale : Int
  deriving DecidableEq, Repr

namespace Decimal

/-- How many decimal digits a number has. -/
def digitCount (n : Nat) : Nat := (Nat.repr n).length

/-- Half a step above the largest finite number; from here on numbers round to infinity. -/
def roundsToInfinity : Nat := Nat.pow 2 1024 - Nat.pow 2 970

/-- Whether the number rounds beyond every finite float. The digits decide this unless the
number has 309 of them. -/
def overflows (d : Decimal) : Bool :=
  let size := (digitCount d.mantissa : Int) + d.scale
  d.mantissa ≠ 0 &&
    (size > 309 ||
      (size == 309 &&
        if 0 ≤ d.scale then d.mantissa * Nat.pow 10 d.scale.toNat ≥ roundsToInfinity
        else d.mantissa ≥ roundsToInfinity * Nat.pow 10 (-d.scale).toNat))

/-- The nearest number with no more than 53 binary digits; of two, the one whose last digit
is even. -/
def roundBits (n : Nat) : Nat :=
  let unit := Nat.pow 2 (n.log2 - 52)
  let (kept, rest) := (n / unit, n % unit)
  if 2 * rest > unit ∨ (2 * rest = unit ∧ kept % 2 = 1) then (kept + 1) * unit else kept * unit

example : roundBits (2 ^ 53 + 1) = 2 ^ 53 := by decide
example : roundBits (2 ^ 53 + 3) = 2 ^ 53 + 4 := by decide

/-- As many leading digits as a 64-bit word holds. -/
def leading (d : Decimal) : Decimal :=
  if d.mantissa < word64 then d else leading ⟨d.mantissa / 10, d.scale + 1⟩
  termination_by d.mantissa
  decreasing_by
    simp only [word64] at *
    omega

/-- Whether the leading digits times the power of ten, each rounded to a float, are beyond
every finite float. -/
def overflowsQuickly (d : Decimal) : Bool :=
  let d := d.leading
  d.mantissa ≠ 0 && 0 ≤ d.scale &&
    (d.scale > 308 || roundBits d.mantissa * roundBits (Nat.pow 10 d.scale.toNat) ≥ roundsToInfinity)

end Decimal

end Autoscaler.Text
