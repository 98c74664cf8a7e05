import Autoscaler.Word

/-!
# Decimal numerals

Numerals made of the ASCII digits. Any number of leading zeros is allowed; a
numeral has at least one digit.
-/

namespace Autoscaler.Text

def isDigit (c : Char) : Bool := '0' ≤ c && c ≤ '9'

def digitValue (c : Char) : Nat := c.toNat - '0'.toNat

/-- The value of a sequence of digits, most significant first. -/
def value (digits : List Char) : Nat :=
  digits.foldl (fun n c => 10 * n + digitValue c) 0

/-- A natural number written with one or more digits and nothing else. -/
def natural? (cs : List Char) : Option Nat :=
  if cs ≠ [] ∧ cs.all isDigit then some (value cs) else none

/-- An integer: a natural number after an optional `+` or `-`. -/
def integer? : List Char → Option Int
  | '+' :: cs => (natural? cs).map Int.ofNat
  | '-' :: cs => (natural? cs).map fun n => -(n : Int)
  | cs => (natural? cs).map Int.ofNat

/-- An integer that a signed 64-bit word can hold. -/
def int64? (cs : List Char) : Option Int :=
  (integer? cs).filter fun n => -(word63 : Int) ≤ n ∧ n < word63

/-- A natural number that an unsigned 64-bit word can hold. -/
def word64? (cs : List Char) : Option Nat :=
  (natural? cs).filter (· < word64)

example : int64? "-0042".toList = some (-42) := by decide
example : int64? "9223372036854775808".toList = none := by decide

end Autoscaler.Text
