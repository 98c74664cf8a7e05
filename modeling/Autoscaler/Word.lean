/-!
# Machine words

How many values the words have in which sizes, quantities and counts are kept.
-/

namespace Autoscaler

/-- The number of values of a 32-bit word, the type of sizes and slots. -/
def word32 : Nat := 4294967296

/-- The number of values of a 64-bit word that are not negative if it has a sign. -/
def word63 : Nat := 9223372036854775808

/-- The number of values of a 64-bit word, the type of processor time and memory. -/
def word64 : Nat := 18446744073709551616

example : word32 = 2 ^ 32 ∧ word63 = 2 ^ 63 ∧ word64 = 2 ^ 64 := by decide

end Autoscaler
