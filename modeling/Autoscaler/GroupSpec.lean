import Autoscaler.FormatError
import Autoscaler.Resources
import Autoscaler.Text.Numeral
import Autoscaler.Text.Split

/-!
# Specifications of node groups

A configuration names a group as `min:max:identifier`. The identifier belongs to the
backend and may hold colons.
-/

namespace Autoscaler

/-- The least and the greatest size of a group. -/
structure SizeBounds where
  min : Nat
  max : Nat
  min_pos : 1 ≤ min := by omega
  min_le_max : min ≤ max := by omega
  max_lt : max < word32 := by omega
  deriving DecidableEq, Repr

structure GroupSpec where
  bounds : SizeBounds
  identifier : String
  deriving DecidableEq, Repr

namespace GroupSpec

/-- The three fields: all between the first two colons belongs to the second, all behind
them to the third. -/
def fields? (cs : List Char) : Option (List Char × List Char × List Char) := do
  let (first, rest) ← Text.cut? ':' cs
  let (second, third) ← Text.cut? ':' rest
  some (first, second, third)

/-- The bounds that two fields write. The smaller one is judged first. -/
def readBounds (low high : List Char) : Except FormatError SizeBounds :=
  match Text.int64? low with
  | none => .error (.minSize (String.ofList low))
  | some min =>
      if hpos : min ≤ 0 then .error (.minSizeTooSmall min)
      else if hmin : word32 ≤ min then .error (.minSize (String.ofList low))
      else
        match Text.int64? high with
        | none => .error (.maxSize (String.ofList high))
        | some max =>
            if hle : max < min then .error (.maxBelowMin min.toNat max.toNat)
            else if hmax : word32 ≤ max then .error (.maxSize (String.ofList high))
            else .ok ⟨min.toNat, max.toNat, by omega, by omega, by omega⟩

def parse (spec : String) : Except FormatError GroupSpec :=
  match fields? spec.toList with
  | none => .error (.groupSpec spec)
  | some (low, high, identifier) =>
      if identifier = [] then .error (.groupSpec spec)
      else (readBounds low high).map fun bounds => ⟨bounds, String.ofList identifier⟩

end GroupSpec

end Autoscaler
