import Autoscaler.Word

/-!
# Resource quantities

A quantity is a vector of processor time, memory and pod slots. Processor time and
memory are 64-bit words and pod slots 32-bit words, so sums stop at the largest word
and differences at zero, each dimension by itself.
-/

namespace Autoscaler

structure Resources where
  /-- Thousandths of a core. -/
  cpuMillis : Nat := 0
  memoryBytes : Nat := 0
  /-- Pod slots. -/
  pods : Nat := 0
  deriving DecidableEq, Repr, Inhabited

namespace Resources

/-- Whether `request` stays within `free` on every dimension. -/
def fits (free request : Resources) : Bool :=
  request.cpuMillis ≤ free.cpuMillis && request.memoryBytes ≤ free.memoryBytes
    && request.pods ≤ free.pods

/-- What is left after taking `used`; a dimension that is overdrawn is empty. -/
def minus (free used : Resources) : Resources where
  cpuMillis := free.cpuMillis - used.cpuMillis
  memoryBytes := free.memoryBytes - used.memoryBytes
  pods := free.pods - used.pods

/-- The sum, each dimension clamped to the largest word. -/
def plus (a b : Resources) : Resources where
  cpuMillis := min (a.cpuMillis + b.cpuMillis) (word64 - 1)
  memoryBytes := min (a.memoryBytes + b.memoryBytes) (word64 - 1)
  pods := min (a.pods + b.pods) (word32 - 1)

/-- One line with memory in whole mebibytes. -/
def text (r : Resources) : String :=
  s!"cpu={r.cpuMillis}m memory={r.memoryBytes / 1048576}Mi pods={r.pods}"

theorem fits_iff {free request : Resources} :
    free.fits request ↔ request.cpuMillis ≤ free.cpuMillis ∧
      request.memoryBytes ≤ free.memoryBytes ∧ request.pods ≤ free.pods := by
  simp [fits, and_assoc]

end Resources

end Autoscaler
