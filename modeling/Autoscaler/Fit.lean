import Autoscaler.Cluster

/-!
# Whether a pod can run on a node

A pod fits a node that carries every label of the pod's selector and has room for its
requests. The node stands for a new machine, so nothing runs on it yet.
-/

namespace Autoscaler

/-- Why a pod cannot run on a node. -/
inductive Misfit where
  | labelDiffers (key wanted value : String)
  | labelMissing (key wanted : String)
  | cpu (requested allocatable : Nat)
  | memory (requested allocatable : Nat)
  | slots
  deriving DecidableEq, Repr

def Misfit.message : Misfit → String
  | labelDiffers key wanted value =>
      s!"node selector {key}={wanted} does not match label {key}={value}"
  | labelMissing key wanted => s!"node selector {key}={wanted} does not match: label missing"
  | cpu requested allocatable =>
      s!"insufficient cpu: requested {requested}m, allocatable {allocatable}m"
  | memory requested allocatable =>
      s!"insufficient memory: requested {requested} bytes, allocatable {allocatable} bytes"
  | slots => "no pod slots on node"

/-- A judgement on whether a pod can run on an empty node. -/
abbrev Checker := Pod → Node → Except Misfit Unit

namespace Fit

/-- What is wrong with one wanted label. -/
def labelMisfit? (labels : Labels) (wanted : String × String) : Option Misfit :=
  match labels.find? wanted.1 with
  | some value => if value = wanted.2 then none else some (.labelDiffers wanted.1 wanted.2 value)
  | none => some (.labelMissing wanted.1 wanted.2)

/-- The first dimension without room. -/
def resourceMisfit? (free request : Resources) : Option Misfit :=
  if free.cpuMillis < request.cpuMillis then some (.cpu request.cpuMillis free.cpuMillis)
  else if free.memoryBytes < request.memoryBytes then
    some (.memory request.memoryBytes free.memoryBytes)
  else if free.pods < request.pods then some .slots
  else none

/-- Every wanted label that is wrong; if there is none, the first dimension without room. -/
def misfits (pod : Pod) (node : Node) : List Misfit :=
  match pod.selector.entries.filterMap (labelMisfit? node.labels) with
  | [] => (resourceMisfit? node.allocatable pod.requests).toList
  | wrong => wrong

/-- Judges labels first, then resources, and reports the first misfit. -/
def check : Checker := fun pod node =>
  match misfits pod node with
  | [] => .ok ()
  | misfit :: _ => .error misfit

theorem resourceMisfit?_eq_none_iff {free request : Resources} :
    resourceMisfit? free request = none ↔ free.fits request := by
  rw [resourceMisfit?, Resources.fits_iff]
  repeat' split
  all_goals (simp; omega)

end Fit

end Autoscaler
