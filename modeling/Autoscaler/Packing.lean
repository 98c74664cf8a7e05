import Autoscaler.Cluster

/-!
# How many nodes a list of pods needs

Pods are packed onto empty nodes of one capacity in the order in which they are
given. Each goes to the first opened node with room on every dimension, or onto a new
node if none has room. A pod that is larger than an empty node gets a node of its own.
-/

namespace Autoscaler.Packing

/-- Where a pod went. -/
structure Placement where
  /-- The index of the node, in the order of opening. -/
  node : Nat
  /-- Whether the node was opened for this pod. -/
  opened : Bool
  /-- What is left on the node afterwards. -/
  left : Resources
  deriving DecidableEq, Repr

/-- Puts one request onto the first of `bins` with room, or into a new bin behind them.
The bins are numbered from `start`. -/
def place (capacity request : Resources) :
    (start : Nat) → (bins : List Resources) → Placement × List Resources
  | start, [] =>
      let left := capacity.minus request
      (⟨start, true, left⟩, [left])
  | start, bin :: bins =>
      if bin.fits request then
        let left := bin.minus request
        (⟨start, false, left⟩, left :: bins)
      else
        let (placement, bins) := place capacity request (start + 1) bins
        (placement, bin :: bins)

/-- Puts requests one after the other into `bins`. -/
def placeAll (capacity : Resources) :
    (bins : List Resources) → (requests : List Resources) → List Placement × List Resources
  | bins, [] => ([], bins)
  | bins, request :: requests =>
      let (placement, bins) := place capacity request 0 bins
      let (placements, bins) := placeAll capacity bins requests
      (placement :: placements, bins)

/-- The placements of the pods on nodes like `node`, and what is left on each. -/
def pack (node : Node) (pods : List Pod) : List Placement × List Resources :=
  placeAll node.allocatable [] (pods.map Pod.requests)

/-- The sum of all requests, each dimension clamped to the largest word. -/
def total (pods : List Pod) : Resources :=
  pods.foldl (fun sum pod => sum.plus pod.requests) {}

/-- One line about the pods to be packed. -/
def summary (pods : List Pod) : String :=
  s!"estimator: {pods.length} pods, requested {(total pods).text}"

structure Estimate where
  /-- The number of opened nodes, as a 32-bit word. -/
  nodeCount : Nat
  /-- The node of each pod. -/
  assignments : List Nat
  report : String
  deriving DecidableEq, Repr

/-- The line of a report for one pod. -/
def reportLine (pod : Pod) (p : Placement) : String :=
  let opened := if p.opened then " (new)" else ""
  s!"  {pod.key} -> node {p.node}{opened}, left {p.left.text}\n"

/-- How many nodes like `node` the pods need. -/
def estimate (node : Node) (pods : List Pod) : Estimate :=
  let (placements, bins) := pack node pods
  let nodeCount := bins.length % word32
  { nodeCount
    assignments := placements.map Placement.node
    report :=
      s!"packing {pods.length} pods onto {node.name} ({node.allocatable.text})\n"
        ++ String.join (List.zipWith reportLine pods placements)
        ++ s!"{nodeCount} nodes needed" }

@[simp] theorem placeAll_nil (capacity : Resources) (bins : List Resources) :
    placeAll capacity bins [] = ([], bins) := rfl

theorem length_placeAll (capacity : Resources) (bins requests : List Resources) :
    (placeAll capacity bins requests).1.length = requests.length := by
  induction requests generalizing bins with
  | nil => rfl
  | cons request requests ih => simp [placeAll, ih]

theorem length_assignments (node : Node) (pods : List Pod) :
    (estimate node pods).assignments.length = pods.length := by
  simp [estimate, pack, length_placeAll]

end Autoscaler.Packing
