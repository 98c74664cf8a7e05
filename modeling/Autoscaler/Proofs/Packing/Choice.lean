import Autoscaler.Proofs.Packing.FirstFit
import Mathlib.Data.Finset.Card
import Mathlib.Data.Finset.Range

/-!
# First fit by exact sums

The packing compares a request with what is left on each node. Here first fit is told without
anything that is left: a node has room for a request if an empty node has room for the exact
sum of the request and all that was put onto the node before. Pods that all fit an empty node
are packed by just these choices, one after the other. So whatever holds of every first fit by
exact sums holds of the packing, and need not be proved for differences that stop at zero.
-/

namespace Autoscaler.Packing

variable {capacity request : Resources} {bins bins' requests : List Resources}
  {placed : List (Nat × Resources)} {node : Node} {pods : List Pod}

/-- The nodes that something was put onto. -/
def openNodes (placed : List (Nat × Resources)) : Finset Nat :=
  (placed.map Prod.fst).toFinset

@[simp] theorem openNodes_nil : openNodes [] = ∅ := rfl

theorem mem_openNodes {k : Nat} : k ∈ openNodes placed ↔ ∃ p ∈ placed, p.1 = k := by
  simp [openNodes]

theorem openNodes_snoc (placed : List (Nat × Resources)) (p : Nat × Resources) :
    openNodes (placed ++ [p]) = insert p.1 (openNodes placed) := by
  ext k
  simp [openNodes]

theorem load_unopened {k : Nat} (unopened : k ∉ openNodes placed) : load placed k = {} :=
  load_eq_empty fun p member there => unopened (mem_openNodes.mpr ⟨p, member, there⟩)

/-- Where first fit puts a request behind those that were placed: onto the open node with room
whose index is least, or onto a new node, numbered by how many are open, if none has room. -/
inductive Chosen (capacity : Resources) (placed : List (Nat × Resources))
    (request : Resources) : Nat → Prop where
  | reused (k : Nat) (isOpen : k ∈ openNodes placed)
      (room : capacity.fits (load placed k + request))
      (full : ∀ j ∈ openNodes placed, j < k → ¬ capacity.fits (load placed j + request)) :
      Chosen capacity placed request k
  | opened (full : ∀ j ∈ openNodes placed, ¬ capacity.fits (load placed j + request)) :
      Chosen capacity placed request (openNodes placed).card

/-- Requests that were placed one after the other, each where first fit puts it. -/
inductive FirstFit (capacity : Resources) : List (Nat × Resources) → Prop where
  | nil : FirstFit capacity []
  | snoc {placed : List (Nat × Resources)} {request : Resources} {k : Nat}
      (run : FirstFit capacity placed) (chosen : Chosen capacity placed request k) :
      FirstFit capacity (placed ++ [(k, request)])

namespace FirstFit

/-- Nodes are opened in the order of their numbers. -/
theorem openNodes_eq (run : FirstFit capacity placed) :
    openNodes placed = Finset.range (openNodes placed).card := by
  induction run with
  | nil => rfl
  | @snoc placed request k run chosen ih =>
      rw [openNodes_snoc]
      cases chosen with
      | reused _ isOpen =>
          rw [Finset.insert_eq_of_mem isOpen]
          exact ih
      | opened =>
          have new : (openNodes placed).card ∉ openNodes placed := by
            intro member
            rw [ih] at member
            simp at member
          rw [Finset.card_insert_of_notMem new, Finset.range_add_one, ← ih]

theorem mem_iff (run : FirstFit capacity placed) {k : Nat} :
    k ∈ openNodes placed ↔ k < (openNodes placed).card := by
  conv_lhs => rw [run.openNodes_eq]
  exact Finset.mem_range

/-- At every position stands a choice behind all that was placed before it. -/
theorem chosen (run : FirstFit capacity placed) (i : Nat) (inside : i < placed.length) :
    Chosen capacity (placed.take i) placed[i].2 placed[i].1 := by
  induction run with
  | nil => exact absurd inside (Nat.not_lt_zero _)
  | @snoc placed request k run chosen ih =>
      by_cases earlier : i < placed.length
      · rw [List.take_append_of_le_length (Nat.le_of_lt earlier), List.getElem_append_left earlier]
        exact ih earlier
      · have last : i = placed.length := by
          rw [List.length_append, List.length_singleton] at inside
          omega
        subst last
        rw [List.take_left, List.getElem_concat_length rfl]
        exact chosen

end FirstFit

/-! ## The packing chooses this way -/

namespace Packed

theorem openNodes_eq (packed : Packed capacity placed bins) :
    openNodes placed = Finset.range bins.length := by
  ext k
  rw [mem_openNodes, Finset.mem_range]
  constructor
  · rintro ⟨p, member, rfl⟩
    exact packed.inside p member
  · exact packed.used k

/-- A bin has room for a request exactly if the sum of all that is in it has. -/
theorem fits_iff (packed : Packed capacity placed bins) {k : Nat} (inside : k < bins.length) :
    bins[k].fits request ↔ capacity.fits (load placed k + request) :=
  Resources.fits_iff_add_fits (packed.whole k inside)

theorem chosen {placement : Placement} (packed : Packed capacity placed bins)
    (run : Placed capacity request 0 bins placement bins') :
    Chosen capacity placed request placement.node := by
  have isOpen : ∀ k, k ∈ openNodes placed ↔ k < bins.length := by
    intro k
    rw [packed.openNodes_eq, Finset.mem_range]
  cases run with
  | reused k inside room full =>
      rw [Nat.zero_add]
      refine .reused k ((isOpen k).mpr inside) ((packed.fits_iff inside).mp room) ?_
      intro j _ before fits
      exact full j before ((packed.fits_iff (Nat.lt_trans before inside)).mpr fits)
  | opened full =>
      have count : (openNodes placed).card = bins.length := by
        rw [packed.openNodes_eq, Finset.card_range]
      rw [Nat.zero_add, ← count]
      refine .opened fun j member fits => ?_
      have inside := (isOpen j).mp member
      exact full _ (List.getElem_mem inside) ((packed.fits_iff inside).mpr fits)

/-- Requests that all fit an empty bin are placed behind a first fit as first fit does. -/
theorem firstFit (packed : Packed capacity placed bins) (run : FirstFit capacity placed)
    (room : ∀ request ∈ requests, capacity.fits request) :
    FirstFit capacity
      (placed ++ ((Packing.placeAll capacity bins requests).1.map Placement.node).zip
        requests) := by
  have both := placeAll_induction
    (fun placed bins => Packed capacity placed bins ∧ FirstFit capacity placed)
    (fun member held step =>
      ⟨held.1.place (room _ member) step, .snoc held.2 (held.1.chosen step)⟩)
    ⟨packed, run⟩
  exact both.2

end Packed

theorem estimate_firstFit (room : ∀ pod ∈ pods, node.allocatable.fits pod.requests) :
    FirstFit node.allocatable
      ((estimate node pods).assignments.zip (pods.map Pod.requests)) := by
  have run := (Packed.empty node.allocatable).firstFit .nil (List.forall_mem_map.mpr room)
  rwa [List.nil_append] at run

/-! ## Estimates -/

/-- Every pod goes where first fit by exact sums puts it behind the pods before it, so many
nodes are used, and on each of them the exact sum of what its pods request fits. -/
structure PacksFirstFit (node : Node) (pods : List Pod) (count : Nat) (assigned : List Nat) :
    Prop where
  complete : assigned.length = pods.length
  chosen : ∀ i (inside : i < assigned.length) (inside' : i < pods.length),
    Chosen node.allocatable ((assigned.take i).zip ((pods.take i).map Pod.requests))
      pods[i].requests assigned[i]
  count : count = assigned.toFinset.card
  room : ∀ k, node.allocatable.fits (load (assigned.zip (pods.map Pod.requests)) k)

/-- Pods that all fit an empty node are assigned by first fit in exact sums. -/
theorem estimate_packsFirstFit (few : pods.length < word32)
    (room : ∀ pod ∈ pods, node.allocatable.fits pod.requests) :
    PacksFirstFit node pods (estimate node pods).nodeCount (estimate node pods).assignments := by
  have packed := estimate_packed room
  have run := estimate_firstFit room
  have complete := length_assignments node pods
  refine ⟨complete, ?_, ?_, fun k => packed.load_fits k⟩
  · intro i inside inside'
    have within : i < ((estimate node pods).assignments.zip (pods.map Pod.requests)).length := by
      rw [List.length_zip, List.length_map]
      exact Nat.lt_min.mpr ⟨inside, inside'⟩
    have chosen := run.chosen i within
    rw [List.getElem_zip, List.getElem_map, List.zip_eq_zipWith, List.take_zipWith,
      ← List.zip_eq_zipWith, ← List.map_take] at chosen
    exact chosen
  · have used := packed.openNodes_eq
    rw [openNodes, map_fst_zip_requests complete] at used
    rw [nodeCount_eq node few, used, Finset.card_range]

/-- Two pods that do not fit next to each other, and a small one that fits next to either. -/
def Sample.gap : List Pod :=
  [pod "a" 700 1073741824, pod "b" 700 1073741824, pod "c" 300 1073741824]

/-- The third pod goes back to the first node. -/
theorem estimate_packsFirstFit_gap : PacksFirstFit Sample.machine Sample.gap 2 [0, 1, 0] :=
  estimate_packsFirstFit (by decide) (by decide)

end Autoscaler.Packing
