import Autoscaler.Proofs.Packing.Choice
import Mathlib.Algebra.Order.BigOperators.Group.Finset
import Mathlib.Algebra.BigOperators.Group.Finset.Piecewise
import Mathlib.Data.Fintype.Defs
import Mathlib.Algebra.Group.Action.Defs

/-!
# First fit against any other packing

Of two nodes that first fit opened, the later one was opened for a request for which there was
no room on the earlier one. So the two loads together exceed an empty node on some dimension.
If the requests can be put onto `k` nodes at all, the exact sum of all loads is at most `k`
times an empty node on every dimension, and then fewer than `k` disjoint pairs of nodes exceed
it there. The pairs of neighbours fall into six classes of disjoint pairs, by the dimension
that is exceeded and by whether the first node of the pair has an even number. So there are at
most `6 * (k - 1)` of them, and one node more.
-/

namespace Autoscaler

instance : Fintype Resources.Dimension where
  elems := {.cpu, .memory, .slots}
  complete d := by cases d <;> decide

namespace Packing

variable {capacity request : Resources} {placed : List (Nat × Resources)} {node : Node}
  {pods : List Pod} {k count : Nat} {assigned : List Nat}

/-! ## Two open nodes -/

/-- No open node has room for the load of a later one. -/
theorem FirstFit.crowded (run : FirstFit capacity placed) {j l : Nat} (before : j < l)
    (isOpen : l ∈ openNodes placed) : ¬ capacity.fits (load placed j + load placed l) := by
  induction run with
  | nil => simp at isOpen
  | @snoc placed request k run chosen ih =>
      intro room
      rw [load_append, load_append] at room
      rw [openNodes_snoc, Finset.mem_insert] at isOpen
      by_cases earlier : l ∈ openNodes placed
      · exact ih earlier (Resources.fits_add_of_fits_add room)
      · obtain rfl | member := isOpen
        · -- Node `l` was opened just now, so its load is the request that fits no earlier node.
          cases chosen with
          | reused _ isOpen => exact earlier isOpen
          | opened full =>
              have there : j ∈ openNodes placed := run.mem_iff.mpr before
              rw [load_unopened earlier, Resources.empty_add, load_singleton _ j,
                if_neg (Nat.ne_of_gt before), load_singleton, if_pos rfl,
                Resources.add_empty] at room
              exact full j there room
        · exact earlier member

/-! ## The demand -/

/-- The loads of all nodes add up to all that was placed. -/
theorem sum_load (inside : ∀ p ∈ placed, p.1 < count) (d : Resources.Dimension) :
    ∑ k ∈ Finset.range count, (load placed k).along d =
      (Resources.sum (placed.map Prod.snd)).along d := by
  induction placed with
  | nil => simp [load]
  | cons p placed ih =>
      obtain ⟨here, others⟩ := List.forall_mem_cons.mp inside
      have split : ∀ k, (load (p :: placed) k).along d =
          (if p.1 = k then p.2.along d else 0) + (load placed k).along d := by
        intro k
        rw [← List.singleton_append, load_append, Resources.along_add, load_singleton]
        split <;> simp
      rw [Finset.sum_congr rfl fun k _ => split k, Finset.sum_add_distrib, ih others,
        Finset.sum_ite_eq, if_pos (Finset.mem_range.mpr here), List.map_cons,
        Resources.sum_cons, Resources.along_add]

/-- The pods can be put onto so many nodes of one shape such that the exact sum of what they
request fits each of them. Some of the nodes may stay empty. -/
structure Arranges (node : Node) (pods : List Pod) (count : Nat) (assigned : List Nat) :
    Prop where
  complete : assigned.length = pods.length
  inside : ∀ k ∈ assigned, k < count
  room : ∀ k, node.allocatable.fits (load (assigned.zip (pods.map Pod.requests)) k)

/-- Behind the last node there is nothing that would have to fit. -/
theorem arranges_iff : Arranges node pods count assigned ↔ assigned.length = pods.length ∧
    (∀ k ∈ assigned, k < count) ∧
      ∀ k < count, node.allocatable.fits (load (assigned.zip (pods.map Pod.requests)) k) := by
  constructor
  · intro arranged
    exact ⟨arranged.complete, arranged.inside, fun k _ => arranged.room k⟩
  · rintro ⟨complete, inside, room⟩
    refine ⟨complete, inside, fun k => ?_⟩
    by_cases below : k < count
    · exact room k below
    · have elsewhere : ∀ p ∈ assigned.zip (pods.map Pod.requests), p.1 ≠ k := by
        rintro p member rfl
        exact below (inside _ (List.of_mem_zip member).1)
      rw [load_eq_empty elsewhere]
      exact Resources.fits_empty _

instance : Decidable (Arranges node pods count assigned) :=
  decidable_of_iff _ arranges_iff.symm

/-- Pods that can be put onto `count` nodes request no more than these nodes have. -/
theorem Arranges.demand_le (arranged : Arranges node pods count assigned)
    (d : Resources.Dimension) :
    (Resources.sum (pods.map Pod.requests)).along d ≤ count * node.allocatable.along d := by
  have inside : ∀ p ∈ assigned.zip (pods.map Pod.requests), p.1 < count :=
    fun p member => arranged.inside _ (List.of_mem_zip member).1
  have total := sum_load inside d
  rw [map_snd_zip_requests arranged.complete] at total
  rw [← total]
  calc ∑ k ∈ Finset.range count, (load (assigned.zip (pods.map Pod.requests)) k).along d
      ≤ (Finset.range count).card • node.allocatable.along d :=
        Finset.sum_le_card_nsmul _ _ _ fun k _ =>
          Resources.fits_iff_along.mp (arranged.room k) d
    _ = count * node.allocatable.along d := by rw [Finset.card_range, smul_eq_mul]

/-! ## Counting pairs of neighbours -/

/-- Neighbours that together exceed `limit` are fewer than `k` pairs if these are disjoint and
the sum of all amounts is at most `k` times the limit. -/
theorem card_pairs_le {amount : Nat → Nat} {limit : Nat} {pairs : Finset Nat} (parity : Nat)
    (apart : ∀ i ∈ pairs, i % 2 = parity) (inside : ∀ i ∈ pairs, i + 1 < count)
    (beyond : ∀ i ∈ pairs, limit + 1 ≤ amount i + amount (i + 1))
    (total : ∑ i ∈ Finset.range count, amount i ≤ k * limit) : pairs.card ≤ k - 1 := by
  let shift : Nat ↪ Nat := ⟨Nat.succ, Nat.succ_injective⟩
  have disjoint : Disjoint pairs (pairs.map shift) := by
    rw [Finset.disjoint_left]
    intro i member shifted
    obtain ⟨j, member', rfl⟩ := Finset.mem_map.mp shifted
    have even := apart _ member
    have even' := apart j member'
    simp only [shift, Function.Embedding.coeFn_mk] at even
    omega
  have covered : pairs ∪ pairs.map shift ⊆ Finset.range count := by
    refine Finset.union_subset ?_ ?_
    · intro i member
      have := inside i member
      exact Finset.mem_range.mpr (by omega)
    · intro i shifted
      obtain ⟨j, member, rfl⟩ := Finset.mem_map.mp shifted
      exact Finset.mem_range.mpr (inside j member)
  have sums : pairs.card * (limit + 1) ≤ k * limit :=
    calc pairs.card * (limit + 1)
        ≤ ∑ i ∈ pairs, (amount i + amount (i + 1)) := by
          rw [← smul_eq_mul]
          exact Finset.card_nsmul_le_sum _ _ _ beyond
      _ = ∑ i ∈ pairs, amount i + ∑ i ∈ pairs.map shift, amount i := by
          rw [Finset.sum_add_distrib, Finset.sum_map]
          rfl
      _ = ∑ i ∈ pairs ∪ pairs.map shift, amount i := (Finset.sum_union disjoint).symm
      _ ≤ ∑ i ∈ Finset.range count, amount i := Finset.sum_le_sum_of_subset covered
      _ ≤ k * limit := total
  by_contra many
  have atLeast : k * limit ≤ pairs.card * limit := Nat.mul_le_mul_right _ (by omega)
  rw [Nat.mul_succ] at sums
  omega

/-- The open nodes of one parity that exceed an empty node together with the next one, on one
dimension. -/
def exceeding (capacity : Resources) (placed : List (Nat × Resources))
    (c : Resources.Dimension × Nat) : Finset Nat :=
  (Finset.range ((openNodes placed).card - 1)).filter fun i =>
    capacity.along c.1 < (load placed i).along c.1 + (load placed (i + 1)).along c.1 ∧
      i % 2 = c.2

namespace FirstFit

/-- Each pair of neighbours exceeds an empty node on some dimension. -/
theorem neighbours_exceed (run : FirstFit capacity placed) :
    Finset.range ((openNodes placed).card - 1) ⊆
      (Finset.univ ×ˢ Finset.range 2).biUnion (exceeding capacity placed) := by
  intro i member
  have below := Finset.mem_range.mp member
  have isOpen : i + 1 ∈ openNodes placed := run.mem_iff.mpr (by omega)
  obtain ⟨d, beyond⟩ := Resources.exceeds_of_not_fits (run.crowded (Nat.lt_succ_self i) isOpen)
  rw [Resources.along_add] at beyond
  refine Finset.mem_biUnion.mpr ⟨(d, i % 2), ?_, ?_⟩
  · exact Finset.mem_product.mpr
      ⟨Finset.mem_univ d, Finset.mem_range.mpr (Nat.mod_lt _ Nat.two_pos)⟩
  · exact Finset.mem_filter.mpr ⟨member, beyond, rfl⟩

theorem card_exceeding_le (run : FirstFit capacity placed)
    (demand : ∀ d, (Resources.sum (placed.map Prod.snd)).along d ≤ k * capacity.along d)
    (c : Resources.Dimension × Nat) : (exceeding capacity placed c).card ≤ k - 1 := by
  have inside : ∀ p ∈ placed, p.1 < (openNodes placed).card := fun p member =>
    run.mem_iff.mp (mem_openNodes.mpr ⟨p, member, rfl⟩)
  have total := demand c.1
  rw [← sum_load inside] at total
  refine card_pairs_le c.2 ?_ ?_ ?_ total
  · intro i member
    exact (Finset.mem_filter.mp member).2.2
  · intro i member
    have below := Finset.mem_range.mp (Finset.mem_filter.mp member).1
    omega
  · intro i member
    exact (Finset.mem_filter.mp member).2.1

/-- Whatever first fit has placed, it has opened at most `6 * k - 5` nodes if the exact sum of
it is at most `k` times an empty node. -/
theorem card_openNodes_le (run : FirstFit capacity placed) (some_node : 0 < k)
    (demand : ∀ d, (Resources.sum (placed.map Prod.snd)).along d ≤ k * capacity.along d) :
    (openNodes placed).card ≤ 6 * k - 5 := by
  have six : ((Finset.univ : Finset Resources.Dimension) ×ˢ Finset.range 2).card = 6 := rfl
  have pairs : (openNodes placed).card - 1 ≤ 6 * (k - 1) :=
    calc (openNodes placed).card - 1
        = (Finset.range ((openNodes placed).card - 1)).card := (Finset.card_range _).symm
      _ ≤ ((Finset.univ ×ˢ Finset.range 2).biUnion (exceeding capacity placed)).card :=
          Finset.card_le_card run.neighbours_exceed
      _ ≤ (Finset.univ ×ˢ Finset.range 2).card * (k - 1) :=
          Finset.card_biUnion_le_card_mul _ _ _ fun c _ => run.card_exceeding_le demand c
      _ = 6 * (k - 1) := by rw [six]
  omega

end FirstFit

/-! ## Estimates -/

/-- A pod of an arrangement fits an empty node, since it fits next to the other pods. -/
theorem Arranges.fits (arranged : Arranges node pods count assigned) :
    ∀ pod ∈ pods, node.allocatable.fits pod.requests := by
  intro pod member
  have request : pod.requests ∈ (assigned.zip (pods.map Pod.requests)).map Prod.snd := by
    rw [map_snd_zip_requests arranged.complete]
    exact List.mem_map_of_mem member
  obtain ⟨p, paired, same⟩ := List.mem_map.mp request
  rw [← same]
  exact Resources.fits_trans (arranged.room p.1) (load_fits_of_mem paired)

/-- Pods that can be put onto `k` nodes in any way open at most `6 * k - 5` nodes. If they can
all be put onto one node, they open just this one. -/
theorem nodeCount_le_of_arranges (arranged : Arranges node pods k assigned) (some_node : 0 < k) :
    (estimate node pods).nodeCount ≤ 6 * k - 5 ∧
      (k = 1 → pods ≠ [] → (estimate node pods).nodeCount = 1) := by
  have run := estimate_firstFit arranged.fits
  have packed := estimate_packed arranged.fits
  have demand : ∀ d, (Resources.sum (((estimate node pods).assignments.zip
      (pods.map Pod.requests)).map Prod.snd)).along d ≤ k * node.allocatable.along d := by
    rw [map_snd_zip_requests (length_assignments node pods)]
    exact arranged.demand_le
  have bins := run.card_openNodes_le some_node demand
  rw [packed.openNodes_eq, Finset.card_range] at bins
  have count : (estimate node pods).nodeCount = (pack node pods).2.length % word32 := rfl
  refine ⟨Nat.le_trans (Nat.mod_le _ _) bins, ?_⟩
  rintro rfl some_pod
  have opened := length_pack_pos node some_pod
  have single : (pack node pods).2.length = 1 := by omega
  rw [count, single]
  rfl

/-- Pods that first fit puts onto three machines, though two are enough. -/
def Sample.wasteful : List Pod :=
  [Sample.pod "a" 300 1073741824, Sample.pod "b" 300 1073741824,
    Sample.pod "c" 700 1073741824, Sample.pod "d" 700 1073741824]

theorem nodeCount_le_of_arranges_wasteful :
    Arranges Sample.machine Sample.wasteful 2 [0, 1, 0, 1] ∧
      (estimate Sample.machine Sample.wasteful).nodeCount = 3 ∧
      (estimate Sample.machine Sample.wasteful).nodeCount ≤ 7 := by
  have arranged : Arranges Sample.machine Sample.wasteful 2 [0, 1, 0, 1] := by decide
  exact ⟨arranged, rfl, (nodeCount_le_of_arranges arranged Nat.two_pos).1⟩

end Packing

end Autoscaler
