import Autoscaler.Proofs.Packing.Choice
import Mathlib.Order.Basic

/-!
# Pods that ask for the same

Pods that all ask for the same fill one node after the other: each node takes as many of them
as an empty node has room for, and only the last one may take fewer. This follows from first
fit by exact sums alone, since it finds room on no node before the last one.
-/

namespace Autoscaler.Packing

variable {capacity request : Resources} {placed : List (Nat × Resources)} {node : Node}
  {pod : Pod} {pods : List Pod} {m n k : Nat}

/-! ## How many of them a node takes -/

/-- At most `limit`, and no more than fit `free` of one dimension. A request for nothing sets
no limit of its own. -/
def atMost (limit free wanted : Nat) : Nat :=
  if wanted = 0 then limit else min limit (free / wanted)

theorem le_atMost_iff {limit free wanted : Nat} :
    n ≤ atMost limit free wanted ↔ n ≤ limit ∧ n * wanted ≤ free := by
  rw [atMost]
  split
  · next nothing => simp [nothing]
  · next some => rw [Nat.le_min, Nat.le_div_iff_mul_le (Nat.pos_of_ne_zero some)]

/-- How many pods that ask for the same as `pod` fit an empty node. -/
def perNode (node : Node) (pod : Pod) : Nat :=
  let slots := node.allocatable.pods
  let byCpu := atMost slots node.allocatable.cpuMillis pod.asked.cpuMillis
  atMost byCpu node.allocatable.memoryBytes pod.asked.memoryBytes

theorem le_perNode_iff :
    n ≤ perNode node pod ↔ node.allocatable.fits (pod.requests.times n) := by
  simp only [perNode, le_atMost_iff, Resources.fits_iff, Resources.times, Pod.requests,
    Nat.mul_one]
  constructor
  · rintro ⟨⟨slots, cpu⟩, memory⟩
    exact ⟨cpu, memory, slots⟩
  · rintro ⟨cpu, memory, slots⟩
    exact ⟨⟨slots, cpu⟩, memory⟩

theorem perNode_pos (room : node.allocatable.fits pod.requests) : 0 < perNode node pod := by
  rw [Nat.lt_iff_add_one_le, le_perNode_iff, Resources.times_one]
  exact room

/-! ## Nodes filled one after the other -/

/-- `n` equal requests on nodes that take `m` of them each. -/
def evenly (m n : Nat) (request : Resources) : List (Nat × Resources) :=
  (List.range n).map fun i => (i / m, request)

theorem evenly_succ (m n : Nat) (request : Resources) :
    evenly m (n + 1) request = evenly m n request ++ [(n / m, request)] := by
  rw [evenly, List.range_succ, List.map_append, evenly]
  rfl

theorem mem_openNodes_evenly (some_room : 0 < m) :
    k ∈ openNodes (evenly m n request) ↔ k * m < n := by
  rw [mem_openNodes]
  constructor
  · rintro ⟨p, member, rfl⟩
    obtain ⟨i, below, rfl⟩ := List.mem_map.mp member
    exact Nat.lt_of_le_of_lt (Nat.div_mul_le_self i m) (List.mem_range.mp below)
  · intro below
    refine ⟨_, List.mem_map.mpr ⟨k * m, List.mem_range.mpr below, rfl⟩, ?_⟩
    exact Nat.mul_div_cancel k some_room

theorem lt_card_evenly_iff (some_room : 0 < m) (run : FirstFit capacity (evenly m n request)) :
    k < (openNodes (evenly m n request)).card ↔ k * m < n := by
  rw [← run.mem_iff, mem_openNodes_evenly some_room]

theorem load_evenly (some_room : 0 < m) (n k : Nat) :
    load (evenly m n request) k = request.times (min m (n - k * m)) := by
  induction n with
  | zero => simp [evenly, load]
  | succ n ih =>
      rw [evenly_succ, load_append, ih, load_singleton]
      -- Request `n` goes to node `k` if and only if the node has been begun and is not full.
      by_cases here : n / m = k
      · have lower : k * m ≤ n := (Nat.le_div_iff_mul_le some_room).mp (Nat.le_of_eq here.symm)
        have upper : n < (k + 1) * m :=
          (Nat.div_lt_iff_lt_mul some_room).mp (Nat.lt_succ_of_le (Nat.le_of_eq here))
        rw [Nat.succ_mul] at upper
        have more : min m (n + 1 - k * m) = min m (n - k * m) + 1 := by omega
        rw [if_pos here, more, Resources.times_succ]
      · have outside : n < k * m ∨ k * m + m ≤ n := by
          obtain before | behind := Nat.lt_or_gt_of_ne here
          · exact .inl ((Nat.div_lt_iff_lt_mul some_room).mp before)
          · have full := (Nat.le_div_iff_mul_le some_room).mp (Nat.succ_le_of_lt behind)
            rw [Nat.succ_mul] at full
            exact .inr full
        have same : min m (n + 1 - k * m) = min m (n - k * m) := by omega
        rw [if_neg here, same, Resources.add_empty]

section Room

variable (some_room : 0 < m) (limit : ∀ n, n ≤ m ↔ capacity.fits (request.times n))
include some_room limit

/-- There is room on every node that has not its `m` requests yet. -/
theorem room_evenly_iff :
    capacity.fits (load (evenly m n request) k + request) ↔ n < (k + 1) * m := by
  rw [load_evenly some_room, ← Resources.times_succ, ← limit, Nat.succ_mul]
  omega

theorem chosen_evenly (run : FirstFit capacity (evenly m n request))
    (chosen : Chosen capacity (evenly m n request) request k) : k = n / m := by
  cases chosen with
  | reused _ isOpen room =>
      have lower := (mem_openNodes_evenly some_room).mp isOpen
      have upper := (room_evenly_iff some_room limit).mp room
      exact (Nat.div_eq_of_lt_le (Nat.le_of_lt lower) upper).symm
  | opened full =>
      -- All open nodes are full, so `n` is as many requests as they take.
      have enough : n ≤ (openNodes (evenly m n request)).card * m := by
        by_contra below
        exact Nat.lt_irrefl _ ((lt_card_evenly_iff some_room run).mpr (Nat.lt_of_not_le below))
      have used : (openNodes (evenly m n request)).card * m ≤ n := by
        cases count : (openNodes (evenly m n request)).card with
        | zero => simp
        | succ last =>
            have isOpen : last ∈ openNodes (evenly m n request) := run.mem_iff.mpr (by omega)
            by_contra unfilled
            have room := (room_evenly_iff some_room limit).mpr (Nat.lt_of_not_le unfilled)
            exact full last isOpen room
      have exactly : n = (openNodes (evenly m n request)).card * m := Nat.le_antisymm enough used
      exact (Nat.div_eq_of_eq_mul_left some_room exactly).symm

/-- First fit places equal requests evenly. -/
theorem FirstFit.eq_evenly (run : FirstFit capacity placed)
    (alike : ∀ p ∈ placed, p.2 = request) : placed = evenly m placed.length request := by
  induction run with
  | nil => rfl
  | @snoc placed last k run chosen ih =>
      obtain ⟨others, same⟩ := List.forall_mem_append.mp alike
      obtain rfl : last = request := same (k, last) (List.mem_singleton_self _)
      have earlier := ih others
      rw [earlier] at run chosen
      rw [List.length_append, List.length_singleton, evenly_succ, ← earlier,
        chosen_evenly some_room limit run chosen]

end Room

theorem card_openNodes_evenly (some_room : 0 < m) (run : FirstFit capacity (evenly m n request)) :
    (openNodes (evenly m n request)).card = (n + m - 1) / m := by
  refine eq_of_forall_lt_iff fun k => ?_
  have ceiling : k < (n + m - 1) / m ↔ k * m < n := by
    rw [← Nat.succ_le_iff, Nat.le_div_iff_mul_le some_room, Nat.succ_mul]
    omega
  exact (lt_card_evenly_iff some_room run).trans ceiling.symm

/-! ## Estimates -/

section Alike

variable (room : node.allocatable.fits pod.requests)
  (alike : ∀ p ∈ pods, p.requests = pod.requests)
include room alike

theorem fits_of_alike : ∀ p ∈ pods, node.allocatable.fits p.requests := by
  intro p member
  rw [alike p member]
  exact room

theorem zip_requests_evenly :
    (estimate node pods).assignments.zip (pods.map Pod.requests) =
      evenly (perNode node pod) pods.length pod.requests := by
  have run := estimate_firstFit (fits_of_alike room alike)
  have same : ∀ p ∈ (estimate node pods).assignments.zip (pods.map Pod.requests),
      p.2 = pod.requests := by
    intro p paired
    obtain ⟨p', member, asked⟩ := List.mem_map.mp (List.of_mem_zip paired).2
    rw [← asked, alike p' member]
  have length : ((estimate node pods).assignments.zip (pods.map Pod.requests)).length =
      pods.length := by
    rw [List.length_zip, List.length_map, length_assignments, Nat.min_self]
  have even := run.eq_evenly (perNode_pos room) (fun n => le_perNode_iff) same
  rwa [length] at even

/-- The nodes that are opened, however many they are. -/
theorem length_pack_evenly :
    (pack node pods).2.length = (pods.length + perNode node pod - 1) / perNode node pod := by
  have run := estimate_firstFit (fits_of_alike room alike)
  have packed := estimate_packed (fits_of_alike room alike)
  rw [zip_requests_evenly room alike] at run packed
  rw [← card_openNodes_evenly (perNode_pos room) run, packed.openNodes_eq, Finset.card_range]

/-- Pods that fill a node each open as many nodes as they are. What an estimate tells of that is
what a word can hold. -/
theorem nodeCount_alone (alone : perNode node pod = 1) :
    (estimate node pods).nodeCount = pods.length % word32 := by
  have opened := length_pack_evenly room alike
  rw [alone, Nat.add_sub_cancel, Nat.div_one] at opened
  exact congrArg (· % word32) opened

end Alike

/-- Pods that ask for the same go onto one node after the other, as many onto each as an empty
node has room for. -/
theorem estimate_evenly (few : pods.length < word32) (room : node.allocatable.fits pod.requests)
    (alike : ∀ p ∈ pods, p.requests = pod.requests) :
    (estimate node pods).assignments =
        (List.range pods.length).map (fun i => i / perNode node pod) ∧
      (estimate node pods).nodeCount =
        (pods.length + perNode node pod - 1) / perNode node pod := by
  constructor
  · rw [← map_fst_zip_requests (length_assignments node pods), zip_requests_evenly room alike,
      evenly, List.map_map]
    rfl
  · rw [nodeCount_eq node few, length_pack_evenly room alike]

/-- Five pods of half a core go two by two onto machines with one core. -/
def Sample.halves : List Pod :=
  ["a", "b", "c", "d", "e"].map fun name => Sample.pod name 500 536870912

theorem estimate_evenly_halves :
    (estimate Sample.machine Sample.halves).assignments = [0, 0, 1, 1, 2] ∧
      (estimate Sample.machine Sample.halves).nodeCount = 3 := by
  have alike : ∀ p ∈ Sample.halves,
      p.requests = (Sample.pod "a" 500 536870912).requests := by decide
  exact estimate_evenly (by decide) (by decide) alike

end Autoscaler.Packing
