import Autoscaler.Packing
import Autoscaler.Proofs.Resources

/-!
# First fit

A request goes to the first node with room, or onto a new node. What is left on a node is
kept as a difference that stops at zero. As long as every request fits an empty node it never
has to stop there: what is left and the exact sum of what was put onto the node make up its
capacity. So no node is overdrawn by requests that were only compared with what was left.
-/

namespace Autoscaler

namespace Packing

variable {capacity request : Resources} {bins bins' requests : List Resources}
  {placed : List (Nat × Resources)}

/-! ## One request -/

/-- Where a request goes: to the first bin with room, or into a new bin if there is none. -/
inductive Placed (capacity request : Resources) (start : Nat) (bins : List Resources) :
    Placement → List Resources → Prop where
  | reused (k : Nat) (inside : k < bins.length) (room : bins[k].fits request)
      (full : ∀ j (before : j < k), ¬ bins[j].fits request) :
      Placed capacity request start bins ⟨start + k, false, bins[k].minus request⟩
        (bins.set k (bins[k].minus request))
  | opened (full : ∀ bin ∈ bins, ¬ bin.fits request) :
      Placed capacity request start bins ⟨start + bins.length, true, capacity.minus request⟩
        (bins ++ [capacity.minus request])

theorem Placed.cons {start : Nat} {bin : Resources} {placement : Placement}
    (full : ¬ bin.fits request) (rest : Placed capacity request (start + 1) bins placement bins') :
    Placed capacity request start (bin :: bins) placement (bin :: bins') := by
  cases rest with
  | reused k inside room others =>
      have shifted : start + 1 + k = start + (k + 1) := by omega
      rw [shifted]
      have inside' : k + 1 < (bin :: bins).length := Nat.succ_lt_succ inside
      refine .reused (k + 1) inside' room ?_
      intro j before
      cases j with
      | zero => exact full
      | succ j => exact others j (Nat.lt_of_succ_lt_succ before)
  | opened others =>
      have shifted : start + 1 + bins.length = start + (bins.length + 1) := by omega
      rw [shifted]
      exact .opened (List.forall_mem_cons.mpr ⟨full, others⟩)

theorem place_placed (capacity request : Resources) (start : Nat) (bins : List Resources) :
    Placed capacity request start bins (place capacity request start bins).1
      (place capacity request start bins).2 := by
  induction bins generalizing start with
  | nil => exact .opened (by simp)
  | cons bin bins ih =>
      rw [place]
      split
      · next room =>
          have inside : 0 < (bin :: bins).length := Nat.zero_lt_succ _
          exact .reused 0 inside room (by simp)
      · next full => exact (ih (start + 1)).cons full

theorem Placed.length_le {start : Nat} {placement : Placement}
    (run : Placed capacity request start bins placement bins') :
    0 < bins'.length ∧ bins.length ≤ bins'.length ∧ bins'.length ≤ bins.length + 1 := by
  cases run with
  | reused k inside =>
      rw [List.length_set]
      omega
  | opened =>
      rw [List.length_append, List.length_singleton]
      omega

theorem Placed.node_lt {placement : Placement}
    (run : Placed capacity request 0 bins placement bins') : placement.node < bins'.length := by
  cases run with
  | reused k inside =>
      rw [List.length_set, Nat.zero_add]
      exact inside
  | opened =>
      rw [List.length_append, List.length_singleton, Nat.zero_add]
      exact Nat.lt_succ_self _

theorem Placed.inside {placement : Placement}
    (run : Placed capacity request 0 bins placement bins')
    (inside : ∀ p ∈ placed, p.1 < bins.length) :
    ∀ p ∈ placed ++ [(placement.node, request)], p.1 < bins'.length := by
  intro p member
  obtain earlier | last := List.mem_append.mp member
  · exact Nat.lt_of_lt_of_le (inside p earlier) run.length_le.2.1
  · rw [List.mem_singleton.mp last]
    exact run.node_lt

/-- What every placement preserves, of what has been placed and of the bins, holds after a
whole list of requests. -/
theorem placeAll_induction (Inv : List (Nat × Resources) → List Resources → Prop)
    (step : ∀ {placed bins request placement bins'}, request ∈ requests → Inv placed bins →
      Placed capacity request 0 bins placement bins' →
      Inv (placed ++ [(placement.node, request)]) bins')
    (start : Inv placed bins) :
    Inv (placed ++ ((placeAll capacity bins requests).1.map Placement.node).zip requests)
      (placeAll capacity bins requests).2 := by
  induction requests generalizing placed bins with
  | nil => simpa using start
  | cons request requests ih =>
      have first := step (List.mem_cons_self ..) start (place_placed capacity request 0 bins)
      have rest := ih (fun member => step (List.mem_cons_of_mem _ member)) first
      rw [List.append_assoc, List.singleton_append] at rest
      simpa only [placeAll, List.map_cons, List.zip_cons_cons] using rest

/-- Requests open at most one bin each, and bins are never closed. -/
theorem length_bins_le (capacity : Resources) (bins requests : List Resources) :
    bins.length ≤ (placeAll capacity bins requests).2.length ∧
      (placeAll capacity bins requests).2.length ≤ bins.length + requests.length := by
  induction requests generalizing bins with
  | nil => exact ⟨Nat.le_refl _, Nat.le_refl _⟩
  | cons request requests ih =>
      have first := (place_placed capacity request 0 bins).length_le
      have rest := ih (place capacity request 0 bins).2
      rw [List.length_cons, placeAll]
      dsimp only
      omega

theorem length_pack_le (node : Node) (pods : List Pod) :
    (pack node pods).2.length ≤ pods.length := by
  have atMost := (length_bins_le node.allocatable [] (pods.map Pod.requests)).2
  rwa [List.length_nil, Nat.zero_add, List.length_map] at atMost

/-- Fewer pods than a word can count open no more nodes than it can count. -/
theorem nodeCount_eq (node : Node) {pods : List Pod} (few : pods.length < word32) :
    (estimate node pods).nodeCount = (pack node pods).2.length :=
  Nat.mod_eq_of_lt (Nat.lt_of_le_of_lt (length_pack_le node pods) few)

theorem length_pack_pos (node : Node) {pods : List Pod} (some_pod : pods ≠ []) :
    0 < (pack node pods).2.length := by
  obtain ⟨pod, pods, rfl⟩ := List.exists_cons_of_ne_nil some_pod
  have first := (place_placed node.allocatable pod.requests 0 []).length_le
  exact Nat.lt_of_lt_of_le first.1 (length_bins_le _ _ (pods.map Pod.requests)).1

/-- Pods of which there are fewer than a word can count need at least one node, and no more
nodes than they are. This is so even if some of them fit no empty node. -/
theorem nodeCount_bounds (node : Node) {pods : List Pod} (few : pods.length < word32)
    (some_pod : pods ≠ []) :
    0 < (estimate node pods).nodeCount ∧ (estimate node pods).nodeCount ≤ pods.length := by
  rw [nodeCount_eq node few]
  exact ⟨length_pack_pos node some_pod, length_pack_le node pods⟩

/-! ## Exact sums -/

/-- The exact sum of the requests that were put onto one node. -/
def load (placed : List (Nat × Resources)) (node : Nat) : Resources :=
  Resources.sum ((placed.filter fun p => p.1 = node).map Prod.snd)

theorem load_append (placed placed' : List (Nat × Resources)) (node : Nat) :
    load (placed ++ placed') node = load placed node + load placed' node := by
  rw [load, List.filter_append, List.map_append, Resources.sum_append, load, load]

theorem load_singleton (p : Nat × Resources) (node : Nat) :
    load [p] node = if p.1 = node then p.2 else {} := by
  by_cases same : p.1 = node <;> simp [load, same]

theorem load_eq_empty {node : Nat} (elsewhere : ∀ p ∈ placed, p.1 ≠ node) :
    load placed node = {} := by
  have nothing : placed.filter (fun p => p.1 = node) = [] := by
    simpa [List.filter_eq_nil_iff] using elsewhere
  rw [load, nothing, List.map_nil, Resources.sum_nil]

theorem load_fits_of_mem {p : Nat × Resources} (member : p ∈ placed) :
    (load placed p.1).fits p.2 := by
  refine Resources.sum_fits_of_mem (List.mem_map_of_mem (List.mem_filter.mpr ⟨member, ?_⟩))
  exact decide_eq_true rfl

/-- What is left in the bins is exactly what the requests that were put into them leave of
the capacity. There is a request in every bin, and there are no other bins. -/
structure Packed (capacity : Resources) (placed : List (Nat × Resources))
    (bins : List Resources) : Prop where
  whole : ∀ node (inside : node < bins.length), bins[node] + load placed node = capacity
  inside : ∀ p ∈ placed, p.1 < bins.length
  used : ∀ node < bins.length, ∃ p ∈ placed, p.1 = node
  few : bins.length ≤ placed.length

theorem Packed.empty (capacity : Resources) : Packed capacity [] [] where
  whole _ inside := absurd inside (Nat.not_lt_zero _)
  inside := by simp
  used _ inside := absurd inside (Nat.not_lt_zero _)
  few := Nat.le_refl _

theorem Packed.load_fits (packed : Packed capacity placed bins) (node : Nat) :
    capacity.fits (load placed node) := by
  by_cases inside : node < bins.length
  · exact Resources.fits_of_add_eq (packed.whole node inside)
  · have elsewhere : ∀ p ∈ placed, p.1 ≠ node := by
      rintro p member rfl
      exact inside (packed.inside p member)
    rw [load_eq_empty elsewhere]
    exact Resources.fits_of_add_eq (Resources.add_empty capacity)

/-- One more request leaves the bins packed if it fits an empty bin. -/
theorem Packed.place {placement : Placement} (packed : Packed capacity placed bins)
    (room : capacity.fits request) (run : Placed capacity request 0 bins placement bins') :
    Packed capacity (placed ++ [(placement.node, request)]) bins' := by
  refine ⟨?whole, run.inside packed.inside, ?used, ?few⟩
  case whole =>
    cases run with
    | reused k inside fits _ =>
        -- Bin `k` gives up what the sum for it grows by, and the others stay as they are.
        intro node within
        rw [List.length_set] at within
        rw [List.getElem_set, load_append, load_singleton, Nat.zero_add]
        by_cases same : k = node
        · subst same
          rw [if_pos rfl, if_pos rfl, Resources.add_comm (load placed k), ← Resources.add_assoc,
            Resources.minus_add fits]
          exact packed.whole k inside
        · rw [if_neg same, if_neg same, Resources.add_empty]
          exact packed.whole node within
    | opened _ =>
        -- Nothing was put into the new bin before, since all earlier bins have smaller numbers.
        intro node within
        rw [List.length_append, List.length_singleton] at within
        rw [List.getElem_append, load_append, load_singleton, Nat.zero_add]
        split
        · next earlier =>
            rw [if_neg (Nat.ne_of_gt earlier), Resources.add_empty]
            exact packed.whole node earlier
        · next late =>
            have last : bins.length = node := by omega
            subst last
            rw [load_eq_empty fun p member => Nat.ne_of_lt (packed.inside p member), if_pos rfl,
              Resources.empty_add, List.getElem_singleton, Resources.minus_add room]
  case used =>
    intro node within
    by_cases earlier : node < bins.length
    · obtain ⟨p, member, there⟩ := packed.used node earlier
      exact ⟨p, List.mem_append_left _ member, there⟩
    · refine ⟨_, List.mem_append_right _ (List.mem_singleton_self _), ?_⟩
      cases run with
      | reused =>
          rw [List.length_set] at within
          exact absurd within earlier
      | opened =>
          rw [List.length_append, List.length_singleton] at within
          dsimp only
          omega
  case few =>
    have one := run.length_le.2.2
    have few := packed.few
    rw [List.length_append, List.length_singleton]
    omega

/-- Bins stay packed through a list of requests that all fit an empty bin. -/
theorem Packed.placeAll (packed : Packed capacity placed bins)
    (room : ∀ request ∈ requests, capacity.fits request) :
    Packed capacity
      (placed ++ ((placeAll capacity bins requests).1.map Placement.node).zip requests)
      (placeAll capacity bins requests).2 :=
  placeAll_induction (Packed capacity)
    (fun member packed run => packed.place (room _ member) run) packed

/-! ## Estimates -/

/-- Every pod is put onto one of so many nodes of one shape. None of the nodes is empty, and
the exact sum of what its pods request fits each of them. -/
structure Packs (node : Node) (pods : List Pod) (count : Nat) (assigned : List Nat) : Prop where
  complete : assigned.length = pods.length
  inside : ∀ k ∈ assigned, k < count
  used : ∀ k < count, k ∈ assigned
  room : ∀ k, node.allocatable.fits (load (assigned.zip (pods.map Pod.requests)) k)

theorem map_fst_zip_requests {assigned : List Nat} {pods : List Pod}
    (complete : assigned.length = pods.length) :
    (assigned.zip (pods.map Pod.requests)).map Prod.fst = assigned := by
  refine List.map_fst_zip (Nat.le_of_eq ?_)
  rw [List.length_map, complete]

theorem map_snd_zip_requests {assigned : List Nat} {pods : List Pod}
    (complete : assigned.length = pods.length) :
    (assigned.zip (pods.map Pod.requests)).map Prod.snd = pods.map Pod.requests := by
  refine List.map_snd_zip (Nat.le_of_eq ?_)
  rw [List.length_map, complete]

theorem estimate_packed {node : Node} {pods : List Pod}
    (room : ∀ pod ∈ pods, node.allocatable.fits pod.requests) :
    Packed node.allocatable ((estimate node pods).assignments.zip (pods.map Pod.requests))
      (pack node pods).2 := by
  have packed := (Packed.empty node.allocatable).placeAll (List.forall_mem_map.mpr room)
  rwa [List.nil_append] at packed

/-- Pods that all fit an empty node are packed by their assignments. -/
theorem estimate_packs {node : Node} {pods : List Pod} (few : pods.length < word32)
    (room : ∀ pod ∈ pods, node.allocatable.fits pod.requests) :
    Packs node pods (estimate node pods).nodeCount (estimate node pods).assignments := by
  have packed := estimate_packed room
  have complete := length_assignments node pods
  rw [nodeCount_eq node few]
  refine ⟨complete, ?_, ?_, fun k => packed.load_fits k⟩
  · intro k member
    rw [← map_fst_zip_requests complete] at member
    obtain ⟨p, paired, rfl⟩ := List.mem_map.mp member
    exact packed.inside p paired
  · intro k below
    obtain ⟨p, member, rfl⟩ := packed.used k below
    exact (List.of_mem_zip member).1

namespace Sample

/-- A machine with one core, four gibibytes and 110 slots. -/
def machine : Node where
  name := "sample"
  providerId := "aws://z/i-0"
  allocatable := ⟨1000, 4294967296, 110⟩

def pod (name : String) (cpuMillis memoryBytes : Nat) : Pod where
  scope := "default"
  name := name
  asked := { cpuMillis, memoryBytes }

end Sample

end Packing

end Autoscaler
