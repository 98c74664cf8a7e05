import Autoscaler.Proofs.Packing.FirstFit

/-!
# Pods larger than an empty node

A pod that fits no empty node fits none of the open ones, so a node is opened for it. What is
left there stops at zero on the dimensions that the pod exceeds, but the others keep what the
pod leaves of them, and the node is not closed. So the pod shares its node exactly with those
later pods for which first fit finds room in what is left, and these ask for nothing on any
dimension that the pod exceeds or uses up.
-/

namespace Autoscaler.Packing

variable {capacity request : Resources} {bins bins' requests : List Resources}
  {placed : List (Nat × Resources)} {node : Node} {pod : Pod} {pods : List Pod}

/-! ## Requests of any size -/

/-- No bin has more left than an empty one, and nothing was put anywhere else. -/
structure Within (capacity : Resources) (placed : List (Nat × Resources))
    (bins : List Resources) : Prop where
  inside : ∀ p ∈ placed, p.1 < bins.length
  bounded : ∀ bin ∈ bins, capacity.fits bin

theorem Within.place {placement : Placement} (within : Within capacity placed bins)
    (run : Placed capacity request 0 bins placement bins') :
    Within capacity (placed ++ [(placement.node, request)]) bins' := by
  refine ⟨run.inside within.inside, ?_⟩
  intro bin member
  cases run with
  | reused k inside =>
      obtain same | rfl := List.mem_or_eq_of_mem_set member
      · exact within.bounded bin same
      · exact Resources.fits_trans (within.bounded _ (List.getElem_mem inside))
          (Resources.fits_minus _ request)
  | opened =>
      obtain earlier | last := List.mem_append.mp member
      · exact within.bounded bin earlier
      · rw [List.mem_singleton.mp last]
        exact Resources.fits_minus capacity request

theorem placeAll_within (capacity : Resources) (requests : List Resources) :
    Within capacity (((placeAll capacity [] requests).1.map Placement.node).zip requests)
      (placeAll capacity [] requests).2 := by
  have start : Within capacity [] [] := ⟨by simp, by simp⟩
  exact placeAll_induction (Within capacity) (fun _ within step => within.place step) start

/-- What has been put into a bin and what is left in it make up what was left before. This is
so for requests of any size, since one that does not fit is put into a new bin. -/
theorem placeAll_left (capacity : Resources) (requests : List Resources) {n : Nat}
    {free : Resources} (there : bins[n]? = some free) :
    ∃ left, (placeAll capacity bins requests).2[n]? = some left ∧
      left + load (((placeAll capacity bins requests).1.map Placement.node).zip requests) n =
        free := by
  have start : ∃ left, bins[n]? = some left ∧ left + load [] n = free := ⟨free, there, rfl⟩
  refine placeAll_induction
    (fun placed bins => ∃ left, bins[n]? = some left ∧ left + load placed n = free) ?_ start
  intro placed bins request placement bins' _ ⟨left, there, whole⟩ step
  obtain ⟨inside, here⟩ := List.getElem?_eq_some_iff.mp there
  rw [load_append, load_singleton]
  cases step with
  | reused k inside' room =>
      rw [Nat.zero_add, List.getElem?_set]
      by_cases same : k = n
      · subst same
        refine ⟨bins[k].minus request, by rw [if_pos rfl, if_pos inside], ?_⟩
        rw [if_pos rfl, Resources.add_comm (load placed k), ← Resources.add_assoc,
          Resources.minus_add room, here]
        exact whole
      · refine ⟨left, by rw [if_neg same]; exact there, ?_⟩
        rw [if_neg same, Resources.add_empty]
        exact whole
  | opened =>
      refine ⟨left, by rw [List.getElem?_append_left inside]; exact there, ?_⟩
      rw [Nat.zero_add, if_neg (Nat.ne_of_gt inside), Resources.add_empty]
      exact whole

theorem placeAll_append (capacity : Resources) (bins requests requests' : List Resources) :
    (placeAll capacity bins (requests ++ requests')).1 =
      (placeAll capacity bins requests).1 ++
        (placeAll capacity (placeAll capacity bins requests).2 requests').1 := by
  induction requests generalizing bins with
  | nil => rfl
  | cons request requests ih => simp only [List.cons_append, placeAll, ih]

theorem place_full {start : Nat} (full : ∀ bin ∈ bins, ¬ bin.fits request) :
    place capacity request start bins =
      (⟨start + bins.length, true, capacity.minus request⟩,
        bins ++ [capacity.minus request]) := by
  have run := place_placed capacity request start bins
  generalize place capacity request start bins = result at run
  obtain ⟨placement, bins'⟩ := result
  cases run with
  | reused k inside room => exact absurd room (full _ (List.getElem_mem inside))
  | opened => rfl

/-! ## The node of an oversized pod -/

/-- Whatever stands before it, a request that fits no empty node opens one, and the packing
goes on with what the request leaves there. -/
theorem placeAll_around (requests requests' : List Resources) (large : ¬ capacity.fits request) :
    (placeAll capacity [] (requests ++ request :: requests')).1 =
      (placeAll capacity [] requests).1 ++
        ⟨(placeAll capacity [] requests).2.length, true, capacity.minus request⟩ ::
          (placeAll capacity ((placeAll capacity [] requests).2 ++ [capacity.minus request])
            requests').1 := by
  have full : ∀ bin ∈ (placeAll capacity [] requests).2, ¬ bin.fits request :=
    fun bin member fits =>
      large (Resources.fits_trans ((placeAll_within capacity requests).bounded bin member) fits)
  rw [placeAll_append]
  simp only [placeAll, place_full full, Nat.zero_add]

/-- Before a pod that fits no empty node there is nothing on its node, and what comes behind it
there fits, in exact sums, what it leaves of an empty node. -/
theorem estimate_oversized (before after : List Pod)
    (large : ¬ node.allocatable.fits pod.requests) :
    ∃ nodes k nodes',
      (estimate node (before ++ pod :: after)).assignments = nodes ++ k :: nodes' ∧
      nodes.length = before.length ∧ nodes'.length = after.length ∧ k ∉ nodes ∧
      (node.allocatable.minus pod.requests).fits
        (load (nodes'.zip (after.map Pod.requests)) k) := by
  let first := placeAll node.allocatable [] (before.map Pod.requests)
  let left := node.allocatable.minus pod.requests
  let rest := placeAll node.allocatable (first.2 ++ [left]) (after.map Pod.requests)
  have split : (estimate node (before ++ pod :: after)).assignments =
      first.1.map Placement.node ++ first.2.length :: rest.1.map Placement.node := by
    show (placeAll node.allocatable [] ((before ++ pod :: after).map Pod.requests)).1.map
      Placement.node = _
    rw [List.map_append, List.map_cons, placeAll_around _ _ large, List.map_append, List.map_cons]
  have length : (first.1.map Placement.node).length = before.length := by
    rw [List.length_map, length_placeAll, List.length_map]
  refine ⟨_, _, _, split, length, ?_, ?_, ?_⟩
  · rw [List.length_map, length_placeAll, List.length_map]
  · intro member
    have aligned : (first.1.map Placement.node).length = (before.map Pod.requests).length := by
      rw [length, List.length_map]
    rw [← List.map_fst_zip (Nat.le_of_eq aligned)] at member
    obtain ⟨p, paired, here⟩ := List.mem_map.mp member
    have within := placeAll_within node.allocatable (before.map Pod.requests)
    exact Nat.ne_of_lt (within.inside p paired) here
  · have there : (first.2 ++ [left])[first.2.length]? = some left :=
      List.getElem?_concat_length
    obtain ⟨_, -, whole⟩ := placeAll_left node.allocatable (after.map Pod.requests) there
    exact Resources.fits_of_add_eq whole

/-- A pod that fits no empty node shares its node only with later pods, and only with such as
ask for nothing on every dimension that it exceeds or uses up. -/
theorem oversized_companion {i j : Nat} (inside : i < pods.length) (inside' : j < pods.length)
    (large : ¬ node.allocatable.fits pods[i].requests) (other : j ≠ i)
    (shared : (estimate node pods).assignments[j]? = (estimate node pods).assignments[i]?) :
    i < j ∧ ∀ d, node.allocatable.along d ≤ pods[i].requests.along d →
      pods[j].requests.along d = 0 := by
  have split : pods.take i ++ pods[i] :: pods.drop (i + 1) = pods := by
    rw [List.getElem_cons_drop, List.take_append_drop]
  obtain ⟨nodes, k, nodes', assigned, length, -, alone, fits⟩ :=
    estimate_oversized (pods.take i) (pods.drop (i + 1)) large
  rw [List.length_take_of_le (Nat.le_of_lt inside)] at length
  rw [split] at assigned
  have here : (estimate node pods).assignments[i]? = some k := by
    rw [assigned, List.getElem?_append_right (Nat.le_of_eq length), length, Nat.sub_self]
    rfl
  rw [here, assigned] at shared
  obtain earlier | later := Nat.lt_or_gt_of_ne other
  · rw [List.getElem?_append_left (by omega)] at shared
    exact absurd (List.mem_of_getElem? shared) alone
  · refine ⟨later, fun d full => ?_⟩
    obtain ⟨n, rfl⟩ := Nat.exists_eq_add_of_lt later
    have behind : nodes'[n]? = some k := by
      have offset : i + n + 1 - nodes.length = n + 1 := by omega
      rwa [List.getElem?_append_right (by omega), offset, List.getElem?_cons_succ] at shared
    have asked : ((pods.drop (i + 1)).map Pod.requests)[n]? = some pods[i + n + 1].requests := by
      have offset : i + 1 + n = i + n + 1 := by omega
      rw [List.getElem?_map, List.getElem?_drop, offset, List.getElem?_eq_getElem inside',
        Option.map_some]
    have member : (k, pods[i + n + 1].requests) ∈
        nodes'.zip ((pods.drop (i + 1)).map Pod.requests) :=
      List.mem_of_getElem? (List.getElem?_zip_eq_some.mpr ⟨behind, asked⟩)
    have room : (node.allocatable.minus pods[i].requests).fits pods[i + n + 1].requests :=
      Resources.fits_trans fits (load_fits_of_mem member)
    have none := Resources.fits_iff_along.mp room d
    rw [Resources.along_minus] at none
    omega

/-- A pod with five times the processor time of a machine, and one that asks for none. -/
def Sample.uneven : List Pod :=
  [Sample.pod "huge" 5000 1073741824, Sample.pod "idle" 0 1073741824]

theorem oversized_companion_idle :
    0 < 1 ∧ ∀ d, Sample.machine.allocatable.along d ≤ Sample.uneven[0].requests.along d →
      Sample.uneven[1].requests.along d = 0 :=
  oversized_companion (i := 0) (j := 1)
    (by decide) (by decide) (by decide) (by decide) (by decide)

/-- The node that was opened for an oversized pod is not its own: another pod is put there. -/
theorem oversized_shares_node :
    ¬ Sample.machine.allocatable.fits Sample.uneven[0].requests ∧
      (estimate Sample.machine Sample.uneven).assignments = [0, 0] ∧
      (estimate Sample.machine Sample.uneven).nodeCount = 1 := by
  decide

end Autoscaler.Packing
