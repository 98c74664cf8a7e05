import Autoscaler.Proofs.Packing.FirstFit

/-!
# The sum of all requests

The sum grows pod by pod, and on each dimension it stops as soon as it reaches the largest
word. It never leaves that word again, so it is the exact sum of all requests, clamped once at
the end. No overflow is excluded here. That the order of the pods does not matter, nor where a
list of them is divided, is a fact about exact sums and need not be proved of the words.
-/

namespace Autoscaler.Packing

variable {pods pods' : List Pod}

/-- What is added up from a clamped start is the exact sum from there, clamped. -/
theorem foldl_plus_requests (start : Resources) (pods : List Pod) :
    pods.foldl (fun sum pod => sum.plus pod.requests) start.clamped =
      (start + Resources.sum (pods.map Pod.requests)).clamped := by
  induction pods generalizing start with
  | nil => rw [List.foldl_nil, List.map_nil, Resources.sum_nil, Resources.add_empty]
  | cons pod pods ih =>
      rw [List.foldl_cons, Resources.plus_eq_clamped, Resources.clamped_add_left, ih,
        List.map_cons, Resources.sum_cons, Resources.add_assoc]

theorem total_eq_clamped (pods : List Pod) :
    total pods = (Resources.sum (pods.map Pod.requests)).clamped := by
  have run := foldl_plus_requests {} pods
  rwa [Resources.clamped_empty, Resources.empty_add] at run

/-- The pods ask for one slot each, whatever is written for them, and for the processor time
and memory that is written. -/
theorem sum_requests (pods : List Pod) :
    Resources.sum (pods.map Pod.requests) =
      { Resources.sum (pods.map Pod.asked) with pods := pods.length } := by
  induction pods with
  | nil => rfl
  | cons pod pods ih =>
      rw [List.map_cons, Resources.sum_cons, ih, List.map_cons, Resources.sum_cons,
        List.length_cons]
      ext
      · rfl
      · rfl
      · exact Nat.add_comm 1 pods.length

theorem total_perm (same : pods.Perm pods') : total pods = total pods' := by
  rw [total_eq_clamped, total_eq_clamped, Resources.sum_perm (same.map Pod.requests)]

theorem total_append (pods pods' : List Pod) :
    total (pods ++ pods') = (total pods).plus (total pods') := by
  rw [total_eq_clamped, total_eq_clamped, total_eq_clamped, Resources.clamped_plus_clamped,
    List.map_append, Resources.sum_append]

/-- On each dimension the total is the exact sum or the largest word, whichever is smaller, with
one slot for each pod. Any order of the pods has the same total, and two lists together have
the clamped sum of both totals. -/
theorem total_clampedSum (pods : List Pod) :
    (total pods).cpuMillis =
        min (Resources.sum (pods.map Pod.asked)).cpuMillis (word64 - 1) ∧
      (total pods).memoryBytes =
        min (Resources.sum (pods.map Pod.asked)).memoryBytes (word64 - 1) ∧
      (total pods).pods = min pods.length (word32 - 1) ∧
      (∀ pods', pods'.Perm pods → total pods' = total pods) ∧
      ∀ pods', total (pods ++ pods') = (total pods).plus (total pods') := by
  have exactly := total_eq_clamped pods
  rw [sum_requests] at exactly
  exact ⟨congrArg Resources.cpuMillis exactly, congrArg Resources.memoryBytes exactly,
    congrArg Resources.pods exactly, fun _ same => total_perm same, total_append pods⟩

/-- Pods whose memory together exceeds the largest word by two. Nine slots are written for one
of them. -/
def Sample.heavy : List Pod :=
  [Sample.pod "a" 300 word63, Sample.pod "b" 200 word63,
    { Sample.pod "c" 100 1 with asked := ⟨100, 1, 9⟩ }]

theorem total_clampedSum_heavy :
    total Sample.heavy = ⟨600, word64 - 1, 3⟩ ∧
      Sample.heavy.reverse.Perm Sample.heavy ∧
      total Sample.heavy.reverse = total Sample.heavy := by
  obtain ⟨cpu, memory, slots, reordered, -⟩ := total_clampedSum Sample.heavy
  have reversed := List.reverse_perm Sample.heavy
  refine ⟨?_, reversed, reordered _ reversed⟩
  ext
  · exact cpu
  · exact memory
  · exact slots

end Autoscaler.Packing
