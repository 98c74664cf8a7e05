import Autoscaler.Fit
import Autoscaler.Proofs.Resources

/-!
# When a pod fits a node

A pod fits if and only if the node has every wanted label with the wanted value and has room
for the request on every dimension. In which order the wanted labels are looked at decides at
most which of several wrong labels is reported: whether the pod fits does not depend on it, nor
does it whether a label or a dimension is to blame. A node with more labels and more resources
takes every pod that the node takes.
-/

namespace Autoscaler.Fit

variable {pod : Pod} {node node' : Node} {misfit : Misfit}

/-- The node has every label that the pod's selector asks for. -/
def Selects (pod : Pod) (node : Node) : Prop :=
  ∀ wanted ∈ pod.selector.entries, node.labels.find? wanted.1 = some wanted.2

theorem labelMisfit?_eq_none_iff {labels : Labels} {wanted : String × String} :
    labelMisfit? labels wanted = none ↔ labels.find? wanted.1 = some wanted.2 := by
  rw [labelMisfit?]
  cases labels.find? wanted.1 with
  | none => simp
  | some value => simp

theorem misfits_eq_nil_iff :
    misfits pod node = [] ↔ Selects pod node ∧ node.allocatable.fits pod.requests := by
  have labels : pod.selector.entries.filterMap (labelMisfit? node.labels) = [] ↔
      Selects pod node := by
    simp only [List.filterMap_eq_nil_iff, labelMisfit?_eq_none_iff, Selects]
  rw [misfits]
  split
  · next right =>
      rw [Option.toList_eq_nil_iff, resourceMisfit?_eq_none_iff]
      exact ⟨fun fits => ⟨labels.mp right, fits⟩, fun fits => fits.2⟩
  · next wrong =>
      exact ⟨fun none => absurd none wrong, fun fits => absurd (labels.mpr fits.1) wrong⟩

theorem check_isOk_iff :
    (check pod node).isOk ↔ Selects pod node ∧ node.allocatable.fits pod.requests := by
  rw [← misfits_eq_nil_iff, check]
  cases misfits pod node with
  | nil => simp [Except.isOk, Except.toBool]
  | cons misfit rest => simp [Except.isOk, Except.toBool]

/-! ## Any order of labels -/

/-- Looks at wanted labels in the given order, then at resources, and stops at the first misfit. -/
def judge (pod : Pod) (node : Node) : List (String × String) → Except Misfit Unit
  | [] =>
      match resourceMisfit? node.allocatable pod.requests with
      | none => .ok ()
      | some misfit => .error misfit
  | wanted :: order =>
      match labelMisfit? node.labels wanted with
      | none => judge pod node order
      | some misfit => .error misfit

section Steps

variable {wanted : String × String} {order : List (String × String)}

theorem judge_right (right : labelMisfit? node.labels wanted = none) :
    judge pod node (wanted :: order) = judge pod node order := by
  rw [judge, right]

theorem judge_wrong (wrong : labelMisfit? node.labels wanted = some misfit) :
    judge pod node (wanted :: order) = .error misfit := by
  rw [judge, wrong]

end Steps

/-- What a misfit tells of a pod and a node. A dimension is to blame only if no label is, and only
if there is room on the dimensions before it. -/
inductive Explains (pod : Pod) (node : Node) : Misfit → Prop where
  | labelDiffers {key wanted value : String} (asked : (key, wanted) ∈ pod.selector.entries)
      (there : node.labels.find? key = some value) (differs : value ≠ wanted) :
      Explains pod node (.labelDiffers key wanted value)
  | labelMissing {key wanted : String} (asked : (key, wanted) ∈ pod.selector.entries)
      (absent : node.labels.find? key = none) : Explains pod node (.labelMissing key wanted)
  | cpu (selects : Selects pod node)
      (short : node.allocatable.cpuMillis < pod.requests.cpuMillis) :
      Explains pod node (.cpu pod.requests.cpuMillis node.allocatable.cpuMillis)
  | memory (selects : Selects pod node)
      (cpu : pod.requests.cpuMillis ≤ node.allocatable.cpuMillis)
      (short : node.allocatable.memoryBytes < pod.requests.memoryBytes) :
      Explains pod node (.memory pod.requests.memoryBytes node.allocatable.memoryBytes)
  | slots (selects : Selects pod node)
      (cpu : pod.requests.cpuMillis ≤ node.allocatable.cpuMillis)
      (memory : pod.requests.memoryBytes ≤ node.allocatable.memoryBytes)
      (short : node.allocatable.pods < pod.requests.pods) : Explains pod node .slots

theorem explains_of_labelMisfit? {wanted : String × String}
    (asked : wanted ∈ pod.selector.entries)
    (wrong : labelMisfit? node.labels wanted = some misfit) : Explains pod node misfit := by
  rw [labelMisfit?] at wrong
  split at wrong
  · next value there =>
      split at wrong
      · cases wrong
      · next differs =>
          cases wrong
          exact .labelDiffers asked there differs
  · next absent =>
      cases wrong
      exact .labelMissing asked absent

theorem explains_of_resourceMisfit? (selects : Selects pod node)
    (short : resourceMisfit? node.allocatable pod.requests = some misfit) :
    Explains pod node misfit := by
  rw [resourceMisfit?] at short
  split at short
  · next less =>
      cases short
      exact .cpu selects less
  · next cpu =>
      split at short
      · next less =>
          cases short
          exact .memory selects (Nat.le_of_not_lt cpu) less
      · next memory =>
          split at short
          · next less =>
              cases short
              exact .slots selects (Nat.le_of_not_lt cpu) (Nat.le_of_not_lt memory) less
          · cases short

theorem judge_eq_ok_iff {order : List (String × String)} :
    judge pod node order = .ok () ↔
      (∀ wanted ∈ order, node.labels.find? wanted.1 = some wanted.2) ∧
        node.allocatable.fits pod.requests := by
  induction order with
  | nil =>
      rw [← resourceMisfit?_eq_none_iff, judge]
      cases resourceMisfit? node.allocatable pod.requests <;> simp
  | cons wanted order ih =>
      rw [List.forall_mem_cons, ← labelMisfit?_eq_none_iff, and_assoc, ← ih]
      cases found : labelMisfit? node.labels wanted with
      | none => simp [judge_right found]
      | some misfit => simp [judge_wrong found]

/-- A misfit is that of a wrong label, or of resources behind labels that are all right. -/
theorem judge_error_cases {order : List (String × String)}
    (failed : judge pod node order = .error misfit) :
    (∃ wanted ∈ order, labelMisfit? node.labels wanted = some misfit) ∨
      (∀ wanted ∈ order, labelMisfit? node.labels wanted = none) ∧
        resourceMisfit? node.allocatable pod.requests = some misfit := by
  induction order with
  | nil =>
      rw [judge] at failed
      split at failed
      · cases failed
      · next short =>
          cases failed
          exact .inr ⟨by simp, short⟩
  | cons wanted order ih =>
      cases found : labelMisfit? node.labels wanted with
      | none =>
          rw [judge_right found] at failed
          obtain ⟨other, member, wrong⟩ | ⟨others, short⟩ := ih failed
          · exact .inl ⟨other, List.mem_cons_of_mem _ member, wrong⟩
          · exact .inr ⟨List.forall_mem_cons.mpr ⟨found, others⟩, short⟩
      | some wrong =>
          rw [judge_wrong found] at failed
          cases failed
          exact .inl ⟨wanted, List.mem_cons_self, found⟩

/-- Only wrong labels count before the resources do. -/
theorem judge_eq (pod : Pod) (node : Node) (order : List (String × String)) :
    judge pod node order =
      match order.filterMap (labelMisfit? node.labels) with
      | [] => judge pod node []
      | misfit :: _ => .error misfit := by
  induction order with
  | nil => rfl
  | cons wanted order ih =>
      cases found : labelMisfit? node.labels wanted with
      | none => rw [judge_right found, List.filterMap_cons_none found, ih]
      | some misfit => rw [judge_wrong found, List.filterMap_cons_some found]

theorem mem_misfits_iff : misfit ∈ misfits pod node ↔
    (∃ wanted ∈ pod.selector.entries, labelMisfit? node.labels wanted = some misfit) ∨
      (∀ wanted ∈ pod.selector.entries, labelMisfit? node.labels wanted = none) ∧
        resourceMisfit? node.allocatable pod.requests = some misfit := by
  rw [misfits]
  split
  · next right =>
      rw [List.filterMap_eq_nil_iff] at right
      rw [Option.mem_toList]
      constructor
      · exact fun short => .inr ⟨right, short⟩
      · rintro (⟨wanted, asked, wrong⟩ | ⟨-, short⟩)
        · rw [right wanted asked] at wrong
          cases wrong
        · exact short
  · next wrong =>
      rw [List.mem_filterMap]
      constructor
      · exact .inl
      · rintro (found | ⟨right, -⟩)
        · exact found
        · exact absurd (List.filterMap_eq_nil_iff.mpr right) wrong

/-- The misfits of a pod are those that are reported in one order or another. -/
theorem mem_misfits_iff_judge : misfit ∈ misfits pod node ↔
    ∃ order, order.Perm pod.selector.entries ∧ judge pod node order = .error misfit := by
  rw [mem_misfits_iff]
  constructor
  · rintro (⟨wanted, asked, wrong⟩ | ⟨right, short⟩)
    · -- An order that begins with the wrong label.
      obtain ⟨before, after, split⟩ := List.append_of_mem asked
      exact ⟨wanted :: (before ++ after), split ▸ List.perm_middle.symm, judge_wrong wrong⟩
    · refine ⟨pod.selector.entries, .refl _, ?_⟩
      rw [judge_eq, List.filterMap_eq_nil_iff.mpr right, judge, short]
  · rintro ⟨order, perm, failed⟩
    obtain ⟨wanted, asked, wrong⟩ | ⟨right, short⟩ := judge_error_cases failed
    · exact .inl ⟨wanted, perm.mem_iff.mp asked, wrong⟩
    · exact .inr ⟨fun wanted asked => right wanted (perm.mem_iff.mpr asked), short⟩

theorem explains_of_mem_misfits (member : misfit ∈ misfits pod node) :
    Explains pod node misfit := by
  obtain ⟨wanted, asked, wrong⟩ | ⟨right, short⟩ := mem_misfits_iff.mp member
  · exact explains_of_labelMisfit? asked wrong
  · exact explains_of_resourceMisfit?
      (fun wanted asked => labelMisfit?_eq_none_iff.mp (right wanted asked)) short

/-- The order of the selector's entries is one of the orders. -/
theorem check_eq_judge (pod : Pod) (node : Node) :
    check pod node = judge pod node pod.selector.entries := by
  rw [judge_eq, check, misfits]
  cases pod.selector.entries.filterMap (labelMisfit? node.labels) with
  | nil =>
      rw [judge]
      cases resourceMisfit? node.allocatable pod.requests <;> rfl
  | cons misfit rest => rfl

theorem check_eq_ok_iff :
    check pod node = .ok () ↔ Selects pod node ∧ node.allocatable.fits pod.requests := by
  rw [check_eq_judge, judge_eq_ok_iff]
  rfl

/-- A node with every label of another one, of the same value, and no less of any resource takes
every pod that the other one takes. -/
theorem check_mono
    (labels : ∀ key value, node.labels.find? key = some value → node'.labels.find? key = some value)
    (resources : node'.allocatable.fits node.allocatable) (fits : check pod node = .ok ()) :
    check pod node' = .ok () := by
  obtain ⟨selects, room⟩ := check_eq_ok_iff.mp fits
  refine check_eq_ok_iff.mpr ⟨?_, Resources.fits_trans resources room⟩
  intro wanted asked
  exact labels wanted.1 wanted.2 (selects wanted asked)

/-- A pod is taken if and only if the node has its labels and room for it, in whatever order the
labels are looked at. Otherwise the misfits are the reasons that some order reports. They blame
labels if one is wrong, and else the first dimension without room. More labels and more resources
never make a node refuse. -/
theorem check_exact (pod : Pod) (node : Node) :
    (check pod node = .ok () ↔ Selects pod node ∧ node.allocatable.fits pod.requests) ∧
    check pod node = judge pod node pod.selector.entries ∧
    (∀ order, order.Perm pod.selector.entries →
      (judge pod node order = .ok () ↔ check pod node = .ok ()) ∧
      ∀ misfit, judge pod node order = .error misfit → Explains pod node misfit) ∧
    (∀ misfit, misfit ∈ misfits pod node ↔
      ∃ order, order.Perm pod.selector.entries ∧ judge pod node order = .error misfit) ∧
    ∀ node', (∀ key value, node.labels.find? key = some value →
        node'.labels.find? key = some value) →
      node'.allocatable.fits node.allocatable →
      check pod node = .ok () → check pod node' = .ok () := by
  refine ⟨check_eq_ok_iff, check_eq_judge pod node, ?_, fun misfit => mem_misfits_iff_judge,
    fun node' labels resources => check_mono labels resources⟩
  intro order perm
  constructor
  · rw [check_eq_judge, judge_eq_ok_iff, judge_eq_ok_iff]
    simp only [perm.mem_iff]
  · intro misfit failed
    exact explains_of_mem_misfits (mem_misfits_iff_judge.mpr ⟨order, perm, failed⟩)

end Autoscaler.Fit
