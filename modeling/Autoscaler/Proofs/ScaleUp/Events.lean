import Autoscaler.Proofs.ScaleUp.Phases

/-!
# What pods are told

Whatever calls fail in a cycle, its events agree with its outcome: an error tells no pod, a
resize tells the pods of its report what the report says, and a cycle without a decision tells
the pods that it lists. It lists all of them or none, by whether the survey has read a size that
leaves room: what some candidate refuses is collected over all candidates, and a candidate that
refuses no pod would have been picked.
-/

namespace Autoscaler

namespace Sample

/-- A pod that neither machine has the processor time for. -/
def huge : Pod where
  scope := "d"
  name := "h"
  asked := { cpuMillis := 5000 }

theorem runOnce_huge : (((engine .increment).runOnce [huge] nodes).runOn session).1 =
    .ok (.noDecision ["d/h"]) := by rfl

end Sample

namespace Engine

variable {e : Engine} {pods : List Pod} {nodes : List Node} {s t : Session} {w : World}
  {growing : List Candidate}

/-- The events of a cycle fit its outcome. -/
def Tells (e : Engine) (pods : List Pod) (nodes : List Node) (s : Session) :
    Except CycleError Outcome → Session → Prop
  | .error _, t => t.events = s.events
  | .ok (.scaledUp report), t =>
      t.events = s.events ++ report.pods.map fun key =>
        .triggered key report.group report.priorSize report.newSize
  | .ok (.noDecision keys), t =>
      t.events = s.events ++ keys.map .notTriggered ∧
        keys = if e.roomy nodes s.world = [] then [] else pods.map Pod.key

/-- If no candidate helps a pod, then some candidate refuses each pod as soon as there is one. -/
theorem unhelped_eq (useless : ∀ c ∈ growing, helped e.checker pods c = []) :
    unhelped e.checker growing pods = if growing = [] then [] else pods.map Pod.key := by
  cases growing with
  | nil => simp [unhelped, refused]
  | cons c growing =>
      rw [if_neg (List.cons_ne_nil _ _), unhelped, List.filter_eq_self]
      intro key told
      obtain ⟨pod, member, rfl⟩ := List.mem_map.mp told
      have fails : ¬ helps e.checker c pod := by
        intro fits
        have nobody := useless c List.mem_cons_self
        rw [helped, List.filter_eq_nil_iff] at nobody
        exact nobody pod member fits
      have among : pod ∈ pods.filter fun pod => !helps e.checker c pod :=
        List.mem_filter.mpr ⟨member, by simpa using fails⟩
      apply decide_eq_true
      exact List.mem_flatMap.mpr ⟨c, List.mem_cons_self, List.mem_map_of_mem among⟩

theorem Expansion.tells {o : ExpansionOption} {r : Except CycleError Outcome}
    (expansion : Expansion e.mode o { s with world := w } r t) : Tells e pods nodes s r t := by
  cases expansion with
  | unread => exact rfl
  | failed => exact rfl
  | done => exact rfl

/-- Each pod is told what the outcome says of it, and an error tells none. -/
theorem runOnce_tells (e : Engine) (pods : List Pod) (nodes : List Node) (s : Session) :
    Tells e pods nodes s ((e.runOnce pods nodes).runOn s).1 ((e.runOnce pods nodes).runOn s).2 := by
  rcases run : (e.runOnce pods nodes).runOn s with ⟨r, t⟩
  cases runOnce_phases run with
  | idle no_pods =>
      constructor
      · exact (List.append_nil _).symm
      · rw [no_pods, List.map_nil, ite_self]
  | undiscovered => exact rfl
  | undecided some_pod found w w' discovered surveyed unpicked =>
      constructor
      · rfl
      · exact unhelped_eq (helped_of_unpicked unpicked)
  | expanded some_pod found w w' discovered surveyed c picked r t ended =>
      exact (expand_expansion ended).tells

/-- The pods of a report are told of its sizes, and a pod that is too large for either machine is
told that there is no help. -/
theorem runOnce_tells_sample :
    (Sample.after .increment).events =
        [.triggered "d/p" "z/b" 2 3, .triggered "d/q" "z/b" 2 3] ∧
      (((Sample.engine .increment).runOnce [Sample.huge] Sample.nodes).runOn
        Sample.session).2.events = [.notTriggered "d/h"] := by
  constructor
  · have told := runOnce_tells (Sample.engine .increment) Sample.pods Sample.nodes Sample.session
    rw [Sample.runOnce_increment] at told
    exact told
  · have told := runOnce_tells (Sample.engine .increment) [Sample.huge] Sample.nodes Sample.session
    rw [Sample.runOnce_huge] at told
    exact told.1

end Engine

end Autoscaler
