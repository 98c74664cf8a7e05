import Autoscaler.ScaleUp.Cycle

/-!
# Repeated cycles

A cluster is observed before each cycle. Cycles run one after the other: the next one
starts an interval after the last one ended, and one that fails does not stop the rest.
-/

namespace Autoscaler

/-- An attempt to observe a cluster. -/
structure Observation where
  pods : Except Failure (List Pod)
  nodes : Except Failure (List Node)

namespace Observation

/-- An observation that succeeds. -/
def ofView (view : ClusterView) : Observation := ⟨.ok view.pods, .ok view.nodes⟩

end Observation

namespace Engine

/-- One cycle for an observed cluster. -/
def poll (e : Engine) (seen : Observation) : Action Failure Session Outcome := do
  let pods ← .ofExcept (seen.pods.mapError (.within "listing unschedulable pods"))
  let nodes ← .ofExcept (seen.nodes.mapError (.within "listing nodes"))
  (e.runOnce pods nodes).mapError CycleError.failure

/-- Runs cycles until `stop`. The time is `now`, and a cycle takes as long as it waits for
operations. -/
def cycles (e : Engine) (seen : Observation) (interval stop : Duration) :
    (budget : Nat) → (now : Duration) → Session → Session
  | 0, _, s => s
  | budget + 1, now, s =>
      let start := now + interval
      if start < stop then
        let after := ((e.poll seen).runOn s).2
        let spent : Duration := ⟨after.world.waited.nanos - s.world.waited.nanos⟩
        cycles e seen interval stop budget (start + spent) after
      else s

/-- Runs cycles for a span of time; the first starts after one interval. -/
def runFor (e : Engine) (seen : Observation) (interval span : Duration) (s : Session) :
    Session :=
  cycles e seen interval span (span.nanos / interval.nanos + 1) .zero s

end Engine

end Autoscaler
