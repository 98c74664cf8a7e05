import Autoscaler.Proofs.Cloud.Parallel
import Autoscaler.ScaleUp.Cycle

/-!
# Two cycles side by side

A cycle surveys the groups and concludes from the candidates that can grow. To compare two cycles,
their surveys are compared as actions on worlds and the rest as actions on sessions, where the
events that both have recorded may be related as well.
-/

namespace Autoscaler.Engine

open Autoscaler.Action (Parallel)

variable {ε δ α β : Type} {R : World → World → Prop} {T : List Event → List Event → Prop}
  {E : ε → δ → Prop} {V : α → β → Prop} {act : Action ε World α} {act' : Action δ World β}

/-- The worlds are related, and so are the events that were recorded. -/
structure Beside (R : World → World → Prop) (T : List Event → List Event → Prop)
    (s t : Session) : Prop where
  world : R s.world t.world
  events : T s.events t.events

theorem parallel_inWorld (parallel : Parallel R E V act act') :
    Parallel (Beside R T) E V (inWorld act) (inWorld act') :=
  .zoom parallel (fun _ _ beside => beside.world) fun _ _ _ _ beside related =>
    ⟨related, beside.events⟩

theorem parallel_tell {events events' : List Event}
    (told : ∀ before before', T before before' → T (before ++ events) (before' ++ events')) :
    Parallel (Beside R T) E Eq (tell events : Action ε Session Unit)
      (tell events' : Action δ Session Unit) :=
  .modify fun _ _ beside => ⟨beside.world, told _ _ beside.events⟩

/-- What a cycle does with the candidates that can grow. -/
def conclude (e : Engine) (pods : List Pod) (growing : List Candidate) :
    Action CycleError Session Outcome :=
  match e.strategy.choose? (fun o => o.pods.length) (options e.checker growing pods) with
  | some o => expand e.mode o
  | none => do
      let keys := unhelped e.checker growing pods
      tell (keys.map .notTriggered)
      return .noDecision keys

theorem runOnce_eq (e : Engine) (pods : List Pod) (nodes : List Node) :
    e.runOnce pods nodes =
      if pods = [] then return .noDecision []
      else (inWorld (discover nodes e.providers) >>= fun found => inWorld (growable found)) >>=
        e.conclude pods := by
  rw [runOnce, bind_assoc]
  rfl

end Autoscaler.Engine
