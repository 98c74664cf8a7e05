import Autoscaler.Failure
import Autoscaler.Fit
import Autoscaler.Fleet.Provider
import Autoscaler.Packing
import Autoscaler.ScaleUp.ResizeMode
import Autoscaler.ScaleUp.Strategy

/-!
# The scale-up cycle

One cycle looks for a group to make larger for the pods without a place. It finds the
candidates of every provider, sorts the pods for each candidate that can grow into those
that would run there and those that would not, lets the strategy choose, estimates how
many machines the helped pods need, and resizes the group. Pods are told about the
outcome by events. A cycle that fails tells no pod.
-/

namespace Autoscaler

/-- What a pod is told. -/
inductive Event where
  | triggered (pod group : String) (currentSize newSize : Nat)
  | notTriggered (pod : String)
  deriving DecidableEq, Repr

/-- The key of the pod that is told. -/
def Event.pod : Event → String
  | triggered pod .. => pod
  | notTriggered pod => pod

/-- What a resize did. -/
structure ScaleUpReport where
  /-- The name of the group. -/
  group : String
  backend : String
  priorSize : Nat
  /-- The size that was set, after the cap at the maximum. -/
  newSize : Nat
  /-- How many machines the helped pods need. -/
  estimate : Nat
  /-- The keys of the helped pods. -/
  pods : List String
  deriving DecidableEq, Repr

inductive Outcome where
  /-- Nothing was resized; the keys are those of the pods that no candidate can help. -/
  | noDecision (unhelped : List String)
  | scaledUp (report : ScaleUpReport)
  deriving DecidableEq, Repr

def Outcome.report? : Outcome → Option ScaleUpReport
  | noDecision _ => none
  | scaledUp report => some report

/-- Why a cycle ended without an outcome. -/
inductive CycleError where
  | discovery (backend : String) (source : CloudError)
  | groupSize (group : String) (source : CloudError)
  | resize (group : String) (target : Nat) (source : CloudError)
  deriving DecidableEq, Repr

namespace CycleError

def source : CycleError → CloudError
  | discovery _ source => source
  | groupSize _ source => source
  | resize _ _ source => source

def message : CycleError → String
  | discovery backend source =>
      s!"node group discovery failed for {backend} provider: {source.message}"
  | groupSize group source => s!"failed to read current size of {group}: {source.message}"
  | resize group target source => s!"failed to resize {group} to {target}: {source.message}"

def failure (e : CycleError) : Failure := ⟨e.message, [e.source.message]⟩

end CycleError

/-- A way to scale up: a candidate and the pods that would run on its new machines. -/
structure ExpansionOption where
  candidate : Candidate
  pods : List Pod
  deriving DecidableEq, Repr

/-- The group, the sample and the number of pods. -/
def ExpansionOption.summary (o : ExpansionOption) : String :=
  "ExpansionOption \x7b group: " ++ Text.quoted o.candidate.group.url
    ++ ", sample_node: " ++ Text.quoted o.candidate.sample.name
    ++ s!", pods: {o.pods.length} \x7d"

/-- The world with the events that were recorded in it. -/
structure Session where
  world : World
  events : List Event := []

/-- What decides a cycle: where groups come from, which pods run where, which option is
taken and how sizes are set. -/
structure Engine where
  providers : List Provider
  checker : Checker := Fit.check
  strategy : Strategy := .first
  mode : ResizeMode := .absolute

namespace Engine

/-- An action on the world within a session. -/
def inWorld {ε α : Type} (act : Action ε World α) : Action ε Session α :=
  act.zoom Session.world fun world s => { s with world }

/-- Records events behind those recorded before. -/
def tell {ε : Type} (events : List Event) : Action ε Session Unit :=
  modify fun s => { s with events := s.events ++ events }

/-- The candidates of all providers, one provider after the other. -/
def discover (nodes : List Node) : List Provider → Action CycleError World (List Candidate)
  | [] => return []
  | p :: providers => do
      let found ← (p.candidates nodes).mapError (.discovery p.name)
      let others ← discover nodes providers
      return found ++ others

/-- The candidates that can grow. One whose size cannot be read is passed over. -/
def growable : List Candidate → Action CycleError World (List Candidate)
  | [] => return []
  | candidate :: candidates => do
      let grows ← candidate.group.canGrow.attempt
      let others ← growable candidates
      return match grows with
        | .ok true => candidate :: others
        | _ => others

/-- Whether a pod would run on a new machine of a candidate. -/
def helps (checker : Checker) (candidate : Candidate) (pod : Pod) : Bool :=
  (checker pod candidate.sample).isOk

/-- The candidates that help at least one pod, with the pods they help. -/
def options (checker : Checker) (candidates : List Candidate) (pods : List Pod) :
    List ExpansionOption :=
  (candidates.map fun candidate => ⟨candidate, pods.filter (helps checker candidate)⟩).filter
    fun o => o.pods ≠ []

/-- The keys of the pods that some candidate does not help. -/
def refused (checker : Checker) (candidates : List Candidate) (pods : List Pod) : List String :=
  candidates.flatMap fun candidate =>
    (pods.filter fun pod => !helps checker candidate pod).map Pod.key

/-- The pods, in order, whose keys are among those that some candidate does not help. -/
def unhelped (checker : Checker) (candidates : List Candidate) (pods : List Pod) : List String :=
  (pods.map Pod.key).filter (· ∈ refused checker candidates pods)

/-- Resizes the group of an option and tells the pods that it helps. -/
def expand (mode : ResizeMode) (o : ExpansionOption) : Action CycleError Session Outcome := do
  let group := o.candidate.group
  let estimate := (Packing.estimate o.candidate.sample o.pods).nodeCount
  let current ← inWorld (group.currentSize.mapError (.groupSize group.url))
  let target := mode.target current estimate
  let newSize ← inWorld ((group.resize target).mapError (.resize group.url target))
  let keys := o.pods.map Pod.key
  tell (keys.map fun key => .triggered key group.url current newSize)
  return .scaledUp
    { group := group.url
      backend := group.backend.name
      priorSize := current
      newSize
      estimate
      pods := keys }

/-- One cycle for pods without a place and the nodes of the cluster. -/
def runOnce (e : Engine) (pods : List Pod) (nodes : List Node) :
    Action CycleError Session Outcome :=
  if pods = [] then return .noDecision []
  else do
    let candidates ← inWorld (discover nodes e.providers)
    let candidates ← inWorld (growable candidates)
    match e.strategy.choose? (fun o => o.pods.length) (options e.checker candidates pods) with
    | some o => expand e.mode o
    | none =>
        let keys := unhelped e.checker candidates pods
        tell (keys.map .notTriggered)
        return .noDecision keys

end Engine

end Autoscaler
