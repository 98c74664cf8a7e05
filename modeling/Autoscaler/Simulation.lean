import Autoscaler.Config.Basic
import Autoscaler.ScaleUp.Loop
import Autoscaler.ScaleUp.Record
import Autoscaler.Snapshot.Basic

/-!
# Simulations

A configuration tried out on a snapshot. All providers of auto scaling groups talk to one
control plane in memory; every provider of managed instance groups has a control plane of
its own, with the groups of the snapshot in the project of the provider.
-/

namespace Autoscaler

structure Simulation where
  engine : Engine
  world : World
  /-- The projects, with the slots of their control planes. -/
  projects : List (String × Nat)

/-- The groups of all clouds. -/
structure CloudState where
  aws : List (String × Aws.Group)
  gce : List (String × List (GroupId × Gce.Group))

namespace Simulation

/-- The backend of the provider with number `index`, and the world with its control plane. -/
def connect (snapshot : Snapshot) (index : Nat) (p : ProviderConfig) (w : World) :
    Except Failure (Backend × World) :=
  match p.kind with
  | .aws => .ok (.aws 0 index, w)
  | .gce =>
      match p.project with
      | none => .error ⟨s!"provider {index}: gce requires a project", []⟩
      | some project =>
          match p.readPollInterval, p.readWaitTimeout with
          | .error e, _ => .error e.failure
          | _, .error e => .error e.failure
          | .ok interval, .ok timeout =>
              let usual : Gce.Polling := {}
              let polling : Gce.Polling :=
                { interval := interval.getD usual.interval, timeout := timeout.getD usual.timeout }
              let groups := snapshot.gceGroups.map fun (id, g) =>
                ((⟨project, id.zone, id.name⟩ : Gce.GroupKey), g)
              .ok (.gce project polling index index,
                { w with gce := w.gce.set index (.ofGroups groups) })

/-- Builds providers one after the other; the first one has number `index`. -/
def buildProviders (snapshot : Snapshot) (index : Nat) :
    List ProviderConfig → World → Except Failure (List Provider × World)
  | [], w => .ok ([], w)
  | p :: providers, w => do
      let (backend, w) ← connect snapshot index p w
      match (Provider.build backend p.nodeGroups).runOn w with
      | (.error e, _) => throw (.within s!"provider {index} ({p.kind.name})" ⟨e.message, []⟩)
      | (.ok provider, w) =>
          let (others, w) ← buildProviders snapshot (index + 1) providers w
          return (provider :: others, w)

/-- The projects of the providers that have one, with the slots of their control planes. -/
def projectsOf (providers : List Provider) : List (String × Nat) :=
  providers.filterMap fun p =>
    match p.backend with
    | .aws .. => none
    | .gce project _ cloud _ => some (project, cloud)

/-- The simulation of a valid configuration. -/
def build (config : Config) (snapshot : Snapshot) : Except Failure Simulation := do
  config.validate.mapError ConfigError.failure
  let world : World := { aws := ({} : Slots Aws.Cloud).set 0 (.ofGroups snapshot.awsGroups) }
  let (providers, world) ← buildProviders snapshot 0 config.providers world
  let engine : Engine := { providers, strategy := config.strategy, mode := config.mode }
  return { engine, world, projects := projectsOf providers }

/-- One cycle, and the simulation after it. -/
def poll (s : Simulation) (seen : Observation) : Except Failure Outcome × Simulation :=
  let (result, session) := (s.engine.poll seen).runOn { world := s.world }
  (result, { s with world := session.world })

/-- Cycles for a span of time. -/
def runFor (s : Simulation) (seen : Observation) (interval span : Duration) : Simulation :=
  { s with world := (s.engine.runFor seen interval span { world := s.world }).world }

/-- Refreshes the roster of every provider. -/
def refresh (s : Simulation) : Simulation :=
  { s with
    world := s.engine.providers.foldl (fun w p => (p.backend.refresh.runOn w).2) s.world }

/-- The roster of each provider. -/
def rosters (s : Simulation) : List Roster :=
  s.engine.providers.map fun p => s.world.rosters.get p.backend.rosterSlot

def cloudState (s : Simulation) : CloudState where
  aws := (s.world.aws.get 0).groups.entries
  gce := s.projects.map fun (project, cloud) =>
    (project, (s.world.gce.get cloud).groups.entries.map fun (key, g) => (⟨key.zone, key.name⟩, g))

end Simulation

def CloudState.toJson (s : CloudState) : Json :=
  .ofFields
    [("aws_groups", .arr (s.aws.map fun (name, g) => g.toJson name)),
      ("gce_groups", .arr (s.gce.map fun (project, groups) =>
        .arr [.ofString project, .arr (groups.map fun (id, g) => g.toJson id)]))]

end Autoscaler
