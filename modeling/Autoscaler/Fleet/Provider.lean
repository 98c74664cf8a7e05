import Autoscaler.Cluster
import Autoscaler.Fleet.NodeGroup

/-!
# Providers

A provider holds the configured groups of one backend. A group is a candidate for more
machines only if a node of the cluster belongs to it, and the first such node shows what
a new machine would look like.
-/

namespace Autoscaler

structure Provider where
  backend : Backend
  groups : List NodeGroup
  deriving DecidableEq, Repr

/-- A group that might grow, with one of its nodes. -/
structure Candidate where
  group : NodeGroup
  sample : Node
  deriving DecidableEq, Repr

namespace Provider

/-- The group of one specification, unless it is one of `earlier`. -/
def readGroup (backend : Backend) (earlier : List NodeGroup) (spec : String) :
    Except CloudError NodeGroup :=
  match GroupSpec.parse spec with
  | .error e => .error (.format e)
  | .ok parsed =>
      match NodeGroup.ofSpec backend parsed with
      | .error e => .error e
      | .ok group =>
          if earlier.any fun g => g.id = group.id then .error (.duplicateGroup group.url)
          else .ok group

/-- The groups of specifications, behind those that were read before. -/
def readGroups (backend : Backend) (earlier : List NodeGroup) :
    List String → Except CloudError (List NodeGroup)
  | [] => .ok earlier
  | spec :: specs => do
      let group ← readGroup backend earlier spec
      readGroups backend (earlier ++ [group]) specs

/-- The provider of specifications. If one cannot be read there is none, and no group is
registered. -/
def build (backend : Backend) (specs : List String) : CloudM World Provider := do
  let groups ← .ofExcept (readGroups backend [] specs)
  modify fun w => groups.foldl (fun w g => backend.register g.id w) w
  return { backend, groups }

def name (p : Provider) : String := p.backend.name

def group? (p : Provider) (id : GroupId) : Option NodeGroup := p.groups.find? fun g => g.id = id

/-- The configured group that a node belongs to; none for nodes of other clouds. -/
def groupOf? (p : Provider) (node : Node) : CloudM World (Option NodeGroup) :=
  if node.scheme? = some p.name then do
    let member ← .ofExcept ((p.backend.readProviderId node.providerId).mapError .format)
    return (← p.backend.owner? member).bind p.group?
  else return none

/-- The candidates among the groups of the nodes, without the groups `seen` before. -/
def candidatesBeyond (p : Provider) (seen : List GroupId) :
    List Node → CloudM World (List Candidate)
  | [] => return []
  | node :: nodes => do
      match ← p.groupOf? node with
      | none => p.candidatesBeyond seen nodes
      | some group =>
          if group.id ∈ seen then p.candidatesBeyond seen nodes
          else
            let candidates ← p.candidatesBeyond (group.id :: seen) nodes
            return { group, sample := node } :: candidates

/-- The groups that own one of the nodes, in the order in which they are seen first. -/
def candidates (p : Provider) (nodes : List Node) : CloudM World (List Candidate) :=
  p.candidatesBeyond [] nodes

end Provider

end Autoscaler
