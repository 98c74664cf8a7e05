import Autoscaler.Aws.Cloud
import Autoscaler.Cluster
import Autoscaler.Gce.Cloud
import Autoscaler.Json.Decode

/-!
# Records of clusters and clouds in JSON

How pods, nodes, quantities and groups are read from JSON and written to it. What a
record may leave out when it is read is always written.
-/

namespace Autoscaler

open Json (slots required optional natBelow list)

namespace Resources

def ofJson? (json : Json) : Option Resources := do
  match ← slots ["cpu_millis", "memory_bytes", "pods"] json with
  | [cpuMillis, memoryBytes, pods] =>
      some
        { cpuMillis := ← optional 0 (natBelow word64) cpuMillis
          memoryBytes := ← optional 0 (natBelow word64) memoryBytes
          pods := ← optional 0 (natBelow word32) pods }
  | _ => none

def toJson (r : Resources) : Json :=
  .ofFields
    [("cpu_millis", .ofNat r.cpuMillis), ("memory_bytes", .ofNat r.memoryBytes),
      ("pods", .ofNat r.pods)]

end Resources

namespace Labels

def ofJson? (json : Json) : Option Labels := (Json.textFields json).map Directory.ofList

def toJson (labels : Labels) : Json :=
  .ofFields (labels.entries.map fun (key, value) => (key, .ofString value))

end Labels

namespace Pod

def ofJson? (json : Json) : Option Pod := do
  match ← slots ["namespace", "name", "requests", "node_selector"] json with
  | [scope, name, asked, selector] =>
      some
        { scope := ← required Json.string? scope
          name := ← required Json.string? name
          asked := ← optional {} Resources.ofJson? asked
          selector := ← optional .empty Labels.ofJson? selector }
  | _ => none

def toJson (pod : Pod) : Json :=
  .ofFields
    [("namespace", .ofString pod.scope), ("name", .ofString pod.name),
      ("requests", pod.asked.toJson), ("node_selector", Labels.toJson pod.selector)]

end Pod

namespace Node

def ofJson? (json : Json) : Option Node := do
  match ← slots ["name", "provider_id", "allocatable", "labels"] json with
  | [name, providerId, allocatable, labels] =>
      some
        { name := ← required Json.string? name
          providerId := ← required Json.string? providerId
          allocatable := ← required Resources.ofJson? allocatable
          labels := ← optional .empty Labels.ofJson? labels }
  | _ => none

def toJson (node : Node) : Json :=
  .ofFields
    [("name", .ofString node.name), ("provider_id", .ofString node.providerId),
      ("allocatable", node.allocatable.toJson), ("labels", Labels.toJson node.labels)]

end Node

namespace ClusterView

def ofJson? (json : Json) : Option ClusterView := do
  match ← slots ["nodes", "pods"] json with
  | [nodes, pods] =>
      some
        { nodes := ← optional [] (list Node.ofJson?) nodes
          pods := ← optional [] (list Pod.ofJson?) pods }
  | _ => none

end ClusterView

namespace Aws

def Instance.ofJson? (json : Json) : Option Instance := do
  match ← slots ["id", "zone"] json with
  | [id, zone] => some { id := ← required Json.string? id, zone := ← required Json.string? zone }
  | _ => none

def Instance.toJson (i : Instance) : Json :=
  .ofFields [("id", .ofString i.id), ("zone", .ofString i.zone)]

/-- A group with its name. -/
def Group.ofJson? (json : Json) : Option (String × Group) := do
  match ← slots ["name", "desired", "instances"] json with
  | [name, desired, instances] =>
      some
        (← required Json.string? name,
          { desired := ← required (natBelow word32) desired
            instances := ← optional [] (list Instance.ofJson?) instances })
  | _ => none

def Group.toJson (g : Group) (name : String) : Json :=
  .ofFields
    [("name", .ofString name), ("desired", .ofNat g.desired),
      ("instances", .arr (g.instances.map Instance.toJson))]

end Aws

namespace Gce

/-- A group with its zone and name. -/
def Group.ofJson? (json : Json) : Option (GroupId × Group) := do
  match ← slots ["zone", "name", "target_size", "instances"] json with
  | [zone, name, target, instances] =>
      some
        ({ zone := ← required Json.string? zone, name := ← required Json.string? name },
          { target := ← required (natBelow word32) target
            instances := ← optional [] (list Json.string?) instances })
  | _ => none

def Group.toJson (g : Group) (key : GroupId) : Json :=
  .ofFields
    [("zone", .ofString key.zone), ("name", .ofString key.name),
      ("target_size", .ofNat g.target), ("instances", .arr (g.instances.map .ofString))]

end Gce

end Autoscaler
