import Autoscaler.Resources
import Autoscaler.Directory
import Autoscaler.Text.Split

/-!
# Pods, nodes and what is seen of a cluster

A pod is a workload that the scheduler could not place. A node is a machine that was
observed; its allocatable resources stand for those of a new machine of its group.
-/

namespace Autoscaler

/-- Labels of a node, or the labels that a pod asks of its node. -/
abbrev Labels := Directory String String

structure Pod where
  /-- The namespace that holds the pod. -/
  scope : String
  name : String
  /-- What the pod asks for, as written; its `pods` dimension does not count. -/
  asked : Resources := {}
  selector : Labels := .empty
  deriving DecidableEq, Repr

namespace Pod

/-- Namespace and name, which identify a pod in its cluster. -/
def key (pod : Pod) : String := pod.scope ++ "/" ++ pod.name

/-- What the pod takes on a node: what it asks for, and one pod slot. -/
def requests (pod : Pod) : Resources := { pod.asked with pods := 1 }

@[simp] theorem requests_pods (pod : Pod) : pod.requests.pods = 1 := rfl

end Pod

structure Node where
  name : String
  /-- Where the machine comes from, for instance `aws://us-east-1a/i-0abc`. -/
  providerId : String
  allocatable : Resources
  labels : Labels := .empty
  deriving DecidableEq, Repr

/-- The part of the provider id before its first `://`. -/
def Node.scheme? (node : Node) : Option String :=
  (Text.before? [':', '/', '/'] node.providerId.toList).map String.ofList

/-- What one cycle sees of a cluster. -/
structure ClusterView where
  nodes : List Node := []
  /-- The pods without a place. -/
  pods : List Pod := []
  deriving DecidableEq, Repr, Inhabited

end Autoscaler
