import Autoscaler.Json.Reader
import Autoscaler.Snapshot.Record

/-!
# Snapshots

A snapshot is what is seen of a cluster together with the clouds behind it. It is an
object with the fields of both. Fields that do not describe clouds are kept until it is
known whether they belong to the cluster, so even one that turns out to be unknown must
have a meaning: texts, finite numbers, and no more than 127 levels of nesting in all.
-/

namespace Autoscaler

structure Snapshot where
  view : ClusterView := {}
  awsGroups : List (String × Aws.Group) := []
  /-- The groups of every project. -/
  gceGroups : List (GroupId × Gce.Group) := []

namespace Snapshot

/-- How many levels a field of a snapshot may nest below the snapshot itself. -/
def fieldDepth : Nat := 126

/-- Whether a field describes clouds. -/
def describesCloud (name : Option String) : Bool :=
  name = some "aws_groups" || name = some "gce_groups"

def ofJson? : Json → Option Snapshot
  | .obj fields => do
      let (clouds, others) := fields.partition fun f => describesCloud f.1
      if Json.plainFields fieldDepth others then
        let view ← ClusterView.ofJson? (.obj others)
        match ← Json.slots ["aws_groups", "gce_groups"] (.obj clouds) with
        | [awsGroups, gceGroups] =>
            some
              { view
                awsGroups := ← Json.optional [] (Json.list Aws.Group.ofJson?) awsGroups
                gceGroups := ← Json.optional [] (Json.list Gce.Group.ofJson?) gceGroups }
        | _ => none
      else none
  | _ => none

def parse (text : String) : Option Snapshot := (Json.parse text).bind ofJson?

end Snapshot

end Autoscaler
