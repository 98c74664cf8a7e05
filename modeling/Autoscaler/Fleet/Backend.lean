import Autoscaler.Fleet.World

/-!
# Backends

What the autoscaler needs of a cloud: identifiers and urls of groups, provider ids of
nodes, sizes, deletion of members, and a roster of who belongs where. Sizes are never
kept; every question about one goes to the control plane.
-/

namespace Autoscaler

/-- A connection to a cloud: which control plane it talks to and which roster it keeps. -/
inductive Backend where
  | aws (cloud roster : Nat)
  | gce (project : String) (polling : Gce.Polling) (cloud roster : Nat)
  deriving DecidableEq, Repr

namespace Backend

/-- The name of the cloud, which is also the scheme of its provider ids. -/
def name : Backend → String
  | aws .. => Aws.backendName
  | gce .. => Gce.backendName

/-- The slot of the roster. -/
def rosterSlot : Backend → Nat
  | aws _ roster => roster
  | gce _ _ _ roster => roster

def readGroupId : Backend → String → Except FormatError GroupId
  | aws .. => Aws.readGroupId
  | gce project .. => Gce.readGroupId project

/-- How a group is named to people. -/
def groupUrl : Backend → GroupId → String
  | aws .. => Aws.groupUrl
  | gce project .. => Gce.groupUrl project

def readProviderId : Backend → String → Except FormatError InstanceRef
  | aws .. => Aws.readProviderId
  | gce project .. => Gce.readProviderId project

/-- Adds a group to the roster. -/
def register (b : Backend) (group : GroupId) (w : World) : World :=
  { w with rosters := w.rosters.set b.rosterSlot ((w.rosters.get b.rosterSlot).register group) }

/-- The size a group should have, as the control plane knows it. -/
def groupSize : Backend → GroupId → CloudM World Nat
  | aws cloud roster, group => World.onAws cloud roster (Site.onCloud (Aws.Cloud.groupSize group))
  | gce project _ cloud roster, group =>
      World.onGce cloud roster (Site.onCloud (Gce.Cloud.groupSize project group))

def setGroupSize : Backend → GroupId → Nat → CloudM World Unit
  | aws cloud roster, group, size =>
      World.onAws cloud roster (Site.onCloud (Aws.Cloud.setGroupSize group size))
  | gce project polling cloud roster, group, size =>
      World.onGce cloud roster (Site.onCloud (Gce.Cloud.setGroupSize project polling group size))

/-- Deletes members of a group, or none if one of them does not belong to it. -/
def deleteMembers : Backend → GroupId → List InstanceRef → CloudM World Unit
  | aws cloud roster, group, members => World.onAws cloud roster (Aws.deleteMembers group members)
  | gce project polling cloud roster, group, members =>
      World.onGce cloud roster (Gce.deleteMembers project polling group members)

/-- The registered group that an instance belongs to. -/
def owner? : Backend → InstanceRef → CloudM World (Option GroupId)
  | aws cloud roster, member =>
      World.onAws cloud roster (Site.lookup Aws.Cloud.listMembers member)
  | gce project _ cloud roster, member =>
      World.onGce cloud roster (Site.lookup (Gce.Cloud.listMembers project) member)

/-- Rebuilds the roster. -/
def refresh : Backend → CloudM World Unit
  | aws cloud roster => World.onAws cloud roster (Site.refresh Aws.Cloud.listMembers)
  | gce project _ cloud roster =>
      World.onGce cloud roster (Site.refresh (Gce.Cloud.listMembers project))

/-- Rebuilds the roster `n` times, whether that succeeds or not. -/
def refreshTimes (n : Nat) : Backend → CloudM World Unit
  | aws cloud roster => World.onAws cloud roster (Site.refreshTimes Aws.Cloud.listMembers n)
  | gce project _ cloud roster =>
      World.onGce cloud roster (Site.refreshTimes (Gce.Cloud.listMembers project) n)

end Backend

end Autoscaler
