import Autoscaler.Aws.Cloud
import Autoscaler.Roster

/-!
# Node groups as auto scaling groups

A group is written `zone/name`, an instance `aws://zone/instance-id`. The control plane
knows a group by its name alone, and the zone of a member is that of the instance.
-/

namespace Autoscaler.Aws

def readGroupId (identifier : String) : Except FormatError GroupId :=
  match Text.slashPair? identifier.toList with
  | some (zone, name) => .ok ⟨zone, name⟩
  | none => .error (.groupId "<availability-zone>/<asg-name>" identifier)

def groupUrl (group : GroupId) : String := group.text

def readProviderId (id : String) : Except FormatError InstanceRef :=
  InstanceRef.ofProviderId backendName id

namespace Cloud

/-- The description of a group, or the error that there is none. -/
def describe (group : GroupId) : CloudM Cloud GroupDescription := do
  match ← describeGroup group.name with
  | none => throw (.unknownGroup group.text)
  | some description => return description

/-- The instances that are still found, with the zones they are in. -/
def locate : List String → CloudM Cloud (List InstanceRef)
  | [] => return []
  | id :: ids => do
      let found ← describeInstance id
      let members ← locate ids
      return (found.map fun d => ⟨d.zone, id⟩).toList ++ members

/-- The members of a group. An instance that vanished since is left out. -/
def listMembers : Site.Lister Cloud := fun group => do
  locate (← describe group).instanceIds

def groupSize (group : GroupId) : CloudM Cloud Nat := do
  return (← describe group).desired

def setGroupSize (group : GroupId) (size : Nat) : CloudM Cloud Unit :=
  setDesiredCapacity group.name size false

/-- Terminates instances one by one, each with its place in its group. -/
def terminateAll : List InstanceRef → CloudM Cloud Unit
  | [] => return ()
  | member :: members => do
      terminateInstance member.name true
      terminateAll members

end Cloud

/-- Deletes members of a group after all were found to belong to it. -/
def deleteMembers (group : GroupId) (members : List InstanceRef) : CloudM (Site Cloud) Unit :=
  if members = [] then return ()
  else do
    Site.ensureMembers Cloud.listMembers group members
    Site.onCloud (Cloud.terminateAll members)

end Autoscaler.Aws
