import Autoscaler.Roster

/-!
# Listings from a script

A control plane that lists the members it was told to list, fails for groups it was told
to fail for, and remembers which groups it was asked for.
-/

namespace Autoscaler

structure Script where
  /-- The members of each group; a group without an entry is empty. -/
  members : List (GroupId × List InstanceRef) := []
  /-- The groups whose listing fails, and how. -/
  failing : List (GroupId × String) := []
  /-- The groups that were asked for, the last one first. -/
  log : List GroupId := []

namespace Script

def backendName : String := "fake"

def setMembers (s : Script) (group : GroupId) (members : List InstanceRef) : Script :=
  { s with members := (group, members) :: s.members.filter (·.1 ≠ group) }

/-- Lets the listing of a group fail with a message, or no longer fail. -/
def setFailure (s : Script) (group : GroupId) (message : Option String) : Script :=
  { s with
    failing := (message.map fun m => (group, m)).toList ++ s.failing.filter (·.1 ≠ group) }

/-- The groups that were asked for, in order. -/
def asked (s : Script) : List GroupId := s.log.reverse

def list : Site.Lister Script := fun group => do
  modify fun s => { s with log := group :: s.log }
  let s ← get
  match s.failing.find? (·.1 = group) with
  | some (_, message) => throw (.api backendName message)
  | none => return ((s.members.find? (·.1 = group)).map (·.2)).getD []

end Script

end Autoscaler
