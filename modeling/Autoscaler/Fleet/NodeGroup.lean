import Autoscaler.Fleet.Backend
import Autoscaler.GroupSpec
import Autoscaler.Text.Quoted

/-!
# Node groups

A group of machines on a backend, with bounds on its size. Growing beyond the maximum is
refused or capped, depending on the operation; members are removed only if the group
stays within its bounds and every member is known to belong to it.
-/

namespace Autoscaler

structure NodeGroup where
  backend : Backend
  id : GroupId
  bounds : SizeBounds
  deriving DecidableEq, Repr

namespace NodeGroup

/-- The group that a specification describes; the backend reads the identifier. -/
def ofSpec (backend : Backend) (spec : GroupSpec) : Except CloudError NodeGroup :=
  match backend.readGroupId spec.identifier with
  | .ok id => .ok { backend, id, bounds := spec.bounds }
  | .error e => .error (.format e)

/-- How the group is named to people. -/
def url (g : NodeGroup) : String := g.backend.groupUrl g.id

/-- The name with the bounds. -/
def summary (g : NodeGroup) : String := s!"{g.url} ({g.bounds.min}:{g.bounds.max})"

/-- All that the group is made of. -/
def details (g : NodeGroup) : String :=
  "NodeGroup \x7b backend: " ++ Text.quoted g.backend.name
    ++ ", id: GroupId \x7b zone: " ++ Text.quoted g.id.zone
    ++ ", name: " ++ Text.quoted g.id.name
    ++ s!" \x7d, min_size: {g.bounds.min}, max_size: {g.bounds.max} \x7d"

def currentSize (g : NodeGroup) : CloudM World Nat := g.backend.groupSize g.id

/-- Whether the group is smaller than its maximum. -/
def canGrow (g : NodeGroup) : CloudM World Bool := do
  return (← g.currentSize) < g.bounds.max

/-- Sets the size, capped at the maximum, and returns the size that was set. -/
def resize (g : NodeGroup) (size : Nat) : CloudM World Nat := do
  let size := min size g.bounds.max
  g.backend.setGroupSize g.id size
  return size

/-- Makes the group larger by `delta`. -/
def increase (g : NodeGroup) (delta : Int) : CloudM World Unit := do
  if delta ≤ 0 then
    throw (.invalidDelta delta)
  let size ← g.currentSize
  let desired := size + delta
  if desired > g.bounds.max then
    throw (.maxSizeExceeded desired g.bounds.max)
  g.backend.setGroupSize g.id desired.toNat

/-- Whether the group owns an instance. It is an error if no group owns it. -/
def owns (g : NodeGroup) (member : InstanceRef) : CloudM World Bool := do
  match ← g.backend.owner? member with
  | some owner => return owner = g.id
  | none => throw (.notManaged member)

/-- Makes sure of each member in turn that the group owns it. -/
def ensureOwns (g : NodeGroup) : List InstanceRef → CloudM World Unit
  | [] => return ()
  | member :: members => do
      if ← g.owns member then g.ensureOwns members
      else throw (.foreignMember g.url member)

/-- Whether a group of this size may lose this many members. -/
def canLose (g : NodeGroup) (size removing : Nat) : Bool :=
  g.bounds.min < size && g.bounds.min + removing ≤ size

/-- Deletes members of the group. Nothing is deleted unless all checks succeed. -/
def remove (g : NodeGroup) (members : List InstanceRef) : CloudM World Unit :=
  if members = [] then return ()
  else do
    let size ← g.currentSize
    if !g.canLose size members.length then
      throw (.minSizeReached g.url size g.bounds.min members.length)
    g.ensureOwns members
    g.backend.deleteMembers g.id members

end NodeGroup

end Autoscaler
