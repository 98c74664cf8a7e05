import Autoscaler.Duration
import Autoscaler.FormatError
import Autoscaler.Identity

/-!
# Errors of cloud backends, node groups and rosters
-/

namespace Autoscaler

inductive CloudError where
  /-- A call to the control plane failed. -/
  | api (backend message : String)
  | format (error : FormatError)
  | unknownGroup (group : String)
  | duplicateGroup (group : String)
  | mixedGroups (group : GroupId) (member : InstanceRef)
  | foreignMember (group : String) (member : InstanceRef)
  | notManaged (member : InstanceRef)
  | invalidDelta (delta : Int)
  | maxSizeExceeded (desired : Int) (max : Nat)
  | minSizeReached (group : String) (size min removing : Nat)
  | operationTimeout (operation : String) (timeout : Duration)
  | operationFailed (operation message : String)
  deriving DecidableEq, Repr

def CloudError.message : CloudError → String
  | api backend message => s!"{backend} api error: {message}"
  | format error => error.message
  | unknownGroup group => s!"group {group} not found"
  | duplicateGroup group => s!"group {group} configured more than once"
  | mixedGroups group member =>
      "cannot delete instances which don't belong to the same group: "
        ++ s!"{member.text} is not in {group.text}"
  | foreignMember group member => s!"{member.text} belongs to a different group than {group}"
  | notManaged member => s!"{member.text} doesn't belong to a known group"
  | invalidDelta delta => s!"size increase must be positive, got {delta}"
  | maxSizeExceeded desired max => s!"size increase too large - desired:{desired} max:{max}"
  | minSizeReached group size min removing =>
      s!"min size reached for {group}, nodes will not be deleted "
        ++ s!"(size {size}, min {min}, removing {removing})"
  | operationTimeout operation timeout =>
      s!"operation {operation} did not finish within {timeout.text}"
  | operationFailed operation message => s!"operation {operation} failed: {message}"

end Autoscaler
