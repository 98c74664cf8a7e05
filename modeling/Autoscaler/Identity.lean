import Autoscaler.FormatError
import Autoscaler.Text.Split

/-!
# Instances and groups

An instance or a group of a cloud is known by its zone and its name. Both are written
`zone/name`; a provider id is that text behind a scheme.
-/

namespace Autoscaler

/-- One machine of a cloud. -/
structure InstanceRef where
  zone : String
  name : String
  deriving DecidableEq, Repr, Ord

/-- One group of machines of a cloud. -/
structure GroupId where
  zone : String
  name : String
  deriving DecidableEq, Repr, Ord

/-- Two texts that are not empty with one slash between them. -/
def Text.slashPair? (cs : List Char) : Option (String × String) :=
  match Text.split '/' cs with
  | [zone, name] =>
      if zone ≠ [] ∧ name ≠ [] then some (String.ofList zone, String.ofList name) else none
  | _ => none

namespace InstanceRef

def text (r : InstanceRef) : String := r.zone ++ "/" ++ r.name

/-- The instance in `scheme://zone/name`. -/
def ofProviderId? (scheme : String) (id : List Char) : Option InstanceRef := do
  let rest ← Text.after? scheme.toList id
  let rest ← Text.after? [':', '/', '/'] rest
  let (zone, name) ← Text.slashPair? rest
  some ⟨zone, name⟩

/-- Reads a provider id of `scheme`. -/
def ofProviderId (scheme id : String) : Except FormatError InstanceRef :=
  match ofProviderId? scheme id.toList with
  | some r => .ok r
  | none => .error (.providerId (scheme ++ "://<zone>/<name>") id)

/-- In the order of zones, and in one zone in the order of names. -/
def sorted (refs : List InstanceRef) : List InstanceRef :=
  refs.mergeSort fun a b => (compare a b).isLE

end InstanceRef

namespace GroupId

def text (g : GroupId) : String := g.zone ++ "/" ++ g.name

end GroupId

end Autoscaler
