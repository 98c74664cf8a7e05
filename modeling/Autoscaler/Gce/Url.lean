import Autoscaler.Gce.Cloud
import Autoscaler.Text.Split

/-!
# Urls of groups and instances

A group or an instance is `projects/p/zones/z/kind/name` with segments that are not
empty, by itself or behind one of two service addresses.
-/

namespace Autoscaler.Gce

/-- The addresses that may stand in front. -/
def services : List String :=
  ["https://www.googleapis.com/compute/v1/", "https://content.googleapis.com/compute/v1/"]

/-- A text without the service address it begins with. -/
def dropService (cs : List Char) : List Char :=
  (services.findSome? fun service => Text.after? service.toList cs).getD cs

/-- Project, zone and name of a resource of one kind. -/
def resource? (kind : String) (url : List Char) : Option GroupKey :=
  match Text.split '/' (dropService url) with
  | [a, project, b, zone, c, name] =>
      if a = "projects".toList ∧ b = "zones".toList ∧ c = kind.toList
          ∧ project ≠ [] ∧ zone ≠ [] ∧ name ≠ [] then
        some ⟨String.ofList project, String.ofList zone, String.ofList name⟩
      else none
  | _ => none

/-- The full url of a group. -/
def groupUrl (project : String) (group : GroupId) : String :=
  s!"{urlBase}/projects/{project}/zones/{group.zone}/instanceGroups/{group.name}"

/-- Reads the url of a group of `project`. -/
def readGroupId (project identifier : String) : Except FormatError GroupId :=
  match resource? "instanceGroups" identifier.toList with
  | none =>
      .error (.groupId "projects/<project>/zones/<zone>/instanceGroups/<name>" identifier)
  | some key =>
      if key.project = project then .ok ⟨key.zone, key.name⟩
      else .error (.groupId s!"a MIG in project {project}" identifier)

/-- Reads the url of an instance, of any project. -/
def readInstanceUrl (url : String) : Except FormatError InstanceRef :=
  match resource? "instances" url.toList with
  | none => .error (.providerId "projects/<project>/zones/<zone>/instances/<name>" url)
  | some key => .ok ⟨key.zone, key.name⟩

/-- The instance in `gce://project/zone/name`. -/
def ofProviderId? (project : String) (id : List Char) : Option InstanceRef := do
  let rest ← Text.after? "gce://".toList id
  let (written, zoned) ← Text.cut? '/' rest
  if String.ofList written = project then
    let (zone, name) ← Text.slashPair? zoned
    some ⟨zone, name⟩
  else none

/-- Reads a provider id of an instance of `project`. -/
def readProviderId (project id : String) : Except FormatError InstanceRef :=
  match ofProviderId? project id.toList with
  | some r => .ok r
  | none => .error (.providerId s!"gce://{project}/<zone>/<name>" id)

end Autoscaler.Gce
