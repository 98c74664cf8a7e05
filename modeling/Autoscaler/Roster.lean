import Autoscaler.Cloud.Action

/-!
# Rosters

A roster knows which instance belongs to which group. It is rebuilt as a whole from
listings of all its groups: when it is asked to, and when it is asked about an instance
that it does not know in the zone of one of its groups. A rebuild in which a listing
fails leaves the roster as it was, but for the count of failures.
-/

namespace Autoscaler

structure Roster where
  /-- The groups that are listed, in the order of registration. -/
  groups : List GroupId := []
  /-- The owners of the known instances. -/
  owners : List (InstanceRef × GroupId) := []
  /-- The number of known instances. -/
  entries : Nat := 0
  /-- How many rebuilds succeeded. -/
  refreshes : Nat := 0
  /-- How many rebuilds failed. -/
  failures : Nat := 0
  /-- Whether a rebuild has ever succeeded. This stands for the time of the last one, of which
  no more is kept than that there is such a time. -/
  refreshed : Bool := false
  deriving DecidableEq, Repr, Inhabited

namespace Roster

/-- What a rebuild reads: each group with its members. -/
abbrev Listings : Type := List (GroupId × List InstanceRef)

/-- Adds a group to those that are listed, unless it is one of them. -/
def register (r : Roster) (group : GroupId) : Roster :=
  if group ∈ r.groups then r else { r with groups := r.groups ++ [group] }

/-- Makes `group` the owner of an instance. -/
def assign (owners : List (InstanceRef × GroupId)) (member : InstanceRef) (group : GroupId) :
    List (InstanceRef × GroupId) :=
  (member, group) :: owners.filter (·.1 ≠ member)

/-- The owners according to listings; a later listing overrides an earlier one. -/
def ownersOf (listings : Listings) : List (InstanceRef × GroupId) :=
  listings.foldl (fun owners (group, members) =>
    members.foldl (fun owners member => assign owners member group) owners) []

/-- The known owner of an instance. -/
def owner? (r : Roster) (member : InstanceRef) : Option GroupId :=
  (r.owners.find? fun e => e.1 = member).map (·.2)

/-- Whether an instance lies in the zone of a registered group. -/
def covers (r : Roster) (member : InstanceRef) : Bool :=
  r.groups.any fun g => g.zone = member.zone

/-- The roster after a rebuild from complete listings. -/
def rebuilt (r : Roster) (listings : Listings) : Roster :=
  let owners := ownersOf listings
  { r with
    owners
    entries := owners.length
    refreshes := r.refreshes + 1
    refreshed := true }

/-- The roster after a rebuild that failed. -/
def failed (r : Roster) : Roster := { r with failures := r.failures + 1 }

end Roster

/-- A control plane together with the roster of the groups on it. -/
structure Site (κ : Type) where
  cloud : κ
  roster : Roster := {}

namespace Site

variable {κ : Type}

/-- Asks a control plane for the members of a group. -/
abbrev Lister (κ : Type) : Type := GroupId → CloudM κ (List InstanceRef)

/-- Lists groups one after the other, up to the first that fails. -/
def listAll (list : Lister κ) : List GroupId → CloudM κ Roster.Listings
  | [] => return []
  | group :: groups => do
      let members ← list group
      let listings ← listAll list groups
      return (group, members) :: listings

/-- An action on the control plane alone. -/
def onCloud {α : Type} (act : CloudM κ α) : CloudM (Site κ) α :=
  act.zoom Site.cloud fun cloud site => { site with cloud }

/-- Rebuilds the roster. -/
def refresh (list : Lister κ) : CloudM (Site κ) Unit := .ofFn fun site =>
  match (listAll list site.roster.groups).runOn site.cloud with
  | (.ok listings, cloud) => (.ok (), { cloud, roster := site.roster.rebuilt listings })
  | (.error e, cloud) => (.error e, { cloud, roster := site.roster.failed })

/-- The owner of an instance, after one rebuild if it is not known but might be. -/
def lookup (list : Lister κ) (member : InstanceRef) : CloudM (Site κ) (Option GroupId) := do
  let roster := (← get).roster
  match roster.owner? member with
  | some group => return some group
  | none =>
      if roster.covers member then
        refresh list
        return (← get).roster.owner? member
      else return none

/-- Makes sure of each member in turn that it belongs to `group`. -/
def ensureMembers (list : Lister κ) (group : GroupId) : List InstanceRef → CloudM (Site κ) Unit
  | [] => return ()
  | member :: members => do
      match ← lookup list member with
      | none => throw (.notManaged member)
      | some owner =>
          if owner = group then ensureMembers list group members
          else throw (.mixedGroups group member)

/-- The number of refreshes that start before `span` has passed, one every `interval` from
the beginning on. Intervals below a millisecond count as one. -/
def ticks (interval span : Duration) : Nat :=
  let step := max interval.nanos (Duration.ofMillis 1).nanos
  (span.nanos + step - 1) / step

/-- Refreshes `n` times, whether the refreshes succeed or not. -/
def refreshTimes (list : Lister κ) : (n : Nat) → CloudM (Site κ) Unit
  | 0 => return ()
  | n + 1 => do
      let _ ← Action.attempt (refresh list)
      refreshTimes list n

end Site

end Autoscaler
