import Autoscaler.Proofs.Aws.Losses
import Autoscaler.Proofs.Fleet.Addresses
import Autoscaler.Proofs.Fleet.Removal
import Autoscaler.Proofs.Gce.Losses
import Autoscaler.Proofs.Roster.Fresh

/-!
# Removals that succeed

A removal that ends well takes the members that were named from the one group, and size and list
of instances move together: the size drops by as many as have left the list. On auto scaling
groups that is the number of members that were named. On managed instance groups it can be less,
since a member may be named twice and the roster may still have a member that is no longer there.

The roster need not be right for this. What it has of a group may be out of date, as long as it
is about instances that the group still lists or that no group has any more. A roster that was
just rebuilt is like that, and the questions that come before a deletion can only add what a
listing shows. Members that were removed are not listed afterwards, so the roster has forgotten
them as soon as it is rebuilt.
-/

namespace Autoscaler

/-- What a control plane holds for a group: its size, and its instances in order. -/
structure Holding where
  size : Nat
  instances : List InstanceRef
  deriving DecidableEq, Repr

def Aws.Group.holding (g : Aws.Group) : Holding where
  size := g.desired
  instances := g.instances.map fun i => ⟨i.zone, i.id⟩

def Gce.Group.holding (key : Gce.GroupKey) (g : Gce.Group) : Holding where
  size := g.target
  instances := g.instances.map fun name => ⟨key.zone, name⟩

/-- What a control plane holds for the group at an address. -/
def World.holdingAt? : World → Address → Option Holding :=
  World.groupAt? Aws.Group.holding Gce.Group.holding

theorem World.sizeAt?_eq_map (w : World) (address : Address) :
    w.sizeAt? address = (w.holdingAt? address).map Holding.size := by
  rw [sizeAt?_eq, holdingAt?, map_groupAt?]
  rfl

namespace Backend

/-- The group is there and lists the instance. -/
def Lists (b : Backend) (w : World) (group : GroupId) (member : InstanceRef) : Prop :=
  ∃ h, w.holdingAt? (b.address group) = some h ∧ member ∈ h.instances

/-- An instance that was there, but no group of the control plane has one of its name now. -/
def Gone : Backend → World → InstanceRef → Prop
  | aws cloud _, w, member => Aws.Gone (w.aws.get cloud).groups member
  | gce _ _ cloud _, w, member => Gce.Former (w.gce.get cloud).groups member

/-- Listings show members and nothing else. -/
def Unmixed : Backend → World → Prop
  | aws .., _ => True
  | gce _ _ cloud _, w => (w.gce.get cloud).strangers = []

/-- The roster has an instance in a group only if the group lists it or the instance is gone. -/
def Accurate (b : Backend) (w : World) : Prop :=
  ∀ member group, (b.roster w).owner? member = some group →
    b.Lists w group member ∨ b.Gone w member

/-- How many instances may have left a group from which so many members were removed. -/
def MayLose : Backend → (named left : Nat) → Prop
  | aws .., named, left => left = named
  | gce .., named, left => left ≤ named

/-- A group before and after members were removed from it. -/
structure Removed (b : Backend) (members : List InstanceRef) (before after : Holding) : Prop where
  instances : after.instances =
    before.instances.filter fun i => i.name ∉ members.map InstanceRef.name
  size : after.size + (before.instances.length - after.instances.length) = before.size
  left : b.MayLose members.length (before.instances.length - after.instances.length)

variable {b : Backend} {group : GroupId} {member : InstanceRef} {members : List InstanceRef}
  {w w' : World}

/-! ## Listings -/

theorem lists_aws_iff {cloud roster : Nat} :
    (aws cloud roster).Lists w group member ↔
      Aws.Holds (w.aws.get cloud).groups member group := by
  constructor
  · rintro ⟨h, there, inside⟩
    obtain ⟨g, found, rfl⟩ := Option.map_eq_some_iff.mp there
    obtain ⟨i, here, rfl⟩ := List.mem_map.mp inside
    exact ⟨g, found, here⟩
  · rintro ⟨g, found, inside⟩
    exact ⟨g.holding, Option.map_eq_some_iff.mpr ⟨g, found, rfl⟩, List.mem_map.mpr ⟨_, inside, rfl⟩⟩

theorem lists_gce_iff {project : String} {polling : Gce.Polling} {cloud roster : Nat} :
    (gce project polling cloud roster).Lists w group member ↔
      Gce.Holds (w.gce.get cloud).groups member ⟨project, group.zone, group.name⟩ := by
  constructor
  · rintro ⟨h, there, inside⟩
    obtain ⟨g, found, rfl⟩ := Option.map_eq_some_iff.mp there
    obtain ⟨name, here, rfl⟩ := List.mem_map.mp inside
    exact ⟨g, found, rfl, here⟩
  · rintro ⟨g, found, zone, inside⟩
    obtain ⟨zone', name⟩ := member
    cases zone
    exact ⟨_, Option.map_eq_some_iff.mpr ⟨g, found, rfl⟩, List.mem_map.mpr ⟨name, inside, rfl⟩⟩

theorem lists_of_members? (unique : b.Unique w) (unmixed : b.Unmixed w) {shown : List InstanceRef}
    (listed : b.members? w group = some shown) (inside : member ∈ shown) :
    b.Lists w group member := by
  cases b with
  | aws cloud roster =>
      exact lists_aws_iff.mpr (Aws.Cloud.holds_of_members? unique listed inside)
  | gce project polling cloud roster =>
      exact lists_gce_iff.mpr (Gce.Cloud.holds_of_members? unmixed listed inside)

/-- Even where instances cannot be told apart, a listing shows names of the group only. -/
theorem named_of_members? (unmixed : b.Unmixed w) {shown : List InstanceRef}
    (listed : b.members? w group = some shown) (inside : member ∈ shown) :
    ∃ h, w.holdingAt? (b.address group) = some h ∧ ∃ i ∈ h.instances, i.name = member.name := by
  cases b with
  | aws cloud roster =>
      obtain ⟨g, found, rfl⟩ := Option.map_eq_some_iff.mp listed
      obtain ⟨id, among, located⟩ := List.mem_filterMap.mp inside
      obtain ⟨i, here, rfl⟩ := List.mem_map.mp among
      have name : member.name = i.id := by
        rw [Aws.Cloud.located?] at located
        split at located
        · cases located
        · obtain ⟨_, -, rfl⟩ := Option.map_eq_some_iff.mp located
          rfl
      exact ⟨_, Option.map_eq_some_iff.mpr ⟨g, found, rfl⟩, _, List.mem_map_of_mem here, name.symm⟩
  | gce project polling cloud roster =>
      obtain ⟨h, there, here⟩ :=
        lists_gce_iff.mpr (Gce.Cloud.holds_of_members? unmixed listed inside)
      exact ⟨h, there, member, here, rfl⟩

/-- A roster that was just rebuilt knows what listings show now. -/
theorem fresh_of_refresh (run : b.refresh.runOn w = (.ok (), w')) :
    Roster.Fresh (b.members? w') (b.roster w') := by
  have consulted := b.consulted_refresh.of_runOn run
  rw [b.members?_observed consulted.observed]
  cases b with
  | aws cloud roster =>
      obtain ⟨site, refreshed, rfl⟩ := World.onAws_cases run
      rw [roster_setAws]
      exact Aws.Cloud.tells_listMembers.fresh_of_refresh refreshed
  | gce project polling cloud roster =>
      obtain ⟨site, refreshed, rfl⟩ := World.onGce_cases run
      rw [roster_setGce]
      exact (Gce.Cloud.tells_listMembers project).fresh_of_refresh refreshed

/-! ## Questions before a deletion -/

theorem Lists.of_sameGroups (same : World.SameGroups w w') (lists : b.Lists w group member) :
    b.Lists w' group member := by
  rw [Lists, World.holdingAt?, same.groupAt?]
  exact lists

theorem Gone.of_sameGroups (same : World.SameGroups w w') (gone : b.Gone w member) :
    b.Gone w' member := by
  cases b with
  | aws cloud roster =>
      rw [Gone, same.aws]
      exact gone
  | gce project polling cloud roster =>
      rw [Gone, same.gce]
      exact gone

theorem Unmixed.of_observed (seen : World.Observed w w') (unmixed : b.Unmixed w) :
    b.Unmixed w' := by
  cases b with
  | aws => trivial
  | gce project polling cloud roster =>
      obtain ⟨traffic, -, same⟩ := seen.gce cloud
      rw [Unmixed, same]
      exact unmixed

theorem Unique.of_sameGroups (same : World.SameGroups w w') (unique : b.Unique w) :
    b.Unique w' := by
  cases b with
  | aws cloud roster =>
      rw [Unique, same.aws]
      exact unique
  | gce project polling cloud roster =>
      rw [Unique, same.gce]
      exact unique

/-- Questions teach the roster only what is so. -/
theorem Accurate.of_consulted (unique : b.Unique w) (unmixed : b.Unmixed w)
    (accurate : b.Accurate w) (consulted : b.Consulted w w') : b.Accurate w' := by
  intro member group owned
  have same := consulted.observed.sameGroups
  obtain known | ⟨shown, listed, inside⟩ := consulted.learns.owners member group owned
  · exact (accurate member group known).imp (.of_sameGroups same) (.of_sameGroups same)
  · exact .inl (.of_sameGroups same (lists_of_members? unique unmixed listed inside))

/-- A roster that was just rebuilt has an instance only in a group that lists it. -/
theorem accurate_of_refresh (unique : b.Unique w) (unmixed : b.Unmixed w)
    (run : b.refresh.runOn w = (.ok (), w')) : b.Accurate w' := by
  intro member group owned
  have seen := (b.consulted_refresh.of_runOn run).observed
  obtain ⟨shown, listed, inside⟩ := (fresh_of_refresh run).listed owned
  exact .inl (lists_of_members? (unique.of_sameGroups seen.sameGroups) (unmixed.of_observed seen)
    listed inside)

/-! ## Deletions -/

theorem removed_aws {cloud roster : Nat} {g g' : Aws.Group}
    (lost : g.Lost (members.map InstanceRef.name) g') (enough : members.length ≤ g.desired) :
    (aws cloud roster).Removed members g.holding g'.holding := by
  have left : g.holding.instances.length - g'.holding.instances.length = members.length := by
    have length := lost.length
    simp only [Aws.Group.holding, List.length_map] at length ⊢
    omega
  refine ⟨?_, ?_, left⟩
  · simp only [Aws.Group.holding, lost.instances, List.filter_map]
    rfl
  · have desired := lost.desired
    rw [List.length_map] at desired
    rw [left]
    change g'.desired + members.length = g.desired
    omega

theorem removed_gce {project : String} {polling : Gce.Polling} {cloud roster : Nat}
    {key : Gce.GroupKey} {g g' : Gce.Group} (lost : g.Lost (members.map InstanceRef.name) g')
    (enough : members.length ≤ g.target) :
    (gce project polling cloud roster).Removed members (g.holding key) (g'.holding key) := by
  have left : (g.holding key).instances.length - (g'.holding key).instances.length ≤
      members.length := by
    have length := lost.length
    simp only [Gce.Group.holding, List.length_map] at length ⊢
    omega
  refine ⟨?_, ?_, left⟩
  · simp only [Gce.Group.holding, lost.instances, List.filter_map]
    rfl
  · have target := lost.target
    simp only [Gce.Group.holding, List.length_map] at left ⊢
    omega

theorem removed_nobody (h : Holding) : b.Removed [] h h where
  instances := by simp
  size := by rw [Nat.sub_self, Nat.add_zero]
  left := by
    rw [Nat.sub_self]
    cases b
    · rfl
    · exact Nat.le_refl _

/-- Deleting members that the group lists or that are gone takes those it lists. -/
theorem deleteAll_removed (unique : b.Unique w) (unmixed : b.Unmixed w)
    (accounted : ∀ member ∈ members, b.Lists w group member ∨ b.Gone w member) {size : Nat}
    (known : b.size? group w = some size) (enough : members.length ≤ size)
    (run : (b.deleteAll group members).runOn w = (.ok (), w')) :
    b.Unmixed w' ∧
      ChangedAt (b.address group) (b.Removed members) w.holdingAt? w'.holdingAt? := by
  cases b with
  | aws cloud roster =>
      obtain ⟨site, deleted, rfl⟩ := World.onAws_cases run
      obtain ⟨c, terminated, rfl⟩ := Site.onCloud_cases deleted
      have lost := Aws.Cloud.terminateAll_lost unique
        (fun member inside => (accounted member inside).imp_left lists_aws_iff.mp) terminated
      obtain ⟨g, found, rfl⟩ := Option.map_eq_some_iff.mp known
      refine ⟨trivial, World.groupAt?_setAws (lost.mono ?_)⟩
      intro g₀ g' found₀ lost
      cases found.symm.trans found₀
      exact removed_aws lost enough
  | gce project polling cloud roster =>
      obtain ⟨site, deleted, rfl⟩ := World.onGce_cases run
      obtain ⟨c, ended, rfl⟩ := Site.onCloud_cases deleted
      have lost := Gce.Cloud.deleteAll_lost unique
        (fun member inside => (accounted member inside).imp_left lists_gce_iff.mp) ended
      obtain ⟨g, found, rfl⟩ := Option.map_eq_some_iff.mp known
      refine ⟨?_, World.groupAt?_setGce (lost.mono ?_)⟩
      · simp only [Unmixed, World.setGce, Slots.get_set_self]
        exact (Gce.Cloud.deleteAll_ok ended).1.trans unmixed
      · intro g₀ g' found₀ lost
        cases found.symm.trans found₀
        exact removed_gce lost enough

/-- No listing shows a member that was removed. -/
theorem unlisted_of_removed (unmixed : b.Unmixed w')
    (changed : ChangedAt (b.address group) (b.Removed members) w.holdingAt? w'.holdingAt?)
    (named : member ∈ members) {shown : List InstanceRef}
    (listed : b.members? w' group = some shown) : member ∉ shown := by
  intro inside
  obtain ⟨h, there, i, here, same⟩ := named_of_members? unmixed listed inside
  obtain ⟨before, -, removed⟩ := changed.before there
  rw [removed.instances, List.mem_filter, same] at here
  exact absurd (List.mem_map_of_mem named) (by simpa using here.2)

end Backend

namespace NodeGroup

variable {g : NodeGroup} {members : List InstanceRef} {w w' : World}

/-- What a removal that ends well has done. -/
theorem remove_removed (unique : g.backend.Unique w) (unmixed : g.backend.Unmixed w)
    (accurate : g.backend.Accurate w) (somebody : members ≠ [])
    (run : (g.remove members).runOn w = (.ok (), w')) :
    (w.holdingAt? g.address).isSome ∧ g.backend.Unmixed w' ∧
      ChangedAt g.address (g.backend.Removed members) w.holdingAt? w'.holdingAt? := by
  have course := remove_course run
  generalize ended : (Except.ok () : Except CloudError Unit) = r at course
  cases course with
  | idle nobody => exact absurd nobody somebody
  | stopped => cases ended
  | @deleted size m _ _ read spare consulted unfailed owned deletion =>
      subst ended
      obtain ⟨-, enough⟩ := canLose_iff.mp spare
      have seen := consulted.observed
      have known : g.size? w = some size := Backend.groupSize_ok (Prod.ext read rfl)
      have there : (w.holdingAt? g.address).isSome := by
        rw [← g.sizeAt?_address, World.sizeAt?_eq_map] at known
        rw [← Option.isSome_map, known]
        rfl
      have accurate' := Backend.Accurate.of_consulted unique unmixed accurate consulted
      obtain ⟨unmixed', changed⟩ := Backend.deleteAll_removed (unique.of_sameGroups seen.sameGroups)
        (unmixed.of_observed seen)
        (fun member inside => accurate' member g.id (owned member inside))
        ((seen.sameGroups.size? _ _).trans known) (by omega) deletion
      rw [World.holdingAt?, seen.sameGroups.groupAt?] at changed
      exact ⟨there, unmixed', changed⟩

/-- A removal that ends well takes the members that were named from its group and nothing else
from anywhere, and the size of the group drops by as many as have left it. Once the roster is
rebuilt, it has none of them in the group. -/
theorem remove_lost (unique : g.backend.Unique w) (unmixed : g.backend.Unmixed w)
    (accurate : g.backend.Accurate w) (run : (g.remove members).runOn w = (.ok (), w')) :
    (members ≠ [] → (w.holdingAt? g.address).isSome) ∧
    ChangedAt g.address (g.backend.Removed members) w.holdingAt? w'.holdingAt? ∧
    ∀ w'', g.backend.refresh.runOn w' = (.ok (), w'') → ∀ member ∈ members,
      (g.backend.roster w'').owner? member ≠ some g.id ∧
        ((g.backend.owner? member).runOn w'').1 ≠ .ok (some g.id) := by
  by_cases nobody : members = []
  · subst nobody
    cases run
    exact ⟨fun somebody => absurd rfl somebody, .refl Backend.removed_nobody _ _, by simp⟩
  · obtain ⟨there, unmixed', changed⟩ := remove_removed unique unmixed accurate nobody run
    refine ⟨fun _ => there, changed, ?_⟩
    intro w'' refreshed member named
    have fresh := Backend.fresh_of_refresh refreshed
    have forgotten : (g.backend.roster w'').owner? member ≠ some g.id := by
      intro owned
      obtain ⟨shown, listed, inside⟩ := fresh.listed owned
      rw [Backend.members?_observed _ (g.backend.consulted_refresh.of_runOn refreshed).observed]
        at listed
      exact Backend.unlisted_of_removed unmixed' changed named listed inside
    refine ⟨forgotten, ?_⟩
    rcases asked : (g.backend.owner? member).runOn w'' with ⟨r, m⟩
    rintro rfl
    obtain ⟨-, answer⟩ := Backend.owner?_cases asked
    exact forgotten (fresh.answer answer).1.symm

end NodeGroup

/-!
## A group whose roster is out of date

A managed instance group of two, and a roster that has one of them and an instance that was there
before. Of three members that are named one leaves.
-/

namespace Stale

def group : NodeGroup := ⟨.gce "p" {} 0 0, ⟨"z", "m"⟩, .small 1 9⟩

def cloud : Gce.Cloud where
  groups :=
    { entries := [(⟨"p", "z", "m"⟩, { target := 5, instances := ["x", "y"] })]
      nodup := by decide }

def world : World where
  gce := ⟨[cloud]⟩
  rosters :=
    ⟨[{ groups := [group.id], owners := [(⟨"z", "x"⟩, group.id), (⟨"z", "old"⟩, group.id)] }]⟩

/-- One member, named twice, and the instance that was there before. -/
def members : List InstanceRef := [⟨"z", "x"⟩, ⟨"z", "x"⟩, ⟨"z", "old"⟩]

def after : World := ((group.remove members).runOn world).2

theorem remove_members : (group.remove members).runOn world = (.ok (), after) :=
  Prod.ext (by decide +kernel) (by rw [after])

theorem found {key : Gce.GroupKey} {g : Gce.Group}
    (known : (world.gce.get 0).groups.find? key = some g) : g = ⟨5, ["x", "y"]⟩ := by
  obtain ⟨-, rfl⟩ : key = ⟨"p", "z", "m"⟩ ∧ g = _ := by
    simpa [world, Slots.get, cloud] using Directory.mem_entries_iff.mpr known
  rfl

theorem uniqueNames : group.backend.Unique world := by
  intro key g known
  cases found known
  decide

theorem accurate : group.backend.Accurate world := by
  intro member id owned
  have entry := Roster.mem_owners_of_owner? owned
  obtain ⟨rfl, rfl⟩ | ⟨rfl, rfl⟩ : member = ⟨"z", "x"⟩ ∧ id = group.id ∨
      member = ⟨"z", "old"⟩ ∧ id = group.id := by
    simpa [Backend.roster, group, Backend.rosterSlot, world, Slots.get] using entry
  · exact .inl ⟨⟨5, [⟨"z", "x"⟩, ⟨"z", "y"⟩]⟩, by decide, by decide⟩
  · refine .inr ⟨?_, Gce.instanceUrl "p" "z" "old", ?_⟩
    · intro key g known
      cases found known
      decide
    · exact Gce.readInstanceUrl_instanceUrl (by decide) (by decide) (by decide)

end Stale

theorem NodeGroup.remove_lost_stale : ChangedAt Stale.group.address
    (Stale.group.backend.Removed Stale.members) Stale.world.holdingAt? Stale.after.holdingAt? :=
  (NodeGroup.remove_lost Stale.uniqueNames rfl Stale.accurate Stale.remove_members).2.1

example : Stale.after.holdingAt? Stale.group.address = some ⟨4, [⟨"z", "y"⟩]⟩ := by decide +kernel

end Autoscaler
