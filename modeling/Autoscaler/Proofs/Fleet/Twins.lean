import Autoscaler.Proofs.Aws.Twins
import Autoscaler.Proofs.Fleet.Steady
import Autoscaler.Proofs.Gce.Twins

/-!
# Worlds seen twice

Two worlds are twins if their control planes are and their rosters know the same. No backend can
tell twins apart, whether it asks or sets sizes. A world that was only asked is a twin of itself
before, as long as its rosters have learned nothing: that is so if they know what complete
listings would show. A roster that cannot be rebuilt, since some group has no listing or its
control plane is down, may know anything.
-/

namespace Autoscaler

open Autoscaler.Action (Agree Blind Constant Parallel)

namespace Roster

variable {told : GroupId → Option (List InstanceRef)} {roster roster' after : Roster}
  {member : InstanceRef}

theorem Alike.symm (alike : Alike roster after) : Alike after roster :=
  ⟨alike.groups.symm, alike.owners.symm⟩

theorem Alike.covers (alike : Alike roster after) (member : InstanceRef) :
    after.covers member = roster.covers member := by
  rw [Roster.covers, alike.groups, Roster.covers]

theorem Alike.failed (alike : Alike roster after) : Alike roster.failed after.failed :=
  ⟨alike.groups, alike.owners⟩

theorem Alike.rebuilt (alike : Alike roster after) (listings : Listings) :
    Alike (roster.rebuilt listings) (after.rebuilt listings) :=
  ⟨alike.groups, rfl⟩

/-- The roster knows what complete listings show, if there are any. -/
def Settled (told : GroupId → Option (List InstanceRef)) (roster : Roster) : Prop :=
  ∀ listings, Lists told roster listings → roster.owners = ownersOf listings

theorem Fresh.settled (fresh : Fresh told roster) : Settled told roster := by
  obtain ⟨listings, lists, known⟩ := fresh
  intro listings' lists'
  rw [lists.steady lists', known]

theorem Settled.alike (settled : Settled told roster) (alike : Alike roster after) :
    Settled told after := by
  intro listings lists
  rw [Lists, alike.groups] at lists
  exact alike.owners.trans (settled listings lists)

/-- No answer teaches a settled roster anything. -/
theorem Settled.answer (settled : Settled told roster) {r : Except CloudError (Option GroupId)}
    (answer : Answer (Lists told roster) roster member r after) : Alike roster after := by
  cases answer with
  | known => exact refl_of Alike _
  | outside => exact refl_of Alike _
  | rebuilt _ _ listings complete => exact ⟨rfl, (settled listings complete).symm⟩
  | failed => exact ⟨rfl, rfl⟩

end Roster

namespace Site

variable {κ α : Type} {R : κ → κ → Prop} {list : Lister κ}

/-- The control planes are related, and the rosters know the same. -/
structure Twin (R : κ → κ → Prop) (site site' : Site κ) : Prop where
  cloud : R site.cloud site'.cloud
  roster : site.roster.Alike site'.roster

theorem blind_onCloud {act : CloudM κ α} (blind : Blind R act) : Blind (Twin R) (onCloud act) :=
  .zoom blind (fun _ _ twin => twin.cloud) fun _ _ _ _ twin related => ⟨related, twin.roster⟩

theorem blind_listAll (lists : ∀ group, Blind R (list group)) (groups : List GroupId) :
    Blind R (listAll list groups) := by
  induction groups with
  | nil => exact .pure _
  | cons group groups ih => exact .bind (lists group) fun _ => .bind ih fun _ => .pure _

theorem blind_refresh (lists : ∀ group, Blind R (list group)) :
    Blind (Twin R) (refresh list) := by
  intro site site' twin
  obtain ⟨agree, onward⟩ := blind_listAll lists site.roster.groups _ _ twin.cloud
  simp only [refresh, Action.runOn_ofFn, twin.roster.groups]
  rcases run : (listAll list site.roster.groups).runOn site.cloud with ⟨r, c⟩
  rcases run' : (listAll list site.roster.groups).runOn site'.cloud with ⟨r', c'⟩
  rw [run, run'] at agree onward
  cases agree.eq
  cases r with
  | ok listings => exact ⟨.ok rfl, onward, twin.roster.rebuilt listings⟩
  | error e => exact ⟨.error rfl, onward, twin.roster.failed⟩

theorem blind_lookup (lists : ∀ group, Blind R (list group)) (member : InstanceRef) :
    Blind (Twin R) (lookup list member) := by
  refine .get_bind ?_
  intro site site' twin
  simp only [twin.roster.owner? member, twin.roster.covers member]
  split
  · exact .pure rfl
  · split
    · refine Blind.bind (blind_refresh lists) fun _ => .get_bind ?_
      intro site site' twin
      rw [twin.roster.owner? member]
      exact .pure rfl
    · exact .pure rfl

end Site

namespace World

/-- Control planes are twins, and rosters know the same. -/
structure Twin (w w' : World) : Prop where
  aws : ∀ n, (w.aws.get n).Twin (w'.aws.get n)
  gce : ∀ n, (w.gce.get n).Twin (w'.gce.get n)
  rosters : ∀ n, (w.rosters.get n).Alike (w'.rosters.get n)

/-- Whether calls to a control plane fail does not depend on how many were made before. -/
structure Uniform (w : World) : Prop where
  aws : ∀ n, (w.aws.get n).Uniform
  gce : ∀ n, (w.gce.get n).Uniform

variable {α : Type} {w w' : World}

/-- Control planes that nothing is known of are idle. -/
theorem Uniform.of_items (aws : ∀ c ∈ w.aws.items, c.Uniform) (gce : ∀ c ∈ w.gce.items, c.Uniform) :
    w.Uniform := by
  constructor
  · intro n
    obtain idle | member := w.aws.get_cases n
    · rw [idle]
      exact ⟨false, fun _ _ => rfl⟩
    · exact aws _ member
  · intro n
    obtain idle | member := w.gce.get_cases n
    · rw [idle]
      exact ⟨false, fun _ _ => rfl⟩
    · exact gce _ member

theorem Twin.symm (twin : Twin w w') : Twin w' w :=
  ⟨fun n => (twin.aws n).symm, fun n => (twin.gce n).symm, fun n => (twin.rosters n).symm⟩

instance : IsTrans World Twin where
  trans _ _ _ first rest :=
    ⟨fun n => trans_of Aws.Cloud.Twin (first.aws n) (rest.aws n),
      fun n => trans_of Gce.Cloud.Twin (first.gce n) (rest.gce n),
      fun n => trans_of Roster.Alike (first.rosters n) (rest.rosters n)⟩

theorem Twin.sameGroups (twin : Twin w w') : SameGroups w w' :=
  ⟨fun n => (twin.aws n).groups, fun n => (twin.gce n).groups⟩

theorem Twin.uniform (twin : Twin w w') : w'.Uniform :=
  ⟨fun n => (twin.aws n).uniform, fun n => (twin.gce n).uniform⟩

theorem Observed.twin (seen : Observed w w') (uniform : w.Uniform)
    (rosters : ∀ n, (w.rosters.get n).Alike (w'.rosters.get n)) : Twin w w' :=
  ⟨fun n => (seen.aws n).twin (uniform.aws n), fun n => (seen.gce n).twin (uniform.gce n), rosters⟩

theorem Uniform.twin (uniform : w.Uniform) : Twin w w :=
  (refl_of Observed w).twin uniform fun _ => refl_of Roster.Alike _

theorem blind_onAws {act : CloudM (Site Aws.Cloud) α}
    (blind : Blind (Site.Twin Aws.Cloud.Twin) act) (cloud roster : Nat) :
    Blind Twin (onAws cloud roster act) := by
  refine .zoom blind (fun w w' twin => ⟨twin.aws cloud, twin.rosters roster⟩) ?_
  intro w w' site site' twin changed
  exact ⟨Slots.get_set_set twin.aws changed.cloud cloud, twin.gce,
    Slots.get_set_set twin.rosters changed.roster roster⟩

theorem blind_onGce {act : CloudM (Site Gce.Cloud) α}
    (blind : Blind (Site.Twin Gce.Cloud.Twin) act) (cloud roster : Nat) :
    Blind Twin (onGce cloud roster act) := by
  refine .zoom blind (fun w w' twin => ⟨twin.gce cloud, twin.rosters roster⟩) ?_
  intro w w' site site' twin changed
  exact ⟨twin.aws, Slots.get_set_set twin.gce changed.cloud cloud,
    Slots.get_set_set twin.rosters changed.roster roster⟩

end World

namespace Backend

variable {b : Backend} {id : GroupId} {member : InstanceRef} {w w' : World}

/-! ## Backends cannot tell twins apart -/

theorem blind_owner? (b : Backend) (member : InstanceRef) :
    Blind World.Twin (b.owner? member) := by
  cases b with
  | aws cloud roster =>
      exact World.blind_onAws (Site.blind_lookup Aws.Cloud.blind_listMembers member) cloud roster
  | gce project polling cloud roster =>
      exact World.blind_onGce (Site.blind_lookup (Gce.Cloud.blind_listMembers project) member)
        cloud roster

theorem blind_groupSize (b : Backend) (id : GroupId) : Blind World.Twin (b.groupSize id) := by
  cases b with
  | aws cloud roster =>
      exact World.blind_onAws (Site.blind_onCloud (Aws.Cloud.blind_groupSize id)) cloud roster
  | gce project polling cloud roster =>
      exact World.blind_onGce (Site.blind_onCloud (Gce.Cloud.blind_groupSize project id)) cloud
        roster

theorem blind_setGroupSize (b : Backend) (id : GroupId) (size : Nat) :
    Blind World.Twin (b.setGroupSize id size) := by
  cases b with
  | aws cloud roster =>
      exact World.blind_onAws (Site.blind_onCloud (Aws.Cloud.blind_setGroupSize id size)) cloud
        roster
  | gce project polling cloud roster =>
      exact World.blind_onGce
        (Site.blind_onCloud (Gce.Cloud.blind_setGroupSize project polling id size)) cloud roster

/-- Whatever size is set, the caller is told the same. -/
theorem setGroupSize_told (b : Backend) (id : GroupId) (size size' : Nat) (w : World) :
    ((b.setGroupSize id size).runOn w).1 = ((b.setGroupSize id size').runOn w).1 := by
  cases b with
  | aws cloud roster =>
      exact (Aws.Cloud.abreast_setGroupSize id size size' _ _ (.refl (w.aws.get cloud))).1.eq
  | gce project polling cloud roster =>
      exact (Gce.Cloud.abreast_setGroupSize project polling id size size' _ _
        (.refl (w.gce.get cloud))).1.eq

/-! ## Questions that leave a twin -/

theorem members?_twin (b : Backend) (twin : World.Twin w w') : b.members? w' = b.members? w := by
  cases b with
  | aws cloud roster =>
      obtain ⟨traffic, -, same⟩ := twin.aws cloud
      rw [members?, members?, same]
      rfl
  | gce project polling cloud roster =>
      obtain ⟨traffic, -, same⟩ := twin.gce cloud
      rw [members?, members?, same]
      rfl

/-- The roster of the backend knows what complete listings show, if there are any. -/
def Settled (b : Backend) (w : World) : Prop := (b.roster w).Settled (b.members? w)

theorem Settled.twin (settled : b.Settled w) (twin : World.Twin w w') : b.Settled w' := by
  rw [Settled, b.members?_twin twin]
  exact Roster.Settled.alike settled (twin.rosters b.rosterSlot)

theorem Consulted.twin (consulted : b.Consulted w w') (uniform : w.Uniform)
    (alike : (b.roster w).Alike (b.roster w')) : World.Twin w w' := by
  apply consulted.observed.twin uniform
  intro n
  by_cases here : n = b.rosterSlot
  · rwa [here]
  · rw [consulted.others n here]
    exact refl_of Roster.Alike _

/-- Asking for an owner always has the same answer. -/
theorem constant_owner?_settled (settled : b.Settled w) (member : InstanceRef) :
    Constant (World.Twin w) (b.owner? member) := by
  apply (b.blind_owner? member).constant
  intro m twin
  rcases run : (b.owner? member).runOn m with ⟨r, m'⟩
  obtain ⟨consulted, answer⟩ := owner?_cases run
  exact consulted.twin twin.uniform (Roster.Settled.answer (settled.twin twin) answer)

/-- Asking for a size always has the same answer. -/
theorem constant_groupSize (b : Backend) (id : GroupId) (w : World) :
    Constant (World.Twin w) (b.groupSize id) := by
  apply (b.blind_groupSize id).constant
  intro m twin
  rcases run : (b.groupSize id).runOn m with ⟨r, m'⟩
  obtain ⟨consulted, same⟩ := groupSize_cases run
  apply consulted.twin twin.uniform
  rw [same]
  exact refl_of Roster.Alike _

end Backend

namespace NodeGroup

variable {g : NodeGroup} {w w' : World}

theorem blind_currentSize (g : NodeGroup) : Blind World.Twin g.currentSize :=
  g.backend.blind_groupSize g.id

theorem blind_resize (g : NodeGroup) (size : Nat) : Blind World.Twin (g.resize size) :=
  .bind (g.backend.blind_setGroupSize g.id _) fun _ => .pure _

/-- A resize to another size ends the same way. -/
theorem resize_alike {size size' : Nat} {r r' : Except CloudError Nat} {m m' : World}
    (run : (g.resize size).runOn w = (r, m)) (run' : (g.resize size').runOn w = (r', m')) :
    Agree Eq (fun _ _ => True) r r' := by
  have told := g.backend.setGroupSize_told g.id (min size g.bounds.max) (min size' g.bounds.max) w
  obtain ⟨_, _, set, ended⟩ | ⟨e, set, rfl⟩ := Action.bind_cases run
  · obtain ⟨_, _, -, ended'⟩ | ⟨e, set', -⟩ := Action.bind_cases run'
    · cases ended
      cases ended'
      exact .ok trivial
    · rw [set, set'] at told
      cases told
  · obtain ⟨_, _, set', -⟩ | ⟨e', set', rfl⟩ := Action.bind_cases run'
    · rw [set, set'] at told
      cases told
    · rw [set, set'] at told
      cases told
      exact .error rfl

theorem constant_canGrow (g : NodeGroup) (w : World) : Constant (World.Twin w) g.canGrow :=
  .bind (g.backend.constant_groupSize g.id w) fun _ => .pure _

end NodeGroup

end Autoscaler
