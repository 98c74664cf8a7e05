import Autoscaler.Fleet.NodeGroup
import Autoscaler.Proofs.Aws.Instances
import Autoscaler.Proofs.Fleet.World
import Autoscaler.Proofs.Gce.Instances

/-!
# Ownership as backends tell it

Every question about owners goes through a backend: to its roster, and from there to the
listings of its control plane. Nothing but that roster changes, and what it knows in the end
it has known before or a listing shows it. A node group asks about all members before the
backend does the same once more, so deletions come behind two rounds of questions.
-/

namespace Autoscaler

open Autoscaler.Action (Keeps)

namespace Backend

/-- The roster of a backend. -/
def roster (b : Backend) (w : World) : Roster := w.rosters.get b.rosterSlot

/-- The members that a listing of a group shows, if there is one. -/
def members? : Backend → World → GroupId → Option (List InstanceRef)
  | aws cloud _, w => (w.aws.get cloud).members?
  | gce project _ cloud _, w => Gce.Cloud.members? project (w.gce.get cloud)

/-- The world after questions to a backend. -/
structure Consulted (b : Backend) (w w' : World) : Prop where
  observed : World.Observed w w'
  learns : Roster.Learns (b.members? w) (b.roster w) (b.roster w')
  others : ∀ n, n ≠ b.rosterSlot → w'.rosters.get n = w.rosters.get n

/-- Makes sure of each member in turn that it belongs to `group`. -/
def ensureMembers : Backend → GroupId → List InstanceRef → CloudM World Unit
  | aws cloud roster, group, members =>
      World.onAws cloud roster (Site.ensureMembers Aws.Cloud.listMembers group members)
  | gce project _ cloud roster, group, members =>
      World.onGce cloud roster (Site.ensureMembers (Gce.Cloud.listMembers project) group members)

/-- Deletes members, whoever owns them. -/
def deleteAll : Backend → GroupId → List InstanceRef → CloudM World Unit
  | aws cloud roster, _, members =>
      World.onAws cloud roster (Site.onCloud (Aws.Cloud.terminateAll members))
  | gce project polling cloud roster, group, members =>
      World.onGce cloud roster (Site.onCloud (Gce.Cloud.deleteAll project polling group members))

variable {b : Backend} {group : GroupId} {member : InstanceRef} {members : List InstanceRef}
  {w w' : World}

theorem members?_observed (b : Backend) (seen : World.Observed w w') :
    b.members? w' = b.members? w := by
  cases b with
  | aws cloud roster => exact Aws.Cloud.tells_listMembers.same (seen.aws cloud)
  | gce project polling cloud roster =>
      exact (Gce.Cloud.tells_listMembers project).same (seen.gce cloud)

instance (b : Backend) : IsPreorder World b.Consulted where
  refl w := ⟨refl_of World.Observed w, .refl _, fun _ _ => rfl⟩
  trans w m w' first rest := by
    refine ⟨trans_of World.Observed first.observed rest.observed, first.learns.trans ?_, ?_⟩
    · rw [← b.members?_observed first.observed]
      exact rest.learns
    · intro n elsewhere
      exact (rest.others n elsewhere).trans (first.others n elsewhere)

/-- The listings that a roster is rebuilt from do not change while a backend is consulted. -/
theorem Consulted.lists (consulted : b.Consulted w w') :
    Roster.Lists (b.members? w') (b.roster w') = Roster.Lists (b.members? w) (b.roster w) := by
  rw [b.members?_observed consulted.observed, consulted.learns.lists]

/-! ## Questions -/

@[simp] theorem roster_setAws (w : World) (cloud roster : Nat) (site : Site Aws.Cloud) :
    (aws cloud roster).roster (w.setAws cloud roster site) = site.roster :=
  Slots.get_set_self _ _ _

@[simp] theorem roster_setGce (w : World) (project : String) (polling : Gce.Polling)
    (cloud roster : Nat) (site : Site Gce.Cloud) :
    (gce project polling cloud roster).roster (w.setGce cloud roster site) = site.roster :=
  Slots.get_set_self _ _ _

theorem consulted_setAws {cloud roster : Nat} {site : Site Aws.Cloud}
    (consulted : (w.awsSite cloud roster).Consulted Aws.Cloud.Observed Aws.Cloud.members? site) :
    (aws cloud roster).Consulted w (w.setAws cloud roster site) where
  observed := ⟨Slots.get_set_of (refl_of Aws.Cloud.Observed) consulted.cloud,
    fun _ => refl_of Gce.Cloud.Observed _⟩
  learns := by
    rw [roster_setAws]
    exact consulted.learns
  others _ elsewhere := Slots.get_set_ne _ _ elsewhere

theorem consulted_setGce {project : String} {cloud roster : Nat} {site : Site Gce.Cloud}
    (consulted : (w.gceSite cloud roster).Consulted Gce.Cloud.Observed
      (Gce.Cloud.members? project) site) (polling : Gce.Polling) :
    (gce project polling cloud roster).Consulted w (w.setGce cloud roster site) where
  observed := ⟨fun _ => refl_of Aws.Cloud.Observed _,
    Slots.get_set_of (refl_of Gce.Cloud.Observed) consulted.cloud⟩
  learns := by
    rw [roster_setGce]
    exact consulted.learns
  others _ elsewhere := Slots.get_set_ne _ _ elsewhere

theorem groupSize_cases {r : Except CloudError Nat}
    (run : (b.groupSize group).runOn w = (r, w')) :
    b.Consulted w w' ∧ b.roster w' = b.roster w := by
  cases b with
  | aws cloud roster =>
      obtain ⟨site, asked, rfl⟩ := World.onAws_cases run
      obtain ⟨c, read, rfl⟩ := Site.onCloud_cases asked
      have seen := (Aws.Cloud.keeps_groupSize group).of_runOn read
      exact ⟨consulted_setAws (.of_cloud seen), roster_setAws _ _ _ _⟩
  | gce project polling cloud roster =>
      obtain ⟨site, asked, rfl⟩ := World.onGce_cases run
      obtain ⟨c, read, rfl⟩ := Site.onCloud_cases asked
      have seen := (Gce.Cloud.keeps_groupSize project group).of_runOn read
      exact ⟨consulted_setGce (.of_cloud seen) polling, roster_setGce _ _ _ _ _ _⟩

theorem consulted_refresh (b : Backend) : Keeps b.Consulted b.refresh := by
  intro w
  rcases run : b.refresh.runOn w with ⟨r, w'⟩
  cases b with
  | aws cloud roster =>
      obtain ⟨site, refreshed, rfl⟩ := World.onAws_cases run
      exact consulted_setAws (Aws.Cloud.tells_listMembers.keeps_refresh.of_runOn refreshed)
  | gce project polling cloud roster =>
      obtain ⟨site, refreshed, rfl⟩ := World.onGce_cases run
      exact consulted_setGce
        ((Gce.Cloud.tells_listMembers project).keeps_refresh.of_runOn refreshed) polling

/-- A backend answers from its roster, which it rebuilds from the listings there are. -/
theorem owner?_cases {r : Except CloudError (Option GroupId)}
    (run : (b.owner? member).runOn w = (r, w')) :
    b.Consulted w w' ∧ Roster.Answer (Roster.Lists (b.members? w) (b.roster w)) (b.roster w)
      member r (b.roster w') := by
  cases b with
  | aws cloud roster =>
      obtain ⟨site, looked, rfl⟩ := World.onAws_cases run
      obtain ⟨consulted, answer⟩ := Aws.Cloud.tells_listMembers.lookup_cases looked
      rw [roster_setAws]
      exact ⟨consulted_setAws consulted, answer⟩
  | gce project polling cloud roster =>
      obtain ⟨site, looked, rfl⟩ := World.onGce_cases run
      obtain ⟨consulted, answer⟩ := (Gce.Cloud.tells_listMembers project).lookup_cases looked
      rw [roster_setGce]
      exact ⟨consulted_setGce consulted polling, answer⟩

theorem ensureMembers_cases {r : Except CloudError Unit}
    (run : (b.ensureMembers group members).runOn w = (r, w')) :
    b.Consulted w w' ∧ (r = .ok () → Roster.Confirms
      (Roster.Lists (b.members? w) (b.roster w)) group (b.roster w) members (b.roster w')) := by
  cases b with
  | aws cloud roster =>
      obtain ⟨site, ensured, rfl⟩ := World.onAws_cases run
      obtain ⟨consulted, confirms⟩ := Aws.Cloud.tells_listMembers.ensureMembers_cases ensured
      rw [roster_setAws]
      exact ⟨consulted_setAws consulted, confirms⟩
  | gce project polling cloud roster =>
      obtain ⟨site, ensured, rfl⟩ := World.onGce_cases run
      obtain ⟨consulted, confirms⟩ :=
        (Gce.Cloud.tells_listMembers project).ensureMembers_cases ensured
      rw [roster_setGce]
      exact ⟨consulted_setGce consulted polling, confirms⟩

/-! ## Deletions -/

/-- Members are deleted behind a round of questions about all of them. -/
theorem deleteMembers_eq (b : Backend) (group : GroupId) (some_member : members ≠ []) :
    b.deleteMembers group members =
      b.ensureMembers group members >>= fun _ => b.deleteAll group members := by
  cases b with
  | aws cloud roster =>
      rw [deleteMembers, Aws.deleteMembers, if_neg some_member, World.onAws_bind]
      rfl
  | gce project polling cloud roster =>
      rw [deleteMembers, Gce.deleteMembers, if_neg some_member, World.onGce_bind]
      rfl

/-- Deletions leave all rosters as they are, and no check of a caller can fail any more. -/
theorem deleteAll_cases {r : Except CloudError Unit}
    (run : (b.deleteAll group members).runOn w = (r, w')) :
    (∀ n, w'.rosters.get n = w.rosters.get n) ∧ ∀ e, r = .error e → e.isRefusal = false := by
  cases b with
  | aws cloud roster =>
      obtain ⟨site, deleted, rfl⟩ := World.onAws_cases run
      obtain ⟨c, terminated, rfl⟩ := Site.onCloud_cases deleted
      refine ⟨Slots.get_set_get _ _, ?_⟩
      rintro e rfl
      obtain ⟨-, ended | ⟨message, failed⟩⟩ := Aws.Cloud.terminateAll_cases terminated
      · cases ended
      · cases failed
        rfl
  | gce project polling cloud roster =>
      obtain ⟨site, deleted, rfl⟩ := World.onGce_cases run
      obtain ⟨c, ended, rfl⟩ := Site.onCloud_cases deleted
      refine ⟨Slots.get_set_get _ _, ?_⟩
      obtain ⟨-, -, failed⟩ := Gce.Cloud.deleteAll_cases ended
      exact failed

end Backend

namespace NodeGroup

variable {g : NodeGroup} {members : List InstanceRef} {w w' : World}

/-- Making sure that a group owns members is a round of questions to its backend. -/
theorem ensureOwns_eq_round (g : NodeGroup) (members : List InstanceRef) :
    g.ensureOwns members =
      Roster.round g.backend.owner? (.foreignMember g.url) g.id members := by
  induction members with
  | nil => rfl
  | cons member members ih =>
      rw [ensureOwns, owns, bind_assoc, ih, Roster.round]
      congr
      funext owner
      cases owner <;> simp

theorem ensureOwns_cases {r : Except CloudError Unit}
    (run : (g.ensureOwns members).runOn w = (r, w')) :
    g.backend.Consulted w w' ∧ (r = .ok () → Roster.Confirms
      (Roster.Lists (g.backend.members? w) (g.backend.roster w)) g.id (g.backend.roster w) members
      (g.backend.roster w')) := by
  rw [ensureOwns_eq_round] at run
  refine Roster.round_cases (R := g.backend.Consulted) g.backend.roster
    (fun now => Roster.Lists (g.backend.members? now) (g.backend.roster now)) ?_ ?_ run
  · intro now later consulted
    exact consulted.lists
  · intro now member answer later asked
    exact Backend.owner?_cases asked

end NodeGroup

end Autoscaler
