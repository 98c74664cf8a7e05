import Autoscaler.Proofs.Aws.Instances
import Autoscaler.Proofs.Gce.Instances

/-!
# What a round of lookups has confirmed

A round that ends well has found each member in its group, but not all at one time: when a
later member is unknown, the roster is rebuilt, and may then know another owner of a member
that was confirmed before. Every member that no such rebuild has overtaken is known to belong
to the group when the round ends, and when deletions that come behind it are made. An
overtaken member can be terminated although the roster has it in another group.
-/

namespace Autoscaler

namespace Site

variable {κ : Type} {list : Lister κ} {group : GroupId} {site site' : Site κ}
  {members : List InstanceRef}

/-- Behind this member there is one that was unknown when it was looked up. -/
def Overtaken (list : Lister κ) (group : GroupId) (site : Site κ) (members : List InstanceRef)
    (member : InstanceRef) : Prop :=
  ∃ before later after m, members = before ++ later :: after ∧ member ∈ before ∧
    (ensureMembers list group before).runOn site = (.ok (), m) ∧ m.roster.owner? later = none

/-- Every member belongs to the group, as far as the roster of `site'` knows, but for those that
a rebuild has overtaken. -/
def Confirmed (list : Lister κ) (group : GroupId) (members : List InstanceRef)
    (site site' : Site κ) : Prop :=
  ∀ member ∈ members, site'.roster.owner? member = some group ∨
    Overtaken list group site members member

/-- A round goes on behind its first member with the site that the lookup has left. -/
theorem ensureMembers_cons {member : InstanceRef} {m : Site κ}
    (looked : (lookup list member).runOn site = (.ok (some group), m)) :
    (ensureMembers list group (member :: members)).runOn site =
      (ensureMembers list group members).runOn m := by
  rw [ensureMembers, Action.runOn_bind_ok looked]
  simp only [if_pos]

theorem ensureMembers_cons_ok {member : InstanceRef}
    (run : (ensureMembers list group (member :: members)).runOn site = (.ok (), site')) :
    ∃ m, (lookup list member).runOn site = (.ok (some group), m) ∧
      (ensureMembers list group members).runOn m = (.ok (), site') := by
  obtain ⟨owner, m, looked, rest⟩ := Action.bind_ok_cases run
  cases owner with
  | none => cases rest
  | some owner =>
      dsimp only at rest
      split at rest
      · next same =>
          subst same
          exact ⟨m, looked, rest⟩
      · cases rest

theorem Overtaken.cons {member other : InstanceRef} {m : Site κ}
    (looked : (lookup list other).runOn site = (.ok (some group), m))
    (overtaken : Overtaken list group m members member) :
    Overtaken list group site (other :: members) member := by
  obtain ⟨before, later, after, m', rfl, behind, run, unknown⟩ := overtaken
  exact ⟨other :: before, later, after, m', rfl, List.mem_cons_of_mem _ behind,
    (ensureMembers_cons looked).trans run, unknown⟩

/-- A round leaves the roster as it was, unless one of its members was unknown. -/
theorem ensureMembers_roster
    (run : (ensureMembers list group members).runOn site = (.ok (), site')) :
    site'.roster = site.roster ∨ ∃ before later after m, members = before ++ later :: after ∧
      (ensureMembers list group before).runOn site = (.ok (), m) ∧
      m.roster.owner? later = none := by
  induction members generalizing site with
  | nil =>
      cases run
      exact .inl rfl
  | cons member members ih =>
      obtain ⟨m, looked, rest⟩ := ensureMembers_cons_ok run
      have answer := lookup_cases looked
      generalize found : (Except.ok (some group) : Except CloudError (Option GroupId)) = r,
        left : m.roster = roster at answer
      cases answer with
      | known =>
          obtain same | ⟨before, later, after, m', rfl, run', unknown⟩ := ih rest
          · exact .inl (same.trans left)
          · exact .inr ⟨member :: before, later, after, m', rfl,
              (ensureMembers_cons looked).trans run', unknown⟩
      | rebuilt unknown => exact .inr ⟨[], member, members, site, rfl, rfl, unknown⟩
      | outside => cases found
      | failed => cases found

theorem ensureMembers_confirmed
    (run : (ensureMembers list group members).runOn site = (.ok (), site')) :
    Confirmed list group members site site' := by
  induction members generalizing site with
  | nil => simp [Confirmed]
  | cons first members ih =>
      obtain ⟨m, looked, rest⟩ := ensureMembers_cons_ok run
      intro member inside
      obtain rfl | inside := List.mem_cons.mp inside
      · obtain same | ⟨before, later, after, m', rfl, run', unknown⟩ := ensureMembers_roster rest
        · rw [same]
          exact .inl (lookup_cases looked).owned
        · exact .inr ⟨member :: before, later, after, m', rfl, List.mem_cons_self,
            (ensureMembers_cons looked).trans run', unknown⟩
      · obtain owned | overtaken := ih rest member inside
        · exact .inl owned
        · exact .inr (overtaken.cons looked)

end Site

/-! ## Deletions behind a round -/

namespace Site

/-- A round over the members has ended well, and its roster is still there in the end. -/
def ConfirmedBefore {κ : Type} (list : Lister κ) (group : GroupId) (members : List InstanceRef)
    (site site' : Site κ) : Prop :=
  ∃ m, (ensureMembers list group members).runOn site = (.ok (), m) ∧ site'.roster = m.roster ∧
    Confirmed list group members site m

end Site

theorem Aws.deleteMembers_confirmed {group : GroupId} {members : List InstanceRef}
    {site site' : Site Aws.Cloud} {r : Except CloudError Unit}
    (run : (Aws.deleteMembers group members).runOn site = (r, site')) :
    site.cloud.traffic.Extends (fun call => call.kind = .delete →
      Site.ConfirmedBefore Cloud.listMembers group members site site' ∧
        ∃ member ∈ members, call = .terminateInstance member.name true) site'.cloud.traffic := by
  rw [deleteMembers] at run
  split at run
  · cases run
    exact .refl _
  · have asked := Site.keeps_ensureMembers Cloud.keeps_listMembers group members
    obtain ⟨e, failed, -⟩ | ⟨m, cloud, ensured, ended, rfl⟩ :=
      Site.ensureMembers_onCloud_cases run
    · obtain ⟨traffic, asks, left⟩ := asked.of_runOn failed
      rw [left]
      exact asks.longer.mono fun call ask delete => by cases ask.symm.trans delete
    · obtain ⟨traffic, asks, left⟩ := asked.of_runOn ensured
      obtain ⟨sent, -⟩ := Cloud.terminateAll_cases ended
      rw [left] at sent
      refine .trans (asks.longer.mono ?_) (sent.mono ?_)
      · intro call ask delete
        cases ask.symm.trans delete
      · intro call named _
        exact ⟨⟨m, ensured, rfl, Site.ensureMembers_confirmed ensured⟩, named⟩

theorem Gce.deleteMembers_confirmed {project : String} {polling : Gce.Polling} {group : GroupId}
    {members : List InstanceRef} {site site' : Site Gce.Cloud} {r : Except CloudError Unit}
    (run : (Gce.deleteMembers project polling group members).runOn site = (r, site')) :
    site.cloud.traffic.Extends (fun call => call.kind = .delete →
      Site.ConfirmedBefore (Cloud.listMembers project) group members site site' ∧
        call = .deleteInstances ⟨project, group.zone, group.name⟩ (Cloud.urlsOf project members))
      site'.cloud.traffic := by
  rw [deleteMembers] at run
  split at run
  · cases run
    exact .refl _
  · have asked := Site.keeps_ensureMembers (Cloud.keeps_listMembers project) group members
    obtain ⟨e, failed, -⟩ | ⟨m, cloud, ensured, ended, rfl⟩ :=
      Site.ensureMembers_onCloud_cases run
    · obtain ⟨traffic, asks, left⟩ := asked.of_runOn failed
      rw [left]
      exact asks.longer.mono fun call ask delete => by cases ask.symm.trans delete
    · obtain ⟨traffic, asks, left⟩ := asked.of_runOn ensured
      obtain ⟨⟨reached, later⟩, -, -⟩ := Cloud.deleteAll_cases ended
      rw [left] at later
      refine .trans (asks.longer.mono ?_) (.trans (.record ?_ traffic reached) (later.longer.mono ?_))
      · intro call ask delete
        cases ask.symm.trans delete
      · intro _
        exact ⟨⟨m, ensured, rfl, Site.ensureMembers_confirmed ensured⟩, rfl⟩
      · intro call ask delete
        cases ask.symm.trans delete

/-- A round that ends well confirms every member that no rebuild has overtaken, whatever lists
members, and both kinds of deletions are made for the members of such a round alone. -/
theorem members_confirmed (group : GroupId) (members : List InstanceRef) :
    (∀ (κ : Type) (list : Site.Lister κ) (site site' : Site κ),
      (Site.ensureMembers list group members).runOn site = (.ok (), site') →
      Site.Confirmed list group members site site') ∧
    (∀ (site site' : Site Aws.Cloud) (r : Except CloudError Unit),
      (Aws.deleteMembers group members).runOn site = (r, site') →
      site.cloud.traffic.Extends (fun call => call.kind = .delete →
        Site.ConfirmedBefore Aws.Cloud.listMembers group members site site' ∧
          ∃ member ∈ members, call = .terminateInstance member.name true) site'.cloud.traffic) ∧
    (∀ (project : String) (polling : Gce.Polling) (site site' : Site Gce.Cloud)
        (r : Except CloudError Unit),
      (Gce.deleteMembers project polling group members).runOn site = (r, site') →
      site.cloud.traffic.Extends (fun call => call.kind = .delete →
        Site.ConfirmedBefore (Gce.Cloud.listMembers project) group members site site' ∧
          call = .deleteInstances ⟨project, group.zone, group.name⟩
            (Gce.Cloud.urlsOf project members)) site'.cloud.traffic) := by
  refine ⟨?_, ?_, ?_⟩
  · intro κ list site site' run
    exact Site.ensureMembers_confirmed run
  · intro site site' r run
    exact Aws.deleteMembers_confirmed run
  · intro project polling site site' r run
    exact Gce.deleteMembers_confirmed run

/-!
## An instance that moved

The roster still has the first instance in a group that it has left, and does not know the
second one, which has come to that group instead.
-/

namespace Moved

def here : GroupId := ⟨"z", "g"⟩

def there : GroupId := ⟨"z", "h"⟩

def members : List InstanceRef := [⟨"z", "a"⟩, ⟨"z", "b"⟩]

def site : Site Aws.Cloud where
  cloud :=
    { groups :=
        { entries := [("g", { desired := 2, instances := [⟨"b", "z"⟩] }),
            ("h", { desired := 1, instances := [⟨"a", "z"⟩] })]
          nodup := by decide } }
  roster :=
    { groups := [here, there]
      owners := [(⟨"z", "a"⟩, here)]
      entries := 1
      refreshes := 1
      refreshed := true }

/-- The site after a round over both members. -/
def confirmed : Site Aws.Cloud :=
  ((Site.ensureMembers Aws.Cloud.listMembers here members).runOn site).2

/-- The site after both members were deleted. -/
def deleted : Site Aws.Cloud := ((Aws.deleteMembers here members).runOn site).2

theorem ensureMembers_site :
    (Site.ensureMembers Aws.Cloud.listMembers here members).runOn site = (.ok (), confirmed) :=
  Prod.ext (by rfl) rfl

theorem deleteMembers_site : (Aws.deleteMembers here members).runOn site = (.ok (), deleted) :=
  Prod.ext (by rfl) rfl

end Moved

theorem members_confirmed_moved :
    Site.Confirmed Aws.Cloud.listMembers Moved.here Moved.members Moved.site Moved.confirmed ∧
      Moved.confirmed.roster.owner? ⟨"z", "b"⟩ = some Moved.here :=
  ⟨(members_confirmed _ _).1 _ _ _ _ Moved.ensureMembers_site, by rfl⟩

/-- A round can end well although the roster that it leaves has a member in another group, and
that member is terminated then. -/
theorem moved_member_terminated :
    (¬ ∀ (κ : Type) (list : Site.Lister κ) (group : GroupId) (members : List InstanceRef)
        (site site' : Site κ),
      (Site.ensureMembers list group members).runOn site = (.ok (), site') →
      ∀ member ∈ members, site'.roster.owner? member = some group) ∧
    ¬ ∀ (group : GroupId) (members : List InstanceRef) (site site' : Site Aws.Cloud)
        (r : Except CloudError Unit),
      (Aws.deleteMembers group members).runOn site = (r, site') →
      site.cloud.traffic.Extends (fun call => call.kind = .delete →
        ∃ member ∈ members, call = .terminateInstance member.name true ∧
          site'.roster.owner? member = some group) site'.cloud.traffic := by
  constructor
  · intro claim
    have owned := claim _ _ _ _ _ _ Moved.ensureMembers_site ⟨"z", "a"⟩ (by decide)
    exact absurd owned (by decide)
  · intro claim
    obtain ⟨more, sent, named⟩ := claim _ _ _ _ _ Moved.deleteMembers_site
    have last : ⟨.terminateInstance "a" true, true⟩ ∈ more := by
      have all : more = Moved.deleted.cloud.traffic.sent := by
        rw [sent]
        exact (List.append_nil more).symm
      rw [all]
      decide
    obtain ⟨member, inside, same, owned⟩ := named _ last rfl
    obtain rfl | rfl : member = ⟨"z", "a"⟩ ∨ member = ⟨"z", "b"⟩ := by
      simpa [Moved.members] using inside
    · exact absurd owned (by decide)
    · exact absurd same (by decide)

end Autoscaler
