import Autoscaler.Proofs.Roster.Tasks
import Autoscaler.Roster.Script
import Mathlib.Tactic.Choose

/-!
# What a lookup does

A lookup ends in one of four ways: the instance is known, it lies in no zone of a group, a
rebuild finds who lists it, or a listing fails. Each way fixes the answer, the site that is left
and the listings that were asked for, in order. No listing is left out of this account: each call
starts from the control plane that the one before it has left, and the site keeps what the last
call has left, whatever control plane and lister these are.

A rebuild replaces all that the roster knows, so the answer to a second lookup does not come from
what led to the first one. It is the same nevertheless if listings do not change.
-/

namespace Autoscaler

namespace Roster

/-- The roster holds what listings show in place of what it held before. -/
structure Replaces (listings : Listings) (roster after : Roster) : Prop where
  groups : after.groups = roster.groups
  owner : ∀ member, after.owner? member = lastLister? listings member
  distinct : (after.owners.map Prod.fst).Nodup
  entries : after.entries = after.owners.length
  refreshes : after.refreshes = roster.refreshes + 1
  failures : after.failures = roster.failures
  refreshed : after.refreshed

theorem replaces_rebuilt (roster : Roster) (listings : Listings) :
    Replaces listings roster (roster.rebuilt listings) where
  groups := rfl
  owner := owner?_rebuilt roster listings
  distinct := nodup_ownersOf listings
  entries := rfl
  refreshes := rfl
  failures := rfl
  refreshed := rfl

namespace Attempt

theorem map_fst_answered (listings : Listings) :
    (answered listings).map Prod.fst = listings.map Prod.fst := by
  simp [answered]

/-- Attempts over the same groups with the same answers are those of the same listings. -/
theorem answered_inj {told : GroupId → Except CloudError (List InstanceRef)}
    {listings listings' : Listings} (read : ∀ e ∈ answered listings, e.2 = told e.1)
    (read' : ∀ e ∈ answered listings', e.2 = told e.1)
    (groups : listings'.map Prod.fst = listings.map Prod.fst) : listings' = listings := by
  have told_of {attempt : Attempt} (read : ∀ e ∈ attempt, e.2 = told e.1) :
      attempt = (attempt.map Prod.fst).map fun group => (group, told group) := by
    rw [List.map_map]
    exact (List.map_id attempt).symm.trans
      (List.map_congr_left fun e inside => Prod.ext rfl (read e inside))
  have same : answered listings' = answered listings := by
    rw [told_of read, told_of read', map_fst_answered, map_fst_answered, groups]
  have complete := listings?_answered listings'
  rw [same, listings?_answered] at complete
  exact (Option.some.inj complete).symm

end Attempt

theorem covers_iff {roster : Roster} {member : InstanceRef} :
    roster.covers member ↔ ∃ group ∈ roster.groups, group.zone = member.zone := by
  simp [covers]

end Roster

namespace Site

open Autoscaler.Action (Constant)
open Roster (Attempt Replaces lastLister?)

variable {κ : Type}

/-! ## Calls for listings -/

/-- Listings are asked for one after the other, each answered from the control plane that the
call before it has left. -/
inductive Asks (list : Lister κ) : κ → Attempt → κ → Prop where
  | nil (cloud : κ) : Asks list cloud [] cloud
  | cons {c m c' : κ} {group : GroupId} {answer : Except CloudError (List InstanceRef)}
      {attempt : Attempt} (call : (list group).runOn c = (answer, m))
      (rest : Asks list m attempt c') : Asks list c ((group, answer) :: attempt) c'

/-- What a lookup does to a site: the listings that it asks for, its answer and the site that it
leaves. -/
inductive Looks (list : Lister κ) (member : InstanceRef) (site : Site κ) :
    Attempt → Except CloudError (Option GroupId) → Site κ → Prop where
  | known (group : GroupId) (owned : site.roster.owner? member = some group) :
      Looks list member site [] (.ok (some group)) site
  | outside (unknown : site.roster.owner? member = none)
      (elsewhere : ∀ group ∈ site.roster.groups, group.zone ≠ member.zone) :
      Looks list member site [] (.ok none) site
  | rebuilt {listings : Roster.Listings} {site' : Site κ}
      (unknown : site.roster.owner? member = none)
      (near : ∃ group ∈ site.roster.groups, group.zone = member.zone)
      (all : listings.map Prod.fst = site.roster.groups)
      (asks : Asks list site.cloud (Attempt.answered listings) site'.cloud)
      (replaces : Replaces listings site.roster site'.roster) :
      Looks list member site (Attempt.answered listings) (.ok (lastLister? listings member)) site'
  | failed {listings : Roster.Listings} {group : GroupId} {after : List GroupId}
      {error : CloudError} {cloud : κ} (unknown : site.roster.owner? member = none)
      (near : ∃ group ∈ site.roster.groups, group.zone = member.zone)
      (split : site.roster.groups = listings.map Prod.fst ++ group :: after)
      (asks : Asks list site.cloud (Attempt.answered listings ++ [(group, .error error)]) cloud) :
      Looks list member site (Attempt.answered listings ++ [(group, .error error)]) (.error error)
        ⟨cloud, { site.roster with failures := site.roster.failures + 1 }⟩

variable {list : Lister κ} {member : InstanceRef} {site site' : Site κ} {attempt : Attempt}

namespace Asks

theorem append {c m c' : κ} {more : Attempt} (first : Asks list c attempt m)
    (rest : Asks list m more c') : Asks list c (attempt ++ more) c' := by
  induction first with
  | nil => exact rest
  | cons call _ ih => exact .cons call (ih rest)

theorem of_listAll {groups : List GroupId} {c c' : κ} {listings : Roster.Listings}
    (run : (listAll list groups).runOn c = (.ok listings, c')) :
    Asks list c (Attempt.answered listings) c' := by
  induction groups generalizing c listings with
  | nil =>
      cases run
      exact .nil _
  | cons group groups ih =>
      obtain ⟨members, m, call, rest⟩ := Action.bind_ok_cases run
      obtain ⟨others, m', later, ended⟩ := Action.bind_ok_cases rest
      cases ended
      exact .cons call (ih later)

theorem of_rebuilds {r : Except CloudError Unit} (rebuilds : Rebuilds list site attempt r site') :
    Asks list site.cloud attempt site'.cloud := by
  cases rebuilds with
  | succeeded listed => exact of_listAll listed
  | failed _ listed refused => exact (of_listAll listed).append (.cons refused (.nil _))

end Asks

/-! ## One lookup -/

theorem lookup_of_known {group : GroupId} (owned : site.roster.owner? member = some group) :
    (lookup list member).runOn site = (.ok (some group), site) := by
  rw [lookup, Action.runOn_bind_ok (Action.runOn_get _)]
  simp only [owned, Action.runOn_pure]

theorem lookup_of_outside (unknown : site.roster.owner? member = none)
    (uncovered : ¬ site.roster.covers member) :
    (lookup list member).runOn site = (.ok none, site) := by
  rw [lookup, Action.runOn_bind_ok (Action.runOn_get _)]
  simp only [unknown, if_neg uncovered, Action.runOn_pure]

theorem lookup_of_missed (unknown : site.roster.owner? member = none)
    (covered : site.roster.covers member) {r : Except CloudError Unit}
    (refreshed : (refresh list).runOn site = (r, site')) :
    (lookup list member).runOn site = (r.map fun _ => site'.roster.owner? member, site') := by
  rw [lookup, Action.runOn_bind_ok (Action.runOn_get _)]
  simp only [unknown, if_pos covered]
  cases r with
  | error e => rw [Action.runOn_bind_error refreshed, Except.map]
  | ok _ =>
      rw [Action.runOn_bind_ok refreshed, Action.runOn_bind_ok (Action.runOn_get _),
        Action.runOn_pure, Except.map]

theorem lookup_looks (list : Lister κ) (member : InstanceRef) (site : Site κ) :
    ∃ attempt, Looks list member site attempt ((lookup list member).runOn site).1
      ((lookup list member).runOn site).2 := by
  cases known : site.roster.owner? member with
  | some group =>
      rw [lookup_of_known known]
      exact ⟨[], .known group known⟩
  | none =>
      by_cases covered : site.roster.covers member = true
      · have near := Roster.covers_iff.mp covered
        rcases refreshed : (refresh list).runOn site with ⟨r, site'⟩
        rw [lookup_of_missed known covered refreshed]
        obtain ⟨attempt, rebuilds⟩ := refresh_rebuilds refreshed
        have asks := Asks.of_rebuilds rebuilds
        cases rebuilds with
        | @succeeded listings cloud listed =>
            have replaces := Roster.replaces_rebuilt site.roster listings
            refine ⟨Attempt.answered listings, ?_⟩
            rw [Except.map, replaces.owner member]
            exact .rebuilt known near (map_fst_listAll listed) asks replaces
        | failed split listed refused =>
            rw [← map_fst_listAll listed] at split
            exact ⟨_, .failed known near split asks⟩
      · have elsewhere : ∀ group ∈ site.roster.groups, group.zone ≠ member.zone := by
          intro group registered same
          exact covered (Roster.covers_iff.mpr ⟨group, registered, same⟩)
        rw [lookup_of_outside known covered]
        exact ⟨[], .outside known elsewhere⟩

namespace Looks

variable {r : Except CloudError (Option GroupId)}

/-- Groups are asked for their listings in the order of registration. -/
theorem asked (looks : Looks list member site attempt r site') :
    attempt.map Prod.fst <+: site.roster.groups := by
  cases looks with
  | known => exact List.nil_prefix
  | outside => exact List.nil_prefix
  | @rebuilt listings _ _ _ all =>
      have complete := (Attempt.map_fst_answered listings).trans all
      exact complete ▸ List.prefix_rfl
  | @failed listings group after _ _ _ _ split =>
      refine ⟨after, ?_⟩
      rw [split, List.map_append, Attempt.map_fst_answered, List.append_assoc, List.map_singleton,
        List.singleton_append]

end Looks

/-! ## Repeated lookups -/

section Repeated

variable {I : κ → Prop} {told : GroupId → Except CloudError (List InstanceRef)}
  (always : ∀ group c, I c → ((list group).runOn c).1 = told group ∧ I ((list group).runOn c).2)
include always

namespace Asks

/-- Where listings do not change, every call is answered as it always is. -/
theorem answers {c c' : κ} (start : I c) (asks : Asks list c attempt c') :
    I c' ∧ ∀ e ∈ attempt, e.2 = told e.1 := by
  induction asks with
  | nil => exact ⟨start, by simp⟩
  | @cons c m c' group answer attempt call rest ih =>
      obtain ⟨here, kept⟩ := always group c start
      rw [call] at here kept
      obtain ⟨left, later⟩ := ih kept
      exact ⟨left, List.forall_mem_cons.mpr ⟨here, later⟩⟩

end Asks

/-- A lookup behind one that succeeded is answered alike. If the first one has made a rebuild and
the second one makes another, then both have read the same. -/
theorem Looks.again {owner : Option GroupId} {r : Except CloudError (Option GroupId)}
    {site'' : Site κ} {more : Attempt} (start : I site.cloud)
    (first : Looks list member site attempt (.ok owner) site')
    (second : Looks list member site' more r site'') : I site'.cloud ∧ r = .ok owner := by
  cases first with
  | known group owned =>
      refine ⟨start, ?_⟩
      cases second with
      | known group' owned' =>
          cases owned.symm.trans owned'
          rfl
      | outside unknown _ => cases owned.symm.trans unknown
      | rebuilt unknown _ _ _ _ => cases owned.symm.trans unknown
      | failed unknown _ _ _ => cases owned.symm.trans unknown
  | outside unknown elsewhere =>
      refine ⟨start, ?_⟩
      cases second with
      | known group owned => cases unknown.symm.trans owned
      | outside => rfl
      | rebuilt _ near _ _ _ =>
          obtain ⟨group, registered, same⟩ := near
          exact absurd same (elsewhere group registered)
      | failed _ near _ _ =>
          obtain ⟨group, registered, same⟩ := near
          exact absurd same (elsewhere group registered)
  | @rebuilt listings _ unknown near all asks replaces =>
      obtain ⟨kept, read⟩ := asks.answers always start
      refine ⟨kept, ?_⟩
      have answer := replaces.owner member
      cases second with
      | known group owned => rw [← answer, owned]
      | outside unknown' _ => rw [← answer, unknown']
      | @rebuilt listings' _ _ _ all' asks' _ =>
          obtain ⟨-, read'⟩ := asks'.answers always kept
          rw [replaces.groups, ← all] at all'
          rw [Attempt.answered_inj read read' all']
      | @failed listings' group after error _ _ _ split asks' =>
          obtain ⟨-, read'⟩ := asks'.answers always kept
          have refused : Except.error error = told group := read' (group, .error error) (by simp)
          have registered : group ∈ listings.map Prod.fst := by
            rw [all, ← replaces.groups, split]
            simp
          obtain ⟨listing, listed, rfl⟩ := List.mem_map.mp registered
          have answered : Except.ok listing.2 = told listing.1 :=
            read (listing.1, .ok listing.2) (List.mem_map_of_mem listed)
          cases refused.trans answered.symm

/-- However often a lookup that succeeded is repeated, the answer stays. -/
theorem lookup_repeated {owner : Option GroupId} (start : I site.cloud)
    (answered : ((lookup list member).runOn site).1 = .ok owner) (n : Nat) :
    ((lookup list member).runOn
      (performAll list (List.replicate n (.lookup member)) site)).1 = .ok owner := by
  induction n generalizing site with
  | zero => exact answered
  | succ n ih =>
      have left : ((perform list (.lookup member)).runOn site).2 =
          ((lookup list member).runOn site).2 := by
        rw [perform, Action.runOn_bind]
        rcases (lookup list member).runOn site with ⟨_ | _, _⟩ <;> rfl
      obtain ⟨attempt, first⟩ := lookup_looks list member site
      obtain ⟨more, second⟩ := lookup_looks list member ((lookup list member).runOn site).2
      rw [answered] at first
      obtain ⟨kept, again⟩ := first.again always start second
      rw [List.replicate_succ, performAll, List.foldl_cons, left]
      exact ih kept again

end Repeated

/-- A lookup from any site asks for listings, answers and leaves a site in one of the four ways,
and asks for no group twice. As long as listings do not change, a lookup that has succeeded is
answered the same ever after. -/
theorem lookup_outcome (list : Lister κ) (member : InstanceRef) (site : Site κ) :
    (∃ attempt, Looks list member site attempt ((lookup list member).runOn site).1
        ((lookup list member).runOn site).2 ∧
      attempt.map Prod.fst <+: site.roster.groups) ∧
    ∀ I : κ → Prop, (∀ group, Constant I (list group)) → I site.cloud →
      ∀ owner, ((lookup list member).runOn site).1 = .ok owner →
        ∀ n, ((lookup list member).runOn
          (performAll list (List.replicate n (.lookup member)) site)).1 = .ok owner := by
  constructor
  · obtain ⟨attempt, looks⟩ := lookup_looks list member site
    exact ⟨attempt, looks, looks.asked⟩
  · intro I unchanging start owner answered n
    choose told always using unchanging
    exact lookup_repeated always start answered n

end Site

/-! ## Listings from a script -/

namespace Script

/-- A script lists the same as long as it is told nothing else. -/
theorem constant_list (s : Script) (group : GroupId) :
    Action.Constant (fun t => t.members = s.members ∧ t.failing = s.failing) (list group) := by
  have found : ∀ t : Script, t.members = s.members → t.failing = s.failing →
      ((list group).runOn t).1 = ((list group).runOn s).1 ∧
        ((list group).runOn t).2 = { t with log := group :: t.log } := by
    intro t members failing
    simp only [list, Action.runOn_bind, Action.runOn_modify, Action.runOn_get, members, failing]
    split <;> exact ⟨rfl, rfl⟩
  refine ⟨((list group).runOn s).1, ?_⟩
  rintro t ⟨members, failing⟩
  obtain ⟨same, left⟩ := found t members failing
  rw [left]
  exact ⟨same, members, failing⟩

def here : GroupId := ⟨"z", "g"⟩

def there : GroupId := ⟨"z", "h"⟩

/-- Two groups that both list one instance, on a roster that does not know it yet. -/
def shared : Site Script where
  cloud := { members := [(here, [⟨"z", "a"⟩]), (there, [⟨"z", "b"⟩, ⟨"z", "a"⟩])] }
  roster := { groups := [here, there] }

end Script

theorem lookup_outcome_shared :
    ((Site.lookup Script.list ⟨"z", "a"⟩).runOn Script.shared).1 = .ok (some Script.there) ∧
      ((Site.lookup Script.list ⟨"z", "a"⟩).runOn
        (Site.performAll Script.list [.lookup ⟨"z", "a"⟩, .lookup ⟨"z", "a"⟩] Script.shared)).1 =
          .ok (some Script.there) := by
  have answered : ((Site.lookup Script.list ⟨"z", "a"⟩).runOn Script.shared).1 =
      .ok (some Script.there) := by rfl
  exact ⟨answered, (Site.lookup_outcome Script.list ⟨"z", "a"⟩ Script.shared).2 _
    (Script.constant_list Script.shared.cloud) ⟨rfl, rfl⟩ _ answered 2⟩

end Autoscaler
