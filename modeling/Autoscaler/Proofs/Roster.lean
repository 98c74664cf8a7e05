import Autoscaler.Proofs.Cloud.Frame
import Autoscaler.Roster

/-!
# What a roster does to its control plane

A roster only lists. So whatever listings keep of the control plane, looking up an instance
and rebuilding the roster keep as well.
-/

namespace Autoscaler.Site

open Autoscaler.Action (Keeps)

variable {κ α : Type} {R : κ → κ → Prop}

/-- The control planes of two sites are related. -/
def OnClouds (R : κ → κ → Prop) (site site' : Site κ) : Prop := R site.cloud site'.cloud

instance [IsPreorder κ R] : IsPreorder (Site κ) (OnClouds R) where
  refl site := refl_of R site.cloud
  trans _ _ _ first rest := trans_of R first rest

theorem keeps_onCloud {act : CloudM κ α} (kept : Keeps R act) :
    Keeps (OnClouds R) (onCloud act) := fun site => kept site.cloud

/-- An action on the control plane alone leaves the roster as it is. -/
theorem onCloud_cases {act : CloudM κ α} {site site' : Site κ} {r : Except CloudError α}
    (run : (onCloud act).runOn site = (r, site')) :
    ∃ cloud, act.runOn site.cloud = (r, cloud) ∧ site' = { site with cloud } := by
  rw [onCloud, Action.runOn_zoom] at run
  cases run
  exact ⟨_, rfl, rfl⟩

variable [IsPreorder κ R] {list : Lister κ}

theorem keeps_listAll (lists : ∀ group, Keeps R (list group)) (groups : List GroupId) :
    Keeps R (listAll list groups) := by
  induction groups with
  | nil => exact .pure _
  | cons group groups ih =>
      exact .bind (lists group) fun _ => .bind ih fun _ => .pure _

theorem keeps_refresh (lists : ∀ group, Keeps R (list group)) :
    Keeps (OnClouds R) (refresh list) := by
  intro site
  have kept := keeps_listAll lists site.roster.groups site.cloud
  rw [refresh, Action.runOn_ofFn]
  rcases listed : (listAll list site.roster.groups).runOn site.cloud with ⟨r, cloud⟩
  rw [listed] at kept
  cases r with
  | error e => exact kept
  | ok listings => exact kept

theorem keeps_lookup (lists : ∀ group, Keeps R (list group)) (member : InstanceRef) :
    Keeps (OnClouds R) (lookup list member) := by
  refine .bind .get ?_
  intro site
  dsimp only
  split
  · exact .pure _
  · split
    · exact .bind (keeps_refresh lists) fun _ => .bind .get fun _ => .pure _
    · exact .pure _

theorem keeps_ensureMembers (lists : ∀ group, Keeps R (list group)) (group : GroupId)
    (members : List InstanceRef) : Keeps (OnClouds R) (ensureMembers list group members) := by
  induction members with
  | nil => exact .pure _
  | cons member members ih =>
      refine .bind (keeps_lookup lists member) ?_
      intro owner
      cases owner with
      | none => exact .throw _
      | some owner =>
          dsimp only
          split
          · exact ih
          · exact .throw _

end Autoscaler.Site
