import Autoscaler.Aws.Groups
import Autoscaler.Gce.Groups
import Autoscaler.Fleet.Slots

/-!
# Control planes and rosters

The state that backends work on: control planes of both kinds and rosters, each in a
numbered slot. Several backends may talk to one control plane, each with a roster of
its own.
-/

namespace Autoscaler

structure World where
  aws : Slots Aws.Cloud := {}
  gce : Slots Gce.Cloud := {}
  rosters : Slots Roster := {}
  deriving Inhabited

namespace World

/-- An action on one auto scaling control plane and one roster. -/
def onAws {α : Type} (cloud roster : Nat) (act : CloudM (Site Aws.Cloud) α) : CloudM World α :=
  act.zoom (fun w => ⟨w.aws.get cloud, w.rosters.get roster⟩)
    fun site w =>
      { w with
        aws := w.aws.set cloud site.cloud
        rosters := w.rosters.set roster site.roster }

/-- An action on one control plane of managed instance groups and one roster. -/
def onGce {α : Type} (cloud roster : Nat) (act : CloudM (Site Gce.Cloud) α) : CloudM World α :=
  act.zoom (fun w => ⟨w.gce.get cloud, w.rosters.get roster⟩)
    fun site w =>
      { w with
        gce := w.gce.set cloud site.cloud
        rosters := w.rosters.set roster site.roster }

/-- How long callers have waited for operations, all in all. -/
def waited (w : World) : Duration :=
  w.gce.items.foldl (fun total c => total + c.waited) .zero

end World

end Autoscaler
