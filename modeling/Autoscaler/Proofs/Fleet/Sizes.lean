import Autoscaler.Fleet.NodeGroup
import Autoscaler.Proofs.Fleet.World
import Autoscaler.Proofs.Gce.Waiting

/-!
# Sizes of node groups

The size of a group is what its control plane holds, and setting it is a change of that one
number. Reading a size makes only calls that ask. Setting one makes one call that changes
something; afterwards either the number is the new one or no group has changed, and the
caller who gets an error can be wrong about that only if an accepted operation was not seen
to end.
-/

namespace Autoscaler

open Autoscaler.Action (Keeps)

/-- Small bounds, as samples have them. Groups have one machine at least, and the greatest size is no
less than the least. -/
def SizeBounds.small (least most : UInt8) : SizeBounds where
  min := Nat.max 1 least.toNat
  max := Nat.max (Nat.max 1 least.toNat) most.toNat
  min_pos := Nat.le_max_left 1 least.toNat
  min_le_max := Nat.le_max_left (Nat.max 1 least.toNat) most.toNat
  max_lt := by
    have below : Nat.max (Nat.max 1 least.toNat) most.toNat < 256 :=
      Nat.max_lt.mpr ⟨Nat.max_lt.mpr ⟨by decide, least.toNat_lt⟩, most.toNat_lt⟩
    exact Nat.lt_trans below (by decide)

namespace Backend

/-- The size that the control plane holds for a group. -/
def size? : Backend → GroupId → World → Option Nat
  | aws cloud _, id, w => (w.aws.get cloud).desired? id.name
  | gce project _ cloud _, id, w => (w.gce.get cloud).target? ⟨project, id.zone, id.name⟩

/-- The world with another size of a group on the control plane. -/
def withSize : Backend → GroupId → Nat → World → World
  | aws cloud _, id, size, w =>
      { w with aws := w.aws.set cloud ((w.aws.get cloud).setDesired id.name size) }
  | gce project _ cloud _, id, size, w =>
      { w with
        gce := w.gce.set cloud
          ((w.gce.get cloud).setTarget ⟨project, id.zone, id.name⟩ size) }

/-- From now on the control plane answers every call, and operations end well in time. -/
def Healthy : Backend → World → Prop
  | aws cloud _, w => (w.aws.get cloud).Healthy
  | gce _ polling cloud _, w => (w.gce.get cloud).Healthy ∧ (w.gce.get cloud).Prompt polling

/-- The error of a caller who has not seen how an accepted operation ended. -/
def UnseenEnd : Backend → World → CloudError → Prop
  | aws .., _, _ => False
  | gce _ _ cloud _, w, e => (w.gce.get cloud).UnseenEnd e

variable {b : Backend} {id : GroupId} {w w' : World}

/-! ## Reading a size -/

theorem keeps_groupSize (b : Backend) (id : GroupId) : Keeps World.Observed (b.groupSize id) := by
  cases b with
  | aws cloud roster =>
      exact World.keeps_onAws (Site.keeps_onCloud (Aws.Cloud.keeps_groupSize id)) cloud roster
  | gce project polling cloud roster =>
      exact World.keeps_onGce (Site.keeps_onCloud (Gce.Cloud.keeps_groupSize project id)) cloud
        roster

theorem groupSize_ok {n : Nat} (run : (b.groupSize id).runOn w = (.ok n, w')) :
    b.size? id w = some n := by
  cases b with
  | aws cloud roster =>
      rcases read : (Aws.Cloud.groupSize id).runOn (w.aws.get cloud) with ⟨r, c⟩
      have same : r = .ok n := (congrArg Prod.fst read).symm.trans (congrArg Prod.fst run)
      exact Aws.Cloud.groupSize_ok (by rw [read, same])
  | gce project polling cloud roster =>
      rcases read : (Gce.Cloud.groupSize project id).runOn (w.gce.get cloud) with ⟨r, c⟩
      have same : r = .ok n := (congrArg Prod.fst read).symm.trans (congrArg Prod.fst run)
      exact Gce.Cloud.groupSize_ok (by rw [read, same])

theorem groupSize_healthy (healthy : b.Healthy w) {n : Nat} (known : b.size? id w = some n) :
    ((b.groupSize id).runOn w).1 = .ok n := by
  cases b with
  | aws cloud roster => exact Aws.Cloud.groupSize_healthy healthy known
  | gce project polling cloud roster => exact Gce.Cloud.groupSize_healthy healthy.1 known

/-- A group that was given a size has it. -/
theorem size?_withSize {n : Nat} (known : b.size? id w = some n) (size : Nat) :
    b.size? id (b.withSize id size w) = some size := by
  cases b with
  | aws cloud roster =>
      obtain ⟨g, found, -⟩ := Option.map_eq_some_iff.mp known
      simp [size?, withSize, Aws.Cloud.desired?, Aws.Cloud.setDesired, Directory.find?_modify,
        found]
  | gce project polling cloud roster =>
      obtain ⟨g, found, -⟩ := Option.map_eq_some_iff.mp known
      simp [size?, withSize, Gce.Cloud.target?, Gce.Cloud.setTarget, Directory.find?_modify,
        found]

end Backend

namespace World

variable {b : Backend} {id : GroupId} {w w' : World}

theorem SameGroups.size? (same : SameGroups w w') (b : Backend) (id : GroupId) :
    b.size? id w' = b.size? id w := by
  cases b with
  | aws cloud roster =>
      simp only [Backend.size?, Aws.Cloud.desired?, same.aws]
  | gce project polling cloud roster =>
      simp only [Backend.size?, Gce.Cloud.target?, same.gce]

theorem Observed.healthy (seen : Observed w w') (healthy : b.Healthy w) : b.Healthy w' := by
  cases b with
  | aws cloud roster => exact (seen.aws cloud).healthy healthy
  | gce project polling cloud roster =>
      exact ⟨(seen.gce cloud).healthy healthy.1, (seen.gce cloud).prompt healthy.2⟩

/-- The same change of two worlds with the same groups leaves the same groups. -/
theorem SameGroups.withSize (same : SameGroups w w') (b : Backend) (id : GroupId) (size : Nat) :
    SameGroups (b.withSize id size w) (b.withSize id size w') := by
  cases b with
  | aws cloud roster =>
      refine ⟨?_, same.gce⟩
      refine Slots.get_set_set (R := fun c c' : Aws.Cloud => c'.groups = c.groups) same.aws ?_ cloud
      simp only [Aws.Cloud.setDesired, same.aws]
  | gce project polling cloud roster =>
      refine ⟨same.aws, ?_⟩
      refine Slots.get_set_set (R := fun c c' : Gce.Cloud => c'.groups = c.groups) same.gce ?_ cloud
      simp only [Gce.Cloud.setTarget, same.gce]

/-- One call that gives a group another size was made, and else only calls that ask. -/
structure OneResize (w w' : World) : Prop where
  calls : CallsKept w w'
  resizes : w'.made .resize = w.made .resize + 1
  deletes : w'.made .delete = w.made .delete

end World

namespace Backend

variable {b : Backend} {id : GroupId} {w w' : World} {size : Nat}

/-! ## Setting a size -/

/-- Setting a size makes one call for it. If it ends well then the one size has changed.
Otherwise no group has, unless the call was accepted and the caller has not seen the end. -/
theorem setGroupSize_cases {r : Except CloudError Unit}
    (run : (b.setGroupSize id size).runOn w = (r, w')) :
    World.OneResize w w' ∧
    (r = .ok () ∧ World.SameGroups (b.withSize id size w) w' ∨
      ∃ e, r = .error e ∧ (World.SameGroups w w' ∨
        World.SameGroups (b.withSize id size w) w' ∧ b.UnseenEnd w' e)) := by
  cases b with
  | aws cloud roster =>
      rcases set : (Aws.Cloud.setGroupSize id size).runOn (w.aws.get cloud) with ⟨r', c'⟩
      obtain ⟨⟨reached, traffic⟩, outcome⟩ := Aws.Cloud.setGroupSize_cases set
      have asks : ((w.aws.get cloud).traffic.record (.setDesiredCapacity id.name size false)
          reached).Asks Aws.Call.kind c'.traffic := by
        rw [traffic]
        exact .refl _
      simp only [setGroupSize, World.onAws, Site.onCloud, Action.runOn_zoom, set] at run
      cases run
      refine ⟨⟨World.callsKept_setAws asks.suffix_of_record,
        World.made_setAws (asks.made_of_record (by decide)),
        World.made_setAws (asks.made_of_record (by decide))⟩, ?_⟩
      obtain ⟨rfl, changed⟩ | ⟨e, rfl, same⟩ := outcome
      · exact .inl ⟨rfl, World.sameGroups_setAws changed⟩
      · exact .inr ⟨e, rfl, .inl (World.sameGroups_setAws_get same)⟩
  | gce project polling cloud roster =>
      rcases set : (Gce.Cloud.setGroupSize project polling id size).runOn (w.gce.get cloud)
        with ⟨r', c'⟩
      obtain ⟨⟨reached, asks⟩, outcome⟩ := Gce.Cloud.setGroupSize_cases set
      simp only [setGroupSize, World.onGce, Site.onCloud, Action.runOn_zoom, set] at run
      cases run
      refine ⟨⟨World.callsKept_setGce asks.suffix_of_record,
        World.made_setGce (asks.made_of_record (by decide)),
        World.made_setGce (asks.made_of_record (by decide))⟩, ?_⟩
      obtain ⟨rfl, changed⟩ | ⟨e, rfl, same | ⟨changed, unseen⟩⟩ := outcome
      · exact .inl ⟨rfl, World.sameGroups_setGce changed⟩
      · exact .inr ⟨e, rfl, .inl (World.sameGroups_setGce_get same)⟩
      · refine .inr ⟨e, rfl, .inr ⟨World.sameGroups_setGce changed, ?_⟩⟩
        simpa only [UnseenEnd, Slots.get_set_self] using unseen

/-- A size that was set well is the size of the group. -/
theorem size?_of_set (run : (b.setGroupSize id size).runOn w = (.ok (), w')) :
    b.size? id w' = some size := by
  have known : (b.size? id w).isSome := by
    cases b with
    | aws cloud roster =>
        obtain ⟨site, set, -⟩ := World.onAws_cases run
        obtain ⟨c, sent, -⟩ := Site.onCloud_cases set
        exact Aws.Cloud.setGroupSize_known sent
    | gce project polling cloud roster =>
        obtain ⟨site, set, -⟩ := World.onGce_cases run
        obtain ⟨c, sent, -⟩ := Site.onCloud_cases set
        exact Gce.Cloud.setGroupSize_known sent
  obtain ⟨n, known⟩ := Option.isSome_iff_exists.mp known
  obtain ⟨-, ⟨-, left⟩ | ⟨e, failed, -⟩⟩ := setGroupSize_cases run
  · rw [left.size?]
    exact size?_withSize known size
  · cases failed

theorem setGroupSize_healthy (healthy : b.Healthy w) {n : Nat} (size : Nat)
    (known : b.size? id w = some n) : ((b.setGroupSize id size).runOn w).1 = .ok () := by
  cases b with
  | aws cloud roster => exact Aws.Cloud.setGroupSize_healthy healthy size known
  | gce project polling cloud roster =>
      exact Gce.Cloud.setGroupSize_prompt healthy.1 healthy.2 size known

end Backend

namespace NodeGroup

variable {g : NodeGroup} {w w' : World}

/-! ## Sizes of configured groups -/

/-- The size that the control plane holds for the group. -/
def size? (g : NodeGroup) (w : World) : Option Nat := g.backend.size? g.id w

/-- The world with another size of the group. -/
def withSize (g : NodeGroup) (size : Nat) (w : World) : World := g.backend.withSize g.id size w

/-- Whether the control plane holds a size below the maximum for the group. -/
def hasRoom (g : NodeGroup) (w : World) : Bool := (g.size? w).any fun n => n < g.bounds.max

/-- The control plane holds the group, and from now on it answers. -/
structure Answering (g : NodeGroup) (w : World) : Prop where
  healthy : g.backend.Healthy w
  known : (g.size? w).isSome

theorem hasRoom_iff : g.hasRoom w ↔ ∃ n, g.size? w = some n ∧ n < g.bounds.max := by
  simp [hasRoom, Option.any_eq_true]

theorem keeps_currentSize (g : NodeGroup) : Keeps World.Observed g.currentSize :=
  Backend.keeps_groupSize g.backend g.id

theorem currentSize_answering (answering : g.Answering w) :
    ∃ n, g.size? w = some n ∧ (g.currentSize.runOn w).1 = .ok n := by
  obtain ⟨n, known⟩ := Option.isSome_iff_exists.mp answering.known
  exact ⟨n, known, Backend.groupSize_healthy answering.healthy known⟩

theorem keeps_canGrow (g : NodeGroup) : Keeps World.Observed g.canGrow :=
  .bind g.keeps_currentSize fun _ => .pure _

theorem canGrow_ok {grows : Bool} (run : g.canGrow.runOn w = (.ok grows, w')) :
    grows = g.hasRoom w := by
  obtain ⟨n, m, read, told⟩ := Action.bind_ok_cases run
  have known : g.size? w = some n := Backend.groupSize_ok read
  cases told
  rw [hasRoom, known, Option.any_some]

theorem canGrow_answering (answering : g.Answering w) :
    (g.canGrow.runOn w).1 = .ok (g.hasRoom w) := by
  rcases run : g.canGrow.runOn w with ⟨e | grows, w'⟩
  · obtain ⟨n, -, read⟩ := currentSize_answering answering
    obtain ⟨_, _, _, told⟩ | ⟨e, failed, -⟩ := Action.bind_cases run
    · cases told
    · rw [failed] at read
      cases read
  · rw [canGrow_ok run]

/-- Setting a size aims at no more than the maximum. -/
theorem resize_cases {size : Nat} {r : Except CloudError Nat}
    (run : (g.resize size).runOn w = (r, w')) :
    World.OneResize w w' ∧
    (r = .ok (min size g.bounds.max) ∧
        World.SameGroups (g.withSize (min size g.bounds.max) w) w' ∨
      ∃ e, r = .error e ∧ (World.SameGroups w w' ∨
        World.SameGroups (g.withSize (min size g.bounds.max) w) w' ∧
          g.backend.UnseenEnd w' e)) := by
  obtain ⟨_, m, set, told⟩ | ⟨e, set, failed⟩ := Action.bind_cases run
  · cases told
    obtain ⟨once, ⟨-, changed⟩ | ⟨e, failed, -⟩⟩ := Backend.setGroupSize_cases set
    · exact ⟨once, .inl ⟨rfl, changed⟩⟩
    · cases failed
  · obtain ⟨once, ⟨ended, -⟩ | ⟨e', same, outcome⟩⟩ := Backend.setGroupSize_cases set
    · cases ended
    · cases same
      exact ⟨once, .inr ⟨e, failed, outcome⟩⟩

theorem resize_answering (answering : g.Answering w) (size : Nat) :
    ((g.resize size).runOn w).1 = .ok (min size g.bounds.max) := by
  obtain ⟨n, known⟩ := Option.isSome_iff_exists.mp answering.known
  rcases set : (g.backend.setGroupSize g.id (min size g.bounds.max)).runOn w with ⟨r, m⟩
  have ended := Backend.setGroupSize_healthy answering.healthy (min size g.bounds.max) known
  rw [set] at ended
  subst ended
  rw [resize, Action.runOn_bind_ok set, Action.runOn_pure]

end NodeGroup

namespace World

variable {g : NodeGroup} {w w' w'' : World}

theorem Observed.size? (seen : Observed w w') (g : NodeGroup) : g.size? w' = g.size? w :=
  seen.sameGroups.size? g.backend g.id

theorem Observed.hasRoom (seen : Observed w w') (g : NodeGroup) : g.hasRoom w' = g.hasRoom w := by
  rw [NodeGroup.hasRoom, seen.size?, NodeGroup.hasRoom]

theorem Observed.answering (seen : Observed w w') (answering : g.Answering w) : g.Answering w' :=
  ⟨seen.healthy answering.healthy, by simpa only [seen.size?] using answering.known⟩

/-- What was observed before a resize changes nothing about it. -/
theorem Observed.oneResize (seen : Observed w w') (once : OneResize w' w'') : OneResize w w'' where
  calls := trans_of CallsKept seen.callsKept once.calls
  resizes := once.resizes.trans (by rw [seen.made_eq (by decide)])
  deletes := once.deletes.trans (seen.made_eq (by decide))

end World

end Autoscaler
