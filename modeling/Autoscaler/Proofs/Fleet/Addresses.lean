import Autoscaler.Proofs.Fleet.Ownership
import Autoscaler.Proofs.Fleet.Sizes

/-!
# Groups by address

Node groups that talk to one control plane can mean the same group of it. The address of a
group is what a control plane knows it by. Groups are looked up by address, as a whole or only
their sizes, so that setting the size of one group leaves the size at every other address as it
was. No request brings an instance to a group.
-/

namespace Autoscaler

/-- What a control plane knows a group by. -/
inductive Address where
  | aws (cloud : Nat) (name : String)
  | gce (cloud : Nat) (key : Gce.GroupKey)
  deriving DecidableEq, Repr

namespace World

/-- The size that a control plane holds for a group. -/
def sizeAt? (w : World) : Address → Option Nat
  | .aws cloud name => (w.aws.get cloud).desired? name
  | .gce cloud key => (w.gce.get cloud).target? key

/-- What control planes hold for a group, seen in a way for each kind of them. -/
def groupAt? {β : Type} (ofAws : Aws.Group → β) (ofGce : Gce.GroupKey → Gce.Group → β)
    (w : World) : Address → Option β
  | .aws cloud name => ((w.aws.get cloud).groups.find? name).map ofAws
  | .gce cloud key => ((w.gce.get cloud).groups.find? key).map (ofGce key)

/-- No group has an instance that it did not have before. -/
structure Fewer (w w' : World) : Prop where
  aws : ∀ n, Aws.Fewer (w.aws.get n).groups (w'.aws.get n).groups
  gce : ∀ n, Gce.Fewer (w.gce.get n).groups (w'.gce.get n).groups

variable {w w' w'' : World}

instance : IsPreorder World Fewer where
  refl _ := ⟨fun _ => .refl _, fun _ => .refl _⟩
  trans _ _ _ first rest :=
    ⟨fun n => (first.aws n).trans (rest.aws n), fun n => (first.gce n).trans (rest.gce n)⟩

theorem sizeAt?_eq (w : World) : w.sizeAt? = w.groupAt? (·.desired) fun _ g => g.target := by
  funext address
  cases address <;> rfl

theorem map_groupAt? {β γ : Type} (f : β → γ) (ofAws : Aws.Group → β)
    (ofGce : Gce.GroupKey → Gce.Group → β) (w : World) (address : Address) :
    (w.groupAt? ofAws ofGce address).map f =
      w.groupAt? (f ∘ ofAws) (fun key => f ∘ ofGce key) address := by
  cases address <;> exact Option.map_map _ _ _

theorem SameGroups.groupAt? {β : Type} {ofAws : Aws.Group → β}
    {ofGce : Gce.GroupKey → Gce.Group → β} (same : SameGroups w w') :
    w'.groupAt? ofAws ofGce = w.groupAt? ofAws ofGce := by
  funext address
  cases address with
  | aws cloud name => simp only [World.groupAt?, same.aws]
  | gce cloud key => simp only [World.groupAt?, same.gce]

theorem SameGroups.sizeAt? (same : SameGroups w w') : w'.sizeAt? = w.sizeAt? := by
  rw [sizeAt?_eq, sizeAt?_eq, same.groupAt?]

theorem SameGroups.fewer (same : SameGroups w w') : Fewer w w' where
  aws n := by
    rw [same.aws]
    exact .refl _
  gce n := by
    rw [same.gce]
    exact .refl _

section Slot

variable {cloud : Nat} {R : Nat → Nat → Prop} {rosters : Slots Roster}

theorem fewer_setAws {c : Aws.Cloud} (fewer : Aws.Fewer (w.aws.get cloud).groups c.groups) :
    Fewer w { w with aws := w.aws.set cloud c, rosters } where
  aws := Slots.get_set_of (R := fun c c' : Aws.Cloud => Aws.Fewer c.groups c'.groups)
    (fun _ => .refl _) fewer
  gce _ := .refl _

theorem fewer_setGce {c : Gce.Cloud} (fewer : Gce.Fewer (w.gce.get cloud).groups c.groups) :
    Fewer w { w with gce := w.gce.set cloud c, rosters } where
  aws _ := .refl _
  gce := Slots.get_set_of (R := fun c c' : Gce.Cloud => Gce.Fewer c.groups c'.groups)
    (fun _ => .refl _) fewer

section View

variable {β : Type} {S : β → β → Prop} {ofAws : Aws.Group → β}
  {ofGce : Gce.GroupKey → Gce.Group → β}

/-- A change of one group of one control plane is a change at one address, however groups are
seen. -/
theorem groupAt?_setAws {name : String} {c : Aws.Cloud}
    (changed : ChangedAt name (fun g g' => S (ofAws g) (ofAws g'))
      (w.aws.get cloud).groups.find? c.groups.find?) :
    ChangedAt (.aws cloud name) S (w.groupAt? ofAws ofGce)
      ({ w with aws := w.aws.set cloud c, rosters : World }.groupAt? ofAws ofGce) where
  here := by
    simp only [groupAt?, Slots.get_set_self]
    exact changed.here_map
  elsewhere other different := by
    cases other with
    | gce => rfl
    | aws cloud' name' =>
        simp only [groupAt?, Slots.get_set]
        split
        · next here =>
            subst here
            rw [changed.elsewhere name' fun same => different (same ▸ rfl)]
        · rfl

theorem groupAt?_setGce {key : Gce.GroupKey} {c : Gce.Cloud}
    (changed : ChangedAt key (fun g g' => S (ofGce key g) (ofGce key g'))
      (w.gce.get cloud).groups.find? c.groups.find?) :
    ChangedAt (.gce cloud key) S (w.groupAt? ofAws ofGce)
      ({ w with gce := w.gce.set cloud c, rosters : World }.groupAt? ofAws ofGce) where
  here := by
    simp only [groupAt?, Slots.get_set_self]
    exact changed.here_map
  elsewhere other different := by
    cases other with
    | aws => rfl
    | gce cloud' key' =>
        simp only [groupAt?, Slots.get_set]
        split
        · next here =>
            subst here
            rw [changed.elsewhere key' fun same => different (same ▸ rfl)]
        · rfl

end View

theorem sizeAt?_setAws {name : String} {c : Aws.Cloud}
    (changed : ChangedAt name (fun g g' => R g.desired g'.desired)
      (w.aws.get cloud).groups.find? c.groups.find?) :
    ChangedAt (.aws cloud name) R w.sizeAt?
      { w with aws := w.aws.set cloud c, rosters : World }.sizeAt? := by
  rw [sizeAt?_eq, sizeAt?_eq]
  exact groupAt?_setAws changed

theorem sizeAt?_setGce {key : Gce.GroupKey} {c : Gce.Cloud}
    (changed : ChangedAt key (fun g g' => R g.target g'.target)
      (w.gce.get cloud).groups.find? c.groups.find?) :
    ChangedAt (.gce cloud key) R w.sizeAt?
      { w with gce := w.gce.set cloud c, rosters : World }.sizeAt? := by
  rw [sizeAt?_eq, sizeAt?_eq]
  exact groupAt?_setGce changed

end Slot

end World

namespace Backend

/-- The address of a group. -/
def address : Backend → GroupId → Address
  | aws cloud _, id => .aws cloud id.name
  | gce project _ cloud _, id => .gce cloud ⟨project, id.zone, id.name⟩

/-- The control plane can tell its instances apart. -/
def Unique : Backend → World → Prop
  | aws cloud _, w => Aws.UniqueIds (w.aws.get cloud).groups
  | gce _ _ cloud _, w => Gce.UniqueNames (w.gce.get cloud).groups

variable {b : Backend} {id : GroupId} {w w' : World} {size : Nat}

theorem withSize_changes (b : Backend) (id : GroupId) (size : Nat) (w : World) :
    World.Fewer w (b.withSize id size w) ∧
      ChangedAt (b.address id) (fun _ n' => n' = size) w.sizeAt?
        (b.withSize id size w).sizeAt? := by
  cases b with
  | aws cloud roster =>
      exact ⟨World.fewer_setAws (.modify _ fun _ => .refl _),
        World.sizeAt?_setAws (.modify fun _ _ => rfl)⟩
  | gce project polling cloud roster =>
      exact ⟨World.fewer_setGce (.modify _ fun _ => .refl _),
        World.sizeAt?_setGce (.modify fun _ _ => rfl)⟩

theorem setGroupSize_rosters {r : Except CloudError Unit}
    (run : (b.setGroupSize id size).runOn w = (r, w')) (n : Nat) :
    w'.rosters.get n = w.rosters.get n := by
  cases b with
  | aws cloud roster =>
      obtain ⟨site, set, rfl⟩ := World.onAws_cases run
      obtain ⟨c, -, rfl⟩ := Site.onCloud_cases set
      exact Slots.get_set_get _ _ n
  | gce project polling cloud roster =>
      obtain ⟨site, set, rfl⟩ := World.onGce_cases run
      obtain ⟨c, -, rfl⟩ := Site.onCloud_cases set
      exact Slots.get_set_get _ _ n

/-- Whatever fails, a size that is set is the old one or the new one in the end. -/
theorem setGroupSize_changes {r : Except CloudError Unit}
    (run : (b.setGroupSize id size).runOn w = (r, w')) :
    World.Fewer w w' ∧
      ChangedAt (b.address id) (fun n n' => n' = n ∨ n' = size) w.sizeAt? w'.sizeAt? := by
  have unchanged (same : World.SameGroups w w') : World.Fewer w w' ∧
      ChangedAt (b.address id) (fun n n' => n' = n ∨ n' = size) w.sizeAt? w'.sizeAt? := by
    rw [same.sizeAt?]
    exact ⟨same.fewer, .refl (fun _ => .inl rfl) _ _⟩
  have set (same : World.SameGroups (b.withSize id size w) w') : World.Fewer w w' ∧
      ChangedAt (b.address id) (fun n n' => n' = n ∨ n' = size) w.sizeAt? w'.sizeAt? := by
    obtain ⟨fewer, changed⟩ := b.withSize_changes id size w
    rw [same.sizeAt?]
    exact ⟨trans_of World.Fewer fewer same.fewer, changed.mono fun _ _ _ => .inr⟩
  obtain ⟨-, ⟨-, same⟩ | ⟨e, -, same | ⟨same, -⟩⟩⟩ := setGroupSize_cases run
  · exact set same
  · exact unchanged same
  · exact set same

end Backend

namespace NodeGroup

/-- What the control plane knows the group by. -/
def address (g : NodeGroup) : Address := g.backend.address g.id

theorem sizeAt?_address (g : NodeGroup) (w : World) : w.sizeAt? g.address = g.size? w := by
  rw [address, size?]
  cases g.backend <;> rfl

end NodeGroup

end Autoscaler
