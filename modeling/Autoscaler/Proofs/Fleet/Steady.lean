import Autoscaler.Proofs.Fleet.Addresses
import Autoscaler.Proofs.Fleet.Provider
import Autoscaler.Proofs.Roster.Fresh

/-!
# Fleets that only change their sizes

As long as calls are answered and nothing but sizes changes, listings show the same members, so
rosters that are fresh stay fresh and owners are always the same. Reading and setting sizes are
steady in this sense. A size that is set then is the size that the group has, even if the caller
gives up waiting for the operation. All resizing calls of one request go to one address.
-/

namespace Autoscaler

open Autoscaler.Action (Constant Keeps)

theorem Aws.Cloud.serves_listMembers :
    Site.Serves Aws.Cloud.listMembers Aws.Cloud.Observed Aws.Cloud.members? Aws.Cloud.Healthy where
  tells := tells_listMembers
  stays seen healthy := seen.healthy healthy
  answers healthy listed := listMembers_healthy healthy listed

theorem Gce.Cloud.serves_listMembers (project : String) :
    Site.Serves (Gce.Cloud.listMembers project) Gce.Cloud.Observed (Gce.Cloud.members? project)
      Gce.Cloud.Healthy where
  tells := tells_listMembers project
  stays seen healthy := seen.healthy healthy
  answers healthy listed := listMembers_healthy healthy listed

namespace World

/-- Control planes show the same members and serve as before, and rosters know the same. -/
structure Steady (w w' : World) : Prop where
  aws : ∀ n, (w.aws.get n).Steady (w'.aws.get n)
  gce : ∀ n, (w.gce.get n).Steady (w'.gce.get n)
  rosters : ∀ n, (w.rosters.get n).Alike (w'.rosters.get n)

/-- More calls were made, and those that give a group another size went to addresses in `P`. -/
structure Resizes (P : Address → Prop) (w w' : World) : Prop where
  aws : ∀ n, (w.aws.get n).traffic.Extends
    (fun call => ∀ name, call.resizes? = some name → P (.aws n name)) (w'.aws.get n).traffic
  gce : ∀ n, (w.gce.get n).traffic.Extends
    (fun call => ∀ key, call.resizes? = some key → P (.gce n key)) (w'.gce.get n).traffic

variable {w w' : World} {P Q : Address → Prop}

instance : IsPreorder World Steady where
  refl _ := ⟨fun _ => refl_of Aws.Cloud.Steady _, fun _ => refl_of Gce.Cloud.Steady _,
    fun _ => refl_of Roster.Alike _⟩
  trans _ _ _ first rest :=
    ⟨fun n => trans_of Aws.Cloud.Steady (first.aws n) (rest.aws n),
      fun n => trans_of Gce.Cloud.Steady (first.gce n) (rest.gce n),
      fun n => trans_of Roster.Alike (first.rosters n) (rest.rosters n)⟩

instance (P : Address → Prop) : IsPreorder World (Resizes P) where
  refl _ := ⟨fun _ => .refl _, fun _ => .refl _⟩
  trans _ _ _ first rest :=
    ⟨fun n => (first.aws n).trans (rest.aws n), fun n => (first.gce n).trans (rest.gce n)⟩

theorem Resizes.mono (weaker : ∀ a, P a → Q a) (resizes : Resizes P w w') : Resizes Q w w' where
  aws n := (resizes.aws n).mono fun _ only name set => weaker _ (only name set)
  gce n := (resizes.gce n).mono fun _ only key set => weaker _ (only key set)

/-- Calls that ask are steady if they teach rosters nothing new. -/
theorem Observed.steady (seen : Observed w w')
    (rosters : ∀ n, (w.rosters.get n).Alike (w'.rosters.get n)) : Steady w w' :=
  ⟨fun n => (seen.aws n).steady, fun n => (seen.gce n).steady, rosters⟩

theorem Observed.resizes (seen : Observed w w') (P : Address → Prop) : Resizes P w w' := by
  constructor
  · intro n
    obtain ⟨traffic, asks, same⟩ := seen.aws n
    rw [same]
    apply asks.longer.mono
    intro call asking name set
    rw [Aws.Call.resizes?_of_ask asking] at set
    cases set
  · intro n
    obtain ⟨traffic, asks, same⟩ := seen.gce n
    rw [same]
    apply asks.longer.mono
    intro call asking key set
    rw [Gce.Call.resizes?_of_ask asking] at set
    cases set

end World

namespace Backend

/-- The control plane answers every call from now on, and operations end well, however long they
take. -/
def Serving : Backend → World → Prop
  | aws cloud _, w => (w.aws.get cloud).Healthy
  | gce _ _ cloud _, w => (w.gce.get cloud).Serving

/-- The backend serves, and its roster knows what listings show. -/
structure Fresh (b : Backend) (w : World) : Prop where
  serving : b.Serving w
  roster : (b.roster w).Fresh (b.members? w)

variable {b : Backend} {id : GroupId} {member : InstanceRef} {w w' : World} {n size : Nat}

theorem members?_steady (b : Backend) (steady : World.Steady w w') :
    b.members? w' = b.members? w := by
  cases b with
  | aws cloud roster => exact (steady.aws cloud).members
  | gce project polling cloud roster => exact (steady.gce cloud).members project

theorem Serving.steady (serving : b.Serving w) (steady : World.Steady w w') : b.Serving w' := by
  cases b with
  | aws cloud roster => exact (steady.aws cloud).healthy serving
  | gce project polling cloud roster => exact (steady.gce cloud).serving serving

theorem Fresh.steady (fresh : b.Fresh w) (steady : World.Steady w w') : b.Fresh w' where
  serving := fresh.serving.steady steady
  roster := by
    rw [b.members?_steady steady]
    exact fresh.roster.alike (steady.rosters b.rosterSlot)

/-- A group whose listing shows members has a size. -/
theorem size?_of_members? {members : List InstanceRef} (listed : b.members? w id = some members) :
    (b.size? id w).isSome := by
  cases b with
  | aws cloud roster =>
      obtain ⟨g, found, -⟩ := Option.map_eq_some_iff.mp listed
      simp [size?, Aws.Cloud.desired?, found]
  | gce project polling cloud roster =>
      obtain ⟨g, found, -⟩ := Option.bind_eq_some_iff.mp listed
      simp [size?, Gce.Cloud.target?, found]

/-! ## Owners -/

/-- A fresh backend answers what its roster knows. -/
theorem owner?_fresh (fresh : b.Fresh w) {r : Except CloudError (Option GroupId)}
    (run : (b.owner? member).runOn w = (r, w')) :
    r = .ok ((b.roster w).owner? member) ∧ World.Steady w w' := by
  cases b with
  | aws cloud roster =>
      obtain ⟨site, looked, rfl⟩ := World.onAws_cases run
      have healthy : (w.awsSite cloud roster).cloud.Healthy := fresh.serving
      obtain ⟨told, seen, alike⟩ :=
        Aws.Cloud.serves_listMembers.lookup healthy fresh.roster looked
      refine ⟨told, ?_, fun _ => refl_of Gce.Cloud.Steady _, ?_⟩
      · exact Slots.get_set_of (refl_of Aws.Cloud.Steady) (Aws.Cloud.Observed.steady seen)
      · exact Slots.get_set_of (refl_of Roster.Alike) alike
  | gce project polling cloud roster =>
      obtain ⟨site, looked, rfl⟩ := World.onGce_cases run
      have healthy : (w.gceSite cloud roster).cloud.Healthy := fresh.serving.healthy
      obtain ⟨told, seen, alike⟩ :=
        (Gce.Cloud.serves_listMembers project).lookup healthy fresh.roster looked
      refine ⟨told, fun _ => refl_of Aws.Cloud.Steady _, ?_, ?_⟩
      · exact Slots.get_set_of (refl_of Gce.Cloud.Steady) (Gce.Cloud.Observed.steady seen)
      · exact Slots.get_set_of (refl_of Roster.Alike) alike

/-! ## Sizes -/

theorem steady_groupSize (b : Backend) (id : GroupId) : Keeps World.Steady (b.groupSize id) := by
  intro w
  rcases run : (b.groupSize id).runOn w with ⟨r, w'⟩
  obtain ⟨consulted, same⟩ := groupSize_cases run
  apply consulted.observed.steady
  intro n
  by_cases here : n = b.rosterSlot
  · subst here
    change (b.roster w).Alike (b.roster w')
    rw [same]
    exact refl_of Roster.Alike _
  · rw [consulted.others n here]
    exact refl_of Roster.Alike _

theorem groupSize_serving (serving : b.Serving w) (known : b.size? id w = some n) :
    ((b.groupSize id).runOn w).1 = .ok n := by
  cases b with
  | aws cloud roster => exact Aws.Cloud.groupSize_healthy serving known
  | gce project polling cloud roster => exact Gce.Cloud.groupSize_healthy serving.healthy known

theorem steady_setGroupSize (b : Backend) (id : GroupId) (size : Nat) :
    Keeps World.Steady (b.setGroupSize id size) := by
  intro w
  rcases run : (b.setGroupSize id size).runOn w with ⟨r, w'⟩
  have rosters (n : Nat) : (w.rosters.get n).Alike (w'.rosters.get n) := by
    rw [setGroupSize_rosters run]
    exact refl_of Roster.Alike _
  cases b with
  | aws cloud roster =>
      obtain ⟨site, set, rfl⟩ := World.onAws_cases run
      obtain ⟨c, sent, rfl⟩ := Site.onCloud_cases set
      have kept := (Aws.Cloud.keeps_setGroupSize id size).of_runOn sent
      exact ⟨Slots.get_set_of (refl_of Aws.Cloud.Steady) kept,
        fun _ => refl_of Gce.Cloud.Steady _, rosters⟩
  | gce project polling cloud roster =>
      obtain ⟨site, set, rfl⟩ := World.onGce_cases run
      obtain ⟨c, sent, rfl⟩ := Site.onCloud_cases set
      have kept := (Gce.Cloud.keeps_setGroupSize project polling id size).of_runOn sent
      exact ⟨fun _ => refl_of Aws.Cloud.Steady _,
        Slots.get_set_of (refl_of Gce.Cloud.Steady) kept, rosters⟩

/-- A serving backend sets every size that it is asked to, whatever the caller is told. -/
theorem setGroupSize_serving (serving : b.Serving w) (known : b.size? id w = some n)
    {r : Except CloudError Unit} (run : (b.setGroupSize id size).runOn w = (r, w')) :
    World.SameGroups (b.withSize id size w) w' := by
  cases b with
  | aws cloud roster =>
      have told := setGroupSize_healthy (b := aws cloud roster) serving size known
      rw [run] at told
      obtain ⟨-, ⟨-, left⟩ | ⟨e, failed, -⟩⟩ := setGroupSize_cases run
      · exact left
      · cases told.symm.trans failed
  | gce project polling cloud roster =>
      obtain ⟨site, set, rfl⟩ := World.onGce_cases run
      obtain ⟨c, sent, rfl⟩ := Site.onCloud_cases set
      have ended : (Gce.Cloud.setGroupSize project polling id size).runOn (w.gce.get cloud) =
        (r, c) := sent
      have left :
          ((Gce.Cloud.setGroupSize project polling id size).runOn (w.gce.get cloud)).2.groups =
            ((w.gce.get cloud).setTarget ⟨project, id.zone, id.name⟩ size).groups :=
        Gce.Cloud.setGroupSize_serving serving size known
      rw [ended] at left
      exact World.sameGroups_setGce left

/-- The resizing call goes to the address of the group. -/
theorem setGroupSize_resizes (b : Backend) (id : GroupId) (size : Nat) :
    Keeps (World.Resizes (· = b.address id)) (b.setGroupSize id size) := by
  intro w
  rcases run : (b.setGroupSize id size).runOn w with ⟨r, w'⟩
  cases b with
  | aws cloud roster =>
      obtain ⟨site, set, rfl⟩ := World.onAws_cases run
      obtain ⟨c, sent, rfl⟩ := Site.onCloud_cases set
      obtain ⟨⟨reached, traffic⟩, -⟩ := Aws.Cloud.setGroupSize_cases sent
      refine ⟨?_, fun _ => .refl _⟩
      intro n
      simp only [World.setAws, Slots.get_set]
      split
      · next here =>
        subst here
        rw [traffic]
        apply Traffic.Extends.record
        rintro name ⟨⟩
        rfl
      · exact .refl _
  | gce project polling cloud roster =>
      obtain ⟨site, set, rfl⟩ := World.onGce_cases run
      obtain ⟨c, sent, rfl⟩ := Site.onCloud_cases set
      obtain ⟨⟨reached, asks⟩, -⟩ := Gce.Cloud.setGroupSize_cases sent
      refine ⟨fun _ => .refl _, ?_⟩
      intro n
      simp only [World.setGce, Slots.get_set]
      split
      · next here =>
        subst here
        have asked : ∀ call : Gce.Call, call.kind = .ask → ∀ key, call.resizes? = some key →
            Address.gce n key = (gce project polling n roster).address id := by
          intro call asking key set
          rw [Gce.Call.resizes?_of_ask asking] at set
          cases set
        refine Traffic.Extends.trans (Traffic.Extends.record ?_ _ reached) (asks.longer.mono asked)
        rintro key ⟨⟩
        rfl
      · exact .refl _

end Backend

namespace NodeGroup

variable {g : NodeGroup} {w w' : World} {n size : Nat}

theorem steady_currentSize (g : NodeGroup) : Keeps World.Steady g.currentSize :=
  Backend.steady_groupSize g.backend g.id

/-- The group gets the size that it is given, capped at the maximum, whatever the caller is
told. -/
theorem resize_serving (serving : g.backend.Serving w) (known : g.size? w = some n)
    {r : Except CloudError Nat} (run : (g.resize size).runOn w = (r, w')) :
    World.Steady w w' ∧ World.SameGroups (g.withSize (min size g.bounds.max) w) w' ∧
      World.Resizes (· = g.address) w w' ∧
      (r = .ok (min size g.bounds.max) ∨ ∃ error, r = .error error) := by
  obtain ⟨_, m, set, ended⟩ | ⟨error, set, rfl⟩ := Action.bind_cases run
  · cases ended
    exact ⟨(Backend.steady_setGroupSize _ _ _).of_runOn set,
      Backend.setGroupSize_serving serving known set,
      (Backend.setGroupSize_resizes _ _ _).of_runOn set, .inl rfl⟩
  · exact ⟨(Backend.steady_setGroupSize _ _ _).of_runOn set,
      Backend.setGroupSize_serving serving known set,
      (Backend.setGroupSize_resizes _ _ _).of_runOn set, .inr ⟨error, rfl⟩⟩

/-- A group that was given a size has it. -/
theorem size?_of_withSize (known : g.size? w = some n)
    (left : World.SameGroups (g.withSize size w) w') : g.size? w' = some size :=
  (left.size? g.backend g.id).trans (Backend.size?_withSize known size)

/-- Where another group was given a size, sizes are as they were. -/
theorem sizeAt?_of_withSize (left : World.SameGroups (g.withSize size w) w') {address : Address}
    (elsewhere : address ≠ g.address) : w'.sizeAt? address = w.sizeAt? address := by
  obtain ⟨-, changed⟩ := g.backend.withSize_changes g.id size w
  rw [left.sizeAt?]
  exact changed.elsewhere address elsewhere

theorem hasRoom_of_sizeAt? (same : w'.sizeAt? g.address = w.sizeAt? g.address) :
    g.hasRoom w' = g.hasRoom w := by
  rw [sizeAt?_address, sizeAt?_address] at same
  rw [hasRoom, same, hasRoom]

end NodeGroup

/-! ## Candidates -/

theorem Backend.constant_owner? {b : Backend} {w : World} (fresh : b.Fresh w)
    (member : InstanceRef) : Constant (World.Steady w) (b.owner? member) := by
  refine ⟨.ok ((b.roster w).owner? member), ?_⟩
  intro m steady
  rcases run : (b.owner? member).runOn m with ⟨r, m'⟩
  obtain ⟨told, onward⟩ := Backend.owner?_fresh (fresh.steady steady) run
  constructor
  · rw [told]
    exact congrArg Except.ok ((steady.rosters b.rosterSlot).owner? member)
  · exact trans_of World.Steady steady onward

namespace Provider

variable {p : Provider} {nodes : List Node} {w w' : World} {found : List Candidate}

/-- The group of a node is one that the roster knows as an owner. -/
theorem groupOf?_owner (fresh : p.backend.Fresh w) {node : Node} {g : NodeGroup}
    (run : (p.groupOf? node).runOn w = (.ok (some g), w')) :
    ∃ member, (p.backend.roster w).owner? member = some g.id := by
  rw [groupOf?] at run
  split at run
  · obtain ⟨member, m, read, asked⟩ := Action.bind_ok_cases run
    obtain ⟨owner, m', looked, ended⟩ := Action.bind_ok_cases asked
    rw [Action.runOn_pure, Prod.mk.injEq, Except.ok.injEq] at ended
    obtain ⟨id, rfl, among⟩ := Option.bind_eq_some_iff.mp ended.1
    rw [Action.runOn_ofExcept, Prod.mk.injEq] at read
    obtain ⟨-, rfl⟩ := read
    obtain ⟨told, -⟩ := Backend.owner?_fresh fresh looked
    have named : g.id = id := by simpa using List.find?_some among
    refine ⟨member, ?_⟩
    rw [named]
    exact (Except.ok.inj told).symm
  · cases run

theorem candidatesBeyond_owner (fresh : p.backend.Fresh w) {seen : List GroupId} {m m' : World}
    (steady : World.Steady w m) (run : (p.candidatesBeyond seen nodes).runOn m = (.ok found, m')) :
    ∀ c ∈ found, ∃ member, (p.backend.roster w).owner? member = some c.group.id := by
  induction nodes generalizing seen m m' found with
  | nil =>
      cases run
      simp
  | cons node nodes ih =>
      obtain ⟨owner, k, asked, rest⟩ := Action.bind_ok_cases run
      have onward := (constant_groupOf? (Backend.constant_owner? fresh) node).kept steady asked
      intro c among
      cases owner with
      | none => exact ih onward rest c among
      | some group =>
          dsimp only at rest
          split at rest
          · exact ih onward rest c among
          · obtain ⟨others, k', more, told⟩ := Action.bind_ok_cases rest
            cases told
            obtain rfl | later := List.mem_cons.mp among
            · obtain ⟨member, owned⟩ := groupOf?_owner (fresh.steady steady) asked
              refine ⟨member, ?_⟩
              rw [← owned]
              exact ((steady.rosters p.backend.rosterSlot).owner? member).symm
            · exact ih onward more c later

/-- The group of a candidate is one that the roster knows as an owner. -/
theorem candidates_owner (fresh : p.backend.Fresh w)
    (run : (p.candidates nodes).runOn w = (.ok found, w')) :
    ∀ c ∈ found, ∃ member, (p.backend.roster w).owner? member = some c.group.id :=
  candidatesBeyond_owner fresh (refl_of World.Steady w) run

end Provider

end Autoscaler
