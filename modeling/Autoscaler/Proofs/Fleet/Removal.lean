import Autoscaler.Proofs.Fleet.Ownership
import Autoscaler.Proofs.Fleet.Sizes

/-!
# Removal of members

A removal asks first: for the size, and twice for the owner of each member. It deletes only
if the size allows it and the roster, as it is by then, has every member in the group. This
does not depend on what the roster knew before: the second round of questions finds the
roster that the first one has left and cannot change it any more.

Auto scaling groups lose their instances one by one. Where the control plane answers, such a
run of terminations cannot stop half-way, as long as no member is named twice: a second
termination of one instance fails when the first one is already done.
-/

namespace Autoscaler

namespace NodeGroup

/-- How a removal of members can go. -/
inductive Removal (g : NodeGroup) (members : List InstanceRef) (w : World) :
    Except CloudError Unit → World → Prop where
  | idle (nobody : members = []) : Removal g members w (.ok ()) w
  | stopped {e : CloudError} {w' : World} (consulted : g.backend.Consulted w w') :
      Removal g members w (.error e) w'
  | deleted {size : Nat} {m w' : World} {r : Except CloudError Unit}
      (read : (g.currentSize.runOn w).1 = .ok size) (spare : g.canLose size members.length)
      (consulted : g.backend.Consulted w m)
      (unfailed : (g.backend.roster m).failures = (g.backend.roster w).failures)
      (owned : ∀ member ∈ members, (g.backend.roster m).owner? member = some g.id)
      (deletion : (g.backend.deleteAll g.id members).runOn m = (r, w')) :
      Removal g members w r w'

variable {g : NodeGroup} {members : List InstanceRef} {w w' : World} {r : Except CloudError Unit}

theorem canLose_iff {size removing : Nat} :
    g.canLose size removing ↔ g.bounds.min < size ∧ g.bounds.min + removing ≤ size := by
  simp [canLose]

/-- Both rounds of questions have to confirm all members before anything is deleted. The second
round finds nothing to rebuild. -/
theorem confirmed_twice_cases (somebody : members ≠ [])
    (run : (g.ensureOwns members >>= fun _ => g.backend.deleteMembers g.id members).runOn w =
      (r, w')) :
    (∃ e, r = .error e ∧ g.backend.Consulted w w') ∨
      ∃ m, g.backend.Consulted w m ∧
        (g.backend.roster m).failures = (g.backend.roster w).failures ∧
        (∀ member ∈ members, (g.backend.roster m).owner? member = some g.id) ∧
        (g.backend.deleteAll g.id members).runOn m = (r, w') := by
  rw [Backend.deleteMembers_eq _ _ somebody] at run
  obtain ⟨_, m, first, rest⟩ | ⟨e, first, rfl⟩ := Action.bind_cases run
  · obtain ⟨asked, confirmed⟩ := ensureOwns_cases first
    obtain ⟨_, m', second, deletion⟩ | ⟨e, second, rfl⟩ := Action.bind_cases rest
    · obtain ⟨asked', confirmed'⟩ := Backend.ensureMembers_cases second
      have round := confirmed rfl
      have round' := confirmed' rfl
      -- The first round has only asked, so both could rebuild from the same listings.
      rw [asked.lists] at round'
      obtain ⟨same, owned⟩ := round.twice (fun _ _ => Roster.Lists.steady) round'
      rw [← same] at owned
      exact .inr ⟨m', trans_of g.backend.Consulted asked asked', by rw [same, round.failures],
        owned, deletion⟩
    · obtain ⟨asked', -⟩ := Backend.ensureMembers_cases second
      exact .inl ⟨e, rfl, trans_of g.backend.Consulted asked asked'⟩
  · exact .inl ⟨e, rfl, (ensureOwns_cases first).1⟩

theorem remove_course (run : (g.remove members).runOn w = (r, w')) :
    g.Removal members w r w' := by
  rw [remove] at run
  split at run
  · next nobody =>
      cases run
      exact .idle nobody
  · next somebody =>
      obtain ⟨size, m, read, rest⟩ | ⟨e, read, rfl⟩ := Action.bind_cases run
      · obtain ⟨sized, unchanged⟩ := Backend.groupSize_cases read
        split at rest
        · cases rest
          exact .stopped sized
        · next spare =>
            obtain ⟨e, rfl, asked⟩ | ⟨m', asked, unfailed, owned, deletion⟩ :=
              confirmed_twice_cases somebody rest
            · exact .stopped (trans_of g.backend.Consulted sized asked)
            · rw [unchanged] at unfailed
              exact .deleted (by rw [read]) (by simpa using spare)
                (trans_of g.backend.Consulted sized asked) unfailed owned deletion
      · exact .stopped (Backend.groupSize_cases read).1

/-- What a removal of members lets happen. -/
structure Guarded (g : NodeGroup) (members : List InstanceRef) (w : World)
    (r : Except CloudError Unit) (w' : World) : Prop where
  /-- A control plane is asked to delete only if the size that was read allows it, and from a
  world on in which the roster has every member in the group. That roster stays. -/
  checked : w'.made .delete ≠ w.made .delete → ∃ size m,
    (g.currentSize.runOn w).1 = .ok size ∧
    g.bounds.min < size ∧ g.bounds.min + members.length ≤ size ∧
    World.Observed w m ∧
    (∀ member ∈ members, (g.backend.roster m).owner? member = some g.id) ∧
    (g.backend.deleteAll g.id members).runOn m = (r, w') ∧
    ∀ n, w'.rosters.get n = m.rosters.get n
  refused : ∀ e, r = .error e → e.isRefusal → w'.made .delete = w.made .delete
  unrefreshed : (g.backend.roster w').failures ≠ (g.backend.roster w).failures →
    w'.made .delete = w.made .delete
  /-- A removal that ends well has deleted all members. -/
  completed : r = .ok () → members ≠ [] → ∃ m, World.Observed w m ∧
    (g.backend.deleteAll g.id members).runOn m = (.ok (), w')

theorem Guarded.of_observed (seen : World.Observed w w') (idle : r = .ok () → members = []) :
    g.Guarded members w r w' where
  checked deleted := absurd (seen.made_eq (by decide)) deleted
  refused _ _ _ := seen.made_eq (by decide)
  unrefreshed _ := seen.made_eq (by decide)
  completed ok somebody := absurd (idle ok) somebody

/-- Every removal of members is guarded by its checks, whatever the roster knew, whatever
control planes hold and whichever calls fail. -/
theorem remove_guarded (g : NodeGroup) (members : List InstanceRef) (w : World) :
    g.Guarded members w ((g.remove members).runOn w).1 ((g.remove members).runOn w).2 := by
  rcases run : (g.remove members).runOn w with ⟨r, w'⟩
  cases remove_course run with
  | idle nobody => exact .of_observed (refl_of World.Observed w) fun _ => nobody
  | stopped consulted => exact .of_observed consulted.observed (by rintro ⟨⟩)
  | @deleted size m _ _ read spare consulted unfailed owned deletion =>
      obtain ⟨above, enough⟩ := canLose_iff.mp spare
      obtain ⟨rosters, failed⟩ := Backend.deleteAll_cases deletion
      refine ⟨?_, ?_, ?_, ?_⟩
      · intro _
        exact ⟨size, m, read, above, enough, consulted.observed, owned, deletion, rosters⟩
      · intro e error refusal
        rw [failed e error] at refusal
        cases refusal
      · intro more
        exact absurd ((congrArg Roster.failures (rosters _)).trans unfailed) more
      · rintro rfl _
        exact ⟨m, consulted.observed, deletion⟩

/-! ## All or nothing -/

/-- On a control plane of auto scaling groups that answers, a removal of different members that
ends with an error has changed no group. -/
theorem remove_allOrNothing {cloud roster : Nat} {e : CloudError}
    (backend : g.backend = .aws cloud roster) (healthy : (w.aws.get cloud).Healthy)
    (unique : Aws.UniqueIds (w.aws.get cloud).groups)
    (reached : Aws.Reached (w.aws.get cloud).groups (w.rosters.get roster))
    (distinct : members.Nodup) (run : (g.remove members).runOn w = (.error e, w')) :
    World.SameGroups w w' := by
  have course := remove_course run
  generalize failed : (Except.error e : Except CloudError Unit) = r at course
  cases course with
  | idle => cases failed
  | stopped consulted => exact consulted.observed.sameGroups
  | @deleted size m _ _ read spare consulted unfailed owned deletion =>
      subst failed
      -- The checks have succeeded; what is left is that the terminations cannot fail.
      rw [backend] at consulted owned deletion
      obtain ⟨site, deleted, -⟩ := World.onAws_cases deletion
      obtain ⟨c, terminated, -⟩ := Site.onCloud_cases deleted
      have seen := consulted.observed.aws cloud
      have accurate := Aws.Cloud.accurate_of_learns (.refl _) unique (reached.accurate unique)
        consulted.learns
      have held : ∀ member ∈ members, Aws.Holds (m.aws.get cloud).groups member g.id := by
        intro member inside
        rw [seen.groups]
        exact accurate member g.id (owned member inside)
      have unique' : Aws.UniqueIds (m.aws.get cloud).groups := seen.groups ▸ unique
      have ended := Aws.Cloud.terminateAll_healthy (seen.healthy healthy) unique'
        (fun member inside => ⟨g.id, held member inside⟩) (Aws.nodup_names unique' held distinct)
      change (Aws.Cloud.terminateAll members).runOn (m.aws.get cloud) = _ at terminated
      rw [terminated] at ended
      cases ended

end NodeGroup

/-!
## A group of two

A control plane with one group of two instances, and a roster that has yet to be built.
-/

namespace Pair

def group : NodeGroup := ⟨.aws 0 0, ⟨"z", "g"⟩, { min := 1, max := 5, max_lt := by decide }⟩

def cloud : Aws.Cloud where
  groups :=
    { entries := [("g", { desired := 3, instances := [⟨"a", "z"⟩, ⟨"b", "z"⟩] })]
      nodup := by decide }

def world : World where
  aws := ⟨[cloud]⟩
  rosters := ⟨[({} : Roster).register group.id]⟩

/-- One member and an instance that no group has. -/
def unknown : List InstanceRef := [⟨"z", "a"⟩, ⟨"z", "c"⟩]

/-- One member, named twice. -/
def twice : List InstanceRef := [⟨"z", "a"⟩, ⟨"z", "a"⟩]

/-- The world after a removal. -/
def after (members : List InstanceRef) : World := ((group.remove members).runOn world).2

theorem healthy : (world.aws.get 0).Healthy := ⟨rfl, fun _ _ => rfl⟩

theorem uniqueIds : Aws.UniqueIds (world.aws.get 0).groups where
  within name g found := by
    obtain ⟨rfl, rfl⟩ : name = "g" ∧ g = _ := by
      simpa [world, Slots.get, cloud] using Directory.mem_entries_iff.mpr found
    decide
  across name g other h id found found' _ _ := by
    obtain ⟨rfl, -⟩ : name = "g" ∧ g = _ := by
      simpa [world, Slots.get, cloud] using Directory.mem_entries_iff.mpr found
    obtain ⟨rfl, -⟩ : other = "g" ∧ h = _ := by
      simpa [world, Slots.get, cloud] using Directory.mem_entries_iff.mpr found'
    rfl

theorem reached : Aws.Reached (world.aws.get 0).groups (world.rosters.get 0) :=
  .register group.id .empty

theorem remove_unknown : (group.remove unknown).runOn world =
    (.error (.notManaged ⟨"z", "c"⟩), after unknown) :=
  Prod.ext (by decide +kernel) (by rw [after])

theorem remove_twice : (group.remove twice).runOn world =
    (.error (.api "aws" "instance a not found"), after twice) :=
  Prod.ext (by decide +kernel) (by rw [after])

end Pair

theorem NodeGroup.remove_allOrNothing_pair : World.SameGroups Pair.world (Pair.after Pair.unknown) :=
  NodeGroup.remove_allOrNothing rfl Pair.healthy Pair.uniqueIds Pair.reached (by decide)
    Pair.remove_unknown

/-- A member that is named twice is gone although the removal ends with an error. -/
theorem NodeGroup.remove_halfDone :
    ¬ ∀ (g : NodeGroup) (cloud roster : Nat) (members : List InstanceRef) (w w' : World)
        (e : CloudError), g.backend = .aws cloud roster → (w.aws.get cloud).Healthy →
      Aws.UniqueIds (w.aws.get cloud).groups →
      Aws.Reached (w.aws.get cloud).groups (w.rosters.get roster) →
      (g.remove members).runOn w = (.error e, w') → World.SameGroups w w' := by
  intro claim
  have same := claim _ _ _ _ _ _ _ rfl Pair.healthy Pair.uniqueIds Pair.reached Pair.remove_twice
  exact absurd (congrArg (·.find? "g") (same.aws 0)) (by decide +kernel)

end Autoscaler
