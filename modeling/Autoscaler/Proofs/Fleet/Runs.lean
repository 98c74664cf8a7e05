import Autoscaler.Proofs.Fleet.Addresses
import Autoscaler.Proofs.Fleet.Removal
import Mathlib.Logic.Relation

/-!
# Sizes over whole runs

Node groups serve requests one after the other, in any order, while calls fail now and then
and instances become hard to find. As long as nobody else gives groups another size or takes
their instances, a group that starts within its bounds stays there: what rosters know is true
of the groups as they were in the beginning, so no instance is ever taken from a group other
than the one that was asked.
-/

namespace Autoscaler

/-- What is asked of a node group. -/
inductive Request where
  | increase (delta : Int)
  | remove (members : List InstanceRef)
  | resize (size : Nat)
  | refresh
  | lookup (member : InstanceRef)
  deriving DecidableEq, Repr

namespace Request

/-- Whether the request heeds the minimum of a group. -/
def keepsMinimum : Request → Bool
  | resize _ => false
  | _ => true

/-- How a request may move the size of a group with these bounds. -/
def Moves (bounds : SizeBounds) (request : Request) (n n' : Nat) : Prop :=
  n' = n ∨ match request with
    | increase _ => n < n' ∧ n' ≤ bounds.max
    | remove _ => bounds.min ≤ n' ∧ n' ≤ n
    | resize _ => n' ≤ bounds.max
    | refresh => False
    | lookup _ => False

variable {bounds : SizeBounds} {request : Request} {n n' : Nat}

theorem Moves.within (moves : request.Moves bounds n n') (heeds : request.keepsMinimum)
    (lower : bounds.min ≤ n) (upper : n ≤ bounds.max) : bounds.min ≤ n' ∧ n' ≤ bounds.max := by
  obtain rfl | moved := moves
  · exact ⟨lower, upper⟩
  · cases request with
    | increase delta => exact ⟨by omega, moved.2⟩
    | remove members => exact ⟨moved.1, by omega⟩
    | resize size => cases heeds
    | refresh => cases moved
    | lookup member => cases moved

theorem Moves.le_max (moves : request.Moves bounds n n') : n' ≤ max bounds.max n := by
  obtain rfl | moved := moves
  · exact Nat.le_max_right _ _
  · cases request with
    | increase delta => exact Nat.le_trans moved.2 (Nat.le_max_left _ _)
    | remove members => exact Nat.le_trans moved.2 (Nat.le_max_right _ _)
    | resize size => exact Nat.le_trans moved (Nat.le_max_left _ _)
    | refresh => cases moved
    | lookup member => cases moved

end Request

namespace NodeGroup

/-- Serves a request, whatever it answers. -/
def serve (g : NodeGroup) : Request → CloudM World Unit
  | .increase delta => g.increase delta
  | .remove members => g.remove members
  | .resize size => do
      let _ ← g.resize size
  | .refresh => g.backend.refresh
  | .lookup member => do
      let _ ← g.backend.owner? member

variable {g : NodeGroup} {w w' : World}

/-- A resize sets a size, capped at the maximum. -/
theorem resize_sets {size : Nat} {r : Except CloudError Nat}
    (run : (g.resize size).runOn w = (r, w')) :
    ∃ r', (g.backend.setGroupSize g.id (min size g.bounds.max)).runOn w = (r', w') := by
  obtain ⟨_, m, set, told⟩ | ⟨e, set, -⟩ := Action.bind_cases run
  · cases told
    exact ⟨_, set⟩
  · exact ⟨_, set⟩

/-- An increase sets a size only if it is above the one that was read and within the bounds. -/
theorem increase_cases {delta : Int} {r : Except CloudError Unit}
    (run : (g.increase delta).runOn w = (r, w')) :
    g.backend.Consulted w w' ∨ ∃ n m desired, g.size? w = some n ∧ g.backend.Consulted w m ∧
      n < desired ∧ desired ≤ g.bounds.max ∧
      (g.backend.setGroupSize g.id desired).runOn m = (r, w') := by
  rw [increase] at run
  split at run
  · cases run
    exact .inl (refl_of g.backend.Consulted w)
  · next positive =>
      obtain ⟨n, m, read, rest⟩ | ⟨e, read, rfl⟩ := Action.bind_cases run
      · have known : g.size? w = some n := Backend.groupSize_ok read
        obtain ⟨consulted, -⟩ := Backend.groupSize_cases read
        dsimp only at rest
        split at rest
        · cases rest
          exact .inl consulted
        · next fits =>
            exact .inr ⟨n, m, _, known, consulted, by omega, by omega, rest⟩
      · exact .inl (Backend.groupSize_cases read).1

end NodeGroup

/-- Node groups that do not get into each other's way: no two of them share a group of a
control plane, backends share a roster only if they are one, instances can be told apart, and
rosters know nothing yet. -/
structure Apart (groups : List NodeGroup) (w : World) : Prop where
  addresses : ∀ g ∈ groups, ∀ h ∈ groups, g.address = h.address → g = h
  rosters : ∀ g ∈ groups, ∀ h ∈ groups,
    g.backend.rosterSlot = h.backend.rosterSlot → g.backend = h.backend
  unique : ∀ g ∈ groups, g.backend.Unique w
  unknowing : ∀ g ∈ groups, (g.backend.roster w).owners = []

/-- One step of a run: a node group serves a request, or something else about the control
planes changes than groups. -/
inductive Step (groups : List NodeGroup) (allowed : Request → Prop) : World → World → Prop where
  | served {g : NodeGroup} (member : g ∈ groups) (request : Request) (fine : allowed request)
      (w : World) : Step groups allowed w ((g.serve request).runOn w).2
  | disturbed {w w' : World} (same : World.SameGroups w w')
      (rosters : ∀ n, w'.rosters.get n = w.rosters.get n) : Step groups allowed w w'

/-- The worlds that runs lead to. -/
def Run (groups : List NodeGroup) (allowed : Request → Prop) : World → World → Prop :=
  Relation.ReflTransGen (Step groups allowed)

/-- What a run keeps: no group gets an instance, and what a roster knows of auto scaling groups
was true in the beginning. -/
structure Sound (groups : List NodeGroup) (start w : World) : Prop where
  fewer : World.Fewer start w
  accurate : ∀ g ∈ groups, ∀ cloud roster, g.backend = .aws cloud roster →
    Aws.Accurate (start.aws.get cloud).groups (w.rosters.get roster)

section Runs

variable {groups : List NodeGroup} {start w w' : World} {g : NodeGroup}

theorem Apart.sound (apart : Apart groups start) : Sound groups start start where
  fewer := refl_of World.Fewer start
  accurate g inside cloud roster backend := by
    intro member group owned
    have unknowing := apart.unknowing g inside
    rw [backend] at unknowing
    change (start.rosters.get roster).owners = [] at unknowing
    rw [Roster.owner?, unknowing] at owned
    cases owned

namespace Sound

theorem unique (sound : Sound groups start w) (apart : Apart groups start) (inside : g ∈ groups) :
    g.backend.Unique w := by
  have before := apart.unique g inside
  cases backend : g.backend with
  | aws cloud roster =>
      rw [backend] at before
      exact (sound.fewer.aws cloud).uniqueIds before
  | gce project polling cloud roster =>
      rw [backend] at before
      exact (sound.fewer.gce cloud).uniqueNames before

theorem of_fewer (sound : Sound groups start w) (fewer : World.Fewer w w')
    (rosters : ∀ n, w'.rosters.get n = w.rosters.get n) : Sound groups start w' where
  fewer := trans_of World.Fewer sound.fewer fewer
  accurate g inside cloud roster backend := by
    rw [rosters]
    exact sound.accurate g inside cloud roster backend

/-- Questions through one of the backends teach rosters nothing that is not so. -/
theorem of_consulted (sound : Sound groups start w) (apart : Apart groups start)
    (inside : g ∈ groups) (consulted : g.backend.Consulted w w') : Sound groups start w' where
  fewer := trans_of World.Fewer sound.fewer consulted.observed.sameGroups.fewer
  accurate h inside' cloud roster backend := by
    have accurate := sound.accurate h inside' cloud roster backend
    by_cases here : roster = g.backend.rosterSlot
    · -- The roster that was asked: its backend is the one of `h`.
      have same : g.backend = .aws cloud roster := by
        rw [apart.rosters g inside h inside' (by rw [backend]; exact here.symm), backend]
      have unique := sound.unique apart inside
      rw [same] at consulted unique
      exact Aws.Cloud.accurate_of_learns (sound.fewer.aws cloud) unique accurate consulted.learns
    · rw [consulted.others roster here]
      exact accurate

/-- Deleting members that the roster has in a group changes the size of that group alone, and by
at most their number. -/
theorem deletion (sound : Sound groups start w) (apart : Apart groups start) (inside : g ∈ groups)
    {members : List InstanceRef}
    (owned : ∀ member ∈ members, (g.backend.roster w).owner? member = some g.id)
    {r : Except CloudError Unit} (run : (g.backend.deleteAll g.id members).runOn w = (r, w')) :
    World.Fewer w w' ∧ ChangedAt g.address (fun n n' => n' ≤ n ∧ n ≤ n' + members.length)
      w.sizeAt? w'.sizeAt? := by
  have unique := sound.unique apart inside
  rw [NodeGroup.address]
  cases backend : g.backend with
  | aws cloud roster =>
      rw [backend] at owned run unique
      have before := apart.unique g inside
      rw [backend] at before
      obtain ⟨site, deleted, rfl⟩ := World.onAws_cases run
      obtain ⟨c, terminated, rfl⟩ := Site.onCloud_cases deleted
      have others : ∀ member ∈ members, ∀ name h,
          (w.aws.get cloud).groups.find? name = some h → member.name ∈ h.ids →
          name = g.id.name := by
        intro member listed name h found there
        have held := sound.accurate g inside cloud roster backend member g.id (owned member listed)
        exact (sound.fewer.aws cloud).eq_of_mem before held found there
      have changed := Aws.Cloud.terminateAll_changes others terminated
      refine ⟨World.fewer_setAws ?_, World.sizeAt?_setAws ?_⟩
      · exact (changed.mono fun _ _ _ => Aws.Group.Reduced.instances).within fun _ => .refl _
      · exact changed.mono fun _ _ _ reduced => ⟨reduced.atMost, reduced.atLeast⟩
  | gce project polling cloud roster =>
      rw [backend] at run unique
      obtain ⟨site, deleted, rfl⟩ := World.onGce_cases run
      obtain ⟨c, ended, rfl⟩ := Site.onCloud_cases deleted
      have changed := Gce.Cloud.deleteAll_changes unique ended
      refine ⟨World.fewer_setGce ?_, World.sizeAt?_setGce ?_⟩
      · exact (changed.mono fun _ _ _ => Gce.Group.Reduced.instances).within fun _ => .refl _
      · exact changed.mono fun _ _ _ reduced => ⟨reduced.atMost, reduced.atLeast⟩

end Sound

/-! ## Requests and runs -/

/-- What serving a request comes to: what runs keep is kept, and one size has moved as such a
request may move it. -/
structure Served (groups : List NodeGroup) (start : World) (g : NodeGroup) (request : Request)
    (w w' : World) : Prop where
  sound : Sound groups start w'
  moved : ChangedAt g.address (request.Moves g.bounds) w.sizeAt? w'.sizeAt?

namespace Served

variable {request : Request}

theorem of_consulted (apart : Apart groups start) (sound : Sound groups start w)
    (inside : g ∈ groups) (consulted : g.backend.Consulted w w') :
    Served groups start g request w w' where
  sound := sound.of_consulted apart inside consulted
  moved := by
    rw [consulted.observed.sameGroups.sizeAt?]
    exact .refl (fun _ => .inl rfl) _ _

theorem of_set (apart : Apart groups start) (sound : Sound groups start w) (inside : g ∈ groups)
    {m : World} {size : Nat} {r : Except CloudError Unit} (consulted : g.backend.Consulted w m)
    (set : (g.backend.setGroupSize g.id size).runOn m = (r, w'))
    (moves : ∀ n, g.size? w = some n → request.Moves g.bounds n size) :
    Served groups start g request w w' := by
  obtain ⟨fewer, changed⟩ := Backend.setGroupSize_changes set
  rw [consulted.observed.sameGroups.sizeAt?] at changed
  refine ⟨(sound.of_consulted apart inside consulted).of_fewer fewer
    (Backend.setGroupSize_rosters set), changed.mono ?_⟩
  rintro n n' known (rfl | rfl)
  · exact .inl rfl
  · exact moves n ((g.sizeAt?_address w).symm.trans known)

theorem of_removal (apart : Apart groups start) (sound : Sound groups start w)
    (inside : g ∈ groups) {members : List InstanceRef} {r : Except CloudError Unit}
    (removal : g.Removal members w r w') : Served groups start g (.remove members) w w' := by
  cases removal with
  | idle => exact of_consulted apart sound inside (refl_of g.backend.Consulted w)
  | stopped consulted => exact of_consulted apart sound inside consulted
  | @deleted size m _ _ read spare consulted unfailed owned deletion =>
      obtain ⟨above, enough⟩ := NodeGroup.canLose_iff.mp spare
      have known : g.size? w = some size := Backend.groupSize_ok (Prod.ext read rfl)
      have sound' := sound.of_consulted apart inside consulted
      obtain ⟨fewer, changed⟩ := sound'.deletion apart inside owned deletion
      rw [consulted.observed.sameGroups.sizeAt?] at changed
      refine ⟨sound'.of_fewer fewer (Backend.deleteAll_cases deletion).1, changed.mono ?_⟩
      rintro n n' held ⟨less, most⟩
      rw [g.sizeAt?_address, known] at held
      cases held
      exact .inr ⟨by omega, less⟩

end Served

theorem serve_served (apart : Apart groups start) (sound : Sound groups start w)
    (inside : g ∈ groups) (request : Request) :
    Served groups start g request w ((g.serve request).runOn w).2 := by
  rcases run : (g.serve request).runOn w with ⟨r, w'⟩
  cases request with
  | increase delta =>
      obtain consulted | ⟨n, m, desired, known, consulted, above, below, set⟩ :=
        NodeGroup.increase_cases run
      · exact .of_consulted apart sound inside consulted
      · refine .of_set apart sound inside consulted set ?_
        intro n' known'
        cases known.symm.trans known'
        exact .inr ⟨above, below⟩
  | remove members => exact .of_removal apart sound inside (NodeGroup.remove_course run)
  | resize size =>
      obtain ⟨r', set⟩ : ∃ r',
          (g.backend.setGroupSize g.id (min size g.bounds.max)).runOn w = (r', w') := by
        obtain ⟨n, m, resized, told⟩ | ⟨e, resized, -⟩ := Action.bind_cases run
        · cases told
          exact NodeGroup.resize_sets resized
        · exact NodeGroup.resize_sets resized
      exact .of_set apart sound inside (refl_of g.backend.Consulted w) set
        fun _ _ => .inr (Nat.min_le_right _ _)
  | refresh =>
      exact .of_consulted apart sound inside (g.backend.consulted_refresh.of_runOn run)
  | lookup member =>
      obtain ⟨owner, m, looked, told⟩ | ⟨e, looked, -⟩ := Action.bind_cases run
      · cases told
        exact .of_consulted apart sound inside (Backend.owner?_cases looked).1
      · exact .of_consulted apart sound inside (Backend.owner?_cases looked).1

theorem step_sound (apart : Apart groups start) (sound : Sound groups start w)
    {allowed : Request → Prop} (step : Step groups allowed w w') : Sound groups start w' := by
  cases step with
  | served inside request fine => exact (serve_served apart sound inside request).sound
  | disturbed same rosters => exact sound.of_fewer same.fewer rosters

theorem run_sound (apart : Apart groups start) {allowed : Request → Prop}
    (run : Run groups allowed start w) : Sound groups start w := by
  induction run with
  | refl => exact apart.sound
  | tail _ step ih => exact step_sound apart ih step

/-- A size changes only in steps in which the group itself serves a request. -/
theorem step_size? (apart : Apart groups start) (sound : Sound groups start w)
    {allowed : Request → Prop} (step : Step groups allowed w w') (inside : g ∈ groups) {n : Nat}
    (known : g.size? w = some n) : ∃ n', g.size? w' = some n' ∧
      (n' = n ∨ ∃ request, allowed request ∧ request.Moves g.bounds n n') := by
  cases step with
  | @served h inside' request fine =>
      have moved := (serve_served apart sound inside' request).moved
      rw [← g.sizeAt?_address] at known ⊢
      -- The group that serves is the group itself, or its request moves another size.
      by_cases here : g.address = h.address
      · cases apart.addresses g inside h inside' here
        obtain ⟨n', known', moves⟩ := moved.after known
        exact ⟨n', known', .inr ⟨request, fine, moves⟩⟩
      · exact ⟨n, (moved.elsewhere _ here).trans known, .inl rfl⟩
  | disturbed same rosters =>
      exact ⟨n, (same.size? g.backend g.id).trans known, .inl rfl⟩

/-- What every request that is allowed keeps of the size of a group, a run keeps. -/
theorem run_size? (apart : Apart groups start) {allowed : Request → Prop} (inside : g ∈ groups)
    {P : Nat → Prop} (kept : ∀ request, allowed request → ∀ n n', request.Moves g.bounds n n' →
      P n → P n') {n : Nat} (known : g.size? start = some n) (holds : P n)
    (run : Run groups allowed start w) : ∃ n', g.size? w = some n' ∧ P n' := by
  induction run with
  | refl => exact ⟨n, known, holds⟩
  | tail before step ih =>
      obtain ⟨k, known, holds⟩ := ih
      obtain ⟨k', known', rfl | ⟨request, fine, moves⟩⟩ :=
        step_size? apart (run_sound apart before) step inside known
      · exact ⟨k', known', holds⟩
      · exact ⟨k', known', kept request fine k k' moves holds⟩

/-- Without resizes a group that starts within its bounds stays there at every point of every
run, and with them it never grows beyond the larger of its maximum and the size it had. -/
theorem runs_keep_bounds (apart : Apart groups start) (inside : g ∈ groups) {n : Nat}
    (known : g.size? start = some n) :
    (g.bounds.min ≤ n → n ≤ g.bounds.max → ∀ w,
      Run groups (fun request => request.keepsMinimum) start w →
      ∃ n', g.size? w = some n' ∧ g.bounds.min ≤ n' ∧ n' ≤ g.bounds.max) ∧
    ∀ w, Run groups (fun _ => True) start w →
      ∃ n', g.size? w = some n' ∧ n' ≤ max g.bounds.max n := by
  constructor
  · intro lower upper w run
    refine run_size? apart inside ?_ known ⟨lower, upper⟩ run
    rintro request heeds k k' moves ⟨lower, upper⟩
    exact moves.within heeds lower upper
  · intro w run
    refine run_size? apart inside ?_ known (Nat.le_max_right _ _) run
    intro request _ k k' moves bound
    exact Nat.le_trans moves.le_max (Nat.max_le.mpr ⟨Nat.le_max_left _ _, bound⟩)

end Runs

/-!
## Two clouds

The group of two next to a managed instance group, each with a roster that has yet to be built.
-/

namespace Mixed

def managed : NodeGroup := ⟨.gce "p" {} 0 1, ⟨"z", "m"⟩, .small 1 3⟩

def fleet : List NodeGroup := [Pair.group, managed]

def cloud : Gce.Cloud where
  groups :=
    { entries := [(⟨"p", "z", "m"⟩, { target := 2, instances := ["x", "y"] })]
      nodup := by decide }

def world : World where
  aws := Pair.world.aws
  gce := ⟨[cloud]⟩
  rosters := ⟨[({} : Roster).register Pair.group.id, ({} : Roster).register managed.id]⟩

/-- The world after a request to the group of two. -/
def next (request : Request) (w : World) : World := ((Pair.group.serve request).runOn w).2

/-- The world after one instance is removed, and then once more, named twice. -/
def shrunk : World :=
  next (.remove Pair.twice) (next (.remove [⟨"z", "a"⟩]) world)

theorem uniqueNames : Gce.UniqueNames (world.gce.get 0).groups := by
  intro key g found
  obtain ⟨-, rfl⟩ : key = ⟨"p", "z", "m"⟩ ∧ g = _ := by
    simpa [world, Slots.get, cloud] using Directory.mem_entries_iff.mpr found
  decide

theorem apart : Apart fleet world where
  addresses := by decide
  rosters := by decide
  unique g inside := by
    obtain rfl | rfl : g = Pair.group ∨ g = managed := by simpa [fleet] using inside
    · exact Pair.uniqueIds
    · exact uniqueNames
  unknowing := by decide

theorem member : Pair.group ∈ fleet := by decide

theorem step_next {request : Request} (heeds : request.keepsMinimum) (w : World) :
    Step fleet (fun request => request.keepsMinimum) w (next request w) :=
  .served member request heeds w

theorem run_shrunk : Run fleet (fun request => request.keepsMinimum) world shrunk :=
  .tail (.tail .refl (step_next rfl _)) (step_next rfl _)

end Mixed

theorem runs_keep_bounds_mixed :
    ∃ n', Pair.group.size? Mixed.shrunk = some n' ∧ 1 ≤ n' ∧ n' ≤ 5 :=
  (runs_keep_bounds Mixed.apart Mixed.member (n := 3) (by decide)).1 (by decide) (by decide) _
    Mixed.run_shrunk

end Autoscaler
