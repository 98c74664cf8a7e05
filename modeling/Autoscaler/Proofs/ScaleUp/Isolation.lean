import Autoscaler.Proofs.Fleet.Twins
import Autoscaler.Proofs.ScaleUp.Parallel
import Autoscaler.Proofs.ScaleUp.Turns

/-!
# Groups that are skipped

A cycle skips a candidate whose size leaves no room or cannot be read, and goes on as if the group
were not there. Two cycles are compared here, one of which does not see nodes that belong to such
groups alone. It finds fewer candidates, but the same among the other groups, and reads fewer
sizes; from there on both cycles do the same. For this the calls to a control plane must not fail
by their number, since it is not the same in both cycles, and the rosters must know what complete
listings show, since a node that is left out could have made a backend rebuild its roster.
-/

namespace Autoscaler

open Autoscaler.Action (Blind Constant Parallel)

/-- The group is full, or no question about its size is answered. -/
def NodeGroup.Skipped (g : NodeGroup) (w : World) : Prop :=
  (∃ n, g.size? w = some n ∧ g.bounds.max ≤ n) ∨
    ∀ m, World.Observed w m → ∃ error, (g.currentSize.runOn m).1 = .error error

/-- A group that its control plane does not have is skipped. -/
theorem NodeGroup.skipped_of_missing {g : NodeGroup} {w : World} (missing : g.size? w = none) :
    g.Skipped w := by
  right
  intro m seen
  rcases read : g.currentSize.runOn m with ⟨error | n, m'⟩
  · exact ⟨error, rfl⟩
  · have known : g.size? m = some n := Backend.groupSize_ok read
    rw [seen.size?, missing] at known
    cases known

/-- Both worlds are twins of `w`. -/
def World.Twins (w m m' : World) : Prop := Twin w m ∧ Twin w m'

/-- Apart from groups of `S`, both lists have the same candidates. -/
def Candidate.SameBeyond (S : List NodeGroup) (found found' : List Candidate) : Prop :=
  found.filter (·.group ∉ S) = found'.filter (·.group ∉ S)

namespace Candidate.SameBeyond

variable {S : List NodeGroup} {found found' others others' : List Candidate} {c : Candidate}

theorem cons (c : Candidate) (same : SameBeyond S found found') :
    SameBeyond S (c :: found) (c :: found') := by
  rw [SameBeyond] at same ⊢
  rw [List.filter_cons, List.filter_cons, same]

theorem cons_left (skipped : c.group ∈ S) (same : SameBeyond S found found') :
    SameBeyond S (c :: found) found' := by
  rw [SameBeyond] at same ⊢
  rw [List.filter_cons_of_neg (by simpa using skipped), same]

theorem cons_right (skipped : c.group ∈ S) (same : SameBeyond S found found') :
    SameBeyond S found (c :: found') := by
  rw [SameBeyond] at same ⊢
  rw [List.filter_cons_of_neg (by simpa using skipped), same]

theorem append (same : SameBeyond S found found') (same' : SameBeyond S others others') :
    SameBeyond S (found ++ others) (found' ++ others') := by
  rw [SameBeyond] at same same' ⊢
  rw [List.filter_append, List.filter_append, same, same']

variable {R : World → World → Prop} {act act' : CloudM World (List Candidate)}

/-- One more candidate of a group of `S`. -/
theorem parallel_cons_left (skipped : c.group ∈ S)
    (parallel : Parallel R Eq (SameBeyond S) act act') :
    Parallel R Eq (SameBeyond S) (act >>= fun found => pure (c :: found)) act' := by
  rw [← bind_pure act']
  exact .bind parallel fun _ _ same => .pure (same.cons_left skipped)

theorem parallel_cons_right (skipped : c.group ∈ S)
    (parallel : Parallel R Eq (SameBeyond S) act act') :
    Parallel R Eq (SameBeyond S) act (act' >>= fun found => pure (c :: found)) := by
  rw [← bind_pure act]
  exact .bind parallel fun _ _ same => .pure (same.cons_right skipped)

end Candidate.SameBeyond

namespace Provider

variable {p : Provider} {S : List NodeGroup} {seen seen' : List GroupId} {w : World}
  {node : Node} {nodes : List Node} {g : NodeGroup}

/-- What the provider tells of the group of a node. -/
def place (p : Provider) (node : Node) (w : World) : Except CloudError (Option NodeGroup) :=
  ((p.groupOf? node).runOn w).1

/-- Apart from groups of `S`, the same groups were seen. -/
def SeenBeyond (p : Provider) (S : List NodeGroup) (seen seen' : List GroupId) : Prop :=
  ∀ g, p.group? g.id = some g → g ∉ S → (g.id ∈ seen ↔ g.id ∈ seen')

namespace SeenBeyond

theorem cons (id : GroupId) (same : p.SeenBeyond S seen seen') :
    p.SeenBeyond S (id :: seen) (id :: seen') := by
  intro g own unskipped
  rw [List.mem_cons, List.mem_cons, same g own unskipped]

theorem symm (same : p.SeenBeyond S seen seen') : p.SeenBeyond S seen' seen :=
  fun g own unskipped => (same g own unskipped).symm

theorem cons_left (own : p.group? g.id = some g) (skipped : g ∈ S)
    (same : p.SeenBeyond S seen seen') : p.SeenBeyond S (g.id :: seen) seen' := by
  intro h own' unskipped
  have other : h.id ≠ g.id := by
    intro same
    rw [same, own] at own'
    exact unskipped (Option.some.inj own' ▸ skipped)
  rw [List.mem_cons, or_iff_right other, same h own' unskipped]

theorem cons_right (own : p.group? g.id = some g) (skipped : g ∈ S)
    (same : p.SeenBeyond S seen seen') : p.SeenBeyond S seen (g.id :: seen') :=
  (same.symm.cons_left own skipped).symm

end SeenBeyond

/-- The provider tells of a node that it is in a group of `S` or in none. -/
def Inside (p : Provider) (S : List NodeGroup) (w : World) (node : Node) : Prop :=
  ∃ group, p.place node w = .ok group ∧ ∀ g, group = some g → g ∈ S

theorem own_of_place (placed : p.place node w = .ok (some g)) : p.group? g.id = some g :=
  group?_of_groupOf? (Prod.ext placed rfl)

section Twins

variable (uniform : w.Uniform) (constant : ∀ node, Constant (World.Twin w) (p.groupOf? node))

include uniform constant

/-- From a twin, a node is placed as before. -/
theorem groupOf?_twin {m : World} (twin : World.Twin w m) (node : Node) :
    ∃ m', (p.groupOf? node).runOn m = (p.place node w, m') ∧ World.Twin w m' := by
  obtain ⟨r, always⟩ := constant node
  obtain ⟨told, onward⟩ := always m twin
  obtain ⟨before, -⟩ := always w uniform.twin
  exact ⟨((p.groupOf? node).runOn m).2, Prod.ext (told.trans before.symm) rfl, onward⟩

theorem parallel_place (node : Node) :
    Parallel (World.Twins w) Eq
      (fun group group' => group = group' ∧ p.place node w = .ok group)
      (p.groupOf? node) (p.groupOf? node) := by
  rintro m m' ⟨twin, twin'⟩
  obtain ⟨k, run, onward⟩ := groupOf?_twin uniform constant twin node
  obtain ⟨k', run', onward'⟩ := groupOf?_twin uniform constant twin' node
  rw [run, run']
  refine ⟨?_, onward, onward'⟩
  cases p.place node w with
  | ok group => exact .ok ⟨rfl, rfl⟩
  | error e => exact .error rfl

/-- Candidates are the same among other groups if nodes are left out that are in groups of `S`
alone. -/
theorem candidatesBeyond_inside {keep : Node → Bool}
    (left : ∀ node ∈ nodes, keep node = false → p.Inside S w node)
    (same : p.SeenBeyond S seen seen') :
    Parallel (World.Twins w) Eq (Candidate.SameBeyond S)
      (p.candidatesBeyond seen nodes) (p.candidatesBeyond seen' (nodes.filter keep)) := by
  induction nodes generalizing seen seen' with
  | nil => exact .pure rfl
  | cons node nodes ih =>
      obtain ⟨here, others⟩ := List.forall_mem_cons.mp left
      by_cases kept : keep node
      · rw [List.filter_cons_of_pos kept]
        refine .bind (parallel_place uniform constant node) ?_
        rintro group _ ⟨rfl, placed⟩
        cases group with
        | none => exact ih others same
        | some g =>
            have own := own_of_place placed
            by_cases skipped : g ∈ S
            · dsimp only
              split <;> split
              · exact ih others same
              · exact Candidate.SameBeyond.parallel_cons_right skipped
                  (ih others (same.cons_right own skipped))
              · exact Candidate.SameBeyond.parallel_cons_left skipped
                  (ih others (same.cons_left own skipped))
              · exact .bind (ih others (same.cons g.id)) fun _ _ found => .pure (found.cons _)
            · have before := same g own skipped
              dsimp only
              split
              · next known =>
                  rw [if_pos (before.mp known)]
                  exact ih others same
              · next fresh =>
                  rw [if_neg (fresh ∘ before.mpr)]
                  exact .bind (ih others (same.cons g.id)) fun _ _ found => .pure (found.cons _)
      · rw [List.filter_cons_of_neg kept]
        obtain ⟨group, placed, inside⟩ := here (by simpa using kept)
        refine .bind_left (P := (group = ·)) ?_ ?_
        · rintro m m' ⟨twin, twin'⟩
          obtain ⟨k, run, onward⟩ := groupOf?_twin uniform constant twin node
          rw [run]
          exact ⟨group, placed, rfl, onward, twin'⟩
        · rintro _ rfl
          cases group with
          | none => exact ih others same
          | some g =>
              have skipped := inside g rfl
              dsimp only
              split
              · exact ih others same
              · exact Candidate.SameBeyond.parallel_cons_left skipped
                  (ih others (same.cons_left (own_of_place placed) skipped))

end Twins

end Provider

namespace Engine

variable {e : Engine} {pods : List Pod} {nodes : List Node} {S : List NodeGroup}
  {keep : Node → Bool} {found found' : List Candidate} {w m : World}

/-! ## Surveys -/

theorem discover_inside {providers : List Provider} (uniform : w.Uniform)
    (settled : ∀ p ∈ providers, p.backend.Settled w)
    (left : ∀ node ∈ nodes, keep node = false → ∀ p ∈ providers, p.Inside S w node) :
    Parallel (World.Twins w) Eq (Candidate.SameBeyond S) (discover nodes providers)
      (discover (nodes.filter keep) providers) := by
  induction providers with
  | nil => exact .pure rfl
  | cons p providers ih =>
      obtain ⟨here, others⟩ := List.forall_mem_cons.mp settled
      have constant := Provider.constant_groupOf? (Backend.constant_owner?_settled here)
      have first := Provider.candidatesBeyond_inside uniform constant
        (fun node member dropped => left node member dropped p List.mem_cons_self)
        (fun _ _ _ => Iff.rfl : p.SeenBeyond S [] [])
      have rest := ih others fun node member dropped p' among =>
        left node member dropped p' (List.mem_cons_of_mem _ among)
      refine .bind (.mapError first fun _ _ same => congrArg _ same) ?_
      intro found found' same
      exact .bind rest fun _ _ same' => .pure (same.append same')

/-- From every twin the same sizes are read. -/
theorem readings_twin (uniform : w.Uniform) (twin : World.Twin w m) (found : List Candidate) :
    readings found m = found.map fun c => (c, (c.group.currentSize.runOn w).1) := by
  induction found generalizing m with
  | nil => rfl
  | cons c found ih =>
      have constant := c.group.backend.constant_groupSize c.group.id w
      have same : (c.group.currentSize.runOn m).1 = (c.group.currentSize.runOn w).1 :=
        constant.same twin uniform.twin
      have onward : World.Twin w (c.group.currentSize.runOn m).2 := constant.kept twin rfl
      rw [readings, same, ih onward, List.map_cons]

theorem constant_growable (found : List Candidate) (w : World) :
    Constant (World.Twin w) (growable found) := by
  induction found with
  | nil => exact .pure _
  | cons c found ih =>
      exact .bind (c.group.constant_canGrow w).attempt fun _ => .bind ih fun _ => .pure _

/-- Whether the size of a candidate can be read and is below the maximum. -/
def roomIn (w : World) (c : Candidate) : Bool := showsRoom (c, (c.group.currentSize.runOn w).1)

theorem growable_twin (uniform : w.Uniform) (twin : World.Twin w m) (found : List Candidate) :
    ((growable found).runOn m).1 = .ok (found.filter (roomIn w)) := by
  rw [growable_readings, readings_twin uniform twin, List.filter_map, List.map_map]
  exact congrArg Except.ok (List.map_id _)

theorem roomIn_skipped {c : Candidate} (skipped : c.group.Skipped w) : roomIn w c = false := by
  rcases read : c.group.currentSize.runOn w with ⟨answer, m⟩
  rw [roomIn, read]
  cases answer with
  | error error => rfl
  | ok n =>
      obtain ⟨n', known, full⟩ | unread := skipped
      · rw [NodeGroup.size?, Backend.groupSize_ok read, Option.some.injEq] at known
        simpa [showsRoom, known] using full
      · obtain ⟨error, wrong⟩ := unread w (refl_of World.Observed w)
        rw [read] at wrong
        cases wrong

theorem filter_roomIn (skipped : ∀ g ∈ S, g.Skipped w) (found : List Candidate) :
    found.filter (roomIn w) = (found.filter (·.group ∉ S)).filter (roomIn w) := by
  rw [List.filter_filter]
  apply List.filter_congr
  intro c _
  by_cases inside : c.group ∈ S
  · simp [roomIn_skipped (skipped _ inside)]
  · simp [inside]

/-- Among candidates that differ in skipped groups alone, the same can grow. -/
theorem growable_beyond (uniform : w.Uniform) (skipped : ∀ g ∈ S, g.Skipped w)
    (same : Candidate.SameBeyond S found found') :
    Parallel (World.Twins w) Eq Eq (growable found) (growable found') := by
  rintro m m' ⟨twin, twin'⟩
  have kept := (constant_growable found w).kept twin rfl
  have kept' := (constant_growable found' w).kept twin' rfl
  refine ⟨.of_eq ?_, kept, kept'⟩
  rw [growable_twin uniform twin, growable_twin uniform twin', filter_roomIn skipped found, same,
    ← filter_roomIn skipped found']

/-- The rest of a cycle cannot tell twins apart. -/
theorem blind_conclude (e : Engine) (pods : List Pod) (growing : List Candidate) :
    Blind (Beside World.Twin Eq) (e.conclude pods growing) := by
  have tells (events : List Event) :
      Blind (Beside World.Twin Eq) (tell events : Action CycleError Session Unit) :=
    parallel_tell fun _ _ same => congrArg (· ++ events) same
  have expands (o : ExpansionOption) : Blind (Beside World.Twin Eq) (expand e.mode o) := by
    have sizes := o.candidate.group.blind_currentSize
    have resizes (size : Nat) := o.candidate.group.blind_resize size
    exact .bind (parallel_inWorld (sizes.mapError _)) fun _ =>
      .bind (parallel_inWorld ((resizes _).mapError _)) fun _ => .bind (tells _) fun _ => .pure _
  rw [conclude]
  split
  · exact expands _
  · exact .bind (tells _) fun _ => .pure _

end Engine

/-- Some provider tells of the node that it is in a group of `S`. -/
def Engine.Places (e : Engine) (S : List NodeGroup) (w : World) (node : Node) : Prop :=
  ∃ p ∈ e.providers, ∃ g ∈ S, p.place node w = .ok (some g)

/-- Nodes of skipped groups alone make no difference. -/
theorem Engine.runOnce_isolated (e : Engine) (pods : List Pod) (nodes : List Node)
    (keep : Node → Bool) (S : List NodeGroup) (s : Session) (uniform : s.world.Uniform)
    (settled : ∀ p ∈ e.providers, p.backend.Settled s.world)
    (skipped : ∀ g ∈ S, g.Skipped s.world)
    (left : ∀ node ∈ nodes, keep node = false → ∀ p ∈ e.providers, p.Inside S s.world node) :
    let ended := (e.runOnce pods nodes).runOn s
    let ended' := (e.runOnce pods (nodes.filter keep)).runOn s
    ended'.1 = ended.1 ∧ ended'.2.events = ended.2.events ∧
      World.SameGroups ended.2.world ended'.2.world := by
  have survey := Parallel.bind (R := Beside (World.Twins s.world) Eq)
    (parallel_inWorld (discover_inside uniform settled left))
    fun _ _ same => parallel_inWorld (growable_beyond uniform skipped same)
  have start : Beside (World.Twins s.world) Eq s s := ⟨⟨uniform.twin, uniform.twin⟩, rfl⟩
  have onward (t t' : Session) (twins : Beside (World.Twins s.world) Eq t t') :
      Beside World.Twin Eq t t' :=
    ⟨trans_of World.Twin twins.world.1.symm twins.world.2, twins.events⟩
  rw [runOnce_eq, runOnce_eq]
  split
  · exact ⟨rfl, rfl, refl_of World.SameGroups _⟩
  · have rest (growing growing' : List Candidate) (same : growing = growing') :
        Parallel (Beside World.Twin Eq) Eq Eq (e.conclude pods growing)
          (e.conclude pods growing') :=
      same ▸ blind_conclude e pods growing
    obtain ⟨agree, beside⟩ := survey.bind_weaken onward rest start
    exact ⟨agree.eq.symm, beside.events.symm, beside.world.sameGroups⟩

/-!
## Nodes of skipped groups

The sample session with its larger group at the maximum, once with a control plane that fails from
some call on; the same session with a control plane that has lost the group; and two control planes
that both have an instance `i` in zone `z`.
-/

namespace Crowded

open Sample (large small largeNode)

/-- The control plane of the sample with a full group. -/
def crowded (traffic : Traffic Aws.Call) : Aws.Cloud :=
  { Sample.cloud.setDesired "a" 10 with traffic }

/-- The control plane of the sample without that group. -/
def bereft : Aws.Cloud :=
  { groups := .ofList [("b", { desired := 2, instances := [⟨"j", "z"⟩] })] }

/-- The sample session, with a roster that was refreshed before. -/
def session (c : Aws.Cloud) : Session where
  world := { aws := ⟨[c]⟩, rosters := Sample.refreshed.world.rosters }

/-- Leaves out the node of the larger group. -/
def keep (node : Node) : Bool := node ≠ largeNode

theorem keep_iff : ∀ node ∈ Sample.nodes, keep node = false ↔ node = largeNode := by decide

variable (traffic : Traffic Aws.Call) (c : Aws.Cloud) (mode : ResizeMode)

theorem skipped : ∀ g ∈ [large], g.Skipped (session (crowded traffic)).world := by
  simp only [List.mem_singleton, forall_eq]
  exact .inl ⟨10, rfl, by decide⟩

theorem skipped_missing : ∀ g ∈ [large], g.Skipped (session bereft).world := by
  simp only [List.mem_singleton, forall_eq]
  exact NodeGroup.skipped_of_missing rfl

theorem settled :
    ∀ p ∈ (Sample.engine mode).providers, p.backend.Settled (session (crowded traffic)).world := by
  simp only [Sample.engine, List.mem_singleton, forall_eq]
  exact Roster.Fresh.settled ⟨_, rfl, rfl⟩

/-- There are no complete listings of groups of which one is missing. -/
theorem settled_missing :
    ∀ p ∈ (Sample.engine mode).providers, p.backend.Settled (session bereft).world := by
  simp only [Sample.engine, List.mem_singleton, forall_eq]
  intro listings lists
  cases lists

theorem inside : ∀ node ∈ Sample.nodes, keep node = false →
    ∀ p ∈ (Sample.engine mode).providers, p.Inside [large] (session c).world node := by
  intro node member dropped
  obtain rfl := (keep_iff node member).mp dropped
  simp only [Sample.engine, List.mem_singleton, forall_eq]
  exact ⟨some large, rfl, by simp⟩

theorem placed : ∀ node ∈ Sample.nodes, keep node = false ↔
    (Sample.engine mode).Places [large] (session c).world node := by
  intro node member
  simp only [keep_iff node member, Engine.Places, Sample.engine, List.mem_singleton,
    exists_eq_left]
  simp only [Sample.nodes, List.mem_cons, List.not_mem_nil, or_false] at member
  obtain rfl | rfl := member
  · exact iff_of_true rfl rfl
  · refine iff_of_false (by decide) ?_
    intro wrong
    change Except.ok (some small) = .ok (some large) at wrong
    exact absurd wrong (by decide)

theorem uniform (undisturbed : c.traffic = .empty) : (session c).world.Uniform := by
  apply World.Uniform.of_items
  · intro c' member
    obtain rfl := List.mem_singleton.mp member
    refine ⟨false, ?_⟩
    rw [undisturbed]
    exact fun _ _ => rfl
  · intro c member
    cases member

/-- A full group. -/
def full : NodeGroup := ⟨.aws 0 0, ⟨"z", "a"⟩, .small 1 1⟩

/-- A group with room on another control plane. -/
def spare : NodeGroup := ⟨.aws 1 1, ⟨"z", "b"⟩, .small 1 5⟩

def engine : Engine where
  providers := [⟨full.backend, [full]⟩, ⟨spare.backend, [spare]⟩]

/-- A control plane with one group of one instance. -/
def cloud (name : String) : Aws.Cloud :=
  { groups := .ofList [(name, { desired := 1, instances := [⟨"i", "z"⟩] })] }

def roster (g : NodeGroup) : Roster where
  groups := [g.id]
  owners := [(⟨"z", "i"⟩, g.id)]

def shared : Session where
  world := { aws := ⟨[cloud "a", cloud "b"]⟩, rosters := ⟨[roster full, roster spare]⟩ }

theorem shared_uniform : shared.world.Uniform := by
  apply World.Uniform.of_items
  · intro c member
    simp only [shared, List.mem_cons, List.not_mem_nil, or_false] at member
    obtain rfl | rfl := member <;> exact ⟨false, fun _ _ => rfl⟩
  · intro c member
    cases member

theorem shared_settled : ∀ p ∈ engine.providers, p.backend.Settled shared.world := by
  simp only [engine, List.mem_cons, List.not_mem_nil, or_false, forall_eq_or_imp, forall_eq]
  exact ⟨Roster.Fresh.settled ⟨_, rfl, rfl⟩, Roster.Fresh.settled ⟨_, rfl, rfl⟩⟩

theorem shared_skipped : ∀ g ∈ [full], g.Skipped shared.world := by
  simp only [List.mem_singleton, forall_eq]
  exact .inl ⟨1, rfl, by decide⟩

theorem shared_placed :
    ∀ node ∈ [largeNode], false = false ↔ engine.Places [full] shared.world node := by
  simp only [List.mem_singleton, forall_eq, true_iff]
  exact ⟨_, List.mem_cons_self, full, List.mem_singleton_self _, by decide +kernel⟩

end Crowded

open Crowded in
/-- The node of the larger group makes no difference, be the group full or missing. -/
theorem Engine.runOnce_isolated_sample :
    let ended (cloud : Aws.Cloud) (nodes : List Node) :=
      ((Sample.engine .increment).runOnce Sample.pods nodes).runOn (session cloud)
    let isolated (cloud : Aws.Cloud) : Prop :=
      (ended cloud Sample.nodes).1 = .ok (.scaledUp (Sample.report 3)) ∧
        (ended cloud [Sample.smallNode]).1 = (ended cloud Sample.nodes).1 ∧
        (ended cloud [Sample.smallNode]).2.events = (ended cloud Sample.nodes).2.events ∧
        World.SameGroups (ended cloud Sample.nodes).2.world
          (ended cloud [Sample.smallNode]).2.world
    isolated (crowded .empty) ∧ isolated bereft := by
  constructor
  · refine ⟨by rfl, ?_⟩
    exact Engine.runOnce_isolated (Sample.engine .increment) Sample.pods Sample.nodes keep
      [Sample.large] (session (crowded .empty)) (uniform _ rfl) (settled _ _) (skipped _)
      (inside _ _)
  · refine ⟨by rfl, ?_⟩
    exact Engine.runOnce_isolated (Sample.engine .increment) Sample.pods Sample.nodes keep
      [Sample.large] (session bereft) (uniform _ rfl) (settled_missing _) skipped_missing
      (inside _ _)

open Crowded in
/-- A node of a full group can make a difference if it is also a node of another group, and if it
matters how many calls are made. -/
theorem Engine.runOnce_tilted :
    (¬ ∀ (e : Engine) (pods : List Pod) (nodes : List Node) (keep : Node → Bool)
        (S : List NodeGroup) (s : Session), s.world.Uniform →
      (∀ p ∈ e.providers, p.backend.Settled s.world) → (∀ g ∈ S, g.Skipped s.world) →
      (∀ node ∈ nodes, keep node = false ↔ e.Places S s.world node) →
      ((e.runOnce pods (nodes.filter keep)).runOn s).1 = ((e.runOnce pods nodes).runOn s).1) ∧
    ¬ ∀ (e : Engine) (pods : List Pod) (nodes : List Node) (keep : Node → Bool)
        (S : List NodeGroup) (s : Session),
      (∀ p ∈ e.providers, p.backend.Settled s.world) → (∀ g ∈ S, g.Skipped s.world) →
      (∀ node ∈ nodes, keep node = false → ∀ p ∈ e.providers, p.Inside S s.world node) →
      (∀ node ∈ nodes, keep node = false ↔ e.Places S s.world node) →
      ((e.runOnce pods (nodes.filter keep)).runOn s).1 = ((e.runOnce pods nodes).runOn s).1 := by
  constructor
  · intro claim
    have same := claim engine Sample.pods [Sample.largeNode] (fun _ => false) [full] shared
      shared_uniform shared_settled shared_skipped shared_placed
    exact absurd same (by decide +kernel)
  · intro claim
    have same := claim (Sample.engine .increment) Sample.pods Sample.nodes keep [Sample.large]
      (session (crowded (Traffic.empty.failAfter 1 none))) (settled _ _) (skipped _) (inside _ _)
      (placed _ _)
    exact absurd same (by decide +kernel)

end Autoscaler
