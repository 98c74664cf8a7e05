import Autoscaler.Proofs.Cloud.Parallel
import Autoscaler.Proofs.Fleet.Layout

/-!
# Two backends with one layout

Two backends that express one layout, each on a cloud of its own kind, cannot be told apart by what
they answer: the owners of instances, the sizes of groups, and how setting a size ends. Nodes are
the same machines under the ids of either cloud, so providers of the layout find the same pools
among them in the same order. An id that cannot be read on one side cannot be read on the other.
-/

namespace Autoscaler

open Autoscaler.Action (Agree Parallel)

namespace Backend

/-- The control plane has the pools of the layout in these sizes, and operations end well in
time. -/
def Expresses (k : Layout) (sizes : String → Nat) : Backend → World → Prop
  | aws cloud _, w => (w.aws.get cloud).Expresses k sizes
  | gce project polling cloud _, w =>
      (w.gce.get cloud).Expresses project k sizes ∧ (w.gce.get cloud).Prompt polling

/-- The project, if there is one, can stand between slashes. -/
def Plain : Backend → Prop
  | aws .. => True
  | gce project .. => Text.Plain project

variable {k : Layout} {sizes : String → Nat} {b : Backend} {w w' : World} {pool : Pool}

namespace Expresses

theorem healthy (expresses : b.Expresses k sizes w) : b.Healthy w := by
  cases b with
  | aws cloud roster => exact Aws.Cloud.Expresses.healthy expresses
  | gce project polling cloud roster => exact ⟨expresses.1.healthy, expresses.2⟩

theorem opened (expresses : b.Expresses k sizes w) : b.Open w := by
  cases b with
  | aws cloud roster => exact Aws.Cloud.Expresses.healthy expresses
  | gce project polling cloud roster => exact expresses.1.healthy

theorem observed (expresses : b.Expresses k sizes w) (seen : World.Observed w w') :
    b.Expresses k sizes w' := by
  cases b with
  | aws cloud roster => exact Aws.Cloud.Expresses.observed expresses (seen.aws cloud)
  | gce project polling cloud roster =>
      exact ⟨expresses.1.observed (seen.gce cloud), (seen.gce cloud).prompt expresses.2⟩

/-- Rosters are not part of a control plane. -/
theorem rosters (expresses : b.Expresses k sizes w) (rosters : Slots Roster) :
    b.Expresses k sizes { w with rosters } := by
  cases b <;> exact expresses

theorem size? (expresses : b.Expresses k sizes w) (member : pool ∈ k.pools) :
    b.size? pool.id w = some (sizes pool.name) := by
  cases b with
  | aws cloud roster => exact Aws.Cloud.Expresses.desired? expresses member
  | gce project polling cloud roster => exact expresses.1.target? member

theorem members? (expresses : b.Expresses k sizes w) (plain : b.Plain) (member : pool ∈ k.pools) :
    b.members? w pool.id = some pool.members := by
  cases b with
  | aws cloud roster => exact Aws.Cloud.Expresses.members? expresses member
  | gce project polling cloud roster => exact expresses.1.members? plain member

/-- A size that is set is the size of that pool alone, and the roster stays as it was. -/
theorem set (expresses : b.Expresses k sizes w) (member : pool ∈ k.pools) (size : Nat) :
    ∃ w', (b.setGroupSize pool.id size).runOn w = (.ok (), w') ∧
      b.Expresses k (Function.update sizes pool.name size) w' ∧ b.roster w' = b.roster w := by
  rcases run : (b.setGroupSize pool.id size).runOn w with ⟨r, w'⟩
  have rosters := setGroupSize_rosters run b.rosterSlot
  cases b with
  | aws cloud roster =>
      obtain ⟨c, set, left⟩ := Aws.Cloud.Expresses.set expresses member size
      obtain ⟨site, sent, rfl⟩ := World.onAws_cases run
      obtain ⟨c', ended, rfl⟩ := Site.onCloud_cases sent
      cases set.symm.trans ended
      refine ⟨_, rfl, ?_, rosters⟩
      simpa only [Expresses, World.setAws, Slots.get_set_self] using left
  | gce project polling cloud roster =>
      obtain ⟨c, set, left, prompt⟩ := expresses.1.set expresses.2 member size
      obtain ⟨site, sent, rfl⟩ := World.onGce_cases run
      obtain ⟨c', ended, rfl⟩ := Site.onCloud_cases sent
      cases set.symm.trans ended
      refine ⟨_, rfl, ?_, rosters⟩
      simpa only [Expresses, World.setGce, Slots.get_set_self] using And.intro left prompt

/-- Listings of all groups on the roster show the layout. -/
theorem lists (expresses : b.Expresses k sizes w) (plain : b.Plain)
    (registered : (b.roster w).groups = k.ids) :
    Roster.Lists (b.members? w) (b.roster w) k.listings := by
  rw [Roster.Lists, registered, Layout.ids, Layout.listings]
  have listed : ∀ pool ∈ k.pools, b.members? w pool.id = some pool.members :=
    fun _ member => expresses.members? plain member
  generalize k.pools = pools at listed ⊢
  induction pools with
  | nil => rfl
  | cons pool pools ih =>
      obtain ⟨here, others⟩ := List.forall_mem_cons.mp listed
      have later := ih others
      rw [Roster.listings?] at later ⊢
      rw [List.map_cons, List.mapM_cons, here, later]
      rfl

end Expresses

end Backend

/-! ## Mirrors -/

/-- One layout on two backends, with the same sizes and with rosters that know the same. -/
structure Mirror (k : Layout) (sizes : String → Nat) (b b' : Backend) (w w' : World) : Prop where
  left : b.Expresses k sizes w
  right : b'.Expresses k sizes w'
  registered : (b.roster w).groups = k.ids
  alike : (b.roster w).Alike (b'.roster w')

/-- The same, whatever the sizes are. -/
def Mirrored (k : Layout) (b b' : Backend) (w w' : World) : Prop :=
  ∃ sizes, Mirror k sizes b b' w w'

namespace Roster

/-- Rosters that know the same learn the same. -/
theorem Alike.asked {roster roster' : Roster} (alike : Alike roster roster') (listings : Listings)
    (member : InstanceRef) :
    Alike (roster.asked listings member) (roster'.asked listings member) := by
  have misses : roster'.misses member = roster.misses member := by
    rw [Roster.misses, alike.owner?, Roster.covers, alike.groups, Roster.misses, Roster.covers]
  rw [Roster.asked, Roster.asked, misses]
  split
  · exact ⟨alike.groups, rfl⟩
  · exact alike

end Roster

namespace Mirror

variable {k : Layout} {sizes : String → Nat} {b b' : Backend} {w w' : World} {pool : Pool}
  {E : CloudError → CloudError → Prop}

theorem parallel_owner? (plain : b.Plain) (plain' : b'.Plain) (member : InstanceRef) :
    Parallel (Mirrored k b b') E Eq (b.owner? member) (b'.owner? member) := by
  rintro w w' ⟨sizes, mirror⟩
  have registered' : (b'.roster w').groups = k.ids := mirror.alike.groups.trans mirror.registered
  have lists := mirror.left.lists plain mirror.registered
  have lists' := mirror.right.lists plain' registered'
  obtain ⟨owner, told⟩ := Backend.owner?_ok mirror.left.opened lists member
  obtain ⟨owner', told'⟩ := Backend.owner?_ok mirror.right.opened lists' member
  rcases run : (b.owner? member).runOn w with ⟨r, m⟩
  rcases run' : (b'.owner? member).runOn w' with ⟨r', m'⟩
  rw [run] at told
  rw [run'] at told'
  subst told told'
  obtain ⟨consulted, left, rfl⟩ := Backend.owner?_asked lists run
  obtain ⟨consulted', left', rfl⟩ := Backend.owner?_asked lists' run'
  have alike : (b.roster m).Alike (b'.roster m') := by
    rw [left, left']
    exact mirror.alike.asked k.listings member
  refine ⟨.ok (alike.owner? member).symm, sizes, mirror.left.observed consulted.observed,
    mirror.right.observed consulted'.observed, ?_, alike⟩
  rw [left, Roster.asked_groups, mirror.registered]

theorem parallel_groupSize (member : pool ∈ k.pools) :
    Parallel (Mirrored k b b') E Eq (b.groupSize pool.id) (b'.groupSize pool.id) := by
  rintro w w' ⟨sizes, mirror⟩
  have told := Backend.groupSize_healthy mirror.left.healthy (mirror.left.size? member)
  have told' := Backend.groupSize_healthy mirror.right.healthy (mirror.right.size? member)
  rcases run : (b.groupSize pool.id).runOn w with ⟨r, m⟩
  rcases run' : (b'.groupSize pool.id).runOn w' with ⟨r', m'⟩
  rw [run] at told
  rw [run'] at told'
  subst told told'
  obtain ⟨consulted, same⟩ := Backend.groupSize_cases run
  obtain ⟨consulted', same'⟩ := Backend.groupSize_cases run'
  refine ⟨.ok rfl, sizes, mirror.left.observed consulted.observed,
    mirror.right.observed consulted'.observed, ?_, ?_⟩
  · rw [same, mirror.registered]
  · rw [same, same']
    exact mirror.alike

theorem parallel_setGroupSize (member : pool ∈ k.pools) (size : Nat) :
    Parallel (Mirrored k b b') E Eq (b.setGroupSize pool.id size)
      (b'.setGroupSize pool.id size) := by
  rintro w w' ⟨sizes, mirror⟩
  obtain ⟨m, run, left, same⟩ := mirror.left.set member size
  obtain ⟨m', run', right, same'⟩ := mirror.right.set member size
  rw [run, run']
  refine ⟨.ok rfl, _, left, right, ?_, ?_⟩
  · rw [same, mirror.registered]
  · rw [same, same']
    exact mirror.alike

end Mirror

/-! ## The same nodes under other ids -/

namespace Backend

variable {b : Backend} {rest : String}

/-- The id of an instance, given zone and name as they are written. -/
def idOf : Backend → String → String
  | aws .., rest => "aws://" ++ rest
  | gce project .., rest => "gce://" ++ (project ++ ("/" ++ rest))

theorem scheme?_idOf {node : Node} (own : node.providerId = b.idOf rest) :
    node.scheme? = some b.name := by
  cases b with
  | aws cloud roster =>
      rw [Node.scheme?, own, idOf, String.toList_append]
      rfl
  | gce project polling cloud roster =>
      rw [Node.scheme?, own, idOf, String.toList_append]
      rfl

/-- On every cloud, the same is read from the same zone and name. -/
theorem readProviderId_idOf (plain : b.Plain) (rest : String) :
    (b.readProviderId (b.idOf rest)).toOption =
      (Text.slashPair? rest.toList).map fun (zone, name) => ⟨zone, name⟩ := by
  cases b with
  | aws cloud roster =>
      have written : (idOf (aws cloud roster) rest).toList =
          Aws.backendName.toList ++ ([':', '/', '/'] ++ rest.toList) := by
        rw [idOf, String.toList_append]
        rfl
      rw [readProviderId, Aws.readProviderId, InstanceRef.ofProviderId, InstanceRef.ofProviderId?,
        written, Text.after?_append, Option.bind_eq_bind, Option.bind_some, Text.after?_append,
        Option.bind_some]
      cases Text.slashPair? rest.toList <;> rfl
  | gce project polling cloud roster =>
      have written : (idOf (gce project polling cloud roster) rest).toList =
          "gce://".toList ++ (project.toList ++ '/' :: rest.toList) := by
        rw [idOf, String.toList_append, String.toList_append, String.toList_append]
        rfl
      rw [readProviderId, Gce.readProviderId, written, Gce.ofProviderId?_project plain]
      cases Text.slashPair? rest.toList <;> rfl

end Backend

/-- The id is one of the backend's cloud, but not of an instance. -/
def Node.Malformed (b : Backend) (node : Node) : Prop :=
  node.scheme? = some b.name ∧ ∃ e, b.readProviderId node.providerId = .error e

/-- One machine as either cloud has it. Only the id differs; either it names the same zone and name,
or it is of some other cloud on both sides. -/
structure Node.Counterpart (b b' : Backend) (node node' : Node) : Prop where
  same : node' = { node with providerId := node'.providerId }
  ids : (∃ rest, node.providerId = b.idOf rest ∧ node'.providerId = b'.idOf rest) ∨
    node.scheme? ≠ some b.name ∧ node'.scheme? ≠ some b'.name

/-- One pool as either cloud has it, with one machine as its sample. -/
structure Candidate.Counterpart (k : Layout) (b b' : Backend) (c c' : Candidate) : Prop where
  group : ∃ pool ∈ k.pools, c.group = pool.group b ∧ c'.group = pool.group b'
  sample : c.sample.Counterpart b b' c'.sample

namespace Mirror

variable {k : Layout} {b b' : Backend} {node node' : Node} {nodes nodes' : List Node}
  {E : CloudError → CloudError → Prop}

theorem agree_member? (plain : b.Plain) (plain' : b'.Plain)
    (counterpart : node.Counterpart b b' node') :
    Agree (fun _ _ => node.Malformed b) Eq ((k.provider b).member? node)
      ((k.provider b').member? node') := by
  obtain ⟨rest, own, own'⟩ | ⟨other, other'⟩ := counterpart.ids
  · have scheme := Backend.scheme?_idOf own
    have scheme' := Backend.scheme?_idOf own'
    have read := Backend.readProviderId_idOf plain rest
    have read' := Backend.readProviderId_idOf plain' rest
    rw [← own] at read
    rw [← own', ← read] at read'
    have told : (k.provider b).member? node =
        ((b.readProviderId node.providerId).mapError .format).map some := if_pos scheme
    have told' : (k.provider b').member? node' =
        ((b'.readProviderId node'.providerId).mapError .format).map some := if_pos scheme'
    rw [told, told']
    cases here : b.readProviderId node.providerId with
    | error e =>
        rw [here] at read'
        cases there : b'.readProviderId node'.providerId with
        | error e' => exact .error ⟨scheme, e, here⟩
        | ok member' =>
            rw [there] at read'
            cases read'
    | ok member =>
        rw [here] at read'
        cases there : b'.readProviderId node'.providerId with
        | error e' =>
            rw [there] at read'
            cases read'
        | ok member' =>
            rw [there] at read'
            cases read'
            exact .ok rfl
  · have told : (k.provider b).member? node = .ok none := if_neg other
    have told' : (k.provider b').member? node' = .ok none := if_neg other'
    rw [told, told']
    exact .ok rfl

variable (plain : b.Plain) (plain' : b'.Plain)

include plain plain'

/-- Nodes that are counterparts are in one pool, or in none. -/
theorem parallel_groupOf? (counterpart : node.Counterpart b b' node')
    (wrong : node.Malformed b → ∀ e e', E e e') :
    Parallel (Mirrored k b b') E
      (fun g g' => ∃ pool? : Option Pool, (∀ pool ∈ pool?, pool ∈ k.pools) ∧
        g = pool?.map (Pool.group · b) ∧ g' = pool?.map (Pool.group · b'))
      ((k.provider b).groupOf? node) ((k.provider b').groupOf? node') := by
  have readings := agree_member? (k := k) plain plain' counterpart
  rw [Provider.groupOf?_eq, Provider.groupOf?_eq]
  refine .bind (.ofExcept (readings.mono fun e e' cause => wrong cause e e')) ?_
  rintro (_ | member) _ rfl
  · exact .pure ⟨none, by simp, rfl, rfl⟩
  · refine .bind (parallel_owner? plain plain' member) ?_
    rintro (_ | id) _ rfl
    · exact .pure ⟨none, by simp, rfl, rfl⟩
    · refine .pure ⟨k.pools.find? fun pool => pool.id = id, ?_, k.group?_provider b id,
        k.group?_provider b' id⟩
      intro pool found
      exact List.mem_of_find?_eq_some found

theorem parallel_candidatesBeyond (counterparts : List.Forall₂ (Node.Counterpart b b') nodes nodes')
    (wrong : ∀ node ∈ nodes, node.Malformed b → ∀ e e', E e e') (seen : List GroupId) :
    Parallel (Mirrored k b b') E (List.Forall₂ (Candidate.Counterpart k b b'))
      ((k.provider b).candidatesBeyond seen nodes)
      ((k.provider b').candidatesBeyond seen nodes') := by
  induction counterparts generalizing seen with
  | nil => exact .pure .nil
  | @cons node node' nodes nodes' counterpart counterparts ih =>
      obtain ⟨here, others⟩ := List.forall_mem_cons.mp wrong
      refine .bind (parallel_groupOf? plain plain' counterpart here) ?_
      rintro _ _ ⟨pool?, known, rfl, rfl⟩
      cases pool? with
      | none => exact ih others seen
      | some pool =>
          dsimp only [Option.map_some, Pool.group]
          -- Both groups have the identifier of the pool, so both were seen before or neither.
          split
          · exact ih others seen
          · refine .bind (ih others _) ?_
            intro found found' counterparts
            exact .pure (.cons ⟨⟨pool, known pool rfl, rfl, rfl⟩, counterpart⟩ counterparts)

end Mirror

end Autoscaler
