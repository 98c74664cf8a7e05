import Autoscaler.Proofs.Fleet.Discovery
import Autoscaler.Proofs.Gce.Url
import Mathlib.Data.List.Pairwise

/-!
# One layout of machines on either cloud

A layout says which groups of machines there are, with their zones, bounds and instances, and knows
nothing of clouds. Either control plane can express it, with sizes that may change. What backends
tell of a control plane that expresses a layout can be said without the cloud: the members that a
listing shows, the size that is read, and the sizes after one was set.
-/

namespace Autoscaler

/-- A group of machines, whatever cloud it is on. Its instances are in its zone. -/
structure Pool where
  zone : String
  name : String
  bounds : SizeBounds
  instances : List String
  deriving DecidableEq, Repr

namespace Pool

def id (pool : Pool) : GroupId := ⟨pool.zone, pool.name⟩

/-- What a listing shows. -/
def members (pool : Pool) : List InstanceRef := pool.instances.map (InstanceRef.mk pool.zone)

/-- The pool as an auto scaling group. -/
def aws (pool : Pool) (size : Nat) : Aws.Group where
  desired := size
  instances := pool.instances.map fun name => ⟨name, pool.zone⟩

/-- The pool as a managed instance group. -/
def gce (pool : Pool) (size : Nat) : Gce.Group where
  target := size
  instances := pool.instances

/-- The name of the managed instance group. -/
def key (pool : Pool) (project : String) : Gce.GroupKey := ⟨project, pool.zone, pool.name⟩

/-- The pool as a group of a provider. -/
def group (pool : Pool) (b : Backend) : NodeGroup := ⟨b, pool.id, pool.bounds⟩

/-- All names can stand between slashes. -/
structure Plain (pool : Pool) : Prop where
  zone : Text.Plain pool.zone
  name : Text.Plain pool.name
  instances : ∀ name ∈ pool.instances, Text.Plain name

end Pool

/-- Pools with different names, whose instances all have different names as well. -/
structure Layout where
  pools : List Pool
  names : (pools.map Pool.name).Nodup
  instances : (pools.flatMap Pool.instances).Nodup
  plain : ∀ pool ∈ pools, pool.Plain

namespace Layout

variable {k : Layout} {pool pool' : Pool} {name : String}

def ids (k : Layout) : List GroupId := k.pools.map Pool.id

def pool? (k : Layout) (name : String) : Option Pool := k.pools.find? fun pool => pool.name = name

/-- What listings of all pools show. -/
def listings (k : Layout) : Roster.Listings := k.pools.map fun pool => (pool.id, pool.members)

/-- The provider that has all pools. -/
def provider (k : Layout) (b : Backend) : Provider := ⟨b, k.pools.map (Pool.group · b)⟩

theorem eq_of_name (member : pool ∈ k.pools) (member' : pool' ∈ k.pools)
    (same : pool.name = pool'.name) : pool = pool' :=
  List.inj_on_of_nodup_map k.names member member' same

/-- Pools are found by whatever determines their names. -/
theorem find?_iff {κ : Type} [DecidableEq κ] {part : Pool → κ}
    (named : ∀ pool pool', part pool = part pool' → pool.name = pool'.name) {key : κ} :
    (k.pools.find? fun pool => part pool = key) = some pool ↔
      pool ∈ k.pools ∧ part pool = key :=
  find?_key_iff fun _ member _ member' same => eq_of_name member member' (named _ _ same)

theorem pool?_iff : k.pool? name = some pool ↔ pool ∈ k.pools ∧ pool.name = name :=
  find?_iff fun _ _ same => same

theorem pool?_eq (member : pool ∈ k.pools) : k.pool? pool.name = some pool :=
  pool?_iff.mpr ⟨member, rfl⟩

/-- No instance is in two pools. -/
theorem eq_of_instance (member : pool ∈ k.pools) (member' : pool' ∈ k.pools)
    (inside : name ∈ pool.instances) (inside' : name ∈ pool'.instances) : pool = pool' := by
  obtain ⟨-, apart⟩ := List.nodup_flatMap.mp k.instances
  have : Std.Symm (Function.onFun List.Disjoint Pool.instances) :=
    ⟨fun _ _ disjoint _ there here => disjoint here there⟩
  by_contra different
  exact apart.forall member member' different inside inside'

theorem instances_nodup (member : pool ∈ k.pools) : pool.instances.Nodup :=
  (List.nodup_flatMap.mp k.instances).1 pool member

/-- A pool is found under its key as it is under its name. -/
theorem find?_key (k : Layout) (project : String) (key : Gce.GroupKey) :
    (k.pools.find? fun pool => pool.key project = key) =
      (k.pool? key.name).filter fun pool => key = pool.key project := by
  ext pool
  rw [find?_iff fun _ _ same => congrArg Gce.GroupKey.name same, Option.filter_eq_some_iff,
    pool?_iff, decide_eq_true_eq]
  constructor
  · rintro ⟨member, rfl⟩
    exact ⟨⟨member, rfl⟩, rfl⟩
  · rintro ⟨⟨member, -⟩, same⟩
    exact ⟨member, same.symm⟩

theorem group?_provider (k : Layout) (b : Backend) (id : GroupId) :
    (k.provider b).group? id = (k.pools.find? fun pool => pool.id = id).map (Pool.group · b) := by
  rw [Provider.group?, Layout.provider, List.find?_map]
  rfl

theorem lookup_pools {κ α : Type} [DecidableEq κ] (key : Pool → κ) (value : Pool → α) (other : κ)
    (pools : List Pool) :
    Directory.lookup other (pools.map fun pool => (key pool, value pool)) =
      (pools.find? fun pool => key pool = other).map value := by
  induction pools with
  | nil => rfl
  | cons pool pools ih =>
      rw [List.map_cons, Directory.lookup, List.find?_cons, ih]
      by_cases here : key pool = other <;> simp [here]

end Layout

namespace Aws.Cloud

/-- An auto scaling control plane that has the pools of a layout in these sizes, and answers. -/
structure Expresses (k : Layout) (sizes : String → Nat) (c : Cloud) : Prop where
  groups : ∀ name, c.groups.find? name = (k.pool? name).map fun pool => pool.aws (sizes name)
  healthy : c.Healthy
  shown : c.hidden = []

variable {k : Layout} {sizes : String → Nat} {c c' : Cloud} {pool : Pool}

theorem expresses_ofGroups (k : Layout) (sizes : String → Nat) :
    (ofGroups (k.pools.map fun pool => (pool.name, pool.aws (sizes pool.name)))).Expresses k
      sizes where
  groups name := by
    rw [ofGroups, Directory.find?_ofList, Layout.lookup_pools, Layout.pool?]
    · cases found : k.pools.find? fun pool => pool.name = name with
      | none => rfl
      | some pool =>
          have same := (Layout.pool?_iff.mp found).2
          rw [Option.map_some, Option.map_some, same]
    · rw [List.map_map]
      exact k.names
  healthy := ⟨rfl, fun _ _ => rfl⟩
  shown := rfl

namespace Expresses

theorem observed (expresses : c.Expresses k sizes) (seen : Observed c c') :
    c'.Expresses k sizes := by
  have healthy := seen.healthy expresses.healthy
  obtain ⟨traffic, -, rfl⟩ := seen
  exact ⟨expresses.groups, healthy, expresses.shown⟩

theorem find? (expresses : c.Expresses k sizes) (member : pool ∈ k.pools) :
    c.groups.find? pool.name = some (pool.aws (sizes pool.name)) := by
  rw [expresses.groups, Layout.pool?_eq member, Option.map_some]

theorem desired? (expresses : c.Expresses k sizes) (member : pool ∈ k.pools) :
    c.desired? pool.name = some (sizes pool.name) := by
  rw [Cloud.desired?, expresses.find? member]
  rfl

theorem uniqueIds (expresses : c.Expresses k sizes) : UniqueIds c.groups := by
  have ids (pool : Pool) (size : Nat) : (pool.aws size).ids = pool.instances := by
    rw [Group.ids, Pool.aws, List.map_map]
    exact List.map_id _
  have pools (name : String) (g : Group) (found : c.groups.find? name = some g) :
      ∃ pool ∈ k.pools, pool.name = name ∧ g.ids = pool.instances := by
    rw [expresses.groups, Option.map_eq_some_iff] at found
    obtain ⟨pool, found, rfl⟩ := found
    obtain ⟨member, same⟩ := Layout.pool?_iff.mp found
    exact ⟨pool, member, same, ids _ _⟩
  constructor
  · intro name g found
    obtain ⟨pool, member, -, same⟩ := pools name g found
    rw [same]
    exact Layout.instances_nodup member
  · intro name g other h id found found' inside inside'
    obtain ⟨pool, member, rfl, same⟩ := pools name g found
    obtain ⟨pool', member', rfl, same'⟩ := pools other h found'
    rw [same] at inside
    rw [same'] at inside'
    rw [Layout.eq_of_instance member member' inside inside']

theorem members? (expresses : c.Expresses k sizes) (member : pool ∈ k.pools) :
    c.members? pool.id = some pool.members := by
  have located (name : String) (inside : name ∈ pool.instances) :
      c.located? name = some ⟨pool.zone, name⟩ := by
    have held : Holds c.groups ⟨pool.zone, name⟩ pool.id :=
      ⟨_, expresses.find? member, List.mem_map_of_mem inside⟩
    rw [located?, expresses.shown, holder?_of_holds expresses.uniqueIds held]
    simp
  rw [Cloud.members?, Pool.id, expresses.find? member, Option.map_some, Group.ids, Pool.aws,
    List.map_map, List.filterMap_map, Pool.members]
  exact congrArg some (List.filterMap_eq_map_iff_forall_eq_some.mpr located)

/-- A size that is set is the size of that pool alone. -/
theorem set (expresses : c.Expresses k sizes) (member : pool ∈ k.pools) (size : Nat) :
    ∃ c', (setGroupSize pool.id size).runOn c = (.ok (), c') ∧
      c'.Expresses k (Function.update sizes pool.name size) := by
  have sent := send_healthy expresses.healthy (.setDesiredCapacity pool.name size false) true
  have known := expresses.find? member
  refine ⟨{ c with
    traffic := c.traffic.record (.setDesiredCapacity pool.name size false) true }.setDesired
      pool.name size, ?_, ?_, ?_, expresses.shown⟩
  · rw [setGroupSize, Pool.id, setDesiredCapacity, Action.runOn_bind_ok sent,
      Action.runOn_bind_ok (Action.runOn_get _)]
    simp only [known]
    rfl
  · intro name
    rw [setDesired, Directory.find?_modify, expresses.groups, Option.map_map]
    congr 1
    funext other
    by_cases here : name = pool.name
    · rw [here, Function.update_self]
      exact if_pos rfl
    · rw [Function.update_of_ne here]
      exact if_neg here
  · exact ⟨expresses.healthy.available, expresses.healthy.clear.record _ _⟩

end Expresses

end Aws.Cloud

namespace Gce.Cloud

/-- A control plane of managed instance groups that has the pools of a layout in these sizes, in
one project, and answers. -/
structure Expresses (project : String) (k : Layout) (sizes : String → Nat) (c : Cloud) : Prop where
  groups : ∀ key : GroupKey, c.groups.find? key =
    ((k.pool? key.name).filter fun pool => key = pool.key project).map fun pool =>
      pool.gce (sizes key.name)
  healthy : c.Healthy
  shown : c.strangers = []

variable {project : String} {polling : Polling} {k : Layout} {sizes : String → Nat}
  {c c' : Cloud} {pool : Pool}

theorem expresses_ofGroups (project : String) (k : Layout) (sizes : String → Nat) :
    (ofGroups (k.pools.map fun pool =>
      (pool.key project, pool.gce (sizes pool.name)))).Expresses project k sizes where
  groups key := by
    rw [ofGroups, Directory.find?_ofList, Layout.lookup_pools, Layout.find?_key]
    · cases found : (k.pool? key.name).filter fun pool => key = pool.key project with
      | none => rfl
      | some pool =>
          obtain ⟨-, same⟩ := Option.filter_eq_some_iff.mp found
          rw [decide_eq_true_eq] at same
          rw [same]
          rfl
    · apply List.Nodup.of_map GroupKey.name
      rw [List.map_map, List.map_map]
      exact k.names
  healthy := ⟨rfl, fun _ _ => rfl⟩
  shown := rfl

namespace Expresses

theorem observed (expresses : c.Expresses project k sizes) (seen : Observed c c') :
    c'.Expresses project k sizes := by
  have healthy := seen.healthy expresses.healthy
  obtain ⟨traffic, -, rfl⟩ := seen
  exact ⟨expresses.groups, healthy, expresses.shown⟩

theorem find? (expresses : c.Expresses project k sizes) (member : pool ∈ k.pools) :
    c.groups.find? (pool.key project) = some (pool.gce (sizes pool.name)) := by
  have found : k.pool? (pool.key project).name = some pool := Layout.pool?_eq member
  rw [expresses.groups, found, Option.filter_some, if_pos (decide_eq_true rfl), Option.map_some]
  rfl

theorem target? (expresses : c.Expresses project k sizes) (member : pool ∈ k.pools) :
    c.target? (pool.key project) = some (sizes pool.name) := by
  rw [Cloud.target?, expresses.find? member]
  rfl

theorem members? (expresses : c.Expresses project k sizes) (plain : Text.Plain project)
    (member : pool ∈ k.pools) : Cloud.members? project c pool.id = some pool.members := by
  have alone : c.strangersOf (pool.key project) = [] := by
    rw [strangersOf, expresses.shown]
    rfl
  have zone := (k.plain pool member).zone
  have names := (k.plain pool member).instances
  have read : (pool.instances.map (instanceUrl project pool.zone)).mapM readInstanceUrl =
      .ok pool.members := by
    rw [Pool.members]
    generalize pool.instances = instances at names ⊢
    induction instances with
    | nil => rfl
    | cons name instances ih =>
        obtain ⟨here, others⟩ := List.forall_mem_cons.mp names
        rw [List.map_cons, List.mapM_cons, ih others,
          readInstanceUrl_instanceUrl plain zone here]
        rfl
  change ((c.groups.find? (pool.key project)).bind fun g =>
    ((g.instances.map (instanceUrl project pool.zone) ++
      c.strangersOf (pool.key project)).mapM readInstanceUrl).toOption) = _
  rw [expresses.find? member, Option.bind_some, alone, List.append_nil, Pool.gce, read]
  rfl

/-- A size that is set is the size of that pool alone. -/
theorem set (expresses : c.Expresses project k sizes) (prompt : c.Prompt polling)
    (member : pool ∈ k.pools) (size : Nat) :
    ∃ c', (setGroupSize project polling pool.id size).runOn c = (.ok (), c') ∧
      c'.Expresses project k (Function.update sizes pool.name size) ∧ c'.Prompt polling := by
  have serving : c.Serving := ⟨expresses.healthy, prompt.succeeds⟩
  have known := expresses.target? member
  have ended : ((setGroupSize project polling pool.id size).runOn c).1 = .ok () :=
    setGroupSize_prompt expresses.healthy prompt size known
  have left : ((setGroupSize project polling pool.id size).runOn c).2.groups =
      (c.setTarget (pool.key project) size).groups := setGroupSize_serving serving size known
  have steady := keeps_setGroupSize project polling pool.id size c
  have lasting := lasting_setGroupSize project polling pool.id size c
  refine ⟨((setGroupSize project polling pool.id size).runOn c).2, Prod.ext ended rfl,
    ⟨?_, (steady.serving serving).healthy, lasting.strangers.trans expresses.shown⟩,
    lasting.prompt prompt⟩
  intro key
  rw [left, setTarget, Directory.find?_modify, expresses.groups, Option.map_map]
  cases found : (k.pool? key.name).filter fun other => key = other.key project with
  | none => rfl
  | some other =>
      obtain ⟨found, same⟩ := Option.filter_eq_some_iff.mp found
      have among := (Layout.pool?_iff.mp found).1
      rw [decide_eq_true_eq] at same
      subst same
      by_cases here : other.name = pool.name
      · cases Layout.eq_of_name among member here
        rw [Option.map_some, Option.map_some, Pool.key, Function.update_self]
        exact congrArg some (if_pos rfl)
      · rw [Option.map_some, Option.map_some, Pool.key, Function.update_of_ne here]
        exact congrArg some (if_neg fun same => here (congrArg GroupKey.name same))

end Expresses

end Gce.Cloud

end Autoscaler
