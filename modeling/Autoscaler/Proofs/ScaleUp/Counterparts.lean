import Autoscaler.Proofs.Fleet.Built
import Autoscaler.Proofs.ScaleUp.Parallel
import Autoscaler.Proofs.ScaleUp.Phases

/-!
# One cycle on two clouds

A cycle over a layout does on auto scaling groups what it does on managed instance groups: it finds
the same pools, takes the same of them, and gives it the same size, so that both control planes
express the layout in the same sizes afterwards. The reports differ in the url of the group and the
name of the backend alone. Each phase of the cycle is compared with its counterpart; nothing here
looks into a cloud.
-/

namespace Autoscaler

open Autoscaler.Action (Agree Parallel)

/-- The same outcome, up to the url of the group and the name of the backend. -/
inductive Outcome.Counterpart (k : Layout) (b b' : Backend) : Outcome → Outcome → Prop where
  | noDecision (unhelped : List String) :
      Counterpart k b b' (.noDecision unhelped) (.noDecision unhelped)
  | scaledUp (pool : Pool) (member : pool ∈ k.pools) (priorSize newSize estimate : Nat)
      (pods : List String) :
      Counterpart k b b'
        (.scaledUp ⟨b.groupUrl pool.id, b.name, priorSize, newSize, estimate, pods⟩)
        (.scaledUp ⟨b'.groupUrl pool.id, b'.name, priorSize, newSize, estimate, pods⟩)

/-- Both cycles have failed in discovery, since the id of a node could not be read. -/
structure CycleError.Unreadable (b b' : Backend) (nodes : List Node) (e e' : CycleError) :
    Prop where
  cause : ∃ node ∈ nodes, node.Malformed b
  left : ∃ source, e = .discovery b.name source
  right : ∃ source, e' = .discovery b'.name source

/-- The engine over all pools of a layout. -/
def Layout.engine (k : Layout) (b : Backend) (strategy : Strategy) (mode : ResizeMode) :
    Engine where
  providers := [k.provider b]
  strategy
  mode

namespace Engine

variable {k : Layout} {b b' : Backend} {nodes nodes' : List Node} {pods : List Pod}
  {c c' : Candidate} {found found' : List Candidate}

/-! ## Choices -/

/-- The id of its sample makes no difference to a candidate. -/
theorem helps_counterpart (counterpart : c.Counterpart k b b' c') :
    helps Fit.check c' = helps Fit.check c := by
  funext pod
  rw [helps, counterpart.sample.same]
  rfl

theorem helped_counterpart (counterpart : c.Counterpart k b b' c') (pods : List Pod) :
    helped Fit.check pods c' = helped Fit.check pods c := by
  rw [helped, helps_counterpart counterpart, helped]

theorem unhelped_counterpart
    (counterparts : List.Forall₂ (Candidate.Counterpart k b b') found found') (pods : List Pod) :
    unhelped Fit.check found' pods = unhelped Fit.check found pods := by
  have refused : refused Fit.check found' pods = refused Fit.check found pods := by
    induction counterparts with
    | nil => rfl
    | cons counterpart counterparts ih =>
        rw [refused, refused] at ih
        rw [refused, List.flatMap_cons, helps_counterpart counterpart, ih, refused,
          List.flatMap_cons]
  rw [unhelped, refused, unhelped]

theorem pick?_counterpart (counterparts : List.Forall₂ (Candidate.Counterpart k b b') found found')
    (pods : List Pod) (strategy : Strategy) (mode : ResizeMode) :
    Option.Rel (Candidate.Counterpart k b b') ((k.engine b strategy mode).pick? pods found)
      ((k.engine b' strategy mode).pick? pods found') := by
  refine Strategy.choose?_rel ?_ counterparts strategy
  intro c c' counterpart
  exact congrArg List.length (helped_counterpart counterpart pods).symm

/-! ## Phases -/

theorem parallel_discover (plain : b.Plain) (plain' : b'.Plain)
    (counterparts : List.Forall₂ (Node.Counterpart b b') nodes nodes') :
    Parallel (Mirrored k b b') (CycleError.Unreadable b b' nodes)
      (List.Forall₂ (Candidate.Counterpart k b b')) (discover nodes [k.provider b])
      (discover nodes' [k.provider b']) := by
  have candidates := Mirror.parallel_candidatesBeyond (k := k)
    (E := fun _ _ => ∃ node ∈ nodes, node.Malformed b) plain plain' counterparts
    (fun node member wrong _ _ => ⟨node, member, wrong⟩) []
  refine .bind (.mapError candidates ?_) ?_
  · intro e e' cause
    exact ⟨cause, ⟨e, rfl⟩, ⟨e', rfl⟩⟩
  · intro found found' counterparts
    refine .bind (V := fun others others' => others = [] ∧ others' = []) (.pure ⟨rfl, rfl⟩) ?_
    rintro _ _ ⟨rfl, rfl⟩
    rw [List.append_nil, List.append_nil]
    exact .pure counterparts

theorem parallel_canGrow {E : CloudError → CloudError → Prop}
    (counterpart : c.Counterpart k b b' c') :
    Parallel (Mirrored k b b') E Eq c.group.canGrow c'.group.canGrow := by
  obtain ⟨pool, member, own, own'⟩ := counterpart.group
  rw [own, own']
  refine .bind (Mirror.parallel_groupSize member) ?_
  rintro size _ rfl
  exact .pure rfl

theorem parallel_growable {E : CycleError → CycleError → Prop}
    (counterparts : List.Forall₂ (Candidate.Counterpart k b b') found found') :
    Parallel (Mirrored k b b') E (List.Forall₂ (Candidate.Counterpart k b b')) (growable found)
      (growable found') := by
  induction counterparts with
  | nil => exact .pure .nil
  | cons counterpart counterparts ih =>
      refine .bind (parallel_canGrow (E := Eq) counterpart).attempt ?_
      intro grows grows' agree
      refine .bind ih ?_
      intro others others' counterparts
      cases agree.eq
      refine .pure ?_
      split
      · exact .cons counterpart counterparts
      · exact counterparts

theorem parallel_expand (counterpart : c.Counterpart k b b' c')
    {E : CycleError → CycleError → Prop} (pods : List Pod) (mode : ResizeMode) :
    Parallel (Beside (Mirrored k b b') fun _ _ => True) E (Outcome.Counterpart k b b')
      (expand mode ⟨c, pods⟩) (expand mode ⟨c', pods⟩) := by
  obtain ⟨pool, member, own, own'⟩ := counterpart.group
  have estimate : (Packing.estimate c'.sample pods).nodeCount =
      (Packing.estimate c.sample pods).nodeCount := by
    rw [counterpart.sample.same]
    rfl
  simp only [expand, own, own', estimate]
  -- Neither call fails, so errors are compared by a relation that never holds.
  have read : Parallel (Mirrored k b b') (fun _ _ => False) Eq (pool.group b).currentSize
      (pool.group b').currentSize := Mirror.parallel_groupSize member
  have set (size : Nat) : Parallel (Mirrored k b b') (fun _ _ => False) Eq
      ((pool.group b).resize size) ((pool.group b').resize size) :=
    .bind (Mirror.parallel_setGroupSize member _) fun _ _ _ => .pure rfl
  refine .bind (parallel_inWorld (read.mapError fun _ _ => False.elim)) ?_
  rintro current _ rfl
  refine .bind (parallel_inWorld ((set _).mapError fun _ _ => False.elim)) ?_
  rintro newSize _ rfl
  refine .bind (parallel_tell fun _ _ => id) ?_
  intro _ _ _
  exact .pure (.scaledUp pool member current newSize _ _)

theorem parallel_conclude {E : CycleError → CycleError → Prop}
    (counterparts : List.Forall₂ (Candidate.Counterpart k b b') found found') (pods : List Pod)
    (strategy : Strategy) (mode : ResizeMode) :
    Parallel (Beside (Mirrored k b b') fun _ _ => True) E (Outcome.Counterpart k b b')
      ((k.engine b strategy mode).conclude pods found)
      ((k.engine b' strategy mode).conclude pods found') := by
  have picks := pick?_counterpart counterparts pods strategy mode
  rw [conclude, conclude, choose?_options, choose?_options]
  generalize (k.engine b strategy mode).pick? pods found = picked at picks ⊢
  generalize (k.engine b' strategy mode).pick? pods found' = picked' at picks ⊢
  cases picks with
  | none =>
      have keys : unhelped (k.engine b' strategy mode).checker found' pods =
          unhelped (k.engine b strategy mode).checker found pods :=
        unhelped_counterpart counterparts pods
      simp only [Option.map_none, keys]
      refine .bind (parallel_tell fun _ _ => id) ?_
      intro _ _ _
      exact .pure (.noDecision _)
  | @some c c' counterpart =>
      have pods' : helped (k.engine b' strategy mode).checker pods c' =
          helped (k.engine b strategy mode).checker pods c := helped_counterpart counterpart pods
      simp only [Option.map_some, pods']
      exact parallel_expand counterpart _ _

theorem parallel_runOnce (plain : b.Plain) (plain' : b'.Plain)
    (counterparts : List.Forall₂ (Node.Counterpart b b') nodes nodes') (pods : List Pod)
    (strategy : Strategy) (mode : ResizeMode) :
    Parallel (Beside (Mirrored k b b') fun _ _ => True) (CycleError.Unreadable b b' nodes)
      (Outcome.Counterpart k b b') ((k.engine b strategy mode).runOnce pods nodes)
      ((k.engine b' strategy mode).runOnce pods nodes') := by
  rw [runOnce_eq, runOnce_eq]
  split
  · exact .pure (.noDecision [])
  · refine .bind ?_ fun _ _ same => parallel_conclude same pods strategy mode
    exact .bind (parallel_inWorld (parallel_discover plain plain' counterparts)) fun _ _ same =>
      parallel_inWorld (parallel_growable same)

/-- Two clouds that express one layout cannot be told apart by cycles. Providers that are built on
them are mirrored. From then on, cycles over the same pods and over nodes that are counterparts end
alike, or the id of a node cannot be read on either side; where all ids can be read they end with
outcomes that are counterparts. The clouds still express the layout in the same sizes, and so the
next cycles end alike as well. -/
theorem runOnce_counterparts {sizes : String → Nat} {w w' : World} (plain : b.Plain)
    (plain' : b'.Plain) (expresses : b.Expresses k sizes w) (expresses' : b'.Expresses k sizes w')
    (new : b.roster w = {}) (new' : b'.roster w' = {}) :
    (∃ m m', (Provider.build b (k.specs b)).runOn w = (.ok (k.provider b), m) ∧
      (Provider.build b' (k.specs b')).runOn w' = (.ok (k.provider b'), m') ∧
      Mirrored k b b' m m') ∧
    ∀ (pods : List Pod) (nodes nodes' : List Node) (strategy : Strategy) (mode : ResizeMode)
        (s s' : Session), List.Forall₂ (Node.Counterpart b b') nodes nodes' →
      Mirrored k b b' s.world s'.world →
      let ended := ((k.engine b strategy mode).runOnce pods nodes).runOn s
      let ended' := ((k.engine b' strategy mode).runOnce pods nodes').runOn s'
      Agree (CycleError.Unreadable b b' nodes) (Outcome.Counterpart k b b') ended.1 ended'.1 ∧
        ((∀ node ∈ nodes, ¬ node.Malformed b) → ∃ outcome outcome', ended.1 = .ok outcome ∧
          ended'.1 = .ok outcome' ∧ Outcome.Counterpart k b b' outcome outcome') ∧
        Mirrored k b b' ended.2.world ended'.2.world := by
  refine ⟨Provider.build_mirrored plain plain' expresses expresses' new new', ?_⟩
  intro pods nodes nodes' strategy mode s s' counterparts mirrored
  obtain ⟨agree, beside⟩ :=
    parallel_runOnce plain plain' counterparts pods strategy mode s s' ⟨mirrored, trivial⟩
  refine ⟨agree, ?_, beside.world⟩
  intro readable
  apply agree.values
  rintro e e' ⟨⟨node, member, wrong⟩, -, -⟩
  exact readable node member wrong

end Engine

/-! The sample, on either cloud. -/

namespace Both

/-- The groups of the sample. -/
def layout : Layout where
  pools := [⟨"z", "a", Sample.large.bounds, ["i"]⟩, ⟨"z", "b", Sample.small.bounds, ["j"]⟩]
  names := by decide
  instances := by decide
  plain := by
    simp only [List.mem_cons, List.not_mem_nil, or_false, forall_eq_or_imp, forall_eq]
    exact ⟨⟨by decide, by decide, by decide⟩, ⟨by decide, by decide, by decide⟩⟩

def sizes (name : String) : Nat := if name = "a" then 5 else 2

def onAws : Backend := .aws 0 0

def onGce : Backend := .gce "p" {} 0 0

def awsWorld : World where
  aws := ⟨[.ofGroups (layout.pools.map fun pool => (pool.name, pool.aws (sizes pool.name)))]⟩

def gceWorld : World where
  gce := ⟨[.ofGroups (layout.pools.map fun pool => (pool.key "p", pool.gce (sizes pool.name)))]⟩

/-- A session with a roster that has the groups and knows nothing of instances yet. -/
def session (w : World) : Session :=
  { world := { w with rosters := ⟨[{ groups := layout.ids }]⟩ } }

/-- The nodes of the sample under the ids of the other cloud. -/
def nodes : List Node :=
  [{ Sample.largeNode with providerId := "gce://p/z/i" },
    { Sample.smallNode with providerId := "gce://p/z/j" }]

def report : ScaleUpReport :=
  { Sample.report 3 with
    group := "https://www.googleapis.com/compute/v1/projects/p/zones/z/instanceGroups/b"
    backend := "gce" }

theorem awsWorld_expresses : onAws.Expresses layout sizes awsWorld :=
  Aws.Cloud.expresses_ofGroups layout sizes

theorem gceWorld_expresses : onGce.Expresses layout sizes gceWorld :=
  ⟨Gce.Cloud.expresses_ofGroups "p" layout sizes, rfl,
    fun _ early => absurd early (Nat.not_lt_zero _)⟩

theorem mirrored : Mirrored layout onAws onGce (session awsWorld).world (session gceWorld).world :=
  ⟨sizes, awsWorld_expresses.rosters _, gceWorld_expresses.rosters _, rfl, rfl, rfl⟩

theorem counterparts : List.Forall₂ (Node.Counterpart onAws onGce) Sample.nodes nodes :=
  .cons ⟨rfl, .inl ⟨"z/i", by decide, by decide⟩⟩
    (.cons ⟨rfl, .inl ⟨"z/j", by decide, by decide⟩⟩ .nil)

theorem readable : ∀ node ∈ Sample.nodes, ¬ node.Malformed onAws := by
  intro node member
  obtain rfl | rfl : node = Sample.largeNode ∨ node = Sample.smallNode := by
    simpa [Sample.nodes] using member
  · rintro ⟨-, e, wrong⟩
    cases wrong
  · rintro ⟨-, e, wrong⟩
    cases wrong

theorem ended_aws : (((layout.engine onAws .mostPods .increment).runOnce Sample.pods
    Sample.nodes).runOn (session awsWorld)).1 = .ok (.scaledUp (Sample.report 3)) := by
  decide +kernel

theorem ended_gce : (((layout.engine onGce .mostPods .increment).runOnce Sample.pods
    nodes).runOn (session gceWorld)).1 = .ok (.scaledUp report) := by decide +kernel

end Both

open Both in
theorem Engine.runOnce_counterparts_sample :
    let s := session awsWorld
    let s' := session gceWorld
    let ended := ((layout.engine onAws .mostPods .increment).runOnce Sample.pods
      Sample.nodes).runOn s
    let ended' := ((layout.engine onGce .mostPods .increment).runOnce Sample.pods nodes).runOn s'
    ended.1 = .ok (.scaledUp (Sample.report 3)) ∧ ended'.1 = .ok (.scaledUp report) ∧
      Outcome.Counterpart layout onAws onGce (.scaledUp (Sample.report 3)) (.scaledUp report) ∧
      Mirrored layout onAws onGce ended.2.world ended'.2.world := by
  have plain : onAws.Plain := trivial
  have plain' : onGce.Plain := show Text.Plain "p" by decide
  obtain ⟨-, cycles⟩ := Engine.runOnce_counterparts plain plain' awsWorld_expresses
    gceWorld_expresses rfl rfl
  obtain ⟨-, outcomes, still⟩ := cycles Sample.pods Sample.nodes nodes .mostPods .increment _ _
    counterparts mirrored
  obtain ⟨outcome, outcome', same, same', counterpart⟩ := outcomes readable
  rw [ended_aws, Except.ok.injEq] at same
  rw [ended_gce, Except.ok.injEq] at same'
  rw [← same, ← same'] at counterpart
  exact ⟨ended_aws, ended_gce, counterpart, still⟩

end Autoscaler
