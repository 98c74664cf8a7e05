import Autoscaler.Proofs.Packing.Uniform
import Autoscaler.Proofs.ScaleUp.Reordering
import Autoscaler.Proofs.ScaleUp.Repetition
import Mathlib.Algebra.GroupWithZero.Nat
import Mathlib.Algebra.Order.BigOperators.Group.List
import Mathlib.Algebra.Order.Group.Nat

/-!
# How much a calm fleet grows

A cycle that adds its estimate to the size of a group with room makes it larger if the estimate is
at least one, since the cap then leaves something of it. Some pod is helped, so this is so as long
as a word can count the pods. What candidates with room may still grow by is a budget for this.
Each expansion takes from it and nothing gives back, so it bounds the number of expansions. When
no candidate with room helps a pod, cycles are over with their decisions, since from then on no
size changes.

An estimate is a word, though. If the nodes that the pods need are a multiple of the number of words
then it is zero, and every cycle reports an expansion by nothing.
-/

namespace Autoscaler

namespace NodeGroup

/-- How many machines the group may still get; none if its size is not known. -/
def room (g : NodeGroup) (w : World) : Nat := g.bounds.max - (g.size? w).getD g.bounds.max

variable {g : NodeGroup} {w w' : World} {n : Nat}

theorem room_eq (known : g.size? w = some n) : g.room w = g.bounds.max - n := by
  rw [room, known, Option.getD_some]

theorem room_of_sizeAt? (same : w'.sizeAt? g.address = w.sizeAt? g.address) :
    g.room w' = g.room w := by
  rw [sizeAt?_address, sizeAt?_address] at same
  rw [room, same, room]

end NodeGroup

namespace ExpansionOption

variable {o : ExpansionOption} {current : Nat}

/-- An increment takes nothing from a group with room, and adds something to it if and only if
its estimate is not zero. -/
theorem newSize_increment (room : current < o.candidate.group.bounds.max) :
    current ≤ o.newSize .increment current ∧
      o.newSize .increment current ≤ o.candidate.group.bounds.max ∧
      (current < o.newSize .increment current ↔ 0 < o.estimate) := by
  have newSize : o.newSize .increment current =
      min o.candidate.group.bounds.max (current + o.estimate) := Engine.newSize_eq o _ _
  omega

theorem estimate_pos (some_pod : o.pods ≠ []) (few : o.pods.length < word32) : 0 < o.estimate :=
  (Packing.nodeCount_bounds o.candidate.sample few some_pod).1

end ExpansionOption

namespace Engine

/-- What the candidates below their maximum may still grow by. -/
def slack (e : Engine) (nodes : List Node) (w : World) : Nat :=
  ((e.below nodes w).map fun c => c.group.room w).sum

/-- Whether a result is a report. -/
def scalesUp : Except CycleError Outcome → Bool
  | .ok (.scaledUp _) => true
  | _ => false

/-- How many of the first `n` cycles scale up. -/
def scaleUps (e : Engine) (pods : List Pod) (nodes : List Node) (n : Nat) (s : Session) : Nat :=
  (List.range n).countP fun i => scalesUp (e.nth pods nodes i s)

/-- The group of the candidate has the size that the report tells, which is no less than it was,
and nothing else has changed. -/
structure Raised (c : Candidate) (report : ScaleUpReport) (w w' : World) : Prop where
  group : report.group = c.group.url
  prior : c.group.size? w = some report.priorSize
  noSmaller : report.priorSize ≤ report.newSize
  capped : report.newSize ≤ c.group.bounds.max
  world : World.SameGroups (c.group.withSize report.newSize w) w'

variable {e : Engine} {pods : List Pod} {nodes : List Node} {s t : Session} {w : World}
  {r : Except CycleError Outcome} {report : ScaleUpReport}

theorem scaleUps_succ (n : Nat) : e.scaleUps pods nodes (n + 1) s =
    e.scaleUps pods nodes n s + if scalesUp (e.nth pods nodes n s) then 1 else 0 := by
  rw [scaleUps, List.range_succ, List.countP_append, List.countP_singleton, scaleUps]

/-! ## Growth -/

/-- The group of the candidate that is picked has room for what is added to it. -/
theorem Calm.increment (calm : e.Calm w) {o : ExpansionOption}
    (picked : e.pick? pods (e.below nodes w) = some o.candidate) {current : Nat}
    (known : o.candidate.group.size? w = some current) :
    current ≤ o.newSize .increment current ∧
      o.newSize .increment current ≤ o.candidate.group.bounds.max ∧
      (current < o.newSize .increment current ↔ 0 < o.estimate) := by
  obtain ⟨-, -, room⟩ := calm.picked picked
  obtain ⟨n, size, below⟩ := NodeGroup.hasRoom_iff.mp room
  cases known.symm.trans size
  exact ExpansionOption.newSize_increment below

/-- A candidate that is picked helps a pod. If a word can count the pods, it needs a node. -/
theorem estimate_picked {candidates : List Candidate} {o : ExpansionOption}
    (fit : o.pods = helped e.checker pods o.candidate)
    (picked : e.pick? pods candidates = some o.candidate) (few : pods.length < word32) :
    0 < o.estimate := by
  obtain ⟨helps, -⟩ := Strategy.choose?_eq_some picked
  apply ExpansionOption.estimate_pos
  · rw [fit]
    exact List.ne_nil_of_length_pos helps
  · rw [fit]
    exact Nat.lt_of_le_of_lt (List.length_filter_le _ _) few

/-- A turn that scales up gives the group of a candidate the size of its report. -/
theorem Turn.raised (turn : Turn e pods nodes s (.ok (.scaledUp report)) t) (calm : e.Calm s.world)
    (increment : e.mode = .increment) :
    (∃ c ∈ e.candidates nodes s.world, Raised c report s.world t.world) ∧
      (pods.length < word32 → report.priorSize < report.newSize) := by
  cases turn with
  | rested unpicked seen told unscaled => exact absurd rfl (unscaled report)
  | resized o fit picked current known left resizes told =>
      obtain told | ⟨error, failed⟩ := told
      · cases told
        obtain ⟨among, -, -⟩ := calm.picked picked
        obtain ⟨kept, capped, larger⟩ := calm.increment picked known
        rw [← increment] at kept capped larger
        exact ⟨⟨o.candidate, (mem_below.mp among).1, rfl, known, kept, capped, left⟩,
          fun few => larger.mpr (estimate_picked fit picked few)⟩
      · cases failed

/-- A turn takes from the slack for each expansion and gives nothing back. -/
theorem Turn.slack (turn : Turn e pods nodes s r t) (calm : e.Calm s.world)
    (steady : World.Steady s.world t.world) (increment : e.mode = .increment)
    (few : pods.length < word32) :
    e.slack nodes t.world + (if scalesUp r then 1 else 0) ≤ e.slack nodes s.world := by
  have shrunk := turn.below calm steady
  cases turn with
  | rested unpicked seen told unscaled =>
      have same := seen.sameGroups.sizeAt?
      have unscaled : scalesUp r = false := by
        unfold scalesUp
        split
        · next report => exact absurd rfl (unscaled report)
        · rfl
      have room : (fun c : Candidate => c.group.room t.world) =
          fun c : Candidate => c.group.room s.world :=
        funext fun c => NodeGroup.room_of_sizeAt? (congrFun same _)
      rw [Engine.slack, calm.below_eq steady same, room, unscaled]
      exact Nat.le_refl _
  | resized o fit picked current known left resizes told =>
      obtain ⟨among, configured, -⟩ := calm.picked picked
      obtain ⟨-, capped, larger⟩ := calm.increment picked known
      rw [← increment] at capped larger
      have taken : o.candidate.group.room t.world < o.candidate.group.room s.world := by
        have more := larger.mpr (estimate_picked fit picked few)
        rw [NodeGroup.room_eq known, NodeGroup.room_eq (NodeGroup.size?_of_withSize known left)]
        omega
      have kept : ∀ c ∈ e.below nodes s.world, c.group.room t.world ≤ c.group.room s.world := by
        intro c other
        obtain ⟨found, -⟩ := mem_below.mp other
        obtain here | elsewhere := calm.same_or_apart (calm.candidate found).1 configured
        · rw [here]
          exact Nat.le_of_lt taken
        · apply Nat.le_of_eq
          exact NodeGroup.room_of_sizeAt? (NodeGroup.sizeAt?_of_withSize left elsewhere)
      -- Candidates that are full now count no more, the others count what is left of their room.
      have fewer : e.slack nodes t.world ≤
          ((e.below nodes s.world).map fun c => c.group.room t.world).sum := by
        rw [Engine.slack, shrunk]
        exact (List.filter_sublist.map _).sum_le_sum fun _ _ => Nat.zero_le _
      have less : ((e.below nodes s.world).map fun c => c.group.room t.world).sum <
          e.slack nodes s.world := List.sum_lt_sum _ _ kept ⟨o.candidate, among, taken⟩
      split <;> omega

/-- Expansions and what is left of the slack come to no more than the slack at the start. -/
theorem Calm.scaleUps_le (calm : e.Calm s.world) (increment : e.mode = .increment)
    (few : pods.length < word32) (nodes : List Node) (n : Nat) :
    e.slack nodes (e.after pods nodes n s).world + e.scaleUps pods nodes n s ≤
      e.slack nodes s.world := by
  induction n with
  | zero => exact Nat.le_refl _
  | succ n ih =>
      obtain ⟨steady, turn⟩ := calm.turn pods nodes n
      have step := turn.slack (calm.steady (calm.after pods nodes n)) steady increment few
      rw [scaleUps_succ]
      omega

/-! ## Rest -/

/-- Cycles that can tell what they find have no candidate to pick. -/
def Resting (e : Engine) (pods : List Pod) (nodes : List Node) (w : World) : Prop :=
  e.pick? pods (e.below nodes w) = none ∧ (pods = [] ∨ e.Finds nodes w)

/-- Fleets rest exactly if a cycle ends without a decision, and then they go on resting. -/
theorem Turn.resting (turn : Turn e pods nodes s r t) (calm : e.Calm s.world)
    (steady : World.Steady s.world t.world) :
    ((∃ keys, r = .ok (.noDecision keys)) ↔ Resting e pods nodes s.world) ∧
      (Resting e pods nodes s.world → Resting e pods nodes t.world) := by
  cases turn with
  | rested unpicked seen told unscaled =>
      rw [Resting, Resting, calm.below_eq steady seen.sameGroups.sizeAt?, calm.finds_iff steady]
      exact ⟨told.trans (and_iff_right unpicked).symm, fun rests => rests⟩
  | resized o fit picked current known left resizes told =>
      have restless : ¬ Resting e pods nodes s.world := by
        rintro ⟨unpicked, -⟩
        rw [picked] at unpicked
        cases unpicked
      refine ⟨⟨?_, fun rests => absurd rests restless⟩, fun rests => absurd rests restless⟩
      rintro ⟨keys, ended⟩
      obtain told | ⟨error, failed⟩ := told
      · cases told.symm.trans ended
      · cases failed.symm.trans ended

/-- Where a fleet rests, the candidates that help a pod are full. -/
theorem Resting.full (rests : Resting e pods nodes w) (calm : e.Calm w) {c : Candidate}
    (found : c ∈ e.candidates nodes w) (helps : helped e.checker pods c ≠ []) :
    ∃ n, c.group.size? w = some n ∧ c.group.bounds.max ≤ n := by
  obtain ⟨-, -, sized⟩ := calm.candidate found
  obtain ⟨n, size⟩ := Option.isSome_iff_exists.mp sized
  refine ⟨n, size, Nat.le_of_not_lt ?_⟩
  intro below
  exact helps (helped_of_unpicked rests.1 c (mem_below.mpr ⟨found, n, size, below⟩))

/-- In increment mode every report tells of a group that has got more, or no less if a word cannot
count the pods, and that is all that has changed. There are at most as many reports as the
candidates below their maximum may grow by. After a cycle without a decision all candidates that
help a pod are full, and no later cycle has a decision. -/
theorem increment_grows (e : Engine) (pods : List Pod) (nodes : List Node) (s : Session)
    (calm : e.Calm s.world) (increment : e.mode = .increment) :
    (∀ i report, e.nth pods nodes i s = .ok (.scaledUp report) →
      (∃ c ∈ e.candidates nodes s.world,
        Raised c report (e.after pods nodes i s).world (e.after pods nodes (i + 1) s).world) ∧
      (pods.length < word32 → report.priorSize < report.newSize)) ∧
    (pods.length < word32 → ∀ n, e.scaleUps pods nodes n s ≤ e.slack nodes s.world) ∧
    ∀ i keys, e.nth pods nodes i s = .ok (.noDecision keys) →
      (∀ c ∈ e.candidates nodes s.world, helped e.checker pods c ≠ [] →
        ∃ n, c.group.size? (e.after pods nodes i s).world = some n ∧ c.group.bounds.max ≤ n) ∧
      ∀ j, i ≤ j → ∃ keys, e.nth pods nodes j s = .ok (.noDecision keys) := by
  refine ⟨?reports, ?count, ?rest⟩
  case reports =>
    intro i report told
    obtain ⟨-, turn⟩ := calm.turn pods nodes i
    rw [told] at turn
    have raised := turn.raised (calm.steady (calm.after pods nodes i)) increment
    rwa [calm.candidates_after] at raised
  case count =>
    intro few n
    have spent := calm.scaleUps_le increment few nodes n
    omega
  case rest =>
    intro i keys told
    have calm' := calm.steady (calm.after pods nodes i)
    obtain ⟨steady, turn⟩ := calm.turn pods nodes i
    have rests := (turn.resting calm' steady).1.mp ⟨keys, told⟩
    constructor
    · intro c found helps
      rw [← calm.candidates_after pods nodes i] at found
      exact rests.full calm' found helps
    · intro j le
      have later := calm.later (Q := fun t => Resting e pods nodes t.world)
        (fun _ _ _ calm steady turn rests => (turn.resting calm steady).2 rests) le rests
      obtain ⟨steady, turn⟩ := calm.turn pods nodes j
      exact (turn.resting (calm.steady (calm.after pods nodes j)) steady).1.mpr later

theorem increment_grows_sample :
    (∃ c ∈ (Sample.engine .increment).candidates Sample.nodes Sample.refreshed.world,
      Raised c (Sample.report 3) Sample.refreshed.world
        ((Sample.engine .increment).after Sample.pods Sample.nodes 1 Sample.refreshed).world) ∧
    (∀ n, (Sample.engine .increment).scaleUps Sample.pods Sample.nodes n Sample.refreshed ≤ 7) ∧
    ∀ n, 7 ≤ n → ∃ keys, (Sample.engine .increment).nth Sample.pods Sample.nodes n
      Sample.refreshed = .ok (.noDecision keys) := by
  obtain ⟨reports, counted, rests⟩ := increment_grows (Sample.engine .increment) Sample.pods
    Sample.nodes Sample.refreshed (calm_sample .increment) rfl
  obtain ⟨raised, -⟩ := reports 0 (Sample.report 3) (by decide +kernel)
  obtain ⟨-, later⟩ := rests 7 [] (by decide +kernel)
  exact ⟨raised, counted (by decide), later⟩

/-! ## Estimates that are cut off to zero -/

/-- Where calls are answered, a cycle that has a candidate to pick scales up. -/
theorem Turn.scalesUp (turn : Turn e pods nodes s r t)
    (ended : ((e.runOnce pods nodes).runOn s).1 = r) (answered : e.Answered s.world)
    {c : Candidate} (picked : e.pick? pods (e.below nodes s.world) = some c) :
    ∃ report, r = .ok (.scaledUp report) := by
  cases turn with
  | rested unpicked => cases picked.symm.trans unpicked
  | resized o _ _ current _ _ _ told =>
      obtain told | ⟨error, failed⟩ := told
      · exact ⟨_, told⟩
      · -- Only the discovery could have failed, and then there is no candidate.
        have undiscovered := discover_of_error answered (ended.trans failed)
        rw [below_undiscovered undiscovered, pick?_no_candidates] at picked
        cases picked

/-- The report of a settled fleet tells of no change. -/
theorem Settled.unchanged (settled : Settled e pods nodes s.world)
    (turn : Turn e pods nodes s (.ok (.scaledUp report)) t) :
    report.newSize = report.priorSize := by
  cases turn with
  | rested unpicked seen told unscaled => exact absurd rfl (unscaled report)
  | resized o fit picked current known left resizes told =>
      obtain told | ⟨error, failed⟩ := told
      · cases told
        have kept := settled o.candidate current picked known
        rwa [← fit] at kept
      · cases failed

/-- The estimates for all candidates with room are cut off to zero. -/
def Emptied (e : Engine) (pods : List Pod) (nodes : List Node) (w : World) : Prop :=
  ∀ c ∈ e.below nodes w, ExpansionOption.estimate ⟨c, helped e.checker pods c⟩ = 0

theorem Emptied.settled (emptied : Emptied e pods nodes w) (calm : e.Calm w)
    (increment : e.mode = .increment) : Settled e pods nodes w := by
  intro c n picked known
  have none_added := emptied c (calm.picked picked).1
  obtain ⟨kept, -, larger⟩ := calm.increment (o := ⟨c, helped e.checker pods c⟩) picked known
  rw [increment]
  omega

/-- If some candidate with room helps a pod as well, every cycle scales up and adds nothing. -/
theorem Emptied.stalls (emptied : Emptied e pods nodes s.world) (calm : e.Calm s.world)
    (increment : e.mode = .increment) (answered : ∀ n, e.Answered (e.after pods nodes n s).world)
    (helps : ∃ c ∈ e.below nodes s.world, helped e.checker pods c ≠ []) (n : Nat) :
    ∃ report, e.nth pods nodes n s = .ok (.scaledUp report) ∧
      report.newSize = report.priorSize := by
  have steady := calm.after pods nodes n
  have settled : Settled e pods nodes (e.after pods nodes 0 s).world :=
    emptied.settled calm increment
  have below_eq : e.below nodes (e.after pods nodes n s).world = e.below nodes s.world :=
    calm.below_eq steady (settled.after calm (Nat.zero_le n))
  obtain ⟨c, picked⟩ : ∃ c,
      e.pick? pods (e.below nodes (e.after pods nodes n s).world) = some c := by
    rw [below_eq]
    apply Option.ne_none_iff_exists'.mp
    intro unpicked
    obtain ⟨c, member, some_pod⟩ := helps
    exact some_pod (helped_of_unpicked unpicked c member)
  have emptied' : Emptied e pods nodes (e.after pods nodes n s).world := by
    rwa [Emptied, below_eq]
  obtain ⟨-, turn⟩ := calm.turn pods nodes n
  obtain ⟨report, told⟩ := turn.scalesUp rfl (answered n) picked
  rw [told] at turn
  exact ⟨report, told, (emptied'.settled (calm.steady steady) increment).unchanged turn⟩

theorem scaleUps_eq (always : ∀ i, ∃ report, e.nth pods nodes i s = .ok (.scaledUp report))
    (n : Nat) : e.scaleUps pods nodes n s = n := by
  have all : ∀ i ∈ List.range n, scalesUp (e.nth pods nodes i s) := by
    intro i _
    obtain ⟨report, told⟩ := always i
    rw [told]
    rfl
  rw [scaleUps, List.countP_eq_length.mpr all, List.length_range]

end Engine

namespace Sample

variable {n : Nat}

/-- A pod that fills a machine of either group. -/
def filler : Pod where
  scope := "d"
  name := "p"
  asked := { cpuMillis := 1000, memoryBytes := 1000 }

def fillers (n : Nat) : List Pod := List.replicate n filler

theorem answered_after (mode : ResizeMode) (pods : List Pod) (n : Nat) :
    (engine mode).Answered ((engine mode).after pods nodes n refreshed).world := by
  have calm := Engine.calm_sample mode
  intro p configured g member
  have serving := ((calm.steady (calm.after pods nodes n)).fresh p configured).serving
  obtain rfl := List.mem_singleton.mp configured
  obtain rfl | rfl : g = large ∨ g = small := by simpa using member
  · exact serving
  · exact serving

theorem below_refreshed (mode : ResizeMode) : (engine mode).below nodes refreshed.world =
    [⟨large, largeNode⟩, ⟨small, smallNode⟩] := by rfl

/-- Either group takes fillers, and needs a machine for each of them. -/
theorem filler_alone : ∀ c ∈ [(⟨large, largeNode⟩ : Candidate), ⟨small, smallNode⟩],
    Engine.helps Fit.check c filler ∧ c.sample.allocatable.fits filler.requests ∧
      Packing.perNode c.sample filler = 1 := by decide

/-- The estimate for either group counts the fillers as a word does. -/
theorem fillers_estimate (mode : ResizeMode) (n : Nat) :
    ∀ c ∈ (engine mode).below nodes refreshed.world,
      Engine.helped (engine mode).checker (fillers n) c = fillers n ∧
        ExpansionOption.estimate ⟨c, fillers n⟩ = n % word32 := by
  intro c member
  rw [below_refreshed] at member
  obtain ⟨helps, room, alone⟩ := filler_alone c member
  have alike : ∀ p ∈ fillers n, p.requests = filler.requests := by
    intro p among
    rw [List.eq_of_mem_replicate among]
  refine ⟨List.filter_replicate_of_pos helps, ?_⟩
  rw [ExpansionOption.estimate, Packing.nodeCount_alone room alike alone, fillers,
    List.length_replicate]

/-- For as many fillers as there are words, every cycle scales up and adds nothing. -/
theorem fillers_stall (i : Nat) : ∃ report,
    (engine .increment).nth (fillers word32) nodes i refreshed = .ok (.scaledUp report) ∧
      report.newSize = report.priorSize := by
  have estimates := fillers_estimate .increment word32
  have emptied : (engine .increment).Emptied (fillers word32) nodes refreshed.world := by
    intro c member
    obtain ⟨all, estimate⟩ := estimates c member
    rw [all, estimate, Nat.mod_self]
  refine emptied.stalls (Engine.calm_sample _) rfl (answered_after _ _) ?_ i
  have among : (⟨large, largeNode⟩ : Candidate) ∈
      (engine .increment).below nodes refreshed.world := by
    rw [below_refreshed]
    exact List.mem_cons_self
  refine ⟨_, among, ?_⟩
  rw [(estimates _ among).1]
  exact List.ne_nil_of_length_pos (by rw [fillers, List.length_replicate]; decide)

end Sample

/-- With as many pods as there are words, each of which fills a machine, an expansion may add
nothing, and there is no end of expansions. -/
theorem Engine.increment_stalls :
    (¬ ∀ (e : Engine) (pods : List Pod) (nodes : List Node) (s : Session),
      (e.strategy = .first ∨ e.strategy = .mostPods) → e.checker = Fit.check →
      e.mode = .increment → e.Calm s.world → (∀ n, e.Answered (e.after pods nodes n s).world) →
      ∀ i report, e.nth pods nodes i s = .ok (.scaledUp report) →
        report.priorSize < report.newSize) ∧
    ¬ ∀ (e : Engine) (pods : List Pod) (nodes : List Node) (s : Session),
      (e.strategy = .first ∨ e.strategy = .mostPods) → e.checker = Fit.check →
      e.mode = .increment → e.Calm s.world → (∀ n, e.Answered (e.after pods nodes n s).world) →
      ∀ n, e.scaleUps pods nodes n s ≤ e.slack nodes s.world := by
  constructor
  · intro claim
    obtain ⟨report, told, same⟩ := Sample.fillers_stall 0
    have larger := claim (Sample.engine .increment) (Sample.fillers word32) Sample.nodes
      Sample.refreshed (.inr rfl) rfl rfl (Engine.calm_sample _) (Sample.answered_after _ _) 0
      report told
    omega
  · intro claim
    have always : ∀ i, ∃ report, (Sample.engine .increment).nth (Sample.fillers word32)
        Sample.nodes i Sample.refreshed = .ok (.scaledUp report) := by
      intro i
      obtain ⟨report, told, -⟩ := Sample.fillers_stall i
      exact ⟨report, told⟩
    have counted := claim (Sample.engine .increment) (Sample.fillers word32) Sample.nodes
      Sample.refreshed (.inr rfl) rfl rfl (Engine.calm_sample _) (Sample.answered_after _ _)
      ((Sample.engine .increment).slack Sample.nodes Sample.refreshed.world + 1)
    rw [scaleUps_eq always] at counted
    omega

end Autoscaler
