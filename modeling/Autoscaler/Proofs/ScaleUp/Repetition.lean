import Autoscaler.Proofs.ScaleUp.Turns
import Mathlib.Logic.Function.Iterate

/-!
# Repeated cycles of a calm fleet

Cycles run one after the other for the same pods and the same nodes. Each resize is seen by the
next survey, so the picked candidate may change from cycle to cycle. What ends this is that
candidates without room are out for good: a cycle that fills the group of its candidate leaves
fewer candidates, and in absolute mode a cycle that does not fill it will be repeated exactly.
-/

namespace Autoscaler.Engine

/-- The session after `n` cycles. -/
def after (e : Engine) (pods : List Pod) (nodes : List Node) (n : Nat) (s : Session) : Session :=
  (fun s => ((e.runOnce pods nodes).runOn s).2)^[n] s

/-- The result of the cycle that runs behind `n` others. -/
def nth (e : Engine) (pods : List Pod) (nodes : List Node) (n : Nat) (s : Session) :
    Except CycleError Outcome :=
  ((e.runOnce pods nodes).runOn (e.after pods nodes n s)).1

/-- The picked candidate, if there is one, has the size that it would be given. -/
def Settled (e : Engine) (pods : List Pod) (nodes : List Node) (w : World) : Prop :=
  ∀ c n, e.pick? pods (e.below nodes w) = some c → c.group.size? w = some n →
    ExpansionOption.newSize ⟨c, helped e.checker pods c⟩ e.mode n = n

variable {e : Engine} {pods : List Pod} {nodes : List Node} {s t : Session} {w w' : World}
  {r : Except CycleError Outcome} {g : NodeGroup}

theorem after_succ (n : Nat) (s : Session) :
    e.after pods nodes (n + 1) s = ((e.runOnce pods nodes).runOn (e.after pods nodes n s)).2 :=
  Function.iterate_succ_apply' _ n s

namespace Calm

theorem after (calm : e.Calm s.world) (pods : List Pod) (nodes : List Node) (n : Nat) :
    World.Steady s.world (e.after pods nodes n s).world := by
  induction n with
  | zero => exact refl_of World.Steady _
  | succ n ih =>
      rcases run : (e.runOnce pods nodes).runOn (e.after pods nodes n s) with ⟨r, t⟩
      obtain ⟨steady, -⟩ := runOnce_turn (calm.steady ih) run
      rw [after_succ, run]
      exact trans_of World.Steady ih steady

/-- The cycle behind `n` others is a turn. -/
theorem turn (calm : e.Calm s.world) (pods : List Pod) (nodes : List Node) (n : Nat) :
    World.Steady (e.after pods nodes n s).world (e.after pods nodes (n + 1) s).world ∧
      Turn e pods nodes (e.after pods nodes n s) (e.nth pods nodes n s)
        (e.after pods nodes (n + 1) s) := by
  rw [after_succ]
  exact runOnce_turn (calm.steady (calm.after pods nodes n)) rfl

/-- What every turn keeps is kept from any cycle on. -/
theorem later (calm : e.Calm s.world) {Q : Session → Prop}
    (keeps : ∀ s r t, e.Calm s.world → World.Steady s.world t.world → Turn e pods nodes s r t →
      Q s → Q t) {i n : Nat} (le : i ≤ n) (start : Q (e.after pods nodes i s)) :
    Q (e.after pods nodes n s) := by
  induction le with
  | refl => exact start
  | @step n _ ih =>
      obtain ⟨steady, turn⟩ := calm.turn pods nodes n
      exact keeps _ _ _ (calm.steady (calm.after pods nodes n)) steady turn ih

theorem candidates_after (calm : e.Calm s.world) (pods : List Pod) (nodes : List Node) (n : Nat) :
    e.candidates nodes (e.after pods nodes n s).world = e.candidates nodes s.world :=
  calm.candidates_eq (calm.after pods nodes n) nodes

/-- With the same sizes the same candidates have room. -/
theorem below_eq (calm : e.Calm w) (steady : World.Steady w w')
    (same : w'.sizeAt? = w.sizeAt?) : e.below nodes w' = e.below nodes w := by
  rw [below, calm.candidates_eq steady, below]
  apply List.filter_congr
  intro c _
  exact NodeGroup.hasRoom_of_sizeAt? (congrFun same _)

/-- A candidate that is picked has room, and its group is configured. -/
theorem picked (calm : e.Calm w) {c : Candidate}
    (picked : e.pick? pods (e.below nodes w) = some c) :
    c ∈ e.below nodes w ∧ c.group ∈ e.groups ∧ c.group.hasRoom w := by
  have among := (Strategy.choose?_eq_some picked).mem
  obtain ⟨found, room⟩ := mem_below.mp among
  exact ⟨among, (calm.candidate found).1, NodeGroup.hasRoom_iff.mpr room⟩

end Calm

/-! ## Settled fleets -/

/-- A settled fleet keeps its sizes and stays settled. -/
theorem Settled.turn (settled : Settled e pods nodes s.world) (calm : e.Calm s.world)
    (steady : World.Steady s.world t.world) (turn : Turn e pods nodes s r t) :
    t.world.sizeAt? = s.world.sizeAt? ∧ Settled e pods nodes t.world := by
  have same : t.world.sizeAt? = s.world.sizeAt? := by
    cases turn with
    | rested unpicked seen => exact seen.sameGroups.sizeAt?
    | resized o fit picked current known left =>
        have kept : o.newSize e.mode current = current := by
          have kept := settled o.candidate current picked known
          rwa [← fit] at kept
        funext address
        by_cases here : address = o.candidate.group.address
        · rw [here, NodeGroup.sizeAt?_address, NodeGroup.sizeAt?_address,
            NodeGroup.size?_of_withSize known left, known, kept]
        · exact NodeGroup.sizeAt?_of_withSize left here
  refine ⟨same, ?_⟩
  intro c n picked known
  rw [calm.below_eq steady same] at picked
  rw [← NodeGroup.sizeAt?_address, same, NodeGroup.sizeAt?_address] at known
  exact settled c n picked known

theorem Settled.after (calm : e.Calm s.world) {i n : Nat} (le : i ≤ n)
    (settled : Settled e pods nodes (e.after pods nodes i s).world) :
    (e.after pods nodes n s).world.sizeAt? = (e.after pods nodes i s).world.sizeAt? := by
  have kept := calm.later
    (Q := fun t => t.world.sizeAt? = (e.after pods nodes i s).world.sizeAt? ∧
      Settled e pods nodes t.world) ?_ le ⟨rfl, settled⟩
  · exact kept.1
  · rintro s r t calm steady turn ⟨same, settled⟩
    obtain ⟨same', settled'⟩ := settled.turn calm steady turn
    exact ⟨same'.trans same, settled'⟩

/-! ## Full groups -/

/-- A turn resizes no group that is full. -/
theorem Turn.full (turn : Turn e pods nodes s r t) (calm : e.Calm s.world) (member : g ∈ e.groups)
    (full : g.hasRoom s.world = false) :
    t.world.sizeAt? g.address = s.world.sizeAt? g.address ∧
      World.Resizes (· ≠ g.address) s.world t.world := by
  cases turn with
  | rested unpicked seen =>
      exact ⟨congrFun seen.sameGroups.sizeAt? _, seen.resizes _⟩
  | resized o fit picked current known left resizes =>
      obtain ⟨-, configured, room⟩ := calm.picked picked
      have elsewhere : g.address ≠ o.candidate.group.address := by
        intro here
        rw [calm.apart g member _ configured here, room] at full
        cases full
      refine ⟨NodeGroup.sizeAt?_of_withSize left elsewhere, resizes.mono ?_⟩
      rintro _ rfl
      exact elsewhere.symm

/-- A group that is full is never resized again. -/
theorem Calm.full_after (calm : e.Calm s.world) (member : g ∈ e.groups) {i n : Nat} (le : i ≤ n)
    (full : g.hasRoom (e.after pods nodes i s).world = false) :
    g.size? (e.after pods nodes n s).world = g.size? (e.after pods nodes i s).world ∧
      World.Resizes (· ≠ g.address) (e.after pods nodes i s).world
        (e.after pods nodes n s).world := by
  have kept := calm.later
    (Q := fun t => t.world.sizeAt? g.address = (e.after pods nodes i s).world.sizeAt? g.address ∧
      World.Resizes (· ≠ g.address) (e.after pods nodes i s).world t.world)
    ?_ le ⟨rfl, refl_of (World.Resizes _) _⟩
  · obtain ⟨same, resizes⟩ := kept
    rw [NodeGroup.sizeAt?_address, NodeGroup.sizeAt?_address] at same
    exact ⟨same, resizes⟩
  · rintro s' r t calm' steady turn ⟨same, resizes⟩
    rw [← NodeGroup.hasRoom_of_sizeAt? same] at full
    obtain ⟨same', resizes'⟩ := turn.full calm' member full
    exact ⟨same'.trans same, trans_of (World.Resizes _) resizes resizes'⟩

/-- Candidates that have room after a turn had room before. -/
theorem Turn.below (turn : Turn e pods nodes s r t) (calm : e.Calm s.world)
    (steady : World.Steady s.world t.world) :
    e.below nodes t.world = (e.below nodes s.world).filter fun c => c.group.hasRoom t.world := by
  rw [Engine.below, Engine.below, calm.candidates_eq steady, List.filter_filter]
  apply List.filter_congr
  intro c found
  cases room : c.group.hasRoom s.world with
  | true => rw [Bool.and_true]
  | false =>
      obtain ⟨same, -⟩ := turn.full calm (calm.candidate found).1 room
      rw [NodeGroup.hasRoom_of_sizeAt? same, room, Bool.and_false]

/-! ## Absolute mode -/

/-- In absolute mode a turn either fills the group of its candidate, or it will be repeated
exactly. -/
theorem Turn.absolute (turn : Turn e pods nodes s r t) (absolute : e.mode = .absolute)
    (calm : e.Calm s.world) (steady : World.Steady s.world t.world) :
    Settled e pods nodes t.world ∨
      (e.below nodes t.world).length < (e.below nodes s.world).length := by
  have shrunk := turn.below calm steady
  cases turn with
  | rested unpicked seen told unscaled =>
      left
      intro c n picked
      rw [calm.below_eq steady seen.sameGroups.sizeAt?, unpicked] at picked
      cases picked
  | resized o fit picked current known left resizes told =>
      have size := NodeGroup.size?_of_withSize known left
      obtain ⟨among, configured, room⟩ := calm.picked picked
      cases filled : o.candidate.group.hasRoom t.world with
      | true =>
          left
          have same : e.below nodes t.world = e.below nodes s.world := by
            rw [shrunk, List.filter_eq_self]
            intro c other
            obtain ⟨found, known'⟩ := mem_below.mp other
            obtain here | elsewhere := calm.same_or_apart (calm.candidate found).1 configured
            · rw [here, filled]
            · rw [NodeGroup.hasRoom_of_sizeAt? (NodeGroup.sizeAt?_of_withSize left elsewhere)]
              exact NodeGroup.hasRoom_iff.mpr known'
          intro c n picked' known'
          rw [same, picked, Option.some.injEq] at picked'
          subst picked'
          rw [size, Option.some.injEq] at known'
          rw [← fit, ← known', absolute]
          rfl
      | false =>
          right
          rw [shrunk, List.length_filter_lt_length_iff_exists]
          exact ⟨o.candidate, among, by simp [filled]⟩

/-- As long as a fleet has not settled, each cycle leaves fewer candidates with room. -/
theorem Calm.settled_or_fewer (calm : e.Calm s.world) (absolute : e.mode = .absolute)
    (pods : List Pod) (nodes : List Node) (n : Nat) :
    Settled e pods nodes (e.after pods nodes n s).world ∨
      (e.below nodes (e.after pods nodes n s).world).length + n ≤
        (e.below nodes s.world).length := by
  induction n with
  | zero => exact .inr (Nat.le_refl _)
  | succ n ih =>
      obtain ⟨steady, turn⟩ := calm.turn pods nodes n
      have calm' := calm.steady (calm.after pods nodes n)
      obtain settled | fewer := ih
      · exact .inl (settled.turn calm' steady turn).2
      · obtain settled | less := turn.absolute absolute calm' steady
        · exact .inl settled
        · right
          omega

/-- In absolute mode the sizes of a calm fleet stop changing after at most as many cycles as
there are candidates below their maximum, and a group that is full is never resized again. -/
theorem absolute_settles (e : Engine) (pods : List Pod) (nodes : List Node) (s : Session)
    (calm : e.Calm s.world) (absolute : e.mode = .absolute) :
    (∀ n, (e.below nodes s.world).length ≤ n →
      (e.after pods nodes n s).world.sizeAt? =
        (e.after pods nodes (e.below nodes s.world).length s).world.sizeAt?) ∧
    ∀ g ∈ e.groups, ∀ i size, g.size? (e.after pods nodes i s).world = some size →
      g.bounds.max ≤ size → ∀ n, i ≤ n →
        g.size? (e.after pods nodes n s).world = some size ∧
          World.Resizes (· ≠ g.address) (e.after pods nodes i s).world
            (e.after pods nodes n s).world := by
  constructor
  · intro n enough
    have settled : Settled e pods nodes
        (e.after pods nodes (e.below nodes s.world).length s).world := by
      obtain settled | fewer := calm.settled_or_fewer absolute pods nodes
        (e.below nodes s.world).length
      · exact settled
      · -- No candidate has room any more, so none is picked.
        have nobody : e.below nodes
            (e.after pods nodes (e.below nodes s.world).length s).world = [] := by
          apply List.eq_nil_of_length_eq_zero
          omega
        intro c n picked
        rw [nobody, pick?_no_candidates] at picked
        cases picked
    exact settled.after calm enough
  · intro g member i size known full n le
    have no_room : g.hasRoom (e.after pods nodes i s).world = false := by
      rw [NodeGroup.hasRoom, known, Option.any_some]
      exact decide_eq_false (Nat.not_lt.mpr full)
    obtain ⟨same, resizes⟩ := calm.full_after member le no_room
    exact ⟨same.trans known, resizes⟩

theorem absolute_settles_sample :
    (∀ n, 2 ≤ n →
      ((Sample.engine .absolute).after Sample.crowd Sample.nodes n Sample.refreshed).world.sizeAt? =
        ((Sample.engine .absolute).after Sample.crowd Sample.nodes 2
          Sample.refreshed).world.sizeAt?) ∧
    ∀ n, 1 ≤ n → Sample.small.size?
      ((Sample.engine .absolute).after Sample.crowd Sample.nodes n Sample.refreshed).world =
        some 4 := by
  obtain ⟨settles, full⟩ := absolute_settles (Sample.engine .absolute) Sample.crowd Sample.nodes
    Sample.refreshed (calm_sample .absolute) rfl
  have member : Sample.small ∈ (Sample.engine .absolute).groups :=
    List.mem_cons_of_mem _ List.mem_cons_self
  exact ⟨settles, fun n le => (full Sample.small member 1 4 rfl (Nat.le_refl 4) n le).1⟩

end Autoscaler.Engine
