import Autoscaler.Proofs.ScaleUp.Cycle

/-!
# The phases of a cycle

A cycle discovers candidates, reads their sizes, chooses among those with room and expands the
chosen one. Its course says what comes of that for the groups; here the phases themselves are
told apart, with the worlds between them, whatever calls fail. Sizes are read one after the
other, each possibly of another world than the one before, and a candidate whose size cannot be
read is passed over.
-/

namespace Autoscaler.Engine

variable {e : Engine} {pods : List Pod} {nodes : List Node} {s t : Session} {w : World}
  {candidates : List Candidate}

/-- The answers to the questions about the sizes of candidates, asked one after the other. -/
def readings : List Candidate → World → List (Candidate × Except CloudError Nat)
  | [], _ => []
  | c :: found, w =>
      (c, (c.group.currentSize.runOn w).1) :: readings found (c.group.currentSize.runOn w).2

/-- Whether a size was read that is below the maximum of the candidate. -/
def showsRoom (reading : Candidate × Except CloudError Nat) : Bool :=
  match reading.2 with
  | .ok size => size < reading.1.group.bounds.max
  | .error _ => false

/-- The candidates that a cycle finds and reads a size with room of. -/
def roomy (e : Engine) (nodes : List Node) (w : World) : List Candidate :=
  match (discover nodes e.providers).runOn w with
  | (.ok found, m) => ((readings found m).filter showsRoom).map Prod.fst
  | (.error _, _) => []

/-- The candidate that the strategy takes. -/
def pick? (e : Engine) (pods : List Pod) (candidates : List Candidate) : Option Candidate :=
  e.strategy.choose? (fun c => (helped e.checker pods c).length) candidates

/-- Whether a group can grow is read off its size. -/
theorem canGrow_runOn (g : NodeGroup) (w : World) :
    g.canGrow.runOn w = ((g.currentSize.runOn w).1.map fun size => decide (size < g.bounds.max),
      (g.currentSize.runOn w).2) := by
  rcases read : g.currentSize.runOn w with ⟨error | size, m⟩
  · rw [NodeGroup.canGrow, Action.runOn_bind_error read]
    rfl
  · rw [NodeGroup.canGrow, Action.runOn_bind_ok read]
    rfl

/-- A survey goes on with the candidates of which it reads a size with room. -/
theorem growable_readings (found : List Candidate) (w : World) :
    ((growable found).runOn w).1 = .ok (((readings found w).filter showsRoom).map Prod.fst) := by
  induction found generalizing w with
  | nil => rfl
  | cons c found ih =>
      rcases read : c.group.currentSize.runOn w with ⟨answer, m⟩
      have others := ih m
      rcases rest : (growable found).runOn m with ⟨r, m'⟩
      rw [rest] at others
      subst others
      have asked : (c.group.canGrow.attempt : Action CycleError World _).runOn w =
          (.ok (answer.map fun size => decide (size < c.group.bounds.max)), m) := by
        rw [Action.runOn_attempt, canGrow_runOn, read]
      rw [growable, Action.runOn_bind_ok asked, Action.runOn_bind_ok rest, Action.runOn_pure,
        readings, read, List.filter_cons]
      cases answer with
      | error error => rfl
      | ok size =>
          by_cases room : size < c.group.bounds.max <;> simp [Except.map, showsRoom, room]

theorem choose?_options (e : Engine) (pods : List Pod) (candidates : List Candidate) :
    e.strategy.choose? (fun o => o.pods.length) (options e.checker candidates pods) =
      (e.pick? pods candidates).map fun c => ⟨c, helped e.checker pods c⟩ := by
  rw [options_eq, Strategy.choose?_filter, Strategy.choose?_map]
  rfl

/-- If none is picked then no candidate helps a pod. -/
theorem helped_of_unpicked (unpicked : e.pick? pods candidates = none) :
    ∀ c ∈ candidates, helped e.checker pods c = [] := by
  intro c member
  exact List.eq_nil_of_length_eq_zero (Strategy.choose?_eq_none unpicked c member)

/-- How far a cycle gets, with its result and the session it leaves. -/
inductive Phases (e : Engine) (pods : List Pod) (nodes : List Node) (s : Session) :
    Except CycleError Outcome → Session → Prop where
  | idle (no_pods : pods = []) : Phases e pods nodes s (.ok (.noDecision [])) s
  | undiscovered (some_pod : pods ≠ []) (error : CycleError) (w : World)
      (failed : (discover nodes e.providers).runOn s.world = (.error error, w)) :
      Phases e pods nodes s (.error error) { s with world := w }
  | undecided (some_pod : pods ≠ []) (found : List Candidate) (w w' : World)
      (discovered : (discover nodes e.providers).runOn s.world = (.ok found, w))
      (surveyed : (growable found).runOn w = (.ok (e.roomy nodes s.world), w'))
      (unpicked : e.pick? pods (e.roomy nodes s.world) = none) :
      Phases e pods nodes s (.ok (.noDecision (unhelped e.checker (e.roomy nodes s.world) pods)))
        { world := w'
          events := s.events ++
            (unhelped e.checker (e.roomy nodes s.world) pods).map .notTriggered }
  | expanded (some_pod : pods ≠ []) (found : List Candidate) (w w' : World)
      (discovered : (discover nodes e.providers).runOn s.world = (.ok found, w))
      (surveyed : (growable found).runOn w = (.ok (e.roomy nodes s.world), w'))
      (c : Candidate) (picked : e.pick? pods (e.roomy nodes s.world) = some c)
      (r : Except CycleError Outcome) (t : Session)
      (ended : (expand e.mode ⟨c, helped e.checker pods c⟩).runOn { s with world := w' } = (r, t)) :
      Phases e pods nodes s r t

theorem runOnce_phases {r : Except CycleError Outcome}
    (run : (e.runOnce pods nodes).runOn s = (r, t)) : Phases e pods nodes s r t := by
  rw [runOnce] at run
  split at run
  · next no_pods =>
    cases run
    exact .idle no_pods
  next some_pod =>
  obtain ⟨found, m, searched, rest⟩ | ⟨error, searched, rfl⟩ := Action.bind_cases run
  · obtain ⟨w, discovered, rfl⟩ := inWorld_cases searched
    have grown := growable_readings found w
    have roomy_eq : ((readings found w).filter showsRoom).map Prod.fst = e.roomy nodes s.world := by
      rw [roomy, discovered]
    rcases surveyed : (growable found).runOn w with ⟨r', w'⟩
    rw [surveyed, roomy_eq] at grown
    subst grown
    rw [Action.runOn_bind_ok (m := { s with world := w' }) (by
      rw [inWorld, Action.runOn_zoom, surveyed]), choose?_options] at rest
    cases picked : e.pick? pods (e.roomy nodes s.world) with
    | none =>
        rw [picked] at rest
        cases rest
        exact .undecided some_pod found w w' discovered surveyed picked
    | some c =>
        rw [picked] at rest
        exact .expanded some_pod found w w' discovered surveyed c picked r t rest
  · obtain ⟨w, failed, rfl⟩ := inWorld_cases searched
    exact .undiscovered some_pod error w failed

end Autoscaler.Engine
