import Autoscaler.Proofs.Fleet.Provider
import Autoscaler.Proofs.ScaleUp.Strategy
import Autoscaler.ScaleUp.Cycle

/-!
# The course of a cycle

A cycle first surveys the groups, which only asks, and then either ends without a decision
or expands one option, which sets one size. The four ways in which a cycle can go are the
constructors of a predicate on its result and on the session it leaves. Everything they say
is about the session the cycle started from, and for each failure they say what was wrong
with it. Other properties of cycles are read off from there.
-/

namespace Autoscaler

open Autoscaler.Action (Keeps)

namespace ExpansionOption

/-- How many machines the pods of the option need. -/
def estimate (o : ExpansionOption) : Nat :=
  (Packing.estimate o.candidate.sample o.pods).nodeCount

/-- The size that is set for a group of some size, after the cap at the maximum. -/
def newSize (o : ExpansionOption) (mode : ResizeMode) (current : Nat) : Nat :=
  min (mode.target current o.estimate) o.candidate.group.bounds.max

/-- The report on an expansion from some size. -/
def report (o : ExpansionOption) (mode : ResizeMode) (current : Nat) : ScaleUpReport where
  group := o.candidate.group.url
  backend := o.candidate.group.backend.name
  priorSize := current
  newSize := o.newSize mode current
  estimate := o.estimate
  pods := o.pods.map Pod.key

end ExpansionOption

namespace Engine

variable {e : Engine} {pods : List Pod} {nodes : List Node} {s t : Session} {w w' : World}

theorem inWorld_cases {ε α : Type} {act : Action ε World α} {r : Except ε α}
    (run : (inWorld act).runOn s = (r, t)) :
    ∃ w, act.runOn s.world = (r, w) ∧ t = { s with world := w } := by
  cases run
  exact ⟨_, rfl, rfl⟩

/-- A sequence that begins with an action on the world, whose errors are put into other
words. -/
theorem inWorld_bind_cases {ε δ α β : Type} {f : ε → δ} {act : Action ε World α}
    {next : α → Action δ Session β} {r : Except δ β}
    (run : (inWorld (act.mapError f) >>= next).runOn s = (r, t)) :
    (∃ a w, act.runOn s.world = (.ok a, w) ∧ (next a).runOn { s with world := w } = (r, t)) ∨
      ∃ e w, act.runOn s.world = (.error e, w) ∧ r = .error (f e) ∧ t = { s with world := w } := by
  obtain ⟨a, m, first, rest⟩ | ⟨e, first, rfl⟩ := Action.bind_cases run
  · obtain ⟨w, mapped, rfl⟩ := inWorld_cases first
    obtain ⟨a', plain, same⟩ | ⟨_, -, failed⟩ := Action.mapError_cases mapped
    · cases same
      exact .inl ⟨a, w, plain, rest⟩
    · cases failed
  · obtain ⟨w, mapped, left⟩ := inWorld_cases first
    obtain ⟨_, -, ended⟩ | ⟨e', plain, same⟩ := Action.mapError_cases mapped
    · cases ended
    · cases same
      exact .inr ⟨e', w, plain, rfl, left⟩

/-! ## Surveys -/

theorem keeps_discover (nodes : List Node) (providers : List Provider) :
    Keeps World.Observed (discover nodes providers) := by
  induction providers with
  | nil => exact .pure _
  | cons p providers ih =>
      exact .bind ((p.keeps_candidates nodes).mapError _) fun _ => .bind ih fun _ => .pure _

/-- Only the discovery itself can fail, for one of the providers. -/
theorem discover_error {providers : List Provider} {error : CycleError}
    (run : (discover nodes providers).runOn w = (.error error, w')) :
    ∃ p ∈ providers, ∃ source, error = .discovery p.name source := by
  induction providers generalizing w with
  | nil => cases run
  | cons p providers ih =>
      obtain ⟨found, m, -, rest⟩ | ⟨_, failed, same⟩ := Action.bind_cases run
      · obtain ⟨others, m', -, told⟩ | ⟨_, failed, same⟩ := Action.bind_cases rest
        · cases told
        · cases same
          obtain ⟨p', member, wrong⟩ := ih failed
          exact ⟨p', List.mem_cons_of_mem _ member, wrong⟩
      · cases same
        obtain ⟨_, _, told⟩ | ⟨source, _, told⟩ := Action.mapError_cases failed
        · cases told
        · cases told
          exact ⟨p, List.mem_cons_self, source, rfl⟩

theorem discover_from {providers : List Provider} {found : List Candidate}
    (run : (discover nodes providers).runOn w = (.ok found, w')) :
    ∀ c ∈ found, ∃ p ∈ providers, c.From p nodes := by
  induction providers generalizing w found with
  | nil =>
      cases run
      simp
  | cons p providers ih =>
      obtain ⟨first, m, mapped, rest⟩ := Action.bind_ok_cases run
      obtain ⟨others, m', more, told⟩ := Action.bind_ok_cases rest
      cases told
      intro c member
      obtain member | member := List.mem_append.mp member
      · obtain ⟨_, plain, same⟩ | ⟨_, -, failed⟩ := Action.mapError_cases mapped
        · cases same
          exact ⟨p, List.mem_cons_self, Provider.candidates_from plain c member⟩
        · cases failed
      · obtain ⟨p', member', origin⟩ := ih more c member
        exact ⟨p', List.mem_cons_of_mem _ member', origin⟩

theorem keeps_growable (found : List Candidate) : Keeps World.Observed (growable found) := by
  induction found with
  | nil => exact .pure _
  | cons c found ih =>
      exact .bind c.group.keeps_canGrow.attempt fun _ => .bind ih fun _ => .pure _

/-- The candidates that can grow, as the sizes stand that could be read. -/
structure Growing (found : List Candidate) (w : World) (growing : List Candidate) : Prop where
  sublist : growing.Sublist found
  room : ∀ c ∈ growing, c.group.hasRoom w
  complete : (∀ c ∈ found, c.group.Answering w) → growing = found.filter (·.group.hasRoom w)

theorem Growing.cons {found growing : List Candidate} {c : Candidate}
    (others : Growing found w growing) (room : c.group.hasRoom w) :
    Growing (c :: found) w (c :: growing) where
  sublist := others.sublist.cons_cons c
  room := List.forall_mem_cons.mpr ⟨room, others.room⟩
  complete answering := by
    rw [List.filter_cons, if_pos room,
      ← others.complete fun c member => answering c (List.mem_cons_of_mem _ member)]

theorem Growing.skip {found growing : List Candidate} {c : Candidate}
    (others : Growing found w growing) (passed : c.group.Answering w → c.group.hasRoom w = false) :
    Growing (c :: found) w growing where
  sublist := others.sublist.cons c
  room := others.room
  complete answering := by
    have full := passed (answering c List.mem_cons_self)
    rw [List.filter_cons, if_neg (by simp [full]),
      ← others.complete fun c member => answering c (List.mem_cons_of_mem _ member)]

/-- Growing candidates are the same before and after calls that ask. -/
theorem Growing.before {found growing : List Candidate} (seen : World.Observed w w')
    (after : Growing found w' growing) : Growing found w growing where
  sublist := after.sublist
  room c member := by simpa only [seen.hasRoom] using after.room c member
  complete answering := by
    simpa only [seen.hasRoom] using
      after.complete fun c member => seen.answering (answering c member)

/-- No size that cannot be read stops a survey. -/
theorem growable_ok {found : List Candidate} {r : Except CycleError (List Candidate)}
    (run : (growable found).runOn w = (r, w')) :
    ∃ growing, r = .ok growing ∧ Growing found w growing := by
  induction found generalizing w w' r with
  | nil =>
      cases run
      exact ⟨[], rfl, .slnil, by simp, fun _ => rfl⟩
  | cons c found ih =>
      rcases asked : c.group.canGrow.runOn w with ⟨grows, m⟩
      have seen := c.group.keeps_canGrow.of_runOn asked
      rw [growable, Action.runOn_bind_ok (by rw [Action.runOn_attempt, asked])] at run
      rcases rest : (growable found).runOn m with ⟨r', m'⟩
      obtain ⟨growing, rfl, others⟩ := ih rest
      have others := others.before seen
      rw [Action.runOn_bind_ok rest] at run
      cases grows with
      | error error =>
          cases run
          refine ⟨growing, rfl, others.skip ?_⟩
          intro answering
          have told := NodeGroup.canGrow_answering answering
          rw [asked] at told
          cases told
      | ok grows =>
          have room := NodeGroup.canGrow_ok asked
          cases grows with
          | true =>
              cases run
              exact ⟨_, rfl, others.cons room.symm⟩
          | false =>
              cases run
              exact ⟨_, rfl, others.skip fun _ => room.symm⟩

/-! ## Expansions -/

/-- How the expansion of an option ends, and the session it leaves. -/
inductive Expansion (mode : ResizeMode) (o : ExpansionOption) (s : Session) :
    Except CycleError Outcome → Session → Prop where
  | unread (error : CloudError) (w : World) (seen : World.Observed s.world w)
      (cause : ¬ o.candidate.group.Answering s.world) :
      Expansion mode o s (.error (.groupSize o.candidate.group.url error)) { s with world := w }
  | failed (current : Nat) (error : CloudError) (w : World)
      (known : o.candidate.group.size? s.world = some current)
      (once : World.OneResize s.world w)
      (left : World.SameGroups s.world w ∨
        World.SameGroups (o.candidate.group.withSize (o.newSize mode current) s.world) w ∧
          o.candidate.group.backend.UnseenEnd w error)
      (cause : ¬ o.candidate.group.Answering s.world) :
      Expansion mode o s
        (.error (.resize o.candidate.group.url (mode.target current o.estimate) error))
        { s with world := w }
  | done (current : Nat) (w : World)
      (known : o.candidate.group.size? s.world = some current)
      (once : World.OneResize s.world w)
      (left : World.SameGroups
        (o.candidate.group.withSize (o.newSize mode current) s.world) w) :
      Expansion mode o s (.ok (.scaledUp (o.report mode current)))
        { world := w
          events := s.events ++ (o.pods.map Pod.key).map fun key =>
            .triggered key o.candidate.group.url current (o.newSize mode current) }

/-- What was observed before an expansion is no part of what happens in it. -/
theorem Expansion.before {mode : ResizeMode} {o : ExpansionOption} {r : Except CycleError Outcome}
    (seen : World.Observed s.world w) (after : Expansion mode o { s with world := w } r t) :
    Expansion mode o s r t := by
  have sized := seen.size? o.candidate.group
  have kept (size : Nat) :=
    seen.sameGroups.withSize o.candidate.group.backend o.candidate.group.id size
  cases after with
  | unread error w' later cause =>
      refine .unread error w' (trans_of World.Observed seen later) ?_
      intro answering
      exact cause (seen.answering answering)
  | failed current error w' known once left cause =>
      refine .failed current error w' (sized.symm.trans known) (seen.oneResize once) ?_ ?_
      · obtain left | ⟨left, unseen⟩ := left
        · exact .inl (trans_of World.SameGroups seen.sameGroups left)
        · exact .inr ⟨trans_of World.SameGroups (kept _) left, unseen⟩
      · intro answering
        exact cause (seen.answering answering)
  | done current w' known once left =>
      exact .done current w' (sized.symm.trans known) (seen.oneResize once)
        (trans_of World.SameGroups (kept _) left)

theorem expand_expansion {mode : ResizeMode} {o : ExpansionOption}
    {r : Except CycleError Outcome} (run : (expand mode o).runOn s = (r, t)) :
    Expansion mode o s r t := by
  obtain ⟨current, w, sized, rest⟩ | ⟨source, w, sized, rfl, rfl⟩ := inWorld_bind_cases run
  · have seen := o.candidate.group.keeps_currentSize.of_runOn sized
    have known : o.candidate.group.size? w = some current :=
      (seen.size? _).trans (Backend.groupSize_ok sized)
    -- Reading the size only asks, so the rest is as if the expansion started behind it.
    apply Expansion.before seen
    obtain ⟨size, w', set, ended⟩ | ⟨source, w', set, rfl, rfl⟩ := inWorld_bind_cases rest
    · obtain ⟨once, ⟨same, left⟩ | ⟨_, failed, -⟩⟩ := NodeGroup.resize_cases set
      · cases same
        cases ended
        exact .done current w' known once left
      · cases failed
    · obtain ⟨once, ⟨ended, -⟩ | ⟨_, same, left⟩⟩ := NodeGroup.resize_cases set
      · cases ended
      · cases same
        refine .failed current source w' known once left ?_
        intro answering
        have ended := NodeGroup.resize_answering answering (mode.target current o.estimate)
        exact absurd ((congrArg Prod.fst set).symm.trans ended) (by simp)
  · refine .unread source w (o.candidate.group.keeps_currentSize.of_runOn sized) ?_
    intro answering
    obtain ⟨n, -, ended⟩ := NodeGroup.currentSize_answering answering
    exact absurd ((congrArg Prod.fst sized).symm.trans ended) (by simp)

/-! ## Whole cycles -/

/-- The pods, in order, that would run on a new machine of a candidate. -/
def helped (checker : Checker) (pods : List Pod) (c : Candidate) : List Pod :=
  pods.filter (helps checker c)

theorem options_eq (checker : Checker) (growing : List Candidate) (pods : List Pod) :
    options checker growing pods =
      (growing.map fun c => ⟨c, helped checker pods c⟩).filter fun o => 0 < o.pods.length := by
  apply List.filter_congr
  intro o _
  simp [List.length_pos_iff]

/-- The groups that were found and those of them that can grow. -/
structure Survey (e : Engine) (nodes : List Node) (w : World)
    (found growing : List Candidate) : Prop where
  discovered : ((discover nodes e.providers).runOn w).1 = .ok found
  origin : ∀ c ∈ found, ∃ p ∈ e.providers, c.From p nodes
  grows : Growing found w growing

/-- How a cycle goes, with its result and the session it leaves. -/
inductive Course (e : Engine) (pods : List Pod) (nodes : List Node) (s : Session) :
    Except CycleError Outcome → Session → Prop where
  | idle (no_pods : pods = []) : Course e pods nodes s (.ok (.noDecision [])) s
  | undiscovered (some_pod : pods ≠ []) (p : Provider) (member : p ∈ e.providers)
      (source : CloudError) (w : World) (seen : World.Observed s.world w)
      (failed : ((discover nodes e.providers).runOn s.world).1 =
        .error (.discovery p.name source)) :
      Course e pods nodes s (.error (.discovery p.name source)) { s with world := w }
  | undecided (some_pod : pods ≠ []) (found growing : List Candidate)
      (survey : Survey e nodes s.world found growing)
      (useless : ∀ c ∈ growing, helped e.checker pods c = [])
      (w : World) (seen : World.Observed s.world w) :
      Course e pods nodes s (.ok (.noDecision (unhelped e.checker growing pods)))
        { world := w
          events := s.events ++ (unhelped e.checker growing pods).map .notTriggered }
  | expanded (some_pod : pods ≠ []) (found growing : List Candidate)
      (survey : Survey e nodes s.world found growing) (c : Candidate)
      (picks : e.strategy.Picks (fun c => (helped e.checker pods c).length) growing c)
      (r : Except CycleError Outcome) (t : Session)
      (expansion : Expansion e.mode ⟨c, helped e.checker pods c⟩ s r t) :
      Course e pods nodes s r t

theorem runOnce_course {r : Except CycleError Outcome}
    (run : (e.runOnce pods nodes).runOn s = (r, t)) : Course e pods nodes s r t := by
  rw [runOnce] at run
  split at run
  · next no_pods =>
      cases run
      exact .idle no_pods
  next some_pod =>
  obtain ⟨found, m, searched, rest⟩ | ⟨error, failed, rfl⟩ := Action.bind_cases run
  · -- The survey only asks, so what it finds also holds of the world before the cycle.
    obtain ⟨w, discovered, rfl⟩ := inWorld_cases searched
    have seen := (keeps_discover nodes e.providers).of_runOn discovered
    rcases grown : (growable found).runOn w with ⟨r', w'⟩
    obtain ⟨growing, rfl, grows⟩ := growable_ok grown
    have seen' := trans_of World.Observed seen ((keeps_growable found).of_runOn grown)
    have survey : Survey e nodes s.world found growing :=
      ⟨by rw [discovered], discover_from discovered, grows.before seen⟩
    rw [Action.runOn_bind_ok (m := { s with world := w' }) (by
      rw [inWorld, Action.runOn_zoom, grown])] at rest
    rw [options_eq, Strategy.choose?_filter] at rest
    cases chosen : e.strategy.choose? (fun o : ExpansionOption => o.pods.length)
      (growing.map fun c => ⟨c, helped e.checker pods c⟩) with
    | none =>
        rw [chosen] at rest
        cases rest
        refine .undecided some_pod found growing survey ?_ w' seen'
        intro c member
        have useless := Strategy.choose?_eq_none chosen _ (List.mem_map_of_mem member)
        exact List.eq_nil_of_length_eq_zero useless
    | some o =>
        rw [chosen] at rest
        obtain ⟨c, rfl, picks⟩ := (Strategy.choose?_eq_some chosen).of_map
        exact .expanded some_pod found growing survey c picks r t
          (Expansion.before seen' (expand_expansion rest))
  · obtain ⟨w, discovered, rfl⟩ := inWorld_cases failed
    obtain ⟨p, member, source, rfl⟩ := discover_error discovered
    exact .undiscovered some_pod p member source w
      ((keeps_discover nodes e.providers).of_runOn discovered) (by rw [discovered])

end Engine

/-!
## Two groups and two pods

A small cluster on which statements about cycles can be seen at work. Both groups can grow.
One pod runs only on machines of the smaller group, the other on those of both.
-/

namespace Sample

def large : NodeGroup :=
  ⟨.aws 0 0, ⟨"z", "a"⟩, { min := 3, max := 10, max_lt := by decide }⟩

def small : NodeGroup :=
  ⟨.aws 0 0, ⟨"z", "b"⟩, { min := 2, max := 4, max_lt := by decide }⟩

def engine (mode : ResizeMode) : Engine where
  providers := [⟨.aws 0 0, [large, small]⟩]
  strategy := .mostPods
  mode

def largeNode : Node where
  name := "n"
  providerId := "aws://z/i"
  allocatable := { cpuMillis := 1000, memoryBytes := 1000, pods := 10 }

def smallNode : Node where
  name := "m"
  providerId := "aws://z/j"
  allocatable := { cpuMillis := 4000, memoryBytes := 1000, pods := 10 }

def nodes : List Node := [largeNode, smallNode]

def pods : List Pod :=
  [{ scope := "d", name := "p", asked := { cpuMillis := 500, memoryBytes := 500 } },
    { scope := "d", name := "q", asked := { cpuMillis := 2000, memoryBytes := 500 } }]

def cloud : Aws.Cloud where
  groups :=
    { entries := [("a", { desired := 5, instances := [⟨"i", "z"⟩] }),
        ("b", { desired := 2, instances := [⟨"j", "z"⟩] })]
      nodup := by decide }

def session : Session where
  world :=
    { aws := ⟨[cloud]⟩
      rosters := ⟨[{ groups := [large.id, small.id] }]⟩ }

def report (newSize : Nat) : ScaleUpReport where
  group := "z/b"
  backend := "aws"
  priorSize := 2
  newSize
  estimate := 1
  pods := ["d/p", "d/q"]

/-- The session after a cycle. -/
def after (mode : ResizeMode) : Session := (((engine mode).runOnce pods nodes).runOn session).2

theorem runOnce_increment :
    ((engine .increment).runOnce pods nodes).runOn session =
      (.ok (.scaledUp (report 3)), after .increment) := Prod.ext (by rfl) rfl

theorem runOnce_absolute :
    ((engine .absolute).runOnce pods nodes).runOn session =
      (.ok (.scaledUp (report 1)), after .absolute) := Prod.ext (by rfl) rfl

end Sample

end Autoscaler
