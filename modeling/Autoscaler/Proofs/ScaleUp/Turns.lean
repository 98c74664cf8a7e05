import Autoscaler.Proofs.Fleet.Steady
import Autoscaler.Proofs.ScaleUp.Decision
import Autoscaler.Proofs.ScaleUp.Phases

/-!
# Cycles of a calm fleet

A fleet is calm if its control planes serve and its rosters know what listings show. Then a cycle
finds the same candidates whenever it is run, and sizes are all that it can change. It either
rests, since no candidate with room helps a pod, or it gives the picked candidate another size.
The caller may fail to see a slow operation end, but the size is set all the same.
-/

namespace Autoscaler

open Autoscaler.Action (Constant Keeps)

/-- Four of each sample pod. -/
def Sample.crowd : List Pod := (List.replicate 4 Sample.pods).flatten

/-- The sample session with a roster that has been refreshed. -/
def Sample.refreshed : Session :=
  { Sample.session with world := ((Backend.refresh (.aws 0 0)).runOn Sample.session.world).2 }

namespace Engine

/-- The groups of all providers. -/
def groups (e : Engine) : List NodeGroup := e.providers.flatMap Provider.groups

/-- Groups belong to the backends of their providers, no two of them share an address, and all
backends are fresh. -/
structure Calm (e : Engine) (w : World) : Prop where
  configured : ∀ p ∈ e.providers, ∀ g ∈ p.groups, g.backend = p.backend
  apart : ∀ g ∈ e.groups, ∀ h ∈ e.groups, g.address = h.address → g = h
  fresh : ∀ p ∈ e.providers, p.backend.Fresh w

theorem calm_sample (mode : ResizeMode) : (Sample.engine mode).Calm Sample.refreshed.world := by
  constructor
  · intro p configured g member
    simp only [Sample.engine, List.mem_singleton] at configured
    subst configured
    simp only [List.mem_cons, List.not_mem_nil, or_false] at member
    obtain rfl | rfl := member <;> rfl
  · intro g member h other same
    change g ∈ [Sample.large, Sample.small] at member
    change h ∈ [Sample.large, Sample.small] at other
    simp only [List.mem_cons, List.not_mem_nil, or_false] at member other
    obtain rfl | rfl := member <;> obtain rfl | rfl := other
    · rfl
    · exact absurd same (by decide)
    · exact absurd same (by decide)
    · rfl
  · intro p configured
    simp only [Sample.engine, List.mem_singleton] at configured
    subst configured
    exact ⟨⟨rfl, fun _ _ => rfl⟩, _, rfl, rfl⟩

/-- A cycle can tell to which groups all nodes belong. -/
def Finds (e : Engine) (nodes : List Node) (w : World) : Prop :=
  ∃ found, ((discover nodes e.providers).runOn w).1 = .ok found

/-- The candidates that a cycle finds; none if it cannot tell. -/
def candidates (e : Engine) (nodes : List Node) (w : World) : List Candidate :=
  ((discover nodes e.providers).runOn w).1.toOption.getD []

/-- The candidates below their maximum. -/
def below (e : Engine) (nodes : List Node) (w : World) : List Candidate :=
  (e.candidates nodes w).filter fun c => c.group.hasRoom w

variable {e : Engine} {pods : List Pod} {nodes : List Node} {s t : Session} {w w' : World}
  {c : Candidate}

theorem mem_groups {p : Provider} {g : NodeGroup} (configured : p ∈ e.providers)
    (member : g ∈ p.groups) : g ∈ e.groups := List.mem_flatMap.mpr ⟨p, configured, member⟩

/-! ## Candidates -/

theorem constant_discover {providers : List Provider}
    (fresh : ∀ p ∈ providers, p.backend.Fresh w) (nodes : List Node) :
    Constant (World.Steady w) (discover nodes providers) := by
  induction providers with
  | nil => exact .pure _
  | cons p providers ih =>
      obtain ⟨here, others⟩ := List.forall_mem_cons.mp fresh
      have owners := Backend.constant_owner? here
      apply Constant.bind ((Provider.constant_candidates owners nodes).mapError _)
      intro found
      exact .bind (ih others) fun _ => .pure _

/-- A candidate that is found belongs to a group that the roster of its provider knows. -/
theorem discover_owner {providers : List Provider} (fresh : ∀ p ∈ providers, p.backend.Fresh w)
    {m m' : World} (steady : World.Steady w m) {found : List Candidate}
    (run : (discover nodes providers).runOn m = (.ok found, m')) :
    ∀ c ∈ found, ∃ p ∈ providers, c.group ∈ p.groups ∧
      ∃ member, (p.backend.roster w).owner? member = some c.group.id := by
  induction providers generalizing m found with
  | nil =>
      cases run
      simp
  | cons p providers ih =>
      obtain ⟨here, beyond⟩ := List.forall_mem_cons.mp fresh
      obtain ⟨first, k, mapped, rest⟩ := Action.bind_ok_cases run
      obtain ⟨others, k', more, told⟩ := Action.bind_ok_cases rest
      cases told
      have owners := Backend.constant_owner? here
      have onward := ((Provider.constant_candidates owners nodes).mapError _).kept steady mapped
      intro c among
      obtain early | later := List.mem_append.mp among
      · obtain ⟨_, plain, same⟩ | ⟨_, -, failed⟩ := Action.mapError_cases mapped
        · cases same
          have origin := Provider.candidates_from plain c early
          obtain ⟨member, owned⟩ := Provider.candidates_owner (here.steady steady) plain c early
          refine ⟨p, List.mem_cons_self, origin.group, member, ?_⟩
          rw [← owned]
          exact ((steady.rosters p.backend.rosterSlot).owner? member).symm
        · cases failed
      · obtain ⟨p', configured, known⟩ := ih beyond onward more c later
        exact ⟨p', List.mem_cons_of_mem _ configured, known⟩

namespace Calm

theorem steady (calm : e.Calm w) (steady : World.Steady w w') : e.Calm w' where
  configured := calm.configured
  apart := calm.apart
  fresh p configured := (calm.fresh p configured).steady steady

theorem discover_eq (calm : e.Calm w) (steady : World.Steady w w') (nodes : List Node) :
    ((discover nodes e.providers).runOn w').1 = ((discover nodes e.providers).runOn w).1 :=
  (constant_discover calm.fresh nodes).same steady (refl_of World.Steady w)

theorem candidates_eq (calm : e.Calm w) (steady : World.Steady w w') (nodes : List Node) :
    e.candidates nodes w' = e.candidates nodes w := by
  rw [candidates, calm.discover_eq steady, candidates]

theorem finds_iff (calm : e.Calm w) (steady : World.Steady w w') (nodes : List Node) :
    e.Finds nodes w' ↔ e.Finds nodes w := by
  rw [Finds, calm.discover_eq steady, Finds]

/-- Groups that are not the same have different addresses. -/
theorem same_or_apart (calm : e.Calm w) {g h : NodeGroup} (member : g ∈ e.groups)
    (other : h ∈ e.groups) : g = h ∨ g.address ≠ h.address := by
  by_cases same : g.address = h.address
  · exact .inl (calm.apart g member h other same)
  · exact .inr same

/-- The group of a candidate is configured, its backend serves, and it has a size. -/
theorem candidate (calm : e.Calm w) (among : c ∈ e.candidates nodes w) :
    c.group ∈ e.groups ∧ c.group.backend.Serving w ∧ (c.group.size? w).isSome := by
  rcases run : (discover nodes e.providers).runOn w with ⟨r, m⟩
  rw [candidates, run] at among
  cases r with
  | error error => cases among
  | ok found =>
      obtain ⟨p, configured, inside, member, owned⟩ :=
        discover_owner calm.fresh (refl_of World.Steady w) run c among
      have fresh := calm.fresh p configured
      have same := calm.configured p configured c.group inside
      obtain ⟨members, listed, -⟩ := fresh.roster.listed owned
      refine ⟨mem_groups configured inside, ?_, ?_⟩
      · rw [same]
        exact fresh.serving
      · rw [NodeGroup.size?, same]
        exact Backend.size?_of_members? listed

end Calm

theorem mem_below : c ∈ e.below nodes w ↔
    c ∈ e.candidates nodes w ∧ ∃ n, c.group.size? w = some n ∧ n < c.group.bounds.max := by
  rw [below, List.mem_filter, NodeGroup.hasRoom_iff]

theorem below_undiscovered {error : CycleError}
    (failed : ((discover nodes e.providers).runOn w).1 = .error error) : e.below nodes w = [] := by
  rw [below, candidates, failed]
  rfl

/-! ## Surveys -/

theorem steady_growable (found : List Candidate) : Keeps World.Steady (growable found) := by
  induction found with
  | nil => exact .pure _
  | cons c found ih =>
      have asks : Keeps World.Steady c.group.canGrow :=
        .bind c.group.steady_currentSize fun _ => .pure _
      exact .bind asks.attempt fun _ => .bind ih fun _ => .pure _

/-- Sizes that can be read are read as they are. -/
theorem readings_serving {found : List Candidate}
    (known : ∀ c ∈ found, c.group.backend.Serving w ∧ (c.group.size? w).isSome) :
    ((readings found w).filter showsRoom).map Prod.fst =
      found.filter fun c => c.group.hasRoom w := by
  induction found generalizing w with
  | nil => rfl
  | cons c found ih =>
      obtain ⟨⟨serving, sized⟩, others⟩ := List.forall_mem_cons.mp known
      obtain ⟨n, size⟩ := Option.isSome_iff_exists.mp sized
      have answered : (c.group.currentSize.runOn w).1 = .ok n :=
        Backend.groupSize_serving serving size
      rcases read : c.group.currentSize.runOn w with ⟨r, m⟩
      rw [read] at answered
      subst answered
      have seen := c.group.keeps_currentSize.of_runOn read
      have steady := c.group.steady_currentSize.of_runOn read
      have rest := ih (w := m) (by
        intro other among
        obtain ⟨serving, sized⟩ := others other among
        rw [seen.size?]
        exact ⟨serving.steady steady, sized⟩)
      simp only [seen.hasRoom] at rest
      rw [readings, read, List.filter_cons, List.filter_cons, NodeGroup.hasRoom, size,
        Option.any_some, showsRoom]
      by_cases room : n < c.group.bounds.max
      · rw [if_pos (decide_eq_true room), if_pos (decide_eq_true room), List.map_cons, rest]
      · rw [if_neg (by simpa using room), if_neg (by simpa using room), rest]

theorem Calm.roomy_eq (calm : e.Calm w) (nodes : List Node) :
    e.roomy nodes w = e.below nodes w := by
  rcases run : (discover nodes e.providers).runOn w with ⟨error | found, m⟩
  · rw [roomy, below, candidates, run]
    rfl
  · have same : e.candidates nodes w = found := by
      rw [candidates, run]
      rfl
    have seen := (keeps_discover nodes e.providers).of_runOn run
    have steady := (constant_discover calm.fresh nodes).kept (refl_of World.Steady w) run
    have known : ∀ c ∈ found, c.group.backend.Serving m ∧ (c.group.size? m).isSome := by
      intro c among
      obtain ⟨-, serving, sized⟩ := calm.candidate (same ▸ among)
      rw [seen.size?]
      exact ⟨serving.steady steady, sized⟩
    have read := readings_serving known
    simp only [seen.hasRoom] at read
    rw [roomy, below, same, run]
    exact read

/-! ## Turns -/

/-- What a cycle of a calm fleet does. -/
inductive Turn (e : Engine) (pods : List Pod) (nodes : List Node) (s : Session) :
    Except CycleError Outcome → Session → Prop where
  | rested (r : Except CycleError Outcome) (t : Session)
      (unpicked : e.pick? pods (e.below nodes s.world) = none)
      (seen : World.Observed s.world t.world)
      (told : (∃ keys, r = .ok (.noDecision keys)) ↔ pods = [] ∨ e.Finds nodes s.world)
      (unscaled : ∀ report, r ≠ .ok (.scaledUp report)) : Turn e pods nodes s r t
  | resized (r : Except CycleError Outcome) (t : Session) (o : ExpansionOption)
      (fit : o.pods = helped e.checker pods o.candidate)
      (picked : e.pick? pods (e.below nodes s.world) = some o.candidate) (current : Nat)
      (known : o.candidate.group.size? s.world = some current)
      (left : World.SameGroups (o.candidate.group.withSize (o.newSize e.mode current) s.world)
        t.world)
      (resizes : World.Resizes (· = o.candidate.group.address) s.world t.world)
      (told : r = .ok (.scaledUp (o.report e.mode current)) ∨ ∃ error, r = .error error) :
      Turn e pods nodes s r t

/-- Without pods nothing is picked. -/
theorem pick?_no_pods (e : Engine) (candidates : List Candidate) :
    e.pick? [] candidates = none := by
  cases picked : e.pick? [] candidates with
  | none => rfl
  | some c =>
      obtain ⟨some_pod, -⟩ := Strategy.choose?_eq_some picked
      cases some_pod

theorem pick?_no_candidates (e : Engine) (pods : List Pod) : e.pick? pods [] = none := by
  cases picked : e.pick? pods [] with
  | none => rfl
  | some c => cases (Strategy.choose?_eq_some picked).mem

/-- The expansion of an option whose group has a size and whose backend serves. -/
theorem expand_serving {mode : ResizeMode} {o : ExpansionOption} {n : Nat}
    {r : Except CycleError Outcome} (serving : o.candidate.group.backend.Serving s.world)
    (known : o.candidate.group.size? s.world = some n) (run : (expand mode o).runOn s = (r, t)) :
    World.Steady s.world t.world ∧
      World.SameGroups (o.candidate.group.withSize (o.newSize mode n) s.world) t.world ∧
      World.Resizes (· = o.candidate.group.address) s.world t.world ∧
      (r = .ok (.scaledUp (o.report mode n)) ∨ ∃ error, r = .error error) := by
  have answered : (o.candidate.group.currentSize.runOn s.world).1 = .ok n :=
    Backend.groupSize_serving serving known
  obtain ⟨current, w, sized, rest⟩ | ⟨source, w, sized, -, -⟩ := inWorld_bind_cases run
  · rw [sized] at answered
    cases answered
    have seen := o.candidate.group.keeps_currentSize.of_runOn sized
    have steady := o.candidate.group.steady_currentSize.of_runOn sized
    have serving' := serving.steady steady
    have known' := (seen.size? o.candidate.group).trans known
    have same := seen.sameGroups.withSize o.candidate.group.backend o.candidate.group.id
      (o.newSize mode n)
    have asked := seen.resizes (· = o.candidate.group.address)
    obtain ⟨size, w', set, ended⟩ | ⟨source, w', set, rfl, rfl⟩ := inWorld_bind_cases rest
    · obtain ⟨onward, left, resizes, told⟩ := NodeGroup.resize_serving serving' known' set
      obtain told | ⟨error, failed⟩ := told
      · cases told
        cases ended
        exact ⟨trans_of World.Steady steady onward, trans_of World.SameGroups same left,
          trans_of (World.Resizes _) asked resizes, .inl rfl⟩
      · cases failed
    · obtain ⟨onward, left, resizes, -⟩ := NodeGroup.resize_serving serving' known' set
      exact ⟨trans_of World.Steady steady onward, trans_of World.SameGroups same left,
        trans_of (World.Resizes _) asked resizes, .inr ⟨_, rfl⟩⟩
  · rw [sized] at answered
    cases answered

/-- What the survey of a cycle leaves behind. -/
theorem survey_steady (calm : e.Calm w) {m m' : World} {found : List Candidate}
    {r : Except CycleError (List Candidate)}
    (discovered : (discover nodes e.providers).runOn w = (.ok found, m))
    (surveyed : (growable found).runOn m = (r, m')) :
    World.Observed w m' ∧ World.Steady w m' := by
  constructor
  · exact trans_of World.Observed ((keeps_discover nodes e.providers).of_runOn discovered)
      ((keeps_growable found).of_runOn surveyed)
  · exact trans_of World.Steady
      ((constant_discover calm.fresh nodes).kept (refl_of World.Steady w) discovered)
      ((steady_growable found).of_runOn surveyed)

theorem runOnce_turn (calm : e.Calm s.world) {r : Except CycleError Outcome}
    (run : (e.runOnce pods nodes).runOn s = (r, t)) :
    World.Steady s.world t.world ∧ Turn e pods nodes s r t := by
  cases runOnce_phases run with
  | idle no_pods =>
      subst no_pods
      refine ⟨refl_of World.Steady _, .rested _ _ (pick?_no_pods _ _) (refl_of World.Observed _)
        ?_ (by simp)⟩
      exact ⟨fun _ => .inl rfl, fun _ => ⟨[], rfl⟩⟩
  | undiscovered some_pod error w failed =>
      have nobody : e.below nodes s.world = [] := below_undiscovered (congrArg Prod.fst failed)
      refine ⟨(constant_discover calm.fresh nodes).kept (refl_of World.Steady _) failed,
        .rested _ _ ?_ ((keeps_discover nodes e.providers).of_runOn failed) ?_ (by simp)⟩
      · rw [nobody]
        exact pick?_no_candidates _ _
      · constructor
        · rintro ⟨keys, told⟩
          cases told
        · rintro (no_pods | ⟨found, told⟩)
          · exact absurd no_pods some_pod
          · rw [failed] at told
            cases told
  | undecided some_pod found w w' discovered surveyed unpicked =>
      obtain ⟨seen, steady⟩ := survey_steady calm discovered surveyed
      rw [calm.roomy_eq] at unpicked
      refine ⟨steady, .rested _ _ unpicked seen ?_ (by simp)⟩
      exact ⟨fun _ => .inr ⟨found, by rw [discovered]⟩, fun _ => ⟨_, rfl⟩⟩
  | expanded some_pod found w w' discovered surveyed c picked r t ended =>
      obtain ⟨seen, steady⟩ := survey_steady calm discovered surveyed
      rw [calm.roomy_eq] at picked
      obtain ⟨among, n, known, -⟩ := mem_below.mp (Strategy.choose?_eq_some picked).mem
      obtain ⟨-, serving, -⟩ := calm.candidate among
      obtain ⟨onward, left, resizes, told⟩ := expand_serving (o := ⟨c, helped e.checker pods c⟩)
        (serving.steady steady) ((seen.size? c.group).trans known) ended
      have same := seen.sameGroups.withSize c.group.backend c.group.id
        (ExpansionOption.newSize ⟨c, helped e.checker pods c⟩ e.mode n)
      exact ⟨trans_of World.Steady steady onward, .resized r t ⟨c, helped e.checker pods c⟩ rfl
        picked n known (trans_of World.SameGroups same left)
        (trans_of (World.Resizes _) (seen.resizes _) resizes) told⟩

end Engine

end Autoscaler
