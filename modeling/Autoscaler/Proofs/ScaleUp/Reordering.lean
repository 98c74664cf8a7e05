import Autoscaler.Proofs.Fleet.Twins
import Autoscaler.Proofs.ScaleUp.Phases

/-!
# The order of pods

The order in which pods are given makes no difference to what a cycle decides. Discovery and the
survey of sizes do not look at pods. A strategy looks at numbers of helped pods, and to keys of
pods that are not helped it matters only which ones they are. What comes behind the choice may
differ: the machines for the pods are estimated by packing them in their order, so one order can
need more machines than another, and sizes are set accordingly.

The two cycles start from the same session. Which calls fail is left open, since a caller who sets
a size is told what it would be told for any other size. So the cycles also fail alike, and where
calls are answered they fail only if the discovery of candidates does, say for a node whose
provider id cannot be read.
-/

namespace Autoscaler

open Autoscaler.Action (Agree)

namespace Engine

variable {e : Engine} {pods pods' : List Pod} {nodes : List Node} {s t t' : Session}
  {checker : Checker} {candidates : List Candidate}

/-- The outcomes are the same decision, about the same pods in some order. -/
inductive SameDecision : Outcome → Outcome → Prop where
  | noDecision {unhelped unhelped' : List String} (pods : unhelped.Perm unhelped') :
      SameDecision (.noDecision unhelped) (.noDecision unhelped')
  | scaledUp {report report' : ScaleUpReport} (group : report'.group = report.group)
      (backend : report'.backend = report.backend)
      (priorSize : report'.priorSize = report.priorSize) (pods : report.pods.Perm report'.pods) :
      SameDecision (.scaledUp report) (.scaledUp report')

/-- The errors are the same, but for the size that a group was to be given. -/
inductive SameFailure : CycleError → CycleError → Prop where
  | same (error : CycleError) : SameFailure error error
  | resize (group : String) (target target' : Nat) (source : CloudError) :
      SameFailure (.resize group target source) (.resize group target' source)

section Perm

variable (perm : pods.Perm pods')
include perm

theorem helped_perm (checker : Checker) (c : Candidate) :
    (helped checker pods c).Perm (helped checker pods' c) :=
  perm.filter _

theorem mem_refused_perm {key : String} :
    key ∈ refused checker candidates pods ↔ key ∈ refused checker candidates pods' := by
  simp only [refused, List.mem_flatMap, List.mem_map, List.mem_filter, perm.mem_iff]

theorem unhelped_perm (checker : Checker) (candidates : List Candidate) :
    (unhelped checker candidates pods).Perm (unhelped checker candidates pods') := by
  have same : (fun key => decide (key ∈ refused checker candidates pods)) =
      fun key => decide (key ∈ refused checker candidates pods') := by
    funext key
    rw [decide_eq_decide]
    exact mem_refused_perm perm
  rw [unhelped, unhelped, same]
  exact (perm.map Pod.key).filter _

/-- A strategy does not see the order of pods. -/
theorem pick?_perm (e : Engine) (candidates : List Candidate) :
    e.pick? pods candidates = e.pick? pods' candidates := by
  have same : (fun c => (helped e.checker pods c).length) =
      fun c => (helped e.checker pods' c).length := by
    funext c
    exact (helped_perm perm e.checker c).length_eq
  rw [pick?, pick?, same]

/-- Expansions of one candidate end alike, for a report on the same pods. -/
theorem expand_perm (mode : ResizeMode) (c : Candidate) (s : Session) :
    Agree SameFailure SameDecision ((expand mode ⟨c, pods⟩).runOn s).1
      ((expand mode ⟨c, pods'⟩).runOn s).1 := by
  rcases run : (expand mode ⟨c, pods⟩).runOn s with ⟨r, t⟩
  rcases run' : (expand mode ⟨c, pods'⟩).runOn s with ⟨r', t'⟩
  obtain ⟨current, w, sized, rest⟩ | ⟨source, w, sized, rfl, -⟩ := inWorld_bind_cases run
  · obtain ⟨current', w', sized', rest'⟩ | ⟨source', w', sized', -⟩ := inWorld_bind_cases run'
    · cases sized.symm.trans sized'
      obtain ⟨size, m, set, ended⟩ | ⟨source, m, set, rfl, -⟩ := inWorld_bind_cases rest
      · obtain ⟨size', m', set', ended'⟩ | ⟨source', m', set', -⟩ := inWorld_bind_cases rest'
        · cases ended
          cases ended'
          exact .ok (.scaledUp rfl rfl rfl (perm.map Pod.key))
        · cases NodeGroup.resize_alike set set'
      · obtain ⟨size', m', set', ended'⟩ | ⟨source', m', set', rfl, -⟩ := inWorld_bind_cases rest'
        · cases NodeGroup.resize_alike set set'
        · cases NodeGroup.resize_alike set set' with
          | error same => exact same ▸ .error (.resize _ _ _ _)
    · cases sized.symm.trans sized'
  · obtain ⟨current', w', sized', -⟩ | ⟨source', w', sized', rfl, -⟩ := inWorld_bind_cases run'
    · cases sized.symm.trans sized'
    · cases sized.symm.trans sized'
      exact .error (.same _)

end Perm

/-- The groups of all providers are on control planes that answer. -/
def Answered (e : Engine) (w : World) : Prop :=
  ∀ p ∈ e.providers, ∀ g ∈ p.groups, g.backend.Healthy w

/-- A candidate that was picked after a survey answers to its expansion. -/
theorem Answered.answering (answered : e.Answered s.world) {found : List Candidate} {w w' : World}
    {c : Candidate} (discovered : (discover nodes e.providers).runOn s.world = (.ok found, w))
    (surveyed : (growable found).runOn w = (.ok candidates, w'))
    (picked : e.pick? pods candidates = some c) : c.group.Answering w' := by
  obtain ⟨growing, same, grows⟩ := growable_ok surveyed
  cases same
  have member : c ∈ candidates := (Strategy.choose?_eq_some picked).mem
  obtain ⟨p, provider, origin⟩ := discover_from discovered c (grows.sublist.subset member)
  obtain ⟨size, known, -⟩ := NodeGroup.hasRoom_iff.mp (grows.room c member)
  have seen := (keeps_discover nodes e.providers).of_runOn discovered
  have seen' := (keeps_growable found).of_runOn surveyed
  have healthy := answered p provider c.group origin.group
  refine seen'.answering ⟨seen.healthy healthy, ?_⟩
  rw [known, Option.isSome_some]

/-- If calls are answered, the expansion of an option ends with a report. -/
theorem expand_answering {mode : ResizeMode} {o : ExpansionOption}
    {r : Except CycleError Outcome} (answering : o.candidate.group.Answering s.world)
    (run : (expand mode o).runOn s = (r, t)) :
    ∃ current, o.candidate.group.size? s.world = some current ∧
      r = .ok (.scaledUp (o.report mode current)) := by
  cases expand_expansion run with
  | unread _ _ _ cause => exact absurd answering cause
  | failed _ _ _ _ _ _ cause => exact absurd answering cause
  | done current _ known => exact ⟨current, known, rfl⟩

/-- How a cycle goes on from a survey: the candidate that is picked, if any, is expanded. -/
theorem runOnce_surveyed (some_pod : pods ≠ []) {found : List Candidate} {w w' : World}
    (discovered : (discover nodes e.providers).runOn s.world = (.ok found, w))
    (surveyed : (growable found).runOn w = (.ok (e.roomy nodes s.world), w')) :
    ((e.runOnce pods nodes).runOn s).1 = .ok
        (.noDecision (unhelped e.checker (e.roomy nodes s.world) pods)) ∧
      e.pick? pods (e.roomy nodes s.world) = none ∨
    ∃ c, e.pick? pods (e.roomy nodes s.world) = some c ∧
      ((e.runOnce pods nodes).runOn s).1 =
        ((expand e.mode ⟨c, helped e.checker pods c⟩).runOn { s with world := w' }).1 := by
  rcases run : (e.runOnce pods nodes).runOn s with ⟨r, t⟩
  cases runOnce_phases run with
  | idle no_pods => exact absurd no_pods some_pod
  | undiscovered _ error m failed => cases discovered.symm.trans failed
  | undecided _ found' m m' discovered' surveyed' unpicked => exact .inl ⟨rfl, unpicked⟩
  | expanded _ found' m m' discovered' surveyed' c picked _ _ ended =>
      cases discovered.symm.trans discovered'
      cases surveyed.symm.trans surveyed'
      exact .inr ⟨c, picked, (congrArg Prod.fst ended).symm⟩

/-- Where discovery fails, so does the cycle, for any pods. -/
theorem runOnce_undiscovered {error : CycleError} {w : World} (some_pod : pods ≠ [])
    (failed : (discover nodes e.providers).runOn s.world = (.error error, w)) :
    ((e.runOnce pods nodes).runOn s).1 = .error error := by
  rw [runOnce, if_neg some_pod, Action.runOn_bind_error (m := { s with world := w })]
  rw [inWorld, Action.runOn_zoom, failed]

/-- A survey of what was discovered ends with the candidates that it reads a size with room of. -/
theorem growable_roomy {found : List Candidate} {w : World}
    (discovered : (discover nodes e.providers).runOn s.world = (.ok found, w)) :
    ∃ w', (growable found).runOn w = (.ok (e.roomy nodes s.world), w') := by
  have surveyed := growable_readings found w
  have roomy_eq : ((readings found w).filter showsRoom).map Prod.fst = e.roomy nodes s.world := by
    rw [roomy, discovered]
  rw [roomy_eq] at surveyed
  exact ⟨_, Prod.ext surveyed rfl⟩

/-- Cycles for the same pods in different orders end alike. -/
theorem runOnce_agree (perm : pods.Perm pods') (e : Engine) (nodes : List Node) (s : Session) :
    Agree SameFailure SameDecision ((e.runOnce pods nodes).runOn s).1
      ((e.runOnce pods' nodes).runOn s).1 := by
  by_cases no_pods : pods = []
  · subst no_pods
    cases perm.nil_eq
    exact .ok (.noDecision .nil)
  have some_pod : pods' ≠ [] := by
    rintro rfl
    exact no_pods perm.eq_nil
  rcases discovered : (discover nodes e.providers).runOn s.world with ⟨error | found, w⟩
  · rw [runOnce_undiscovered no_pods discovered, runOnce_undiscovered some_pod discovered]
    exact .error (.same error)
  obtain ⟨w', surveyed⟩ := growable_roomy discovered
  have first := runOnce_surveyed no_pods discovered surveyed
  have second := runOnce_surveyed some_pod discovered surveyed
  rw [← pick?_perm perm] at second
  obtain ⟨ended, unpicked⟩ | ⟨c, picked, ended⟩ := first
  · obtain ⟨ended', -⟩ | ⟨c, picked, -⟩ := second
    · rw [ended, ended']
      exact .ok (.noDecision (unhelped_perm perm _ _))
    · cases unpicked.symm.trans picked
  · obtain ⟨-, unpicked⟩ | ⟨c', picked', ended'⟩ := second
    · cases unpicked.symm.trans picked
    · cases picked.symm.trans picked'
      rw [ended, ended']
      exact expand_perm (helped_perm perm e.checker c) e.mode c _

/-- Where calls are answered, only the discovery of candidates makes a cycle fail. -/
theorem discover_of_error (answered : e.Answered s.world) {error : CycleError}
    (failed : ((e.runOnce pods nodes).runOn s).1 = .error error) :
    ((discover nodes e.providers).runOn s.world).1 = .error error := by
  rcases run : (e.runOnce pods nodes).runOn s with ⟨r, t⟩
  rw [run] at failed
  cases runOnce_phases run with
  | idle => cases failed
  | undiscovered _ _ w undiscovered =>
      cases failed
      rw [undiscovered]
  | undecided => cases failed
  | expanded _ found w w' discovered surveyed c picked _ _ ended =>
      have answering := answered.answering discovered surveyed picked
      obtain ⟨current, -, rfl⟩ := expand_answering answering ended
      cases failed

/-- Two cycles from one session, for the same pods in different orders, decide the same or fail
alike. Where calls are answered, they fail only as the discovery of candidates fails. -/
theorem runOnce_perm (e : Engine) (perm : pods.Perm pods') (nodes : List Node) (s : Session) :
    Agree SameFailure SameDecision ((e.runOnce pods nodes).runOn s).1
        ((e.runOnce pods' nodes).runOn s).1 ∧
      (e.Answered s.world → ∀ error, ((e.runOnce pods nodes).runOn s).1 = .error error →
        ((discover nodes e.providers).runOn s.world).1 = .error error) :=
  ⟨runOnce_agree perm e nodes s, fun answered _ failed => discover_of_error answered failed⟩

end Engine

namespace Sample

/-- A node of the backend whose provider id names a zone and no instance. -/
def unreadable : List Node := [{ largeNode with providerId := "aws://z" }]

/-- How cycles fail if they are given such a node. -/
def unread : CycleError :=
  .discovery "aws" (.format (.providerId "aws://<zone>/<name>" "aws://z"))

theorem runOnce_unreadable :
    (((engine .increment).runOnce pods unreadable).runOn session).1 = .error unread := by rfl

theorem answered : (engine .increment).Answered session.world := by
  have healthy : cloud.Healthy := ⟨rfl, fun _ _ => rfl⟩
  intro p provider g member
  obtain rfl := List.mem_singleton.mp provider
  obtain rfl | rfl : g = large ∨ g = small := by simpa using member
  · exact healthy
  · exact healthy

end Sample

theorem Engine.runOnce_perm_sample :
    (∃ outcome, (((Sample.engine .increment).runOnce Sample.pods.reverse Sample.nodes).runOn
        Sample.session).1 = .ok outcome ∧
        Engine.SameDecision (.scaledUp (Sample.report 3)) outcome) ∧
      ((Engine.discover Sample.unreadable (Sample.engine .increment).providers).runOn
        Sample.session.world).1 = .error Sample.unread := by
  have perm := Sample.pods.reverse_perm.symm
  obtain ⟨agree, -⟩ :=
    Engine.runOnce_perm (Sample.engine .increment) perm Sample.nodes Sample.session
  obtain ⟨-, failing⟩ :=
    Engine.runOnce_perm (Sample.engine .increment) perm Sample.unreadable Sample.session
  refine ⟨?_, failing Sample.answered _ Sample.runOnce_unreadable⟩
  rw [Sample.runOnce_increment] at agree
  generalize (((Sample.engine .increment).runOnce Sample.pods.reverse Sample.nodes).runOn
    Sample.session).1 = r at agree ⊢
  cases agree with
  | ok same => exact ⟨_, rfl, same⟩

/-- A cycle whose calls are all answered need not come to a decision. -/
theorem Engine.runOnce_perm_unreadable :
    ¬ ∀ (e : Engine) (pods pods' : List Pod) (nodes : List Node) (s : Session),
      (e.strategy = .first ∨ e.strategy = .mostPods) → e.checker = Fit.check →
      e.Answered s.world → pods.Perm pods' →
      ∃ outcome outcome', ((e.runOnce pods nodes).runOn s).1 = .ok outcome ∧
        ((e.runOnce pods' nodes).runOn s).1 = .ok outcome' ∧
        Engine.SameDecision outcome outcome' := by
  intro claim
  obtain ⟨_, _, ended, -⟩ := claim (Sample.engine .increment) Sample.pods Sample.pods
    Sample.unreadable Sample.session (.inr rfl) rfl Sample.answered (.refl _)
  cases ended.symm.trans Sample.runOnce_unreadable

end Autoscaler
