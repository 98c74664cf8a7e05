import Autoscaler.Proofs.ScaleUp.Cycle

/-!
# What a cycle decides

A report tells of one candidate, the one that the strategy picks among those that can grow,
and everything in it is fixed by that candidate, the pods that it helps and the size that
its group had. If all calls are answered a cycle scales up whenever some candidate that can
grow helps a pod, and otherwise it changes nothing.
-/

namespace Autoscaler.Engine

variable {e : Engine} {pods : List Pod} {nodes : List Node} {s t : Session}

/-- The session `t` and the report that follow from a session `s` in which the group of a
candidate is resized for some pods. -/
structure Resized (mode : ResizeMode) (c : Candidate) (fit : List Pod) (s : Session)
    (report : ScaleUpReport) (t : Session) : Prop where
  group : report.group = c.group.url
  backend : report.backend = c.group.backend.name
  priorSize : c.group.size? s.world = some report.priorSize
  estimate : report.estimate = (Packing.estimate c.sample fit).nodeCount
  newSize : report.newSize = min c.group.bounds.max (match mode with
    | .absolute => report.estimate
    | .increment => report.priorSize + report.estimate)
  pods : report.pods = fit.map Pod.key
  world : World.SameGroups (c.group.withSize report.newSize s.world) t.world
  events : t.events = s.events ++
    report.pods.map fun key => .triggered key report.group report.priorSize report.newSize

theorem Resized.size? {mode : ResizeMode} {c : Candidate} {fit : List Pod}
    {report : ScaleUpReport} (resized : Resized mode c fit s report t) :
    c.group.size? t.world = some report.newSize := by
  have sized := Backend.size?_withSize resized.priorSize report.newSize
  exact (resized.world.size? c.group.backend c.group.id).trans sized

/-- Since a maximum is a word, the largest word that a sum is cut off at is no limit. -/
theorem newSize_eq (o : ExpansionOption) (mode : ResizeMode) (current : Nat) :
    o.newSize mode current = min o.candidate.group.bounds.max (match mode with
      | .absolute => o.estimate
      | .increment => current + o.estimate) := by
  have word := o.candidate.group.bounds.max_lt
  cases mode with
  | absolute => exact Nat.min_comm _ _
  | increment =>
      simp only [ExpansionOption.newSize, ResizeMode.target]
      omega

theorem Expansion.resized {mode : ResizeMode} {o : ExpansionOption} {report : ScaleUpReport}
    (expansion : Expansion mode o s (.ok (.scaledUp report)) t) :
    Resized mode o.candidate o.pods s report t := by
  cases expansion with
  | done current w known _ left =>
      exact ⟨rfl, rfl, known, rfl, newSize_eq _ _ _, rfl, left, rfl⟩

/-- A report is about the candidate to pick. -/
theorem runOnce_scaledUp {report : ScaleUpReport}
    (run : (e.runOnce pods nodes).runOn s = (.ok (.scaledUp report), t)) :
    ∃ found growing c, Survey e nodes s.world found growing ∧
      e.strategy.Picks (fun c => (helped e.checker pods c).length) growing c ∧
      Resized e.mode c (helped e.checker pods c) s report t := by
  cases runOnce_course run with
  | expanded _ found growing survey c picks _ _ expansion =>
      exact ⟨found, growing, c, survey, picks, expansion.resized⟩

/-- If all sizes can be read and set, a cycle that has found its candidates does not fail. -/
theorem runOnce_ends {found : List Candidate} {r : Except CycleError Outcome}
    (run : (e.runOnce pods nodes).runOn s = (r, t)) (some_pod : pods ≠ [])
    (discovered : ((discover nodes e.providers).runOn s.world).1 = .ok found)
    (answering : ∀ c ∈ found, c.group.Answering s.world) :
    (∃ growing, Growing found s.world growing ∧ (∀ c ∈ growing, helped e.checker pods c = []) ∧
      r = .ok (.noDecision (unhelped e.checker growing pods)) ∧
      World.SameGroups s.world t.world) ∨ ∃ report, r = .ok (.scaledUp report) := by
  cases runOnce_course run with
  | idle no_pods => exact absurd no_pods some_pod
  | undiscovered _ _ _ _ _ _ failed => cases failed.symm.trans discovered
  | undecided _ found' growing survey useless _ seen =>
      cases survey.discovered.symm.trans discovered
      exact .inl ⟨growing, survey.grows, useless, rfl, seen.sameGroups⟩
  | expanded _ found' growing survey c picks _ _ expansion =>
      cases survey.discovered.symm.trans discovered
      have answers := answering c (survey.grows.sublist.subset picks.mem)
      cases expansion with
      | unread _ _ _ cause => exact absurd answers cause
      | failed _ _ _ _ _ _ cause => exact absurd answers cause
      | done => exact .inr ⟨_, rfl⟩

/-- If all sizes can be read and set, a cycle that has found its candidates scales up exactly
if one of those that can grow helps a pod. It resizes the group of the candidate to pick, or
no group. -/
theorem runOnce_answering (e : Engine) (pods : List Pod) (nodes : List Node) (s : Session)
    (some_pod : pods ≠ []) (found : List Candidate)
    (discovered : ((discover nodes e.providers).runOn s.world).1 = .ok found)
    (answering : ∀ c ∈ found, c.group.Answering s.world) :
    let growing := found.filter (·.group.hasRoom s.world)
    let fit := helped e.checker pods
    let r := ((e.runOnce pods nodes).runOn s).1
    let t := ((e.runOnce pods nodes).runOn s).2
    ((∃ report, r = .ok (.scaledUp report)) ↔ ∃ c ∈ growing, fit c ≠ []) ∧
    (∀ report, r = .ok (.scaledUp report) →
      ∃ c, e.strategy.Picks (fun c => (fit c).length) growing c ∧
        Resized e.mode c (fit c) s report t) ∧
    ((∀ c ∈ growing, fit c = []) →
      r = .ok (.noDecision (unhelped e.checker growing pods)) ∧
        World.SameGroups s.world t.world) := by
  intro growing fit r t
  have scaled (report : ScaleUpReport) (told : r = .ok (.scaledUp report)) :
      ∃ c, e.strategy.Picks (fun c => (fit c).length) growing c ∧
        Resized e.mode c (fit c) s report t := by
    obtain ⟨found', growing', c, survey, picks, resized⟩ := runOnce_scaledUp (Prod.ext told rfl)
    cases survey.discovered.symm.trans discovered
    cases survey.grows.complete answering
    exact ⟨c, picks, resized⟩
  obtain ⟨growing', grows, useless, told, same⟩ | ⟨report, told⟩ :=
    runOnce_ends rfl some_pod discovered answering
  · cases grows.complete answering
    refine ⟨⟨?_, ?_⟩, scaled, fun _ => ⟨told, same⟩⟩
    · rintro ⟨report, scaledUp⟩
      cases told.symm.trans scaledUp
    · rintro ⟨c, member, helps⟩
      exact absurd (useless c member) helps
  · obtain ⟨c, picks, -⟩ := scaled report told
    have helps : fit c ≠ [] := List.ne_nil_of_length_pos picks.1
    refine ⟨⟨fun _ => ⟨c, picks.mem, helps⟩, fun _ => ⟨report, told⟩⟩, scaled, ?_⟩
    intro useless
    exact absurd (useless c picks.mem) helps

/-- The smaller group of the sample helps both pods and gets one more machine. -/
theorem runOnce_answering_sample :
    (((Sample.engine .increment).runOnce Sample.pods Sample.nodes).runOn Sample.session).1 =
        .ok (.scaledUp
          { group := "z/b", backend := "aws", priorSize := 2, newSize := 3, estimate := 1,
            pods := ["d/p", "d/q"] }) ∧
      Resized .increment ⟨Sample.small, Sample.smallNode⟩ Sample.pods Sample.session
        (Sample.report 3) (Sample.after .increment) := by
  have discovered : ((discover Sample.nodes (Sample.engine .increment).providers).runOn
      Sample.session.world).1 =
        .ok [⟨Sample.large, Sample.largeNode⟩, ⟨Sample.small, Sample.smallNode⟩] := by rfl
  have healthy : Sample.cloud.Healthy := ⟨rfl, fun _ _ => rfl⟩
  have some_pod : Sample.pods ≠ [] := List.cons_ne_nil _ _
  have answering : ∀ c ∈ [(⟨Sample.large, Sample.largeNode⟩ : Candidate),
      ⟨Sample.small, Sample.smallNode⟩], c.group.Answering Sample.session.world := by
    intro c member
    simp only [List.mem_cons, List.not_mem_nil, or_false] at member
    obtain rfl | rfl := member
    · exact ⟨healthy, rfl⟩
    · exact ⟨healthy, rfl⟩
  obtain ⟨scales, reports, -⟩ := runOnce_answering (Sample.engine .increment) Sample.pods
    Sample.nodes Sample.session some_pod _ discovered answering
  have growing : (⟨Sample.small, Sample.smallNode⟩ : Candidate) ∈
      [⟨Sample.large, Sample.largeNode⟩, ⟨Sample.small, Sample.smallNode⟩].filter
        (·.group.hasRoom Sample.session.world) := List.mem_filter.mpr ⟨by simp, rfl⟩
  obtain ⟨report, told⟩ := scales.mpr ⟨_, growing, some_pod⟩
  obtain ⟨c, picks, resized⟩ := reports report told
  -- The larger group helps one pod only.
  obtain ⟨_, -, -, most, -⟩ := picks.stands
  obtain rfl : c = ⟨Sample.small, Sample.smallNode⟩ := by
    obtain rfl | rfl : c = ⟨Sample.large, Sample.largeNode⟩ ∨
        c = ⟨Sample.small, Sample.smallNode⟩ := by simpa using List.mem_of_mem_filter picks.mem
    · exact absurd (most _ growing) (by decide)
    · rfl
  cases told.symm.trans (congrArg Prod.fst Sample.runOnce_increment)
  exact ⟨told, resized⟩

end Autoscaler.Engine
