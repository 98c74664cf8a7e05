import Autoscaler.Proofs.ScaleUp.Decision

/-!
# Bounds on the size that a cycle sets

No cycle makes a group larger than its maximum. A cycle that adds its estimate to the size
never makes a group smaller either, so a group that is within its bounds stays there. A cycle
that takes its estimate for the size does what it says: an estimate below the size of the
group shrinks it, below its minimum if the estimate is.
-/

namespace Autoscaler.Engine

variable {e : Engine} {pods : List Pod} {nodes : List Node} {s t : Session}
  {report : ScaleUpReport}

/-- Every configured group that exists has a size within its bounds. -/
def WithinBounds (e : Engine) (w : World) : Prop :=
  ∀ p ∈ e.providers, ∀ g ∈ p.groups, ∀ n, g.size? w = some n → g.bounds.min ≤ n ∧ n ≤ g.bounds.max

theorem withinBounds_sample (mode : ResizeMode) :
    (Sample.engine mode).WithinBounds Sample.session.world := by
  intro p configured g member n known
  simp only [Sample.engine, List.mem_singleton] at configured
  subst configured
  simp only [List.mem_cons, List.not_mem_nil, or_false] at member
  obtain rfl | rfl := member
  · cases known
    exact ⟨by decide, by decide⟩
  · cases known
    exact ⟨by decide, by decide⟩

/-- A resized group stays within its maximum, and is not made smaller unless its size is to be
an estimate that is below it. In that case the estimate is the new size. -/
theorem runOnce_newSize (bounded : e.WithinBounds s.world)
    (run : (e.runOnce pods nodes).runOn s = (.ok (.scaledUp report), t)) :
    ∃ p ∈ e.providers, ∃ g ∈ p.groups, report.group = g.url ∧
      g.size? s.world = some report.priorSize ∧ g.size? t.world = some report.newSize ∧
      report.newSize ≤ g.bounds.max ∧
      (¬ (e.mode = .absolute ∧ report.estimate < report.priorSize) →
        g.bounds.min ≤ report.newSize ∧ report.priorSize ≤ report.newSize) ∧
      (e.mode = .absolute ∧ report.estimate < report.priorSize →
        report.newSize = report.estimate) := by
  obtain ⟨found, growing, c, survey, picks, resized⟩ := runOnce_scaledUp run
  obtain ⟨p, configured, origin⟩ := survey.origin c (survey.grows.sublist.subset picks.mem)
  obtain ⟨prior, known, room⟩ := NodeGroup.hasRoom_iff.mp (survey.grows.room c picks.mem)
  cases resized.priorSize.symm.trans known
  have bounds := bounded p configured c.group origin.group report.priorSize known
  refine ⟨p, configured, c.group, origin.group, resized.group, known, resized.size?, ?_⟩
  have newSize := resized.newSize
  generalize e.mode = mode at newSize ⊢
  cases mode with
  | absolute =>
      have newSize : report.newSize = min c.group.bounds.max report.estimate := newSize
      refine ⟨by omega, ?_, ?_⟩
      · intro raised
        have enough : ¬ report.estimate < report.priorSize := fun lowered => raised ⟨rfl, lowered⟩
        omega
      · rintro ⟨-, lowered⟩
        omega
  | increment =>
      have newSize : report.newSize =
        min c.group.bounds.max (report.priorSize + report.estimate) := newSize
      refine ⟨by omega, ?_, ?_⟩
      · intro _
        omega
      · rintro ⟨other, -⟩
        cases other

theorem runOnce_newSize_sample :
    ∃ p ∈ (Sample.engine .increment).providers, ∃ g ∈ p.groups, g.url = "z/b" ∧
      g.bounds.min ≤ 3 ∧ 3 ≤ g.bounds.max := by
  obtain ⟨p, configured, g, member, named, -, -, atMost, kept, -⟩ :=
    runOnce_newSize (withinBounds_sample .increment) Sample.runOnce_increment
  exact ⟨p, configured, g, member, named.symm, (kept (by simp [Sample.engine])).1, atMost⟩

/-- A cycle can shrink a group, and below its minimum. -/
theorem runOnce_shrinks :
    ¬ ∀ (e : Engine) (pods : List Pod) (nodes : List Node) (s t : Session)
        (report : ScaleUpReport), e.WithinBounds s.world →
      (e.runOnce pods nodes).runOn s = (.ok (.scaledUp report), t) →
      ∃ p ∈ e.providers, ∃ g ∈ p.groups, report.group = g.url ∧
        g.bounds.min ≤ report.newSize ∧ report.newSize ≤ g.bounds.max ∧
        report.priorSize ≤ report.newSize := by
  intro claim
  obtain ⟨p, -, g, -, -, -, -, grown⟩ :=
    claim _ _ _ _ _ _ (withinBounds_sample .absolute) Sample.runOnce_absolute
  exact absurd grown (by decide)

end Autoscaler.Engine
