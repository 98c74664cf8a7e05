import Autoscaler.Proofs.Fit
import Autoscaler.Proofs.Packing.FirstFit
import Autoscaler.Proofs.ScaleUp.Decision

/-!
# A place for every pod

The pods that a report names have been judged against a sample node, one by one, and have
then been packed onto machines like it. Both use the same comparison, so the packing puts
all of them onto the machines that the report estimates, each next to pods with which it
fits in exact sums, and none of the machines stays empty.
-/

namespace Autoscaler.Engine

variable {e : Engine} {pods : List Pod} {nodes : List Node} {s t : Session}
  {report : ScaleUpReport}

/-- With the checker for labels and resources, the pods of a report have a place on as many
copies of the picked sample node as the report estimates. -/
theorem runOnce_packs (checks : e.checker = Fit.check) (few : pods.length < word32)
    (run : (e.runOnce pods nodes).runOn s = (.ok (.scaledUp report), t)) :
    ∃ found growing c, Survey e nodes s.world found growing ∧
      e.strategy.Picks (fun c => (helped e.checker pods c).length) growing c ∧
      Resized e.mode c (helped e.checker pods c) s report t ∧
      1 ≤ report.estimate ∧
      Packing.Packs c.sample (helped e.checker pods c) report.estimate
        (Packing.estimate c.sample (helped e.checker pods c)).assignments ∧
      ∀ pod ∈ helped e.checker pods c, Fit.Selects pod c.sample := by
  obtain ⟨found, growing, c, survey, picks, resized⟩ := runOnce_scaledUp run
  have fits : ∀ pod ∈ helped e.checker pods c,
      Fit.Selects pod c.sample ∧ c.sample.allocatable.fits pod.requests := by
    intro pod member
    have judged : helps e.checker c pod := (List.mem_filter.mp member).2
    rw [helps, checks] at judged
    exact Fit.check_isOk_iff.mp judged
  have few_helped : (helped e.checker pods c).length < word32 :=
    Nat.lt_of_le_of_lt (List.length_filter_le _ _) few
  have packs := Packing.estimate_packs few_helped fun pod member => (fits pod member).2
  have some_pod : 0 < (Packing.estimate c.sample (helped e.checker pods c)).assignments.length := by
    rw [packs.complete]
    exact picks.1
  have some_node := packs.inside _ (List.getElem_mem some_pod)
  rw [← resized.estimate] at packs some_node
  exact ⟨found, growing, c, survey, picks, resized, Nat.zero_lt_of_lt some_node, packs,
    fun pod member => (fits pod member).1⟩

theorem runOnce_packs_sample :
    ∃ c : Candidate, c.group.url = "z/b" ∧
      Packing.Packs c.sample (helped Fit.check Sample.pods c) 1
        (Packing.estimate c.sample (helped Fit.check Sample.pods c)).assignments := by
  obtain ⟨_, _, c, -, -, resized, -, packs, -⟩ :=
    runOnce_packs rfl (by decide) Sample.runOnce_increment
  exact ⟨c, resized.group.symm, packs⟩

end Autoscaler.Engine
