import Autoscaler.Fleet.Provider
import Autoscaler.Proofs.Fleet.Sizes

/-!
# Where candidates come from

Looking for candidates only asks, whether or not it succeeds. A candidate that is found has
a configured group of its provider and one of the nodes that were shown.
-/

namespace Autoscaler

open Autoscaler.Action (Constant Keeps)

namespace Backend

theorem keeps_owner? (b : Backend) (member : InstanceRef) :
    Keeps World.Observed (b.owner? member) := by
  cases b with
  | aws cloud roster =>
      exact World.keeps_onAws (Site.keeps_lookup Aws.Cloud.keeps_listMembers member) cloud roster
  | gce project polling cloud roster =>
      exact World.keeps_onGce (Site.keeps_lookup (Gce.Cloud.keeps_listMembers project) member)
        cloud roster

end Backend

/-- The candidate belongs to a provider, as far as its group and its sample go. -/
structure Candidate.From (p : Provider) (nodes : List Node) (c : Candidate) : Prop where
  group : c.group ∈ p.groups
  sample : c.sample ∈ nodes

theorem Candidate.From.later {p : Provider} {nodes : List Node} {c : Candidate} (node : Node)
    (origin : c.From p nodes) : c.From p (node :: nodes) :=
  ⟨origin.group, List.mem_cons_of_mem _ origin.sample⟩

namespace Provider

variable {p : Provider} {nodes : List Node} {w w' : World}

theorem keeps_groupOf? (p : Provider) (node : Node) : Keeps World.Observed (p.groupOf? node) := by
  rw [groupOf?]
  split
  · exact .bind (.ofExcept _) fun _ => .bind (Backend.keeps_owner? _ _) fun _ => .pure _
  · exact .pure _

/-- The group of a node is what the provider has under its identifier. -/
theorem group?_of_groupOf? {node : Node} {g : NodeGroup}
    (run : (p.groupOf? node).runOn w = (.ok (some g), w')) : p.group? g.id = some g := by
  rw [groupOf?] at run
  split at run
  · obtain ⟨member, m, read, asked⟩ := Action.bind_ok_cases run
    obtain ⟨owner, m', looked, told⟩ := Action.bind_ok_cases asked
    rw [Action.runOn_pure, Prod.mk.injEq, Except.ok.injEq] at told
    obtain ⟨id, -, found⟩ := Option.bind_eq_some_iff.mp told.1
    have same : g.id = id := by simpa using List.find?_some found
    rwa [same]
  · cases run

theorem groupOf?_mem {node : Node} {g : NodeGroup}
    (run : (p.groupOf? node).runOn w = (.ok (some g), w')) : g ∈ p.groups :=
  List.mem_of_find?_eq_some (group?_of_groupOf? run)

/-- Where owners are always the same, groups of nodes are, too. -/
theorem constant_groupOf? {I : World → Prop}
    (owners : ∀ member, Constant I (p.backend.owner? member)) (node : Node) :
    Constant I (p.groupOf? node) := by
  rw [groupOf?]
  split
  · exact .bind (.ofExcept _) fun member => .bind (owners member) fun _ => .pure _
  · exact .pure _

theorem constant_candidates {I : World → Prop}
    (owners : ∀ member, Constant I (p.backend.owner? member)) (nodes : List Node) :
    Constant I (p.candidates nodes) := by
  have beyond (seen : List GroupId) : Constant I (p.candidatesBeyond seen nodes) := by
    induction nodes generalizing seen with
    | nil => exact .pure _
    | cons node nodes ih =>
        apply Constant.bind (constant_groupOf? owners node)
        intro group
        cases group with
        | none => exact ih seen
        | some group =>
            dsimp only
            split
            · exact ih seen
            · exact .bind (ih _) fun _ => .pure _
  exact beyond []

theorem keeps_candidatesBeyond (seen : List GroupId) (nodes : List Node) :
    Keeps World.Observed (p.candidatesBeyond seen nodes) := by
  induction nodes generalizing seen with
  | nil => exact .pure _
  | cons node nodes ih =>
      refine .bind (p.keeps_groupOf? node) ?_
      intro found
      cases found with
      | none => exact ih seen
      | some group =>
          dsimp only
          split
          · exact ih seen
          · exact .bind (ih _) fun _ => .pure _

theorem candidatesBeyond_from {seen : List GroupId} {found : List Candidate}
    (run : (p.candidatesBeyond seen nodes).runOn w = (.ok found, w')) :
    ∀ c ∈ found, c.From p nodes := by
  induction nodes generalizing seen found w with
  | nil =>
      cases run
      simp
  | cons node nodes ih =>
      obtain ⟨owner, m, asked, rest⟩ := Action.bind_ok_cases run
      intro c member
      cases owner with
      | none => exact (ih rest c member).later node
      | some group =>
          dsimp only at rest
          split at rest
          · exact (ih rest c member).later node
          · obtain ⟨others, m', more, told⟩ := Action.bind_ok_cases rest
            cases told
            obtain rfl | member := List.mem_cons.mp member
            · exact ⟨groupOf?_mem asked, List.mem_cons_self⟩
            · exact (ih more c member).later node

theorem keeps_candidates (p : Provider) (nodes : List Node) :
    Keeps World.Observed (p.candidates nodes) := keeps_candidatesBeyond [] nodes

theorem candidates_from {found : List Candidate}
    (run : (p.candidates nodes).runOn w = (.ok found, w')) : ∀ c ∈ found, c.From p nodes :=
  candidatesBeyond_from run

end Provider

end Autoscaler
