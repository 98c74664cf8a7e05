import Autoscaler.Proofs.Aws.Cloud
import Autoscaler.Proofs.Cloud.Parallel

/-!
# Auto scaling groups seen twice

Two control planes are abreast if the same later calls to them fail on their way, though their
groups may have different sizes. A caller who sets a size is told the same by both, even if the
size is another one. Two control planes are twins if they differ in their traffic alone, and from
now on either all calls to them fail on their way or none does. No caller can tell twins apart.
-/

namespace Autoscaler.Aws.Cloud

open Autoscaler.Action (Blind Parallel)

/-- The same control plane with other traffic, as far as it is past. -/
def Twin (c c' : Cloud) : Prop :=
  ∃ traffic, c.traffic.Twin traffic ∧ c' = { c with traffic }

/-- All later calls fail on their way, or none does. -/
def Uniform (c : Cloud) : Prop := ∃ fate, c.traffic.Fated fate

variable {c c' : Cloud}

theorem Twin.symm (twin : Twin c c') : Twin c' c := by
  obtain ⟨traffic, same, rfl⟩ := twin
  exact ⟨c.traffic, same.symm, rfl⟩

instance : IsTrans Cloud Twin where
  trans := by
    rintro c _ _ ⟨traffic, first, rfl⟩ ⟨traffic', rest, rfl⟩
    exact ⟨traffic', first.trans rest, rfl⟩

theorem Twin.groups (twin : Twin c c') : c'.groups = c.groups := by
  obtain ⟨traffic, -, rfl⟩ := twin
  rfl

theorem Twin.uniform (twin : Twin c c') : c'.Uniform := by
  obtain ⟨traffic, ⟨fate, -, there⟩, rfl⟩ := twin
  exact ⟨fate, there⟩

theorem Observed.twin (seen : Observed c c') (uniform : c.Uniform) : Twin c c' := by
  obtain ⟨fate, fated⟩ := uniform
  obtain ⟨traffic, asks, rfl⟩ := seen
  exact ⟨traffic, ⟨fate, fated, asks.fated fated⟩, rfl⟩

/-- The control planes know the same groups, and the same later calls to both fail. -/
def Abreast (c c' : Cloud) : Prop :=
  ∃ groups traffic, (∀ name, (groups.find? name).isSome = (c.groups.find? name).isSome) ∧
    c.traffic.Alike traffic ∧ c' = { c with groups, traffic }

theorem Abreast.refl (c : Cloud) : Abreast c c := ⟨c.groups, c.traffic, fun _ => rfl, .refl _, rfl⟩

theorem Twin.abreast (twin : Twin c c') : Abreast c c' := by
  obtain ⟨traffic, same, rfl⟩ := twin
  exact ⟨c.groups, traffic, fun _ => rfl, same.alike, rfl⟩

/-- What becomes of a call does not depend on what is called. -/
theorem parallel_send {R : Cloud → Cloud → Prop} (abreast : ∀ c c', R c c' → Abreast c c')
    (records : ∀ c c' call call' reached, R c c' →
      R { c with traffic := c.traffic.record call reached }
        { c' with traffic := c'.traffic.record call' reached })
    (call call' : Call) (reaches : Bool) :
    Parallel R Eq Eq (send call reaches) (send call' reaches) := by
  intro c c' related
  have recorded (reached : Bool) := records c c' call call' reached related
  obtain ⟨groups, traffic, -, alike, rfl⟩ := abreast c c' related
  simp only [send, Action.runOn_ofFn, alike.blocked]
  split
  · exact ⟨.error rfl, recorded _⟩
  · split
    · exact ⟨.error rfl, recorded _⟩
    · exact ⟨.ok rfl, recorded _⟩

theorem blind_send (call : Call) (reaches : Bool) : Blind Twin (send call reaches) := by
  refine parallel_send (fun _ _ => Twin.abreast) ?_ call call reaches
  rintro c _ call call' reached ⟨traffic, same, rfl⟩
  exact ⟨_, same.record _ _ _ _, rfl⟩

theorem abreast_send (call call' : Call) (reaches : Bool) :
    Parallel Abreast Eq Eq (send call reaches) (send call' reaches) := by
  refine parallel_send (fun _ _ => id) ?_ call call' reaches
  rintro c _ call call' reached ⟨groups, traffic, keys, alike, rfl⟩
  exact ⟨groups, _, keys, alike.record _ _ _ _, rfl⟩

theorem blind_describe (group : GroupId) : Blind Twin (describe group) := by
  have described : Blind Twin (describeGroup group.name) := by
    refine .bind (blind_send _ _) fun _ => .get_bind ?_
    rintro c _ ⟨traffic, -, rfl⟩
    exact .pure rfl
  refine .bind described ?_
  rintro (_ | description)
  · exact .throw _
  · exact .pure _

theorem blind_describeInstance (id : String) : Blind Twin (describeInstance id) := by
  refine .get_bind ?_
  rintro c _ ⟨traffic, -, rfl⟩
  refine Blind.bind (blind_send _ _) fun _ => ?_
  split
  · refine .get_bind ?_
    rintro c _ ⟨traffic, -, rfl⟩
    exact .pure rfl
  · exact .pure _

theorem blind_locate (ids : List String) : Blind Twin (locate ids) := by
  induction ids with
  | nil => exact .pure _
  | cons id ids ih =>
      exact .bind (blind_describeInstance id) fun _ => .bind ih fun _ => .pure _

theorem blind_listMembers (group : GroupId) : Blind Twin (listMembers group) :=
  .bind (blind_describe group) fun _ => blind_locate _

theorem blind_groupSize (group : GroupId) : Blind Twin (groupSize group) :=
  .bind (blind_describe group) fun _ => .pure _

theorem blind_setGroupSize (group : GroupId) (size : Nat) :
    Blind Twin (setGroupSize group size) := by
  refine .bind (blind_send _ _) fun _ => .get_bind ?_
  rintro c _ ⟨traffic, same, rfl⟩
  dsimp only
  split
  · exact .throw rfl
  · exact .set ⟨traffic, same, rfl⟩

/-- A caller who sets a size is told what it would be told for any other size. -/
theorem abreast_setGroupSize (group : GroupId) (size size' : Nat) :
    Parallel Abreast Eq Eq (setGroupSize group size) (setGroupSize group size') := by
  refine .bind (abreast_send _ _ _) fun _ _ _ => .bind .get ?_
  rintro c _ ⟨groups, traffic, keys, alike, rfl⟩
  have same := keys group.name
  dsimp only
  cases here : c.groups.find? group.name with
  | none =>
      cases there : groups.find? group.name with
      | none => exact .throw rfl
      | some g => simp [here, there] at same
  | some g =>
      cases there : groups.find? group.name with
      | none => simp [here, there] at same
      | some g' =>
          refine .set ⟨_, traffic, ?_, alike, rfl⟩
          intro name
          simp only [setDesired, Directory.find?_modify, Option.isSome_map, keys name]

end Autoscaler.Aws.Cloud
