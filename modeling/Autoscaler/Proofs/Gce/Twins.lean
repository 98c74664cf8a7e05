import Autoscaler.Proofs.Cloud.Parallel
import Autoscaler.Proofs.Gce.Operations

/-!
# Managed instance groups seen twice

Two control planes are abreast if the same later calls to them fail on their way and they are
equally far with all operations, though their groups may have different sizes. A caller who sets
a size is told the same by both, even if the size is another one and the end of an operation has
to be waited for: both are asked equally often, and both answer that it has ended at the same
question.

Two control planes are twins if they differ in their traffic alone, and from now on either all
calls to them fail on their way or none does. No caller can tell twins apart at all.
-/

namespace Autoscaler.Gce.Cloud

open Autoscaler.Action (Blind Parallel)

/-- The same control plane with other traffic, as far as it is past. -/
def Twin (c c' : Cloud) : Prop :=
  ∃ traffic, c.traffic.Twin traffic ∧ c' = { c with traffic }

/-- All later calls fail on their way, or none does. -/
def Uniform (c : Cloud) : Prop := ∃ fate, c.traffic.Fated fate

variable {c c' : Cloud}

theorem Twin.symm (twin : Twin c c') : Twin c' c := by
  obtain ⟨traffic, same, rfl⟩ := twin
  exact ⟨c.traffic, same.symm, rfl⟩

instance : IsTrans Cloud Twin where
  trans := by
    rintro c _ _ ⟨traffic, first, rfl⟩ ⟨traffic', rest, rfl⟩
    exact ⟨traffic', first.trans rest, rfl⟩

theorem Twin.groups (twin : Twin c c') : c'.groups = c.groups := by
  obtain ⟨traffic, -, rfl⟩ := twin
  rfl

theorem Twin.uniform (twin : Twin c c') : c'.Uniform := by
  obtain ⟨traffic, ⟨fate, -, there⟩, rfl⟩ := twin
  exact ⟨fate, there⟩

theorem Observed.twin (seen : Observed c c') (uniform : c.Uniform) : Twin c c' := by
  obtain ⟨fate, fated⟩ := uniform
  obtain ⟨traffic, asks, rfl⟩ := seen
  exact ⟨traffic, ⟨fate, fated, asks.fated fated⟩, rfl⟩

/-- The control planes know the same groups, and what they answer about operations is the same
from now on. -/
def Abreast (c c' : Cloud) : Prop :=
  ∃ groups traffic, (∀ key, (groups.find? key).isSome = (c.groups.find? key).isSome) ∧
    c.traffic.Alike traffic ∧ c' = { c with groups, traffic }

theorem Abreast.refl (c : Cloud) : Abreast c c := ⟨c.groups, c.traffic, fun _ => rfl, .refl _, rfl⟩

theorem Twin.abreast (twin : Twin c c') : Abreast c c' := by
  obtain ⟨traffic, same, rfl⟩ := twin
  exact ⟨c.groups, traffic, fun _ => rfl, same.alike, rfl⟩

/-- What becomes of a call does not depend on what is called. -/
theorem parallel_send {R : Cloud → Cloud → Prop} (abreast : ∀ c c', R c c' → Abreast c c')
    (records : ∀ c c' call call' reached, R c c' →
      R { c with traffic := c.traffic.record call reached }
        { c' with traffic := c'.traffic.record call' reached })
    (call call' : Call) (reaches : Bool) :
    Parallel R Eq Eq (send call reaches) (send call' reaches) := by
  intro c c' related
  have recorded (reached : Bool) := records c c' call call' reached related
  obtain ⟨groups, traffic, -, alike, rfl⟩ := abreast c c' related
  simp only [send, Action.runOn_ofFn, alike.blocked]
  split
  · exact ⟨.error rfl, recorded _⟩
  · split
    · exact ⟨.error rfl, recorded _⟩
    · exact ⟨.ok rfl, recorded _⟩

theorem blind_send (call : Call) (reaches : Bool) : Blind Twin (send call reaches) := by
  refine parallel_send (fun _ _ => Twin.abreast) ?_ call call reaches
  rintro c _ call call' reached ⟨traffic, same, rfl⟩
  exact ⟨_, same.record _ _ _ _, rfl⟩

theorem abreast_send (call call' : Call) (reaches : Bool) :
    Parallel Abreast Eq Eq (send call reaches) (send call' reaches) := by
  refine parallel_send (fun _ _ => id) ?_ call call' reaches
  rintro c _ call call' reached ⟨groups, traffic, keys, alike, rfl⟩
  exact ⟨groups, _, keys, alike.record _ _ _ _, rfl⟩

/-! ## Sizes and listings -/

theorem blind_group (key : GroupKey) : Blind Twin (group key) := by
  refine .get_bind ?_
  rintro c _ ⟨traffic, -, rfl⟩
  dsimp only
  split
  · exact .throw rfl
  · exact .pure rfl

theorem blind_groupSize (project : String) (id : GroupId) : Blind Twin (groupSize project id) :=
  .bind (blind_send _ _) fun _ => .bind (blind_group _) fun _ => .pure _

theorem blind_listMembers (project : String) (id : GroupId) :
    Blind Twin (listMembers project id) := by
  have listed : Blind Twin (listInstances ⟨project, id.zone, id.name⟩) := by
    refine .bind (blind_send _ _) fun _ => .bind (blind_group _) fun g => .get_bind ?_
    rintro c _ ⟨traffic, -, rfl⟩
    exact .pure rfl
  exact .bind listed fun _ => .ofExcept _

/-! ## Operations -/

theorem abreast_operationStatus (operation : String) :
    Blind Abreast (operationStatus operation) := by
  refine .get_bind ?_
  rintro c _ ⟨groups, traffic, -, -, rfl⟩
  refine Blind.bind (abreast_send _ _ _) fun _ => .get_bind ?_
  rintro c' _ ⟨groups', traffic', keys, alike, rfl⟩
  dsimp only
  split
  · split
    · exact .throw rfl
    · split
      · exact .pure rfl
      · exact .bind (.set ⟨groups', traffic', keys, alike, rfl⟩) fun _ _ _ => .pure rfl
  · exact .bind (.set ⟨groups', traffic', keys, alike, rfl⟩) fun _ _ _ => .pure rfl

theorem abreast_askEnd (operation : String) (start : Duration) :
    Blind Abreast (askEnd operation start) := by
  refine .bind (abreast_operationStatus operation) fun _ => .get_bind ?_
  rintro c _ ⟨groups, traffic, -, -, rfl⟩
  exact .pure rfl

theorem abreast_pause (polling : Polling) : Blind Abreast (pause polling) := by
  apply Parallel.modify
  rintro c _ ⟨groups, traffic, keys, alike, rfl⟩
  exact ⟨groups, traffic, keys, alike, rfl⟩

theorem abreast_awaitResult (polling : Polling) (operation : String) (start : Duration)
    (late : CloudError) (budget : Nat) :
    Blind Abreast
      (awaitResult (askEnd operation start) (pause polling) polling.timeout late budget) := by
  induction budget with
  | zero => exact .pure _
  | succ budget ih =>
      refine .bind (abreast_askEnd operation start) ?_
      rintro ⟨_ | result, passed⟩
      · dsimp only
        split
        · exact .throw _
        · exact .bind (abreast_pause polling) fun _ => ih
      · exact .pure _

theorem abreast_awaitOperation (polling : Polling) (operation : String) :
    Blind Abreast (awaitOperation polling operation) := by
  refine .get_bind ?_
  rintro c _ ⟨groups, traffic, -, -, rfl⟩
  refine Blind.bind (abreast_awaitResult polling operation c.waited _ (c.questions operation)) ?_
  rintro (_ | result)
  · exact .throw _
  · exact .ofExcept _

/-- Waiting changes no group, and all that it sends are questions. -/
theorem blind_awaitOperation (polling : Polling) (operation : String) :
    Blind Twin (awaitOperation polling operation) := by
  intro c c' twin
  obtain ⟨agree, groups, traffic, -, -, same⟩ :=
    abreast_awaitOperation polling operation c c' twin.abreast
  rcases run : (awaitOperation polling operation).runOn c with ⟨r, m⟩
  rcases run' : (awaitOperation polling operation).runOn c' with ⟨r', m'⟩
  rw [run, run'] at agree same
  obtain ⟨polled, -, -⟩ := awaitOperation_cases run
  obtain ⟨polled', -, -⟩ := awaitOperation_cases run'
  obtain ⟨_, ⟨fate, here, there⟩, rfl⟩ := twin
  refine ⟨agree, m'.traffic, ⟨fate, polled.asks.fated here, polled'.asks.fated there⟩, ?_⟩
  have kept : m'.groups = m.groups := polled'.groups.trans polled.groups.symm
  subst same
  cases kept
  rfl

theorem abreast_startOperation : Blind Abreast startOperation := by
  refine .get_bind ?_
  rintro c _ ⟨groups, traffic, keys, alike, rfl⟩
  exact .bind (.set ⟨groups, traffic, keys, alike, rfl⟩) fun _ _ _ => .pure rfl

theorem blind_startOperation : Blind Twin startOperation := by
  refine .get_bind ?_
  rintro c _ ⟨traffic, same, rfl⟩
  exact .bind (.set ⟨traffic, same, rfl⟩) fun _ _ _ => .pure rfl

theorem blind_resize (key : GroupKey) (size : Nat) : Blind Twin (resize key size) := by
  refine .bind (blind_send _ _) fun _ => .bind (blind_group key) fun _ =>
    .bind blind_startOperation ?_
  rintro ⟨operation, applies⟩
  dsimp only
  split
  · refine Blind.bind (Parallel.modify ?_) fun _ => .pure _
    rintro c _ ⟨traffic, same, rfl⟩
    exact ⟨traffic, same, rfl⟩
  · exact .pure _

theorem blind_setGroupSize (project : String) (polling : Polling) (id : GroupId) (size : Nat) :
    Blind Twin (setGroupSize project polling id size) :=
  .bind (blind_resize _ size) fun operation => blind_awaitOperation polling operation

/-! ## Different sizes -/

theorem abreast_group (key : GroupKey) :
    Parallel Abreast Eq (fun _ _ => True) (group key) (group key) := by
  refine .bind .get ?_
  rintro c _ ⟨groups, traffic, keys, -, rfl⟩
  have same := keys key
  dsimp only
  cases here : c.groups.find? key with
  | none =>
      cases there : groups.find? key with
      | none => exact .throw rfl
      | some g => simp [here, there] at same
  | some g =>
      cases there : groups.find? key with
      | none => simp [here, there] at same
      | some g' => exact .pure trivial

theorem abreast_resize (key : GroupKey) (size size' : Nat) :
    Parallel Abreast Eq Eq (resize key size) (resize key size') := by
  refine .bind (abreast_send _ _ _) fun _ _ _ => .bind (abreast_group key) fun _ _ _ =>
    .bind abreast_startOperation ?_
  rintro ⟨operation, applies⟩ _ rfl
  dsimp only
  split
  · refine .bind (.modify ?_) fun _ _ _ => .pure rfl
    rintro c _ ⟨groups, traffic, keys, alike, rfl⟩
    refine ⟨_, traffic, ?_, alike, rfl⟩
    intro other
    simp only [setTarget, Directory.find?_modify, Option.isSome_map, keys other]
  · exact .pure rfl

/-- A caller who sets a size is told what it would be told for any other size. -/
theorem abreast_setGroupSize (project : String) (polling : Polling) (id : GroupId)
    (size size' : Nat) :
    Parallel Abreast Eq Eq (setGroupSize project polling id size)
      (setGroupSize project polling id size') :=
  .bind (abreast_resize _ size size') fun operation _ same =>
    same ▸ abreast_awaitOperation polling operation

end Autoscaler.Gce.Cloud
