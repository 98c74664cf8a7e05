import Autoscaler.Proofs.ScaleUp.Cycle

/-!
# What a cycle can do to control planes

Calls may fail anywhere in a cycle. Whatever fails, a cycle makes at most one call that
changes something, and it knows what that call did: an error leaves all groups as they were.
The one exception is an operation that was accepted and whose end the cycle has not seen;
it may have given the chosen group the size that the cycle asked for.
-/

namespace Autoscaler.Engine

variable {e : Engine} {pods : List Pod} {nodes : List Node} {s t : Session}
  {r : Except CycleError Outcome}

/-- The resize of the chosen group was accepted, and the error is that of asking how its
operation has ended. Backends without operations have no such errors. -/
inductive EndUnseen (e : Engine) (pods : List Pod) (nodes : List Node) (s : Session) :
    CycleError → Session → Prop where
  | resize (found growing : List Candidate) (survey : Survey e nodes s.world found growing)
      (c : Candidate)
      (picks : e.strategy.Picks (fun c => (helped e.checker pods c).length) growing c)
      (target : Nat) (source : CloudError) (t : Session)
      (left : World.SameGroups (c.group.withSize (min target c.group.bounds.max) s.world) t.world)
      (unseen : c.group.backend.UnseenEnd t.world source) :
      EndUnseen e pods nodes s (.resize c.group.url target source) t

/-- What a cycle may have done when it ends. -/
structure Contained (e : Engine) (pods : List Pod) (nodes : List Node) (s : Session)
    (r : Except CycleError Outcome) (t : Session) : Prop where
  /-- The calls made before stay counted. -/
  calls : World.CallsKept s.world t.world
  resizes : t.world.made .resize ≤ s.world.made .resize + 1
  deletes : t.world.made .delete = s.world.made .delete
  undecided : ∀ keys, r = .ok (.noDecision keys) →
    t.world.made .resize = s.world.made .resize
  undiscovered : ∀ backend source, r = .error (.discovery backend source) →
    t.world.made .resize = s.world.made .resize
  unread : ∀ group source, r = .error (.groupSize group source) →
    t.world.made .resize = s.world.made .resize
  /-- Without pods no call is made at all. -/
  idle : pods = [] → t = s
  failed : ∀ error, r = .error error →
    World.SameGroups s.world t.world ∨ EndUnseen e pods nodes s error t

theorem Contained.of_observed (some_pod : pods ≠ []) (seen : World.Observed s.world t.world) :
    Contained e pods nodes s r t where
  calls := seen.callsKept
  resizes := by
    rw [seen.made_eq (by decide)]
    exact Nat.le_succ _
  deletes := seen.made_eq (by decide)
  undecided _ _ := seen.made_eq (by decide)
  undiscovered _ _ _ := seen.made_eq (by decide)
  unread _ _ _ := seen.made_eq (by decide)
  idle no_pods := absurd no_pods some_pod
  failed _ _ := .inl seen.sameGroups

theorem Contained.of_resize_error {group : String} {target : Nat} {source : CloudError}
    (some_pod : pods ≠ []) (once : World.OneResize s.world t.world)
    (left : World.SameGroups s.world t.world ∨
      EndUnseen e pods nodes s (.resize group target source) t) :
    Contained e pods nodes s (.error (.resize group target source)) t where
  calls := once.calls
  resizes := Nat.le_of_eq once.resizes
  deletes := once.deletes
  undecided _ same := by cases same
  undiscovered _ _ same := by cases same
  unread _ _ same := by cases same
  idle no_pods := absurd no_pods some_pod
  failed _ same := by
    cases same
    exact left

theorem Contained.of_scaledUp {report : ScaleUpReport}
    (some_pod : pods ≠ []) (once : World.OneResize s.world t.world) :
    Contained e pods nodes s (.ok (.scaledUp report)) t where
  calls := once.calls
  resizes := Nat.le_of_eq once.resizes
  deletes := once.deletes
  undecided _ same := by cases same
  undiscovered _ _ same := by cases same
  unread _ _ same := by cases same
  idle no_pods := absurd no_pods some_pod
  failed _ same := by cases same

/-- A cycle makes at most one call that changes something, and only an unseen end of an
operation can hide what the call did. -/
theorem runOnce_contained (e : Engine) (pods : List Pod) (nodes : List Node) (s : Session) :
    Contained e pods nodes s ((e.runOnce pods nodes).runOn s).1
      ((e.runOnce pods nodes).runOn s).2 := by
  rcases run : (e.runOnce pods nodes).runOn s with ⟨r, t⟩
  cases runOnce_course run with
  | idle no_pods =>
      exact ⟨refl_of World.CallsKept _, Nat.le_succ _, rfl, fun _ _ => rfl, fun _ _ _ => rfl,
        fun _ _ _ => rfl, fun _ => rfl, fun _ _ => .inl (refl_of World.SameGroups _)⟩
  | undiscovered some_pod _ _ _ _ seen _ => exact .of_observed some_pod seen
  | undecided some_pod _ _ _ _ _ seen => exact .of_observed some_pod seen
  | expanded some_pod found growing survey c picks r t expansion =>
      cases expansion with
      | unread error w seen _ => exact .of_observed some_pod seen
      | failed current error w _ once left _ =>
          refine .of_resize_error some_pod once ?_
          obtain left | ⟨left, unseen⟩ := left
          · exact .inl left
          · exact .inr (.resize found growing survey c picks _ error _ left unseen)
      | done current w _ once _ => exact .of_scaledUp some_pod once

end Autoscaler.Engine
