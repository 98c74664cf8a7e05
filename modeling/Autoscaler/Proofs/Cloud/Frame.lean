import Autoscaler.Cloud.Action
import Mathlib.Order.Defs.Unbundled

/-!
# Frame conditions of actions

A frame condition relates the state that an action starts from to the state that it
leaves, whatever its result is. If the relation is reflexive and transitive, a sequence of
actions keeps it as soon as each of them does, so a frame condition is proved call by call
and never by unfolding a whole run. The inversion of a bind is all that is needed to take
a given run apart.
-/

namespace Autoscaler.Action

variable {ε δ σ τ α β : Type}

theorem runOn_bind_ok {act : Action ε σ α} {next : α → Action ε σ β} {s m : σ} {a : α}
    (first : act.runOn s = (.ok a, m)) : (act >>= next).runOn s = (next a).runOn m := by
  rw [runOn_bind, first]

theorem runOn_bind_error {act : Action ε σ α} {next : α → Action ε σ β} {s m : σ} {e : ε}
    (first : act.runOn s = (.error e, m)) : (act >>= next).runOn s = (.error e, m) := by
  rw [runOn_bind, first]

/-- A sequence ends in its second action, unless the first one ends with an error. -/
theorem bind_cases {act : Action ε σ α} {next : α → Action ε σ β} {s t : σ} {r : Except ε β}
    (run : (act >>= next).runOn s = (r, t)) :
    (∃ a m, act.runOn s = (.ok a, m) ∧ (next a).runOn m = (r, t)) ∨
      ∃ e, act.runOn s = (.error e, t) ∧ r = .error e := by
  rcases first : act.runOn s with ⟨_ | a, m⟩
  · rw [runOn_bind_error first] at run
    cases run
    exact .inr ⟨_, rfl, rfl⟩
  · rw [runOn_bind_ok first] at run
    exact .inl ⟨a, m, rfl, run⟩

theorem bind_ok_cases {act : Action ε σ α} {next : α → Action ε σ β} {s t : σ} {b : β}
    (run : (act >>= next).runOn s = (.ok b, t)) :
    ∃ a m, act.runOn s = (.ok a, m) ∧ (next a).runOn m = (.ok b, t) := by
  obtain ⟨a, m, first, rest⟩ | ⟨e, _, failed⟩ := bind_cases run
  · exact ⟨a, m, first, rest⟩
  · cases failed

/-- Actions on one part of the state, one after the other, are one action on that part. -/
theorem zoom_bind {get : σ → τ} {set : τ → σ → σ} (get_set : ∀ t s, get (set t s) = t)
    (set_set : ∀ t t' s, set t' (set t s) = set t' s) (act : Action ε τ α)
    (next : α → Action ε τ β) :
    (act >>= next).zoom get set = act.zoom get set >>= fun a => (next a).zoom get set := by
  funext s
  change ((act >>= next).zoom get set).runOn s =
    (act.zoom get set >>= fun a => (next a).zoom get set).runOn s
  rcases first : act.runOn (get s) with ⟨e | a, t⟩
  · have zoomed : (act.zoom get set).runOn s = (.error e, set t s) := by
      rw [runOn_zoom, first]
    rw [runOn_zoom, runOn_bind_error first, runOn_bind_error zoomed]
  · have zoomed : (act.zoom get set).runOn s = (.ok a, set t s) := by
      rw [runOn_zoom, first]
    rw [runOn_zoom, runOn_bind_ok first, runOn_bind_ok zoomed, runOn_zoom, get_set, set_set]

/-- The result of an action with its errors put into other words. -/
theorem mapError_cases {f : ε → δ} {act : Action ε σ α} {s t : σ} {r : Except δ α}
    (run : (act.mapError f).runOn s = (r, t)) :
    (∃ a, act.runOn s = (.ok a, t) ∧ r = .ok a) ∨
      ∃ e, act.runOn s = (.error e, t) ∧ r = .error (f e) := by
  rcases plain : act.runOn s with ⟨e | a, m⟩ <;>
    simp only [mapError, runOn_ofFn, plain] at run <;> cases run
  · exact .inr ⟨e, rfl, rfl⟩
  · exact .inl ⟨a, rfl, rfl⟩

/-- From every state, the action leaves a state that `R` relates to it. -/
def Keeps (R : σ → σ → Prop) (act : Action ε σ α) : Prop := ∀ s, R s (act.runOn s).2

namespace Keeps

variable {R : σ → σ → Prop} {act : Action ε σ α} {next : α → Action ε σ β}

theorem of_runOn (kept : Keeps R act) {s t : σ} {r : Except ε α}
    (run : act.runOn s = (r, t)) : R s t := by
  simpa only [run] using kept s

theorem attempt (kept : Keeps R act) : Keeps R (act.attempt : Action δ σ (Except ε α)) := kept

theorem mapError (kept : Keeps R act) (f : ε → δ) : Keeps R (act.mapError f) := by
  intro s
  rcases run : (act.mapError f).runOn s with ⟨r, t⟩
  obtain ⟨a, plain, -⟩ | ⟨e, plain, -⟩ := mapError_cases run
  · exact kept.of_runOn plain
  · exact kept.of_runOn plain

variable [IsPreorder σ R]

theorem pure (a : α) : Keeps R (pure a : Action ε σ α) := fun s => refl_of R s

theorem throw (e : ε) : Keeps R (throw e : Action ε σ α) := fun s => refl_of R s

theorem get : Keeps R (get : Action ε σ σ) := fun s => refl_of R s

theorem ofExcept (r : Except ε α) : Keeps R (ofExcept r : Action ε σ α) := fun s => refl_of R s

theorem bind (first : Keeps R act) (rest : ∀ a, Keeps R (next a)) : Keeps R (act >>= next) := by
  intro s
  rcases run : (act >>= next).runOn s with ⟨r, t⟩
  obtain ⟨a, m, begun, ended⟩ | ⟨e, begun, -⟩ := bind_cases run
  · exact trans_of R (first.of_runOn begun) ((rest a).of_runOn ended)
  · exact first.of_runOn begun

end Keeps

/-- From every state that satisfies `I` the action ends with one and the same result, and in such
a state. -/
def Constant (I : σ → Prop) (act : Action ε σ α) : Prop :=
  ∃ r, ∀ s, I s → (act.runOn s).1 = r ∧ I (act.runOn s).2

namespace Constant

variable {I : σ → Prop} {act : Action ε σ α} {next : α → Action ε σ β}

theorem ofExcept (r : Except ε α) : Constant I (ofExcept r : Action ε σ α) :=
  ⟨r, fun _ start => ⟨rfl, start⟩⟩

theorem pure (a : α) : Constant I (pure a : Action ε σ α) :=
  ⟨.ok a, fun _ start => ⟨rfl, start⟩⟩

theorem attempt (constant : Constant I act) :
    Constant I (act.attempt : Action δ σ (Except ε α)) := by
  obtain ⟨r, always⟩ := constant
  exact ⟨.ok r, fun s start => ⟨congrArg Except.ok (always s start).1, (always s start).2⟩⟩

theorem mapError (constant : Constant I act) (f : ε → δ) : Constant I (act.mapError f) := by
  obtain ⟨r, always⟩ := constant
  refine ⟨r.mapError f, ?_⟩
  intro s start
  obtain ⟨same, kept⟩ := always s start
  exact ⟨congrArg (Except.mapError f) same, kept⟩

theorem bind (first : Constant I act) (rest : ∀ a, Constant I (next a)) :
    Constant I (act >>= next) := by
  obtain ⟨r, always⟩ := first
  cases r with
  | error e =>
      refine ⟨.error e, ?_⟩
      intro s start
      obtain ⟨same, kept⟩ := always s start
      rcases run : act.runOn s with ⟨r, m⟩
      rw [run] at same kept
      subst same
      rw [runOn_bind_error run]
      exact ⟨rfl, kept⟩
  | ok a =>
      obtain ⟨r, onward⟩ := rest a
      refine ⟨r, ?_⟩
      intro s start
      obtain ⟨same, kept⟩ := always s start
      rcases run : act.runOn s with ⟨r', m⟩
      rw [run] at same kept
      subst same
      rw [runOn_bind_ok run]
      exact onward m kept

/-- Two runs have the same result. -/
theorem same (constant : Constant I act) {s t : σ} (start : I s) (start' : I t) :
    (act.runOn s).1 = (act.runOn t).1 := by
  obtain ⟨r, always⟩ := constant
  rw [(always s start).1, (always t start').1]

theorem kept (constant : Constant I act) {s t : σ} {r : Except ε α} (start : I s)
    (run : act.runOn s = (r, t)) : I t := by
  obtain ⟨_, always⟩ := constant
  have ended := (always s start).2
  rwa [run] at ended

end Constant

end Autoscaler.Action
