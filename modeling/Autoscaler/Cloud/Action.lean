import Autoscaler.Cloud.Error

/-!
# Actions

An action reads and changes a state and ends with a value or an error. What it changed
before an error stays changed: a call that a cloud has carried out is not taken back
because a later one fails.
-/

namespace Autoscaler

/-- A computation on a state `σ` that may fail with `ε`. -/
abbrev Action (ε σ α : Type) : Type := ExceptT ε (StateM σ) α

/-- An action that may fail as calls to a cloud fail. -/
abbrev CloudM (σ α : Type) : Type := Action CloudError σ α

namespace Action

variable {ε σ τ α β : Type}

/-- The result of an action from a state, and the state it leaves. -/
def runOn (act : Action ε σ α) (s : σ) : Except ε α × σ := act s

/-- An action given by what it does to each state. -/
def ofFn (f : σ → Except ε α × σ) : Action ε σ α := f

/-- An action on a part of the state. -/
def zoom (get : σ → τ) (set : τ → σ → σ) (act : Action ε τ α) : Action ε σ α :=
  ofFn fun s =>
    let (result, part) := act.runOn (get s)
    (result, set part s)

/-- A value or an error that does not depend on the state. -/
def ofExcept (result : Except ε α) : Action ε σ α := ofFn fun s => (result, s)

/-- The same action with its error put into words of another kind. -/
def mapError {δ : Type} (f : ε → δ) (act : Action ε σ α) : Action δ σ α :=
  ofFn fun s =>
    let (result, s) := act.runOn s
    (result.mapError f, s)

/-- An action that reports its error instead of ending with it. -/
def attempt {δ : Type} (act : Action ε σ α) : Action δ σ (Except ε α) :=
  ofFn fun s =>
    let (result, s) := act.runOn s
    (.ok result, s)

@[simp] theorem runOn_ofFn (f : σ → Except ε α × σ) (s : σ) : (ofFn f).runOn s = f s := rfl

@[simp] theorem runOn_pure (a : α) (s : σ) : (pure a : Action ε σ α).runOn s = (.ok a, s) := rfl

@[simp] theorem runOn_throw (e : ε) (s : σ) : (throw e : Action ε σ α).runOn s = (.error e, s) := rfl

@[simp] theorem runOn_get (s : σ) : (get : Action ε σ σ).runOn s = (.ok s, s) := rfl

@[simp] theorem runOn_set (s t : σ) : (set t : Action ε σ PUnit).runOn s = (.ok ⟨⟩, t) := rfl

@[simp] theorem runOn_modify (f : σ → σ) (s : σ) :
    (modify f : Action ε σ PUnit).runOn s = (.ok ⟨⟩, f s) := rfl

@[simp] theorem runOn_ofExcept (result : Except ε α) (s : σ) :
    (ofExcept result : Action ε σ α).runOn s = (result, s) := rfl

@[simp] theorem runOn_attempt {δ : Type} (act : Action ε σ α) (s : σ) :
    (act.attempt : Action δ σ (Except ε α)).runOn s = (.ok (act.runOn s).1, (act.runOn s).2) := rfl

@[simp] theorem runOn_zoom (get : σ → τ) (set : τ → σ → σ) (act : Action ε τ α) (s : σ) :
    (act.zoom get set).runOn s = ((act.runOn (get s)).1, set (act.runOn (get s)).2 s) := rfl

/-- The second action starts where the first one stopped, unless that was an error. -/
theorem runOn_bind (act : Action ε σ α) (next : α → Action ε σ β) (s : σ) :
    (act >>= next).runOn s =
      match act.runOn s with
      | (.ok a, t) => (next a).runOn t
      | (.error e, t) => (.error e, t) := by
  simp only [runOn, bind, ExceptT.bind, ExceptT.mk, StateT.bind, ExceptT.bindCont]
  generalize act s = r
  rcases r with ⟨_ | _, _⟩ <;> rfl

end Action

end Autoscaler
