import Autoscaler.Proofs.Cloud.Frame

/-!
# Two runs side by side

Two actions run in parallel if from related states they end alike, both with related values or
both with related errors, and in related states. Sequences run in parallel as soon as their parts
do, whatever the parts return, so that whole programs are compared call by call. An action is
blind to a relation if it runs in parallel with itself: it cannot tell related states apart.
-/

namespace Autoscaler.Action

variable {ε ε' δ δ' σ τ σ' τ' α β α' β' : Type}

/-- Both results are values or both are errors, and they are related as such. -/
inductive Agree (E : ε → δ → Prop) (V : α → β → Prop) : Except ε α → Except δ β → Prop where
  | ok {a : α} {b : β} (values : V a b) : Agree E V (.ok a) (.ok b)
  | error {e : ε} {d : δ} (errors : E e d) : Agree E V (.error e) (.error d)

theorem Agree.eq {r r' : Except ε α} (agree : Agree Eq Eq r r') : r = r' := by
  cases agree with
  | ok values => rw [values]
  | error errors => rw [errors]

/-- Where no errors are related, both results are values. -/
theorem Agree.values {E : ε → δ → Prop} {V : α → β → Prop} {r : Except ε α} {r' : Except δ β}
    (agree : Agree E V r r') (none_related : ∀ e d, ¬ E e d) :
    ∃ a b, r = .ok a ∧ r' = .ok b ∧ V a b := by
  cases agree with
  | ok values => exact ⟨_, _, rfl, rfl, values⟩
  | error errors => exact absurd errors (none_related _ _)

theorem Agree.of_eq {r r' : Except ε α} (same : r = r') : Agree Eq Eq r r' := by
  subst same
  cases r with
  | ok a => exact .ok rfl
  | error e => exact .error rfl

theorem Agree.mono {E F : ε → δ → Prop} {V : α → β → Prop} {r : Except ε α} {r' : Except δ β}
    (agree : Agree E V r r') (weaker : ∀ e d, E e d → F e d) : Agree F V r r' := by
  cases agree with
  | ok values => exact .ok values
  | error errors => exact .error (weaker _ _ errors)

/-- From related states both actions end alike and in related states. -/
def Parallel (R : σ → τ → Prop) (E : ε → δ → Prop) (V : α → β → Prop) (act : Action ε σ α)
    (act' : Action δ τ β) : Prop :=
  ∀ s t, R s t → Agree E V (act.runOn s).1 (act'.runOn t).1 ∧ R (act.runOn s).2 (act'.runOn t).2

/-- The action does the same in related states. -/
abbrev Blind (R : σ → σ → Prop) (act : Action ε σ α) : Prop := Parallel R Eq Eq act act

namespace Parallel

variable {R : σ → τ → Prop} {R' : σ' → τ' → Prop} {E : ε → δ → Prop} {F : ε' → δ' → Prop}
  {V : α → β → Prop} {W : α' → β' → Prop} {act : Action ε σ α} {act' : Action δ τ β}

theorem ofExcept {r : Except ε α} {r' : Except δ β} (agree : Agree E V r r') :
    Parallel R E V (Action.ofExcept r) (Action.ofExcept r') := fun _ _ related => ⟨agree, related⟩

theorem pure {a : α} {b : β} (values : V a b) :
    Parallel R E V (pure a : Action ε σ α) (pure b : Action δ τ β) :=
  fun _ _ related => ⟨.ok values, related⟩

theorem throw {e : ε} {d : δ} (errors : E e d) :
    Parallel R E V (throw e : Action ε σ α) (throw d : Action δ τ β) :=
  fun _ _ related => ⟨.error errors, related⟩

theorem get : Parallel R E R (get : Action ε σ σ) (get : Action δ τ τ) :=
  fun _ _ related => ⟨.ok related, related⟩

theorem set {s : σ} {t : τ} (related : R s t) :
    Parallel R E Eq (set s : Action ε σ PUnit) (set t : Action δ τ PUnit) :=
  fun _ _ _ => ⟨.ok rfl, related⟩

theorem modify {f : σ → σ} {g : τ → τ} (changed : ∀ s t, R s t → R (f s) (g t)) :
    Parallel R E Eq (modify f : Action ε σ PUnit) (modify g : Action δ τ PUnit) :=
  fun s t related => ⟨.ok rfl, changed s t related⟩

/-- A sequence, from a relation that only its first part keeps into a weaker one that the rest
keeps. -/
theorem bind_weaken {next : α → Action ε σ α'} {next' : β → Action δ τ β'} {Q : σ → τ → Prop}
    (first : Parallel R E V act act') (weaker : ∀ s t, R s t → Q s t)
    (rest : ∀ a b, V a b → Parallel Q E W (next a) (next' b)) {s : σ} {t : τ} (related : R s t) :
    Agree E W ((act >>= next).runOn s).1 ((act' >>= next').runOn t).1 ∧
      Q ((act >>= next).runOn s).2 ((act' >>= next').runOn t).2 := by
  obtain ⟨agree, onward⟩ := first s t related
  rcases run : act.runOn s with ⟨r, s'⟩
  rcases run' : act'.runOn t with ⟨r', t'⟩
  rw [run, run'] at agree onward
  cases agree with
  | ok values =>
      rw [runOn_bind_ok run, runOn_bind_ok run']
      exact rest _ _ values _ _ (weaker _ _ onward)
  | error errors =>
      rw [runOn_bind_error run, runOn_bind_error run']
      exact ⟨.error errors, weaker _ _ onward⟩

theorem bind {next : α → Action ε σ α'} {next' : β → Action δ τ β'}
    (first : Parallel R E V act act') (rest : ∀ a b, V a b → Parallel R E W (next a) (next' b)) :
    Parallel R E W (act >>= next) (act' >>= next') :=
  fun _ _ related => first.bind_weaken (fun _ _ => id) rest related

theorem attempt (parallel : Parallel R E V act act') :
    Parallel R F (Agree E V) act.attempt act'.attempt := fun s t related =>
  ⟨.ok (parallel s t related).1, (parallel s t related).2⟩

theorem mapError {f : ε → ε'} {g : δ → δ'} (parallel : Parallel R E V act act')
    (errors : ∀ e d, E e d → F (f e) (g d)) :
    Parallel R F V (act.mapError f) (act'.mapError g) := by
  intro s t related
  obtain ⟨agree, onward⟩ := parallel s t related
  rcases run : act.runOn s with ⟨r, s'⟩
  rcases run' : act'.runOn t with ⟨r', t'⟩
  rw [run, run'] at agree onward
  simp only [Action.mapError, runOn_ofFn, run, run']
  cases agree with
  | ok values => exact ⟨.ok values, onward⟩
  | error wrong => exact ⟨.error (errors _ _ wrong), onward⟩

/-- An action that comes before one of both, if it ends well and nothing of the relation is lost. -/
theorem bind_left {next : α → Action ε σ α'} {act' : Action δ τ β'} {P : α → Prop}
    (first : ∀ s t, R s t → ∃ a, (act.runOn s).1 = .ok a ∧ P a ∧ R (act.runOn s).2 t)
    (rest : ∀ a, P a → Parallel R E W (next a) act') : Parallel R E W (act >>= next) act' := by
  intro s t related
  obtain ⟨a, told, holds, onward⟩ := first s t related
  rcases run : act.runOn s with ⟨r, m⟩
  rw [run] at told onward
  subst told
  rw [runOn_bind_ok run]
  exact rest a holds _ _ onward

/-- Actions on related parts of related states. -/
theorem zoom {get : σ → σ'} {set : σ' → σ → σ} {get' : τ → τ'} {set' : τ' → τ → τ}
    {act : Action ε σ' α} {act' : Action δ τ' β} (parallel : Parallel R' E V act act')
    (parts : ∀ s t, R s t → R' (get s) (get' t))
    (whole : ∀ s t p q, R s t → R' p q → R (set p s) (set' q t)) :
    Parallel R E V (act.zoom get set) (act'.zoom get' set') := fun s t related =>
  have ended := parallel _ _ (parts s t related)
  ⟨ended.1, whole s t _ _ related ended.2⟩

end Parallel

namespace Blind

variable {R : σ → σ → Prop} {act : Action ε σ α} {next : α → Action ε σ β}

theorem pure (a : α) : Blind R (pure a : Action ε σ α) := Parallel.pure rfl

theorem throw (e : ε) : Blind R (throw e : Action ε σ α) := Parallel.throw rfl

theorem ofExcept (r : Except ε α) : Blind R (ofExcept r : Action ε σ α) :=
  Parallel.ofExcept (.of_eq rfl)

theorem bind (first : Blind R act) (rest : ∀ a, Blind R (next a)) : Blind R (act >>= next) :=
  Parallel.bind first fun a _ same => same ▸ rest a

/-- An action that looks at the state first. -/
theorem get_bind {next : σ → Action ε σ β}
    (rest : ∀ s t, R s t → Parallel R Eq Eq (next s) (next t)) :
    Blind R ((get : Action ε σ σ) >>= next) :=
  Parallel.bind .get rest

theorem mapError (blind : Blind R act) (f : ε → δ) : Blind R (act.mapError f) :=
  Parallel.mapError blind fun _ _ same => congrArg f same

/-- If every run leads to a related state, then all runs from related states end the same way. -/
theorem constant [IsTrans σ R] (blind : Blind R act) {s : σ}
    (stays : ∀ t, R s t → R t (act.runOn t).2) : Constant (R s) act :=
  ⟨(act.runOn s).1, fun t related =>
    ⟨(blind s t related).1.eq.symm, trans_of R related (stays t related)⟩⟩

end Blind

end Autoscaler.Action
