import Autoscaler.Config.Basic

/-!
# Valid providers

What the validation of a configuration has found out about each provider once it succeeds: every
specification can be read, a project is there where one is needed, and the durations can be read.
Identifiers of groups are not looked at, nor whether two specifications name one group.
-/

namespace Autoscaler

/-- The provider passes all that is checked of it. -/
structure ProviderConfig.Valid (p : ProviderConfig) : Prop where
  specs : ∀ spec ∈ p.nodeGroups, ∃ parsed, GroupSpec.parse spec = .ok parsed
  project : p.kind = .gce → p.project ≠ none
  poll : ∃ pause, p.readPollInterval = .ok pause ∧ pause ≠ some .zero
  wait : ∃ timeout, p.readWaitTimeout = .ok timeout

/-- A check that needs the result of another one passes if both do. -/
theorem bind_eq_ok_iff {ε α β : Type} {first : Except ε α} {next : α → Except ε β} {b : β} :
    first >>= next = .ok b ↔ ∃ a, first = .ok a ∧ next a = .ok b := by
  cases first with
  | error e => simp [bind, Except.bind]
  | ok a => simp [bind, Except.bind]

theorem positive_eq_ok_iff (field : String) (d : Duration) :
    positive field d = .ok () ↔ d ≠ .zero := by
  rw [positive]
  split
  · next zero => simp [zero]
  · next some_time => simp [some_time]

namespace ProviderConfig

variable {p : ProviderConfig} {index : Nat} {kind : ProviderKind}

theorem checkSpecs_eq_ok_iff (specs : List String) :
    checkSpecs index kind specs = .ok () ↔
      ∀ spec ∈ specs, ∃ parsed, GroupSpec.parse spec = .ok parsed := by
  induction specs with
  | nil => simp [checkSpecs]
  | cons spec specs ih =>
      rw [checkSpecs]
      cases read : GroupSpec.parse spec with
      | error e => simp [read]
      | ok parsed => simp [read, ih]

theorem validate_eq_ok_iff (index : Nat) : p.validate index = .ok () ↔ p.Valid := by
  constructor
  · intro passed
    obtain ⟨_, specs, passed⟩ := bind_eq_ok_iff.mp passed
    dsimp only at passed
    split at passed
    · cases passed
    · next project =>
      obtain ⟨pause, poll, passed⟩ := bind_eq_ok_iff.mp passed
      have rest : pause ≠ some .zero ∧ ∃ timeout, p.readWaitTimeout = .ok timeout := by
        cases pause with
        | none =>
            obtain ⟨timeout, wait, -⟩ := bind_eq_ok_iff.mp passed
            exact ⟨by simp, timeout, wait⟩
        | some d =>
            obtain ⟨_, some_time, passed⟩ := bind_eq_ok_iff.mp passed
            obtain ⟨timeout, wait, -⟩ := bind_eq_ok_iff.mp passed
            exact ⟨by simpa using (positive_eq_ok_iff _ _).mp some_time, timeout, wait⟩
      exact ⟨(checkSpecs_eq_ok_iff _).mp specs, fun kind missing => project ⟨kind, missing⟩,
        ⟨pause, poll, rest.1⟩, rest.2⟩
  · rintro ⟨specs, project, ⟨pause, poll, some_time⟩, timeout, wait⟩
    have owned : ¬ (p.kind = .gce ∧ p.project = none) := fun ⟨kind, missing⟩ =>
      project kind missing
    rw [validate, (checkSpecs_eq_ok_iff _).mpr specs, poll, wait]
    simp only [owned, ↓reduceIte]
    cases pause with
    | none => rfl
    | some d =>
        have passes : positive "operation_poll_interval" d = .ok () :=
          (positive_eq_ok_iff _ _).mpr (by simpa using some_time)
        simp only [bind, Except.bind, passes]
        rfl

theorem validateAll_eq_ok_iff (providers : List ProviderConfig) :
    validateAll index providers = .ok () ↔ ∀ p ∈ providers, p.Valid := by
  induction providers generalizing index with
  | nil => simp [validateAll]
  | cons p providers ih =>
      rw [validateAll, bind_eq_ok_iff, List.forall_mem_cons, ← validate_eq_ok_iff index]
      constructor
      · rintro ⟨_, here, others⟩
        exact ⟨here, ih.mp others⟩
      · rintro ⟨here, others⟩
        exact ⟨(), here, ih.mpr others⟩

end ProviderConfig

theorem Config.valid_of_validate {c : Config} (valid : c.validate = .ok ()) :
    ∀ p ∈ c.providers, p.Valid := by
  rw [validate] at valid
  split at valid
  · cases valid
  · obtain ⟨_, -, valid⟩ := bind_eq_ok_iff.mp valid
    obtain ⟨_, -, valid⟩ := bind_eq_ok_iff.mp valid
    obtain ⟨_, -, valid⟩ := bind_eq_ok_iff.mp valid
    obtain ⟨_, -, valid⟩ := bind_eq_ok_iff.mp valid
    exact (ProviderConfig.validateAll_eq_ok_iff _).mp valid

end Autoscaler
