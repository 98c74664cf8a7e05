import Autoscaler.Proofs.Config.Validation
import Autoscaler.Proofs.Fleet.Building
import Autoscaler.Simulation

/-!
# Simulations of valid configurations

A configuration that passes validation can be simulated if and only if the specifications of each
provider describe groups to its backend. Validation does not look at identifiers, so that is not
always so: a backend may refuse one, and two of them may mean one group. The failure tells the
first provider for which that happens. A simulation that is built has not called any control
plane.
-/

namespace Autoscaler

open Provider (Describes Fails)

/-- No call to a control plane was made. -/
structure World.Silent (w : World) : Prop where
  aws : ∀ n, (w.aws.get n).traffic.sent = []
  gce : ∀ n, (w.gce.get n).traffic.sent = []

namespace ProviderConfig

/-- How operations are waited for, as far as it is configured. -/
def polling (p : ProviderConfig) : Gce.Polling :=
  let usual : Gce.Polling := {}
  { interval := (p.readPollInterval.toOption.join).getD usual.interval
    timeout := (p.readWaitTimeout.toOption.join).getD usual.timeout }

/-- The backend of a valid provider with number `index`. -/
def backend (p : ProviderConfig) (index : Nat) : Backend :=
  match p.kind with
  | .aws => .aws 0 index
  | .gce => .gce (p.project.getD "") p.polling index index

/-- The specifications of the provider with number `index` describe groups to its backend. -/
def Described (index : Nat) (p : ProviderConfig) : Prop :=
  ∃ groups, Describes (p.backend index) p.nodeGroups groups

end ProviderConfig

namespace Simulation

variable {snapshot : Snapshot} {config : Config} {p : ProviderConfig}
  {providers : List ProviderConfig} {built : List Provider} {index i : Nat} {error : CloudError}
  {w : World}

/-- All providers are described; the first one has number `index`. -/
def Described (index : Nat) (providers : List ProviderConfig) : Prop :=
  ∀ (i : Nat) (p : ProviderConfig), providers[i]? = some p → p.Described (index + i)

/-- The provider at position `i` is the first that is not described, because of this error. -/
structure Spoils (index : Nat) (providers : List ProviderConfig) (i : Nat) (p : ProviderConfig)
    (error : CloudError) : Prop where
  here : providers[i]? = some p
  before : Described index (providers.take i)
  fails : Fails (p.backend (index + i)) p.nodeGroups error

/-- The providers that are built have the groups that are described, in the same order. -/
structure Provided (index : Nat) (providers : List ProviderConfig) (built : List Provider) :
    Prop where
  length : built.length = providers.length
  each : ∀ (i : Nat) (p : ProviderConfig) (q : Provider), providers[i]? = some p →
    built[i]? = some q →
      q.backend = p.backend (index + i) ∧ Describes (p.backend (index + i)) p.nodeGroups q.groups

/-- How the fault of a provider is told. -/
def failure (i : Nat) (p : ProviderConfig) (error : CloudError) : Failure :=
  .within s!"provider {i} ({p.kind.name})" ⟨error.message, []⟩

/-! ## Positions -/

theorem described_nil (index : Nat) : Described index [] := by
  rintro i p ⟨⟩

theorem described_cons : Described index (p :: providers) ↔
    p.Described index ∧ Described (index + 1) providers := by
  constructor
  · intro described
    refine ⟨described 0 p rfl, ?_⟩
    intro i q there
    have later := described (i + 1) q there
    rwa [Nat.add_right_comm, Nat.add_assoc]
  · rintro ⟨here, others⟩ i q there
    cases i with
    | zero =>
        cases there
        exact here
    | succ i =>
        have later := others i q there
        rwa [Nat.add_right_comm, Nat.add_assoc] at later

theorem Spoils.cons (here : p.Described index) {q : ProviderConfig}
    (spoils : Spoils (index + 1) providers i q error) :
    Spoils index (p :: providers) (i + 1) q error where
  here := spoils.here
  before := described_cons.mpr ⟨here, spoils.before⟩
  fails := by
    have fails := spoils.fails
    rwa [Nat.add_right_comm, Nat.add_assoc] at fails

/-- Where a provider spoils the rest, not all of them are described. -/
theorem Spoils.not_described (spoils : Spoils index providers i p error) :
    ¬ Described index providers := by
  intro described
  obtain ⟨groups, describes⟩ := described i p spoils.here
  exact describes.not_fails spoils.fails

theorem Provided.cons {q : Provider} (backend : q.backend = p.backend index)
    (describes : Describes (p.backend index) p.nodeGroups q.groups)
    (provided : Provided (index + 1) providers built) :
    Provided index (p :: providers) (q :: built) where
  length := congrArg (· + 1) provided.length
  each := by
    intro i p' q' there there'
    cases i with
    | zero =>
        cases there
        cases there'
        exact ⟨backend, describes⟩
    | succ i =>
        have later := provided.each i p' q' there there'
        rwa [Nat.add_right_comm, Nat.add_assoc] at later

theorem Provided.described (provided : Provided index providers built) :
    Described index providers := by
  intro i p there
  have inside : i < built.length := by
    rw [provided.length]
    exact (List.getElem?_eq_some_iff.mp there).1
  exact ⟨_, (provided.each i p _ there (List.getElem?_eq_getElem inside)).2⟩

/-! ## One provider after the other -/

theorem connect_valid (snapshot : Snapshot) (index : Nat) (valid : p.Valid) (silent : w.Silent) :
    ∃ m : World, connect snapshot index p w = .ok (p.backend index, m) ∧ m.Silent := by
  rw [connect, ProviderConfig.backend]
  cases kind : p.kind with
  | aws => exact ⟨w, rfl, silent⟩
  | gce =>
      obtain ⟨project, owner⟩ := Option.ne_none_iff_exists'.mp (valid.project kind)
      obtain ⟨pause, poll, -⟩ := valid.poll
      obtain ⟨timeout, wait⟩ := valid.wait
      let groups := snapshot.gceGroups.map fun e =>
        ((⟨project, e.1.zone, e.1.name⟩ : Gce.GroupKey), e.2)
      refine ⟨{ w with gce := w.gce.set index (.ofGroups groups) }, ?_, silent.aws, ?_⟩
      · simp only [owner, poll, wait, ProviderConfig.polling]
        rfl
      · intro n
        rw [Slots.get_set]
        split
        · rfl
        · exact silent.gce n

theorem buildProviders_cases (snapshot : Snapshot) (index : Nat)
    (valid : ∀ p ∈ providers, p.Valid) (silent : w.Silent) :
    (∃ built m, buildProviders snapshot index providers w = .ok (built, m) ∧ m.Silent ∧
        Provided index providers built) ∨
      ∃ i p error, Spoils index providers i p error ∧
        buildProviders snapshot index providers w = .error (failure (index + i) p error) := by
  induction providers generalizing index w with
  | nil => exact .inl ⟨[], w, rfl, silent, rfl, by simp⟩
  | cons p providers ih =>
      obtain ⟨here, others⟩ := List.forall_mem_cons.mp valid
      obtain ⟨m, connected, quiet⟩ := connect_valid snapshot index here silent
      rw [buildProviders, connected]
      simp only [bind, Except.bind]
      obtain ⟨q, m', run, from_specs⟩ | ⟨error, run, fails⟩ :=
        Provider.build_cases (p.backend index) p.nodeGroups m
      · have quiet' : m'.Silent := by
          constructor
          · rw [from_specs.enrolls.aws]
            exact quiet.aws
          · rw [from_specs.enrolls.gce]
            exact quiet.gce
        rw [run]
        dsimp only
        obtain ⟨built, m'', rest, quiet'', provided⟩ | ⟨i, p', error, spoils, rest⟩ :=
          ih (index + 1) others quiet'
        · rw [rest]
          exact .inl ⟨_, m'', rfl, quiet'', provided.cons from_specs.backend from_specs.describes⟩
        · rw [rest]
          refine .inr ⟨i + 1, p', error, spoils.cons ⟨_, from_specs.describes⟩, ?_⟩
          rw [Nat.add_right_comm, Nat.add_assoc]
      · rw [run]
        exact .inr ⟨0, p, error, ⟨rfl, described_nil index, fails⟩, rfl⟩

/-- A configuration can be simulated if and only if it is valid and every provider is described.
Then there is one provider for each, no control plane was called, and otherwise a failure tells
what validation has found or else the first provider that is not described. -/
theorem build_settled (config : Config) (snapshot : Snapshot) :
    ((∃ s, build config snapshot = .ok s) ↔
        config.validate = .ok () ∧ Described 0 config.providers) ∧
      (∀ s, build config snapshot = .ok s →
        s.world.Silent ∧ Provided 0 config.providers s.engine.providers) ∧
      ∀ failed, build config snapshot = .error failed →
        (∃ fault, config.validate = .error fault ∧ failed = fault.failure) ∨
          config.validate = .ok () ∧ ∃ i p error, p.Valid ∧ Spoils 0 config.providers i p error ∧
            failed = failure i p error := by
  rw [build]
  cases checked : config.validate with
  | error fault =>
      refine ⟨⟨?_, ?_⟩, ?_, ?_⟩
      · rintro ⟨s, ⟨⟩⟩
      · rintro ⟨⟨⟩, -⟩
      · rintro s ⟨⟩
      · rintro _ ⟨⟩
        exact .inl ⟨fault, rfl, rfl⟩
  | ok _ =>
      let w : World := { aws := ({} : Slots Aws.Cloud).set 0 (.ofGroups snapshot.awsGroups) }
      have silent : w.Silent := by
        refine ⟨?_, fun _ => rfl⟩
        intro n
        rw [Slots.get_set]
        split <;> rfl
      simp only [Except.mapError, bind, Except.bind]
      have valid := Config.valid_of_validate checked
      obtain ⟨built, m, run, quiet, provided⟩ | ⟨i, p, error, spoils, run⟩ :=
        buildProviders_cases snapshot 0 valid silent
      · rw [run]
        refine ⟨⟨?_, ?_⟩, ?_, ?_⟩
        · exact fun _ => ⟨trivial, provided.described⟩
        · exact fun _ => ⟨_, rfl⟩
        · rintro s ⟨⟩
          exact ⟨quiet, provided⟩
        · rintro _ ⟨⟩
      · rw [run]
        refine ⟨⟨?_, ?_⟩, ?_, ?_⟩
        · rintro ⟨s, ⟨⟩⟩
        · exact fun ⟨_, described⟩ => absurd described spoils.not_described
        · rintro s ⟨⟩
        · rintro _ ⟨⟩
          refine .inr ⟨trivial, i, p, error, valid p (List.mem_of_getElem? spoils.here), spoils, ?_⟩
          rw [Nat.zero_add]

/-- Two specifications of one group, each of which can be read. -/
def namedTwice : Config := { providers := [{ kind := .aws, nodeGroups := ["1:5:z/g", "1:5:z/g"] }] }

/-- Not every valid configuration can be simulated. -/
theorem build_refuses_valid :
    ¬ ∀ (config : Config) (snapshot : Snapshot), config.validate = .ok () →
      ∃ s, build config snapshot = .ok s := by
  intro claim
  obtain ⟨s, built⟩ := claim namedTwice {} (by decide +kernel)
  have refused : (build namedTwice {}).isOk = false := by decide +kernel
  rw [built] at refused
  cases refused

end Simulation

end Autoscaler
