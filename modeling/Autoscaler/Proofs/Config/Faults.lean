import Autoscaler.Proofs.Config.Validation

/-!
# What is wrong with a configuration

A configuration is sound if it has a provider, its two intervals are durations above zero, and each
provider has specifications that can be read, a project where one is needed, and durations that can
be read where there are any. Validation succeeds for these configurations and no others.

The faults are told in a fixed order: the intervals before the providers, the providers in their
order, and of one provider the specifications, the project, the pause between questions and the
time to wait. What validation reports is the first fault in this order: a fault is defined together
with the soundness of all that comes before it. A configuration is sound or has a fault, so it is
enough to follow validation on either.
-/

namespace Autoscaler

/-- The text writes a duration that is not zero. -/
def WritesPause (text : String) : Prop := ∃ d, Duration.parse text = .ok d ∧ d ≠ .zero

/-- The text of a field is no duration above zero, for this reason. -/
inductive PauseFault (field text : String) : ConfigError → Prop where
  | unreadable {e : FormatError} (unread : Duration.parse text = .error e) :
      PauseFault field text (.invalidField field e)
  | zero (read : Duration.parse text = .ok .zero) : PauseFault field text (.zeroDuration field)

/-- The number of the provider that an error is about, if it tells one. -/
def ConfigError.index? : ConfigError → Option Nat
  | .provider index .. => some index
  | .missingField index .. => some index
  | _ => none

namespace ProviderConfig

/-- Every specification can be read. -/
def Specified (specs : List String) : Prop :=
  ∀ spec ∈ specs, ∃ parsed, GroupSpec.parse spec = .ok parsed

/-- The first specification that cannot be read has this error. -/
def FirstMalformed (specs : List String) (e : FormatError) : Prop :=
  ∃ before spec after, specs = before ++ spec :: after ∧ Specified before ∧
    GroupSpec.parse spec = .error e

/-- Nothing is wrong with the provider. -/
structure Sound (p : ProviderConfig) : Prop where
  specs : Specified p.nodeGroups
  project : p.kind = .gce → p.project ≠ none
  poll : ∀ text ∈ p.pollInterval, WritesPause text
  wait : ∀ text ∈ p.waitTimeout, ∃ d, Duration.parse text = .ok d

/-- What is wrong first with the provider that has number `index`. -/
inductive Fault (index : Nat) (p : ProviderConfig) : ConfigError → Prop where
  | spec {e : FormatError} (first : FirstMalformed p.nodeGroups e) :
      Fault index p (.provider index p.kind e)
  | project (specs : Specified p.nodeGroups) (kind : p.kind = .gce) (missing : p.project = none) :
      Fault index p (.missingField index p.kind "project")
  | poll {text : String} {e : ConfigError} (specs : Specified p.nodeGroups)
      (project : p.kind = .gce → p.project ≠ none) (there : p.pollInterval = some text)
      (fault : PauseFault "operation_poll_interval" text e) : Fault index p e
  | wait {text : String} {e : FormatError} (specs : Specified p.nodeGroups)
      (project : p.kind = .gce → p.project ≠ none)
      (poll : ∀ text ∈ p.pollInterval, WritesPause text) (there : p.waitTimeout = some text)
      (unread : Duration.parse text = .error e) :
      Fault index p (.invalidField "operation_wait_timeout" e)

end ProviderConfig

namespace Config

/-- Nothing is wrong with the configuration. -/
structure Sound (c : Config) : Prop where
  nonempty : c.providers ≠ []
  interval : WritesPause c.interval
  refresh : WritesPause c.refreshInterval
  providers : ∀ p ∈ c.providers, p.Sound

/-- What is wrong first with the configuration. -/
inductive Fault (c : Config) : ConfigError → Prop where
  | noProviders (empty : c.providers = []) : Fault c .noProviders
  | interval {e : ConfigError} (nonempty : c.providers ≠ [])
      (fault : PauseFault "scale_up.interval" c.interval e) : Fault c e
  | refresh {e : ConfigError} (nonempty : c.providers ≠ []) (interval : WritesPause c.interval)
      (fault : PauseFault "cache.refresh_interval" c.refreshInterval e) : Fault c e
  | provider {before after : List ProviderConfig} {p : ProviderConfig} {e : ConfigError}
      (interval : WritesPause c.interval) (refresh : WritesPause c.refreshInterval)
      (first : c.providers = before ++ p :: after) (sound : ∀ q ∈ before, q.Sound)
      (fault : p.Fault before.length e) : Fault c e

end Config

variable {field text : String} {e : ConfigError} {d : Duration}

/-! ## Durations in fields -/

theorem writesPause_or_fault (field text : String) :
    WritesPause text ∨ ∃ e, PauseFault field text e := by
  cases read : Duration.parse text with
  | error e => exact .inr ⟨_, .unreadable read⟩
  | ok d =>
      by_cases zero : d = .zero
      · subst zero
        exact .inr ⟨_, .zero read⟩
      · exact .inl ⟨d, read, zero⟩

theorem pauses_or_fault (field : String) (text? : Option String) :
    (∀ text ∈ text?, WritesPause text) ∨ ∃ text e, text? = some text ∧ PauseFault field text e := by
  cases text? with
  | none => exact .inl (by simp)
  | some text =>
      obtain writes | ⟨e, fault⟩ := writesPause_or_fault field text
      · exact .inl (by simpa using writes)
      · exact .inr ⟨text, e, rfl, fault⟩

theorem durations_or_error (text? : Option String) :
    (∀ text ∈ text?, ∃ d, Duration.parse text = .ok d) ∨
      ∃ text e, text? = some text ∧ Duration.parse text = .error e := by
  cases text? with
  | none => exact .inl (by simp)
  | some text =>
      cases read : Duration.parse text with
      | error e => exact .inr ⟨text, e, rfl, read⟩
      | ok d => exact .inl (by simp [read])

theorem readField_ok (read : Duration.parse text = .ok d) : readField field text = .ok d := by
  rw [readField, read]
  rfl

theorem readField_error {e : FormatError} (unread : Duration.parse text = .error e) :
    readField field text = .error (.invalidField field e) := by
  rw [readField, unread]
  rfl

/-- Where a duration above zero is written, the checks behind it decide. -/
theorem WritesPause.run {α : Type} (writes : WritesPause text) (field : String)
    (next : Unit → Except ConfigError α) :
    (readField field text >>= fun d => positive field d >>= next) = next () := by
  obtain ⟨d, read, some_time⟩ := writes
  have passes : positive field d = .ok () := (positive_eq_ok_iff field d).mpr some_time
  rw [readField_ok read]
  show positive field d >>= next = next ()
  rw [passes]
  rfl

theorem PauseFault.run {α : Type} (fault : PauseFault field text e)
    (next : Unit → Except ConfigError α) :
    (readField field text >>= fun d => positive field d >>= next) = .error e := by
  cases fault with
  | unreadable unread =>
      rw [readField_error unread]
      rfl
  | zero read =>
      rw [readField_ok read]
      rfl

namespace ProviderConfig

variable {p : ProviderConfig} {index : Nat} {kind : ProviderKind} {specs : List String}
  {providers before after : List ProviderConfig}

/-! ## Providers -/

theorem specified_or_malformed (specs : List String) :
    Specified specs ∨ ∃ e, FirstMalformed specs e := by
  induction specs with
  | nil => exact .inl (by simp [Specified])
  | cons spec specs ih =>
      cases read : GroupSpec.parse spec with
      | error e => exact .inr ⟨e, [], spec, specs, rfl, by simp [Specified], read⟩
      | ok parsed =>
          obtain specified | ⟨e, before, other, after, rfl, earlier, unread⟩ := ih
          · exact .inl (List.forall_mem_cons.mpr ⟨⟨parsed, read⟩, specified⟩)
          · exact .inr ⟨e, spec :: before, other, after, rfl,
              List.forall_mem_cons.mpr ⟨⟨parsed, read⟩, earlier⟩, unread⟩

theorem checkSpecs_of_malformed {e : FormatError} (first : FirstMalformed specs e) :
    checkSpecs index kind specs = .error (.provider index kind e) := by
  obtain ⟨before, spec, after, rfl, earlier, unread⟩ := first
  induction before with
  | nil => rw [List.nil_append, checkSpecs, unread]
  | cons other before ih =>
      obtain ⟨⟨parsed, read⟩, earlier⟩ := List.forall_mem_cons.mp earlier
      rw [List.cons_append, checkSpecs, read]
      exact ih earlier

/-- A provider with specifications that can be read, and a project if it needs one, is judged by its
durations. -/
theorem validate_of_specified (specified : Specified p.nodeGroups)
    (project : p.kind = .gce → p.project ≠ none) :
    p.validate index =
      match p.pollInterval with
      | none => p.readWaitTimeout >>= fun _ => .ok ()
      | some text =>
          readField "operation_poll_interval" text >>= fun d =>
            positive "operation_poll_interval" d >>= fun _ =>
              p.readWaitTimeout >>= fun _ => .ok () := by
  have owned : ¬ (p.kind = .gce ∧ p.project = none) := fun ⟨kind, missing⟩ => project kind missing
  rw [validate, (checkSpecs_eq_ok_iff _).mpr specified]
  simp only [owned, ↓reduceIte, readPollInterval]
  cases p.pollInterval with
  | none => rfl
  | some text =>
      dsimp only
      rw [readOptionalField]
      cases readField "operation_poll_interval" text <;> rfl

theorem validate_of_fault (fault : p.Fault index e) : p.validate index = .error e := by
  cases fault with
  | spec first =>
      rw [validate, checkSpecs_of_malformed first]
      rfl
  | project specs kind missing =>
      rw [validate, (checkSpecs_eq_ok_iff _).mpr specs]
      simp only [kind, missing, and_self, ↓reduceIte]
      rfl
  | poll specs project there fault =>
      rw [validate_of_specified specs project, there]
      exact fault.run _
  | @wait text e specs project poll there unread =>
      have late : p.readWaitTimeout >>= (fun _ => .ok ()) =
          (.error (.invalidField "operation_wait_timeout" e) : Except ConfigError Unit) := by
        rw [readWaitTimeout, there, readOptionalField, readField_error unread]
        rfl
      rw [validate_of_specified specs project]
      split
      · exact late
      · next text there' => rw [(poll text there').run, late]

/-- A sound provider passes all that is checked of one. -/
theorem Sound.valid (sound : p.Sound) : p.Valid where
  specs := sound.specs
  project := sound.project
  poll := by
    rw [readPollInterval]
    cases there : p.pollInterval with
    | none => exact ⟨none, rfl, by simp⟩
    | some text =>
        obtain ⟨d, read, some_time⟩ := sound.poll text there
        refine ⟨some d, ?_, by simpa using some_time⟩
        rw [readOptionalField, readField_ok read]
        rfl
  wait := by
    rw [readWaitTimeout]
    cases there : p.waitTimeout with
    | none => exact ⟨none, rfl⟩
    | some text =>
        obtain ⟨d, read⟩ := sound.wait text there
        refine ⟨some d, ?_⟩
        rw [readOptionalField, readField_ok read]
        rfl

theorem validate_of_sound (sound : p.Sound) : p.validate index = .ok () :=
  (validate_eq_ok_iff index).mpr sound.valid

theorem sound_or_fault (index : Nat) (p : ProviderConfig) : p.Sound ∨ ∃ e, p.Fault index e := by
  obtain specs | ⟨e, first⟩ := specified_or_malformed p.nodeGroups
  · by_cases project : p.kind = .gce ∧ p.project = none
    · exact .inr ⟨_, .project specs project.1 project.2⟩
    have project : p.kind = .gce → p.project ≠ none := fun kind missing => project ⟨kind, missing⟩
    obtain poll | ⟨text, e, there, fault⟩ :=
      pauses_or_fault "operation_poll_interval" p.pollInterval
    · obtain wait | ⟨text, e, there, unread⟩ := durations_or_error p.waitTimeout
      · exact .inl ⟨specs, project, poll, wait⟩
      · exact .inr ⟨_, .wait specs project poll there unread⟩
    · exact .inr ⟨e, .poll specs project there fault⟩
  · exact .inr ⟨_, .spec first⟩

theorem validateAll_of_fault (sound : ∀ q ∈ before, q.Sound)
    (fault : p.Fault (index + before.length) e) :
    validateAll index (before ++ p :: after) = .error e := by
  induction before generalizing index with
  | nil =>
      rw [List.length_nil, Nat.add_zero] at fault
      rw [List.nil_append, validateAll, validate_of_fault fault]
      rfl
  | cons q before ih =>
      obtain ⟨here, others⟩ := List.forall_mem_cons.mp sound
      rw [List.length_cons, Nat.add_comm before.length, ← Nat.add_assoc] at fault
      rw [List.cons_append, validateAll, validate_of_sound here]
      exact ih others fault

/-- All providers are sound, or there is a first one with a fault. -/
theorem allSound_or_fault (index : Nat) (providers : List ProviderConfig) :
    (∀ p ∈ providers, p.Sound) ∨ ∃ before p after e, providers = before ++ p :: after ∧
      (∀ q ∈ before, q.Sound) ∧ p.Fault (index + before.length) e := by
  induction providers generalizing index with
  | nil => exact .inl (by simp)
  | cons p providers ih =>
      obtain here | ⟨e, fault⟩ := sound_or_fault index p
      · obtain others | ⟨before, q, after, e, rfl, sound, fault⟩ := ih (index + 1)
        · exact .inl (List.forall_mem_cons.mpr ⟨here, others⟩)
        · refine .inr ⟨p :: before, q, after, e, rfl, List.forall_mem_cons.mpr ⟨here, sound⟩, ?_⟩
          rwa [List.length_cons, Nat.add_comm before.length, ← Nat.add_assoc]
      · exact .inr ⟨[], p, providers, e, rfl, by simp, fault⟩

end ProviderConfig

/-! ## Configurations -/

namespace Config

open ProviderConfig (FirstMalformed)

variable {c : Config}

theorem sound_or_fault (c : Config) : c.Sound ∨ ∃ e, c.Fault e := by
  by_cases empty : c.providers = []
  · exact .inr ⟨_, .noProviders empty⟩
  obtain interval | ⟨e, fault⟩ := writesPause_or_fault "scale_up.interval" c.interval
  · obtain refresh | ⟨e, fault⟩ := writesPause_or_fault "cache.refresh_interval" c.refreshInterval
    · obtain sound | ⟨before, p, after, e, first, sound, fault⟩ :=
        ProviderConfig.allSound_or_fault 0 c.providers
      · exact .inl ⟨empty, interval, refresh, sound⟩
      · exact .inr ⟨e, .provider interval refresh first sound (by rwa [Nat.zero_add] at fault)⟩
    · exact .inr ⟨e, .refresh empty interval fault⟩
  · exact .inr ⟨e, .interval empty fault⟩

/-- A configuration with providers is judged by its intervals and then by its providers. -/
theorem validate_of_nonempty (nonempty : c.providers ≠ []) :
    c.validate =
      readField "scale_up.interval" c.interval >>= fun d =>
        positive "scale_up.interval" d >>= fun _ =>
          readField "cache.refresh_interval" c.refreshInterval >>= fun d =>
            positive "cache.refresh_interval" d >>= fun _ =>
              ProviderConfig.validateAll 0 c.providers := by
  rw [validate]
  simp only [nonempty, ↓reduceIte]
  rfl

theorem validate_of_sound (sound : c.Sound) : c.validate = .ok () := by
  obtain ⟨nonempty, interval, refresh, sound⟩ := sound
  rw [validate_of_nonempty nonempty, interval.run, refresh.run,
    ProviderConfig.validateAll_eq_ok_iff]
  exact fun p inside => (sound p inside).valid

theorem validate_of_fault (fault : c.Fault e) : c.validate = .error e := by
  cases fault with
  | noProviders empty =>
      rw [validate]
      simp only [empty, ↓reduceIte]
      rfl
  | interval nonempty fault => rw [validate_of_nonempty nonempty, fault.run]
  | refresh nonempty interval fault =>
      rw [validate_of_nonempty nonempty, interval.run, fault.run]
  | @provider before after p _ interval refresh first sound fault =>
      have nonempty : c.providers ≠ [] := by simp [first]
      rw [validate_of_nonempty nonempty, interval.run, refresh.run, first]
      exact ProviderConfig.validateAll_of_fault sound (by rwa [Nat.zero_add])

/-- The provider that an error tells is the first with a fault, and a malformed specification is
the first of that provider. -/
theorem Fault.of_index? {index : Nat} (fault : c.Fault e) (told : e.index? = some index) :
    ∃ before p after, c.providers = before ++ p :: after ∧ before.length = index ∧
      (∀ q ∈ before, q.Sound) ∧
      ∀ kind source, e = .provider index kind source →
        kind = p.kind ∧ FirstMalformed p.nodeGroups source := by
  have pauses {field text : String} (fault : PauseFault field text e) : e.index? = none := by
    cases fault <;> rfl
  cases fault with
  | noProviders => cases told
  | interval _ fault => cases (pauses fault).symm.trans told
  | refresh _ _ fault => cases (pauses fault).symm.trans told
  | @provider before after p _ _ _ first sound fault =>
      cases fault with
      | spec malformed =>
          cases told
          refine ⟨before, p, after, first, rfl, sound, ?_⟩
          rintro _ _ ⟨⟩
          exact ⟨rfl, malformed⟩
      | project =>
          cases told
          exact ⟨before, p, after, first, rfl, sound, nofun⟩
      | poll _ _ _ fault => cases (pauses fault).symm.trans told
      | wait => cases told

/-- Validation succeeds exactly for sound configurations, and otherwise reports exactly the first
fault. If the error tells a provider, all before it are sound, and the source of a malformed
specification is the error of the first one of that provider. After a success all durations can be
read. -/
theorem validate_firstFault (c : Config) :
    (c.validate = .ok () ↔ c.Sound) ∧
      (∀ e, c.validate = .error e ↔ c.Fault e) ∧
      (∀ e index, c.validate = .error e → e.index? = some index →
        ∃ before p after, c.providers = before ++ p :: after ∧ before.length = index ∧
          (∀ q ∈ before, q.Sound) ∧
          ∀ kind source, e = .provider index kind source →
            kind = p.kind ∧ FirstMalformed p.nodeGroups source) ∧
      (c.validate = .ok () →
        (∃ d, c.readInterval = .ok d) ∧ (∃ d, c.readRefreshInterval = .ok d) ∧
          ∀ p ∈ c.providers, (∃ pause, p.readPollInterval = .ok pause) ∧
            ∃ timeout, p.readWaitTimeout = .ok timeout) := by
  have sound_of_ok (passed : c.validate = .ok ()) : c.Sound := by
    obtain sound | ⟨e, fault⟩ := sound_or_fault c
    · exact sound
    · cases (validate_of_fault fault).symm.trans passed
  have fault_of_error {e : ConfigError} (failed : c.validate = .error e) : c.Fault e := by
    obtain sound | ⟨e', fault⟩ := sound_or_fault c
    · cases (validate_of_sound sound).symm.trans failed
    · cases (validate_of_fault fault).symm.trans failed
      exact fault
  refine ⟨⟨sound_of_ok, validate_of_sound⟩, fun e => ⟨fault_of_error, validate_of_fault⟩, ?_, ?_⟩
  · intro e index failed told
    exact (fault_of_error failed).of_index? told
  · intro passed
    obtain ⟨-, ⟨d, interval, -⟩, ⟨d', refresh, -⟩, sound⟩ := sound_of_ok passed
    refine ⟨⟨d, readField_ok interval⟩, ⟨d', readField_ok refresh⟩, fun p inside => ?_⟩
    obtain ⟨-, -, ⟨pause, poll, -⟩, wait⟩ := (sound p inside).valid
    exact ⟨⟨pause, poll⟩, wait⟩

end Config

end Autoscaler
