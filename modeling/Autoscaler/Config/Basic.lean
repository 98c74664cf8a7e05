import Autoscaler.Duration
import Autoscaler.Failure
import Autoscaler.GroupSpec
import Autoscaler.ScaleUp.ResizeMode
import Autoscaler.ScaleUp.Strategy

/-!
# Configurations

A configuration says how often to look for pods without a place, how to choose a group
and set its size, how often to refresh rosters, and which groups there are. It keeps
durations and group specifications as they are written; `validate` checks all that can be
checked without asking a cloud, and one malformed entry rejects the whole.
-/

namespace Autoscaler

inductive ProviderKind where
  | aws
  | gce
  deriving DecidableEq, Repr

namespace ProviderKind

def name : ProviderKind → String
  | aws => "aws"
  | gce => "gce"

def ofName? : String → Option ProviderKind
  | "aws" => some aws
  | "gce" => some gce
  | _ => none

end ProviderKind

structure ProviderConfig where
  kind : ProviderKind
  /-- The project that owns the groups of a `gce` provider. -/
  project : Option String := none
  nodeGroups : List String := []
  /-- The pause between two questions about an operation. -/
  pollInterval : Option String := none
  /-- How long to wait for an operation. -/
  waitTimeout : Option String := none
  deriving DecidableEq, Repr

structure Config where
  /-- The pause between two scale-up cycles. -/
  interval : String := "10s"
  strategy : Strategy := .first
  mode : ResizeMode := .absolute
  /-- The pause between two refreshes of a roster. -/
  refreshInterval : String := "1h"
  providers : List ProviderConfig := []
  deriving DecidableEq, Repr

/-- What is wrong with a configuration. -/
inductive ConfigError where
  | unreadable (reason : String)
  | malformed
  | provider (index : Nat) (kind : ProviderKind) (source : FormatError)
  | missingField (index : Nat) (kind : ProviderKind) (field : String)
  | invalidField (field : String) (source : FormatError)
  | zeroDuration (field : String)
  | noProviders
  deriving DecidableEq, Repr

namespace ConfigError

/-- The error that caused this one. -/
def source? : ConfigError → Option String
  | unreadable reason => some reason
  | malformed => some "not a configuration"
  | provider _ _ source => some source.message
  | invalidField _ source => some source.message
  | _ => none

def message : ConfigError → String
  | unreadable reason => s!"failed to read config: {reason}"
  | malformed => "failed to parse config: not a configuration"
  | provider index kind source => s!"provider #{index} ({kind.name}): {source.message}"
  | missingField index kind field =>
      s!"provider #{index} ({kind.name}) is missing required field \x60{field}\x60"
  | invalidField field source => s!"invalid \x60{field}\x60: {source.message}"
  | zeroDuration field => s!"\x60{field}\x60 must be greater than zero"
  | noProviders => "no providers configured"

def failure (e : ConfigError) : Failure := ⟨e.message, e.source?.toList⟩

end ConfigError

/-- The duration in a field. -/
def readField (field text : String) : Except ConfigError Duration :=
  (Duration.parse text).mapError (.invalidField field)

/-- The duration in a field that may be absent. -/
def readOptionalField (field : String) : Option String → Except ConfigError (Option Duration)
  | none => .ok none
  | some text => (readField field text).map some

/-- Refuses a duration of zero. -/
def positive (field : String) (d : Duration) : Except ConfigError Unit :=
  if d = .zero then .error (.zeroDuration field) else .ok ()

namespace ProviderConfig

def readPollInterval (p : ProviderConfig) : Except ConfigError (Option Duration) :=
  readOptionalField "operation_poll_interval" p.pollInterval

def readWaitTimeout (p : ProviderConfig) : Except ConfigError (Option Duration) :=
  readOptionalField "operation_wait_timeout" p.waitTimeout

/-- Checks specifications in order. -/
def checkSpecs (index : Nat) (kind : ProviderKind) : List String → Except ConfigError Unit
  | [] => .ok ()
  | spec :: specs =>
      match GroupSpec.parse spec with
      | .error e => .error (.provider index kind e)
      | .ok _ => checkSpecs index kind specs

/-- Checks the provider with number `index`. -/
def validate (index : Nat) (p : ProviderConfig) : Except ConfigError Unit := do
  checkSpecs index p.kind p.nodeGroups
  if p.kind = .gce ∧ p.project = none then
    throw (.missingField index p.kind "project")
  match ← p.readPollInterval with
  | some d => positive "operation_poll_interval" d
  | none => pure ()
  let _ ← p.readWaitTimeout

/-- Checks providers in order; the first one has number `index`. -/
def validateAll (index : Nat) : List ProviderConfig → Except ConfigError Unit
  | [] => .ok ()
  | p :: providers => do
      p.validate index
      validateAll (index + 1) providers

end ProviderConfig

namespace Config

def readInterval (c : Config) : Except ConfigError Duration :=
  readField "scale_up.interval" c.interval

def readRefreshInterval (c : Config) : Except ConfigError Duration :=
  readField "cache.refresh_interval" c.refreshInterval

/-- Checks all that needs no cloud, and reports the first fault. -/
def validate (c : Config) : Except ConfigError Unit := do
  if c.providers = [] then
    throw .noProviders
  positive "scale_up.interval" (← c.readInterval)
  positive "cache.refresh_interval" (← c.readRefreshInterval)
  ProviderConfig.validateAll 0 c.providers

end Config

end Autoscaler
