import Autoscaler.Config.Document
import Autoscaler.Json.Printer
import Autoscaler.Simulation

/-!
# The command line

Two commands: one checks a configuration and summarises it, the other tries it out on a
snapshot for one cycle, or cycle after cycle without an end. Arguments are read from left
to right, and the first that cannot be right ends the reading.
-/

namespace Autoscaler.CommandLine

inductive Command where
  | help
  | checkConfig (config : String)
  | simulate (config snapshot : String) (forever : Bool)
  deriving DecidableEq, Repr

/-- What has been read of the arguments of one command. -/
structure Given where
  config : Option String := none
  snapshot : Option String := none
  forever : Bool := false
  jsonLogs : Bool := false

/-- The name of the configuration if none is given. -/
def defaultConfig : String := "nodescale.toml"

/-- The commands. -/
inductive Name where
  | checkConfig
  | simulate
  deriving DecidableEq, Repr

def Name.ofString? : String → Option Name
  | "check-config" => some checkConfig
  | "simulate" => some simulate
  | _ => none

/-- What a command is once all its arguments are read. -/
def Given.command? (given : Given) : Name → Option Command
  | .checkConfig => some (.checkConfig (given.config.getD defaultConfig))
  | .simulate =>
      given.snapshot.map fun snapshot =>
        .simulate (given.config.getD defaultConfig) snapshot given.forever

/-- Whether an argument asks for help. -/
def asksHelp (arg : String) : Bool := arg = "--help" || "-h".isPrefixOf arg

/-- An argument that may be the value of the option in front of it. -/
def isValue (arg : String) : Bool := arg = "-" || !(arg.isEmpty || "-".isPrefixOf arg)

/-- Keeps the value of an option that has none yet. -/
def Given.take? (given : Given) (command : Name) (option value : String) : Option Given :=
  if option = "--config" ∧ given.config = none then some { given with config := some value }
  else if option = "--snapshot" ∧ command = .simulate ∧ given.snapshot = none then
    some { given with snapshot := some value }
  else none

/-- Keeps a flag that is not set yet. -/
def Given.flag? (given : Given) (command : Name) (flag : String) : Option Given :=
  if flag = "--json-logs" ∧ !given.jsonLogs then some { given with jsonLogs := true }
  else if flag = "--loop" ∧ command = .simulate ∧ !given.forever then
    some { given with forever := true }
  else none

/-- An option and its value in one argument. -/
def assignment? (arg : String) : Option (String × String) :=
  match Text.cut? '=' arg.toList with
  | some (option, value) =>
      if value = [] then none else some (String.ofList option, String.ofList value)
  | none => none

/-- Reads the arguments of a command. -/
def readGiven (command : Name) : List String → Given → Option Command
  | [], given => given.command? command
  | ["--"], given => given.command? command
  | arg :: args, given =>
      if asksHelp arg then some .help
      else
        match given.flag? command arg with
        | some given => readGiven command args given
        | none =>
            match assignment? arg with
            | some (option, value) =>
                match given.take? command option value with
                | some given => readGiven command args given
                | none => none
            | none =>
                match args with
                | [] => none
                | value :: args =>
                    if isValue value then
                      match given.take? command arg value with
                      | some given => readGiven command args given
                      | none => none
                    else none

/-- Reads all arguments. The flag for logs may stand in front of the command and again
behind it. -/
def readArgs : (jsonLogs : Bool) → List String → Option Command
  | _, [] => none
  | jsonLogs, arg :: args =>
      if asksHelp arg then some .help
      else if arg = "--json-logs" then if jsonLogs then none else readArgs true args
      else if arg = "help" then
        match args with
        | [] => some .help
        | [name] => if name = "help" ∨ (Name.ofString? name).isSome then some .help else none
        | _ => none
      else
        match Name.ofString? arg with
        | some command => readGiven command args {}
        | none => none

/-- How a run of the program ends. -/
structure Ending where
  code : Nat
  stdout : String := ""
  stderr : String := ""
  deriving DecidableEq, Repr

/-- What a run comes to: an end, or cycles that go on. -/
inductive Run where
  | ended (ending : Ending)
  | forever (simulation : Simulation) (seen : Observation) (interval refresh : Duration)

def usage : String :=
  "usage: check-config [--config FILE] | simulate [--config FILE] --snapshot FILE [--loop]\n"

def Ending.ofFailure (f : Failure) : Ending := { code := 1, stderr := f.report }

/-- The line about the settings, and the groups of each provider. -/
def summary (c : Config) : Except ConfigError String := do
  let interval ← c.readInterval
  let refresh ← c.readRefreshInterval
  let settings :=
    s!"scale-up every {interval.text}, cache refresh every {refresh.text}, "
      ++ s!"expander {c.strategy.title}, resize mode {c.mode.title}\n"
  let providers := c.providers.map fun p =>
    s!"{p.kind.name}:\n" ++ String.join (p.nodeGroups.map fun group => s!"  {group}\n")
  return settings ++ String.join providers

/-- The configuration in a file that was read. -/
def readConfig (content : Except String String) : Except ConfigError Config :=
  match content with
  | .error reason => .error (.unreadable reason)
  | .ok text =>
      match Config.parse text with
      | none => .error .malformed
      | some c => .ok c

/-- The snapshot in a file that was read. -/
def readSnapshot (path : String) (content : Except String String) : Except Failure Snapshot :=
  match content with
  | .error reason => .error ⟨s!"reading snapshot {path}", [reason]⟩
  | .ok text =>
      match Snapshot.parse text with
      | none => .error ⟨s!"parsing snapshot {path}", ["not a snapshot"]⟩
      | some s => .ok s

def checkConfig (content : Except String String) : Ending :=
  let result : Except ConfigError String := do
    let c ← readConfig content
    c.validate
    summary c
  match result with
  | .ok text => { code := 0, stdout := text }
  | .error e => .ofFailure e.failure

/-- The outcome of one cycle and the clouds after it. -/
def showCycle (simulation : Simulation) (seen : Observation) : Ending :=
  match simulation.poll seen with
  | (.error f, _) => .ofFailure f
  | (.ok outcome, after) =>
      { code := 0
        stdout := outcome.toJson.pretty ++ "\n" ++ after.cloudState.toJson.pretty ++ "\n" }

def simulate (config : Config) (snapshot : Snapshot) (goesOn : Bool) : Run :=
  match Simulation.build config snapshot with
  | .error f => .ended (.ofFailure f)
  | .ok simulation =>
      let seen := Observation.ofView snapshot.view
      if goesOn then
        match config.readInterval, config.readRefreshInterval with
        | .ok interval, .ok refresh => .forever simulation seen interval refresh
        | .error e, _ => .ended (.ofFailure e.failure)
        | _, .error e => .ended (.ofFailure e.failure)
      else .ended (showCycle simulation seen)

/-- Runs the program; `read` gives the content of a file, or why there is none. -/
def run {m : Type → Type} [Monad m] (read : String → m (Except String String))
    (args : List String) : m Run := do
  match readArgs false args with
  | none => return .ended { code := 2, stderr := usage }
  | some .help => return .ended { code := 0, stdout := usage }
  | some (.checkConfig path) => return .ended (checkConfig (← read path))
  | some (.simulate configPath snapshotPath goesOn) =>
      match readConfig (← read configPath) with
      | .error e => return .ended (.ofFailure e.failure)
      | .ok config =>
          match readSnapshot snapshotPath (← read snapshotPath) with
          | .error f => return .ended (.ofFailure f)
          | .ok snapshot => return simulate config snapshot goesOn

end Autoscaler.CommandLine
