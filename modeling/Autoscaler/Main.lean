import Autoscaler.CommandLine

/-!
# The program

Reads files and the clock, and prints what the command line comes to.
-/

namespace Autoscaler.Program

/-- Why a file cannot be read. -/
def reason : IO.Error → String
  | .noFileOrDirectory .. => "No such file or directory (os error 2)"
  | .permissionDenied .. => "Permission denied (os error 13)"
  | .inappropriateType .. => "Is a directory (os error 21)"
  | e => toString e

/-- The content of a file, which must be text. -/
def readText (path : String) : IO (Except String String) := do
  try
    match String.fromUTF8? (← IO.FS.readBinFile path) with
    | some text => return .ok text
    | none => return .error "stream did not contain valid UTF-8"
  catch e =>
    return .error (reason e)

/-- Sleeps for the whole milliseconds of a duration. -/
def sleep (d : Duration) : IO Unit := IO.sleep (UInt32.ofNat (d.nanos / 1000000))

/-- Runs a cycle after every interval, and refreshes every roster that is due. -/
partial def cycles (simulation : Simulation) (seen : Observation) (interval refresh : Duration)
    (sinceRefresh : Duration) : IO Unit := do
  let simulation := if refresh ≤ sinceRefresh then simulation.refresh else simulation
  let sinceRefresh := if refresh ≤ sinceRefresh then .zero else sinceRefresh
  sleep interval
  let (_, simulation) := simulation.poll seen
  cycles simulation seen interval refresh (sinceRefresh + interval)

def run (args : List String) : IO UInt32 := do
  match ← CommandLine.run readText args with
  | .ended ending =>
      IO.print ending.stdout
      IO.eprint ending.stderr
      return UInt32.ofNat ending.code
  | .forever simulation seen interval refresh =>
      cycles simulation seen interval refresh refresh
      return 0

end Autoscaler.Program

def main (args : List String) : IO UInt32 := Autoscaler.Program.run args
