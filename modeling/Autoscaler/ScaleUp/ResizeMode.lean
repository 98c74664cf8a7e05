import Autoscaler.Resources

/-!
# From an estimate to a size
-/

namespace Autoscaler

/-- How an estimate becomes the size of a group. -/
inductive ResizeMode where
  /-- The estimate is the new size. -/
  | absolute
  /-- The estimate is added to the size. -/
  | increment
  deriving DecidableEq, Repr, Inhabited

namespace ResizeMode

def name : ResizeMode → String
  | absolute => "absolute"
  | increment => "increment"

/-- The name as messages show it. -/
def title : ResizeMode → String
  | absolute => "Absolute"
  | increment => "Increment"

def ofName? : String → Option ResizeMode
  | "absolute" => some absolute
  | "increment" => some increment
  | _ => none

/-- The size aimed at; a 32-bit word at most. -/
def target (mode : ResizeMode) (current estimate : Nat) : Nat :=
  match mode with
  | absolute => estimate
  | increment => min (current + estimate) (word32 - 1)

end ResizeMode

end Autoscaler
