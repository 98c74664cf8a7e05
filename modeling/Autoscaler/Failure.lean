/-!
# Reports of failures

A failure is told as a message and the chain of its causes, the nearest first.
-/

namespace Autoscaler

structure Failure where
  message : String
  causes : List String := []
  deriving DecidableEq, Repr

namespace Failure

/-- The failure as the cause of a wider one. -/
def within (context : String) (f : Failure) : Failure where
  message := context
  causes := f.message :: f.causes

/-- The lines of one cause; every line after the first is indented by `indent`. -/
def indentLines (indent : Nat) (text : String) : String :=
  let margin := List.replicate indent ' '
  String.ofList (text.toList.flatMap fun c => if c = '\n' then '\n' :: margin else [c])

/-- The causes in order with their numbers. -/
def numbered (start : Nat) : List String → String
  | [] => ""
  | cause :: causes =>
      s!"    {start}: {indentLines 7 cause}\n" ++ numbered (start + 1) causes

/-- The text that a program shows before it ends. A single cause has no number. -/
def report (f : Failure) : String :=
  s!"Error: {f.message}\n" ++
    match f.causes with
    | [] => ""
    | [cause] => s!"\nCaused by:\n    {indentLines 4 cause}\n"
    | causes => "\nCaused by:\n" ++ numbered 0 causes

end Failure

end Autoscaler
