import Autoscaler.Cloud.Action

/-!
# Waiting

Waiting for something that goes on elsewhere: ask how it stands, stop if it has ended,
give up if too much time has passed, pause and ask again. Asking comes before the clock,
so an end that was seen is never taken for a timeout.
-/

namespace Autoscaler

/-- Repeats `ask` until it gives a result or the time passed is at least `timeout`. Each
answer comes with the time passed since the beginning. After `budget` questions without an
end the result is `none`. -/
def awaitResult {σ α : Type} (ask : CloudM σ (Option α × Duration)) (pause : CloudM σ Unit)
    (timeout : Duration) (late : CloudError) : (budget : Nat) → CloudM σ (Option α)
  | 0 => return none
  | budget + 1 => do
      match ← ask with
      | (some a, _) => return some a
      | (none, passed) =>
          if timeout ≤ passed then throw late
          else
            pause
            awaitResult ask pause timeout late budget

end Autoscaler
