/-!
# Choosing between options

Options come in the order of discovery, each with the number of pods it would help. An
option that helps no pod is never chosen.
-/

namespace Autoscaler

inductive Strategy where
  /-- The first option. -/
  | first
  /-- The option that helps most pods; of equals the earlier. -/
  | mostPods
  deriving DecidableEq, Repr, Inhabited

namespace Strategy

def name : Strategy → String
  | first => "first"
  | mostPods => "most-pods"

/-- The name as messages show it. -/
def title : Strategy → String
  | first => "First"
  | mostPods => "MostPods"

def ofName? : String → Option Strategy
  | "first" => some first
  | "most-pods" => some mostPods
  | _ => none

/-- Keeps `best` unless `option` helps more pods. -/
def better (helps : α → Nat) (best : Option α) (option : α) : Option α :=
  match best with
  | none => some option
  | some current => if helps option ≤ helps current then some current else some option

/-- The chosen option; `helps` counts the pods of one. -/
def choose? (helps : α → Nat) : Strategy → List α → Option α
  | first, options => options.find? fun o => 0 < helps o
  | mostPods, options => (options.filter fun o => 0 < helps o).foldl (better helps) none

end Strategy

end Autoscaler
