/-!
# Errors of written identifiers, specifications and durations
-/

namespace Autoscaler

/-- Why a piece of configuration or an identifier cannot be read. -/
inductive FormatError where
  /-- Not three fields with colons between them, or nothing in the third. -/
  | groupSpec (spec : String)
  | minSize (field : String)
  | minSizeTooSmall (size : Int)
  | maxSize (field : String)
  | maxBelowMin (min max : Nat)
  | providerId (expected got : String)
  | groupId (expected got : String)
  | duration (text : String)
  deriving DecidableEq, Repr

def FormatError.message : FormatError → String
  | groupSpec spec =>
      s!"wrong node group configuration: {spec}, expected minSize:maxSize:groupIdentifier"
  | minSize field => s!"failed to set min size: {field}, expected integer"
  | minSizeTooSmall size => s!"min size must be >= 1, got {size}"
  | maxSize field => s!"failed to set max size: {field}, expected integer"
  | maxBelowMin min max =>
      s!"max size must be greater or equal to min size (min {min}, max {max})"
  | providerId expected got => s!"wrong id: expected format {expected}, got {got}"
  | groupId expected got => s!"wrong group identifier: expected format {expected}, got {got}"
  | duration text => s!"invalid duration: {text}"

end Autoscaler
