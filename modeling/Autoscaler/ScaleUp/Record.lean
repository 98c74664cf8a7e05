import Autoscaler.Json.Basic
import Autoscaler.ScaleUp.Cycle

/-!
# Outcomes and events in JSON
-/

namespace Autoscaler

/-- A list of texts. -/
def Json.ofStrings (texts : List String) : Json := .arr (texts.map .ofString)

def Outcome.toJson : Outcome → Json
  | noDecision unhelped =>
      .ofFields [("outcome", .ofString "no_decision"), ("unhelped", .ofStrings unhelped)]
  | scaledUp report =>
      .ofFields
        [("outcome", .ofString "scaled_up"), ("group", .ofString report.group),
          ("backend", .ofString report.backend), ("prior_size", .ofNat report.priorSize),
          ("new_size", .ofNat report.newSize), ("estimate", .ofNat report.estimate),
          ("triggering_pods", .ofStrings report.pods)]

def Event.toJson : Event → Json
  | triggered pod group currentSize newSize =>
      .ofFields
        [("kind", .ofString "triggered"), ("pod", .ofString pod), ("group", .ofString group),
          ("current_size", .ofNat currentSize), ("new_size", .ofNat newSize)]
  | notTriggered pod => .ofFields [("kind", .ofString "not_triggered"), ("pod", .ofString pod)]

end Autoscaler
