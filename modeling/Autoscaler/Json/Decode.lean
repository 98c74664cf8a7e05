import Autoscaler.Json.Basic

/-!
# Records in JSON

A record is written as an object, or as an array of its fields in their order.
In an object a known field may stand once and unknown fields are ignored; in an
array there are no unknown fields, and only fields at the end may be left out.
-/

namespace Autoscaler.Json

/-- The values of the fields `names`, in that order; `none` for a field left out. -/
def slots (names : List String) : Json → Option (List (Option Json))
  | .arr items =>
      if items.length ≤ names.length then
        some (items.map some ++ List.replicate (names.length - items.length) none)
      else none
  | .obj fields =>
      if fields.all (·.1.isSome)
          && names.all fun name => (fields.filter (·.1 == some name)).length ≤ 1 then
        some (names.map fun name => (fields.find? (·.1 == some name)).map (·.2))
      else none
  | _ => none

/-- A field that must be there. -/
def required (decode : Json → Option α) (slot : Option Json) : Option α :=
  slot.bind decode

/-- A field that may be left out. -/
def optional (default : α) (decode : Json → Option α) : Option Json → Option α
  | none => some default
  | some json => decode json

/-- A natural number below `bound`. -/
def natBelow (bound : Nat) (json : Json) : Option Nat :=
  json.nat?.filter (· < bound)

def list (decode : Json → Option α) : Json → Option (List α)
  | .arr items => items.mapM decode
  | _ => none

/-- The fields of an object whose values and names are all texts. -/
def textFields : Json → Option (List (String × String))
  | .obj fields => fields.mapM fun (name, value) => do some (← name, ← value.string?)
  | _ => none

/-- The name of a variant without fields: by itself, or as the only field of an object, with
the value `null`. -/
def variant? : Json → Option String
  | .str text => text
  | .obj [(name, .null)] => name
  | _ => none

end Autoscaler.Json
