import Autoscaler.Toml.Value

/-!
# Records in TOML

How values are read as data is no matter of TOML itself. A record is written as a table, or as
an array of its fields in their order. Unknown fields and further items are ignored. A date
stands for a record without any field. A variant is written as its name, or as a table with
nothing at that name.
-/

namespace Autoscaler.Toml

/-- The value at a key. -/
def lookup (key : String) (entries : List (String × Value)) : Option Value :=
  (entries.find? fun e => e.1 = key).map (·.2)

namespace Value

/-- The values of the fields `names`, in that order; `none` for a field left out. An array
has at least `least` items. -/
def slots (names : List String) (least : Nat) : Value → Option (List (Option Value))
  | table entries => some (names.map fun name => lookup name entries)
  | array items =>
      if least ≤ items.length then
        some ((items.map some ++ List.replicate names.length none).take names.length)
      else none
  | dateTime _ => some (names.map fun _ => none)
  | _ => none

def text? : Value → Option String
  | text s => some s
  | _ => none

def list? (decode : Value → Option α) : Value → Option (List α)
  | array items => items.mapM decode
  | _ => none

/-- The name of a variant without fields: by itself, or as the only key of a table, with
nothing in its value. -/
def variant? : Value → Option String
  | text s => some s
  | table [(name, table [])] => some name
  | table [(name, array [])] => some name
  | _ => none

/-- A field that may be left out. -/
def optional (default : α) (decode : Value → Option α) : Option Value → Option α
  | none => some default
  | some v => decode v

end Value

end Autoscaler.Toml
