import Autoscaler.Text.Decimal

/-!
# JSON values

A number keeps its literal (sign, digits, scale) because integers must be told
apart from decimals, and a string literal may hold unpaired surrogate escapes, in
which case it denotes no text.
-/

namespace Autoscaler

/-- A number literal: `± mantissa * 10 ^ scale`. -/
structure Json.Number where
  negative : Bool
  mantissa : Nat
  scale : Int
  /-- Written without a fraction and without an exponent. -/
  isInteger : Bool
  deriving DecidableEq, Repr

inductive Json where
  | null
  | bool (value : Bool)
  | num (value : Json.Number)
  /-- A string; `none` if its literal has an unpaired surrogate escape. -/
  | str (text : Option String)
  | arr (items : List Json)
  | obj (fields : List (Option String × Json))
  deriving Inhabited, Repr

namespace Json

def ofNat (n : Nat) : Json := .num ⟨false, n, 0, true⟩

def ofString (s : String) : Json := .str (some s)

def ofFields (fields : List (String × Json)) : Json :=
  .obj (fields.map fun (name, value) => (some name, value))

def ofOption (encode : α → Json) : Option α → Json
  | none => .null
  | some a => encode a

/-- The natural number a literal denotes. A minus sign rules it out, also before zero. -/
def nat? : Json → Option Nat
  | .num ⟨false, n, _, true⟩ => some n
  | _ => none

/-- The integer a literal denotes. -/
def int? : Json → Option Int
  | .num ⟨false, n, _, true⟩ => some n
  | .num ⟨true, n, _, true⟩ => some (-(n : Int))
  | _ => none

def string? : Json → Option String
  | .str text => text
  | _ => none

def bool? : Json → Option Bool
  | .bool b => some b
  | _ => none

def array? : Json → Option (List Json)
  | .arr items => some items
  | _ => none

/-- The value of the last field called `name`. -/
def field? (name : String) : Json → Option Json
  | .obj fields => (fields.reverse.find? fun f => f.1 == some name).map (·.2)
  | _ => none

/-- Whether a number is beyond every finite 64-bit float. -/
def Number.overflows (n : Number) : Bool := (Text.Decimal.mk n.mantissa n.scale).overflowsQuickly

mutual

/-- Whether every string has a text and every number a finite float, and no more than
`depth` arrays and objects are nested. -/
def plain (depth : Nat) : Json → Bool
  | .null => true
  | .bool _ => true
  | .num n => !n.overflows
  | .str text => text.isSome
  | .arr items =>
      match depth with
      | 0 => false
      | depth + 1 => plainItems depth items
  | .obj fields =>
      match depth with
      | 0 => false
      | depth + 1 => plainFields depth fields

def plainItems (depth : Nat) : List Json → Bool
  | [] => true
  | item :: items => plain depth item && plainItems depth items

def plainFields (depth : Nat) : List (Option String × Json) → Bool
  | [] => true
  | (name, value) :: fields => name.isSome && plain depth value && plainFields depth fields

end

end Json

end Autoscaler
