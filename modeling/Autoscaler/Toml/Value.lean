/-!
# TOML values

The kinds of values that TOML 1.0 has. Numbers with a fraction or an exponent and dates
keep their text only, since no field of a configuration holds one.
-/

namespace Autoscaler.Toml

inductive Value where
  | text (s : String)
  | integer (n : Int)
  | float (literal : String)
  | boolean (b : Bool)
  | dateTime (literal : String)
  | array (items : List Value)
  | table (entries : List (String × Value))
  deriving Inhabited, Repr

end Autoscaler.Toml
