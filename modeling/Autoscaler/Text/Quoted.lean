import Autoscaler.Text.Unmarked

/-!
# Quoted text

A text between double quotes in which quotes, backslashes and characters without a mark
of their own are written as escapes.
-/

namespace Autoscaler.Text

/-- The hexadecimal digits of a number, in lower case and without leading zeros. -/
def hexCode (n : Nat) : String := String.ofList (Nat.toDigits 16 n)

/-- A character as it stands between quotes. -/
def escaped (c : Char) : String :=
  match c with
  | '\x00' => "\\0"
  | '\t' => "\\t"
  | '\n' => "\\n"
  | '\r' => "\\r"
  | '\\' => "\\\\"
  | '"' => "\\\""
  | c => if isUnmarked c then "\\u\x7b" ++ hexCode c.toNat ++ "\x7d" else c.toString

def quoted (s : String) : String :=
  "\"" ++ String.join (s.toList.map escaped) ++ "\""

end Autoscaler.Text
