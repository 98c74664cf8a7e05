import Autoscaler.Text.Blank
import Autoscaler.Text.Numeral
import Autoscaler.FormatError

/-!
# Durations

A duration is a number of nanoseconds. Configurations write one as digits and a
unit (`250ms`, `30s`, `30`, `5m`, `1h`), with blanks around it at most; messages show
one in its largest unit that is not zero, with the rest as decimals.
-/

namespace Autoscaler

structure Duration where
  nanos : Nat
  deriving DecidableEq, Repr, Inhabited

namespace Duration

def ofMillis (n : Nat) : Duration := ⟨n * 1000000⟩

def ofSeconds (n : Nat) : Duration := ⟨n * 1000000000⟩

def zero : Duration := ⟨0⟩

/-- Whole seconds. -/
def seconds (d : Duration) : Nat := d.nanos / 1000000000

/-- Nanoseconds beyond the whole seconds. -/
def subsecond (d : Duration) : Nat := d.nanos % 1000000000

instance : Add Duration := ⟨fun a b => ⟨a.nanos + b.nanos⟩⟩

instance : LT Duration := ⟨fun a b => a.nanos < b.nanos⟩

instance : LE Duration := ⟨fun a b => a.nanos ≤ b.nanos⟩

instance (a b : Duration) : Decidable (a < b) := inferInstanceAs (Decidable (a.nanos < b.nanos))

instance (a b : Duration) : Decidable (a ≤ b) := inferInstanceAs (Decidable (a.nanos ≤ b.nanos))

/-- `n` seconds for a count that 64 bits can hold. -/
def ofWordSeconds? (n : Nat) : Option Duration :=
  if n < word64 then some (ofSeconds n) else none

/-- The duration of `n` units. -/
def ofUnit? (n : Nat) : List Char → Option Duration
  | ['m', 's'] => some (ofMillis n)
  | ['s'] => ofWordSeconds? n
  | [] => ofWordSeconds? n
  | ['m'] => ofWordSeconds? (n * 60)
  | ['h'] => ofWordSeconds? (n * 3600)
  | _ => none

/-- A duration without blanks around it. -/
def ofTrimmed? (cs : List Char) : Option Duration := do
  let n ← Text.word64? (cs.takeWhile Text.isDigit)
  ofUnit? n (cs.dropWhile Text.isDigit)

/-- The duration a text writes. The error carries the text without the blanks around it. -/
def parse (text : String) : Except FormatError Duration :=
  let cs := Text.trim text.toList
  match ofTrimmed? cs with
  | some d => .ok d
  | none => .error (.duration (String.ofList cs))

/-- `part` of a unit of `10 ^ places`, as decimals without zeros at the end. -/
def decimals (part places : Nat) : String :=
  let digits := (Nat.repr (Nat.pow 10 places + part)).toList.drop 1
  match (digits.reverse.dropWhile (· = '0')).reverse with
  | [] => ""
  | kept => "." ++ String.ofList kept

/-- The largest unit that is not zero, with decimals. -/
def text (d : Duration) : String :=
  let n := d.nanos
  if 1000000000 ≤ n then Nat.repr (n / 1000000000) ++ decimals (n % 1000000000) 9 ++ "s"
  else if 1000000 ≤ n then Nat.repr (n / 1000000) ++ decimals (n % 1000000) 6 ++ "ms"
  else if 1000 ≤ n then Nat.repr (n / 1000) ++ decimals (n % 1000) 3 ++ "µs"
  else Nat.repr n ++ "ns"

@[simp] theorem le_iff {a b : Duration} : a ≤ b ↔ a.nanos ≤ b.nanos := Iff.rfl

@[simp] theorem lt_iff {a b : Duration} : a < b ↔ a.nanos < b.nanos := Iff.rfl

@[simp] theorem add_nanos (a b : Duration) : (a + b).nanos = a.nanos + b.nanos := rfl

end Duration

end Autoscaler
