import Autoscaler.Text.Decimal
import Autoscaler.Text.Numeral
import Autoscaler.Toml.Text

/-!
# Numbers in TOML

The numbers of TOML 1.0. Underscores may stand between two digits. A whole number has no
leading zeros and fits a signed 64-bit word, the range that the specification asks for; it
may also be written in base 16, 8 or 2, without a sign. A number with a fraction or an
exponent that rounds to infinity is refused, if it is positive.
-/

namespace Autoscaler.Toml

open Text (isDigit value Decimal)

/-- The digits of a number without the underscores between them. -/
def ungroup (digit : Char → Bool) : List Char → Option (List Char)
  | [] => none
  | [c] => if digit c then some [c] else none
  | c :: '_' :: cs => if digit c then (ungroup digit cs).map (c :: ·) else none
  | c :: cs => if digit c then (ungroup digit cs).map (c :: ·) else none

/-- Digits without a leading zero, unless zero is all there is. -/
def wholeDigits? (cs : List Char) : Option (List Char) :=
  (ungroup isDigit cs).filter fun digits => digits.length = 1 ∨ digits.head? ≠ some '0'

/-- Whether there is a minus sign, and what follows the sign. -/
def takeSign : List Char → Bool × List Char
  | '+' :: cs => (false, cs)
  | '-' :: cs => (true, cs)
  | cs => (false, cs)

/-- A number in a base given by its digits. -/
def basedInteger? (base : Nat) (digit : Char → Bool) (cs : List Char) : Option Int := do
  let digits ← ungroup digit cs
  let n ← digits.foldlM (fun n c => return base * n + (← hexDigit? c)) 0
  if n < word63 then some n else none

def decimalInteger? (cs : List Char) : Option Int := do
  let (negative, cs) := takeSign cs
  let n := value (← wholeDigits? cs)
  if negative then if n ≤ word63 then some (-n) else none
  else if n < word63 then some n else none

def integer? : List Char → Option Int
  | '0' :: 'x' :: cs => basedInteger? 16 (fun c => (hexDigit? c).isSome) cs
  | '0' :: 'o' :: cs => basedInteger? 8 (fun c => '0' ≤ c && c ≤ '7') cs
  | '0' :: 'b' :: cs => basedInteger? 2 (fun c => c = '0' || c = '1') cs
  | cs => decimalInteger? cs

/-- The digits of an exponent and their sign. -/
def exponent? (cs : List Char) : Option Int := do
  let (negative, cs) := takeSign cs
  let n := value (← ungroup isDigit cs)
  some (if negative then -(n : Int) else n)

/-- What may stand behind the whole part of a number that is no integer: the digits of the
fraction, and the exponent. -/
def fraction? : List Char → Option (List Char × Int)
  | '.' :: cs =>
      let inFraction (c : Char) : Bool := isDigit c || c = '_'
      match cs.dropWhile inFraction with
      | [] => (ungroup isDigit (cs.takeWhile inFraction)).map fun digits => (digits, 0)
      | e :: rest =>
          if e = 'e' ∨ e = 'E' then do
            let digits ← ungroup isDigit (cs.takeWhile inFraction)
            some (digits, ← exponent? rest)
          else none
  | e :: cs => if e = 'e' ∨ e = 'E' then (exponent? cs).map fun n => ([], n) else none
  | [] => none

/-- Whether the text is a number with a fraction or an exponent. One that is too large is
none; there is no such limit below zero. -/
def isFloat (cs : List Char) : Bool :=
  let (negative, cs) := takeSign cs
  if cs = ['i', 'n', 'f'] ∨ cs = ['n', 'a', 'n'] then true
  else
    let inWhole (c : Char) : Bool := isDigit c || c = '_'
    match wholeDigits? (cs.takeWhile inWhole), fraction? (cs.dropWhile inWhole) with
    | some whole, some (digits, exponent) =>
        negative || !(Decimal.mk (value (whole ++ digits)) (exponent - digits.length)).overflows
    | _, _ => false

end Autoscaler.Toml
