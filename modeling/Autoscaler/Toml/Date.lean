import Autoscaler.Text.Numeral

/-!
# Dates and times in TOML

A date, a time of day, or both with an offset or without, as TOML 1.0 takes them from the
standard for time stamps on the internet. Every part must exist in the calendar; a minute
may have a sixty-first second, there may be a year zero, and `T` may be written small or be a
blank.
-/

namespace Autoscaler.Toml

open Text (isDigit digitValue)

/-- A number of two digits. -/
def pair? (a b : Char) : Option Nat :=
  if isDigit a && isDigit b then some (10 * digitValue a + digitValue b) else none

def isLeapYear (year : Nat) : Bool := year % 4 = 0 && (year % 100 ≠ 0 || year % 400 = 0)

def daysIn (year month : Nat) : Nat :=
  if month = 2 then if isLeapYear year then 29 else 28
  else if month = 4 || month = 6 || month = 9 || month = 11 then 30
  else 31

/-- What follows a date. -/
def afterDate? : List Char → Option (List Char)
  | y₁ :: y₂ :: y₃ :: y₄ :: '-' :: m₁ :: m₂ :: '-' :: d₁ :: d₂ :: rest => do
      let year := 100 * (← pair? y₁ y₂) + (← pair? y₃ y₄)
      let month ← pair? m₁ m₂
      let day ← pair? d₁ d₂
      if 1 ≤ month ∧ month ≤ 12 ∧ 1 ≤ day ∧ day ≤ daysIn year month then some rest else none
  | _ => none

/-- What follows the decimals of a second, if there are any. -/
def afterDecimals? : List Char → Option (List Char)
  | '.' :: cs =>
      match cs.takeWhile isDigit with
      | [] => none
      | _ => some (cs.dropWhile isDigit)
  | cs => some cs

/-- What follows a time of day. -/
def afterTime? : List Char → Option (List Char)
  | h₁ :: h₂ :: ':' :: m₁ :: m₂ :: ':' :: s₁ :: s₂ :: rest => do
      let hour ← pair? h₁ h₂
      let minute ← pair? m₁ m₂
      let second ← pair? s₁ s₂
      if hour ≤ 23 ∧ minute ≤ 59 ∧ second ≤ 60 then afterDecimals? rest else none
  | _ => none

/-- Whether the text is an offset from universal time. -/
def isOffset : List Char → Bool
  | ['Z'] => true
  | ['z'] => true
  | [sign, h₁, h₂, ':', m₁, m₂] =>
      (sign = '+' || sign = '-') &&
        match pair? h₁ h₂, pair? m₁ m₂ with
        | some hour, some minute => hour ≤ 23 && minute ≤ 59
        | _, _ => false
  | _ => false

/-- Whether the text is a time of day, with an offset if that is allowed. -/
def isTime (offset : Bool) (cs : List Char) : Bool :=
  match afterTime? cs with
  | some [] => true
  | some rest => offset && isOffset rest
  | none => false

def isDate (cs : List Char) : Bool := afterDate? cs = some []

/-- Whether the text is a date, a time of day, or both with a letter between them. -/
def isDateTime (cs : List Char) : Bool :=
  isTime false cs ||
    match afterDate? cs with
    | some [] => true
    | some (mark :: rest) => (mark = 'T' || mark = 't') && isTime true rest
    | none => false

end Autoscaler.Toml
