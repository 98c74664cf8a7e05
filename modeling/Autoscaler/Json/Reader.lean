import Autoscaler.Json.Basic
import Autoscaler.Text.Numeral

/-!
# Reading JSON

A reader for the JSON grammar over lists of characters. Each function returns the
value it read together with the rest of the text. Values nest, so their readers
carry a budget of calls; twice the length of the text is always enough.
-/

namespace Autoscaler.Json

open Text (isDigit value)

def isSpace (c : Char) : Bool := c = ' ' || c = '\t' || c = '\n' || c = '\r'

def hexDigit? (c : Char) : Option Nat :=
  if '0' ≤ c && c ≤ '9' then some (c.toNat - '0'.toNat)
  else if 'a' ≤ c && c ≤ 'f' then some (c.toNat - 'a'.toNat + 10)
  else if 'A' ≤ c && c ≤ 'F' then some (c.toNat - 'A'.toNat + 10)
  else none

def hex4? (a b c d : Char) : Option Nat := do
  let a ← hexDigit? a
  let b ← hexDigit? b
  let c ← hexDigit? c
  let d ← hexDigit? d
  some (((a * 16 + b) * 16 + c) * 16 + d)

/-- The character after a backslash, for the escapes of one character. -/
def escaped? : Char → Option Char
  | '"' => some '"'
  | '\\' => some '\\'
  | '/' => some '/'
  | 'b' => some '\x08'
  | 'f' => some '\x0c'
  | 'n' => some '\n'
  | 'r' => some '\r'
  | 't' => some '\t'
  | _ => none

/-- A part of a string literal: a character, or one half of a surrogate pair. -/
inductive Piece where
  | char (c : Char)
  | half (unit : Nat)

def isSurrogate (unit : Nat) : Bool := 0xD800 ≤ unit && unit ≤ 0xDFFF

def Piece.ofUnit (unit : Nat) : Piece :=
  if isSurrogate unit then .half unit else .char (Char.ofNat unit)

/-- The text of a literal, if every half has its partner right behind it. -/
def joinPieces : List Piece → Option (List Char)
  | [] => some []
  | .char c :: pieces => (joinPieces pieces).map (c :: ·)
  | .half high :: .half low :: pieces =>
      if high < 0xDC00 ∧ 0xDC00 ≤ low then
        (joinPieces pieces).map
          (Char.ofNat (0x10000 + (high - 0xD800) * 0x400 + (low - 0xDC00)) :: ·)
      else none
  | .half _ :: _ => none

/-- The parts of a string up to its closing quote. -/
def readPieces : List Char → Option (List Piece × List Char)
  | [] => none
  | '"' :: rest => some ([], rest)
  | '\\' :: 'u' :: a :: b :: c :: d :: rest => do
      let unit ← hex4? a b c d
      let (pieces, rest) ← readPieces rest
      some (Piece.ofUnit unit :: pieces, rest)
  | '\\' :: c :: rest => do
      let c ← escaped? c
      let (pieces, rest) ← readPieces rest
      some (.char c :: pieces, rest)
  | c :: rest =>
      if c.toNat < 0x20 ∨ c = '\\' then none
      else do
        let (pieces, rest) ← readPieces rest
        some (.char c :: pieces, rest)

/-- A string literal after its opening quote. -/
def readString (cs : List Char) : Option (Option String × List Char) := do
  let (pieces, rest) ← readPieces cs
  some ((joinPieces pieces).map String.ofList, rest)

/-- One or more digits. -/
def readDigits (cs : List Char) : Option (List Char × List Char) :=
  match cs.takeWhile isDigit with
  | [] => none
  | digits => some (digits, cs.dropWhile isDigit)

/-- The integer part: a zero alone, or digits that do not begin with a zero. -/
def readWhole (cs : List Char) : Option (List Char × List Char) :=
  (readDigits cs).filter fun (digits, _) => digits.length = 1 ∨ digits.head? ≠ some '0'

def readFraction : List Char → Option (Option (List Char) × List Char)
  | '.' :: cs => (readDigits cs).map fun (digits, rest) => (some digits, rest)
  | cs => some (none, cs)

def readExponent : List Char → Option (Option Int × List Char)
  | [] => some (none, [])
  | c :: cs =>
      if c = 'e' ∨ c = 'E' then
        match cs with
        | '-' :: cs => (readDigits cs).map fun (ds, rest) => (some (-(value ds : Int)), rest)
        | '+' :: cs => (readDigits cs).map fun (ds, rest) => (some (value ds : Int), rest)
        | cs => (readDigits cs).map fun (ds, rest) => (some (value ds : Int), rest)
      else some (none, c :: cs)

def readNumber (cs : List Char) : Option (Number × List Char) := do
  let (negative, cs) := match cs with
    | '-' :: cs => (true, cs)
    | cs => (false, cs)
  let (whole, cs) ← readWhole cs
  let (fraction, cs) ← readFraction cs
  let (exponent, cs) ← readExponent cs
  let decimals := fraction.getD []
  some ({ negative
          mantissa := value (whole ++ decimals)
          scale := exponent.getD 0 - decimals.length
          isInteger := fraction.isNone && exponent.isNone }, cs)

def skipSpace (cs : List Char) : List Char := cs.dropWhile isSpace

mutual

/-- A value, after any space in front of it. -/
def readValue : (budget : Nat) → List Char → Option (Json × List Char)
  | 0, _ => none
  | budget + 1, cs =>
      match skipSpace cs with
      | 'n' :: 'u' :: 'l' :: 'l' :: rest => some (.null, rest)
      | 't' :: 'r' :: 'u' :: 'e' :: rest => some (.bool true, rest)
      | 'f' :: 'a' :: 'l' :: 's' :: 'e' :: rest => some (.bool false, rest)
      | '"' :: rest => (readString rest).map fun (text, rest) => (.str text, rest)
      | '[' :: rest =>
          match skipSpace rest with
          | ']' :: rest => some (.arr [], rest)
          | rest => (readItems budget rest).map fun (items, rest) => (.arr items, rest)
      | '{' :: rest =>
          match skipSpace rest with
          | '}' :: rest => some (.obj [], rest)
          | rest => (readFields budget rest).map fun (fields, rest) => (.obj fields, rest)
      | rest => (readNumber rest).map fun (n, rest) => (.num n, rest)

/-- The items of an array that has at least one, up to its closing bracket. -/
def readItems : (budget : Nat) → List Char → Option (List Json × List Char)
  | 0, _ => none
  | budget + 1, cs => do
      let (item, rest) ← readValue budget cs
      match skipSpace rest with
      | ',' :: rest => do
          let (items, rest) ← readItems budget rest
          some (item :: items, rest)
      | ']' :: rest => some ([item], rest)
      | _ => none

/-- The fields of an object that has at least one, up to its closing brace. -/
def readFields : (budget : Nat) → List Char → Option (List (Option String × Json) × List Char)
  | 0, _ => none
  | budget + 1, cs =>
      match skipSpace cs with
      | '"' :: rest => do
          let (name, rest) ← readString rest
          match skipSpace rest with
          | ':' :: rest => do
              let (value, rest) ← readValue budget rest
              match skipSpace rest with
              | ',' :: rest => do
                  let (fields, rest) ← readFields budget rest
                  some ((name, value) :: fields, rest)
              | '}' :: rest => some ([(name, value)], rest)
              | _ => none
          | _ => none
      | _ => none

end

/-- The value a text denotes, with nothing but space around it. -/
def parse (text : String) : Option Json :=
  let cs := text.toList
  match readValue (2 * cs.length + 2) cs with
  | some (json, rest) => if (skipSpace rest).isEmpty then some json else none
  | none => none

end Autoscaler.Json
