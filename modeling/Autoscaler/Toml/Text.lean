/-!
# Texts in TOML

A text has four written forms in TOML 1.0: between single or triple quotation marks, where
escapes are read, and between single or triple apostrophes, where nothing is escaped. The
triple forms run over several lines; a line break right behind the opening marks is not
part of the text. Each reader works on what follows the opening marks and returns the text
and what follows the closing ones.

The specification does not say in which form to write a text. The first of these is taken
that shows it without escapes: quotation marks, apostrophes, triple quotation marks, triple
apostrophes. If none does then characters are escaped, between triple quotation marks if the
text has several lines and else between single ones. A text of several lines begins on the
line behind its opening marks.
-/

namespace Autoscaler.Toml

/-- Control characters that no form can hold as they are. -/
def isCode (c : Char) : Bool :=
  (c.toNat < 0x20 && c ≠ '\t' && c ≠ '\n') || c.toNat = 0x7F

/-- Characters that may stand in a form or a comment as they are, on one line. -/
def isPlain (c : Char) : Bool := !isCode c && c ≠ '\n'

def isBlank (c : Char) : Bool := c = ' ' || c = '\t'

def hexDigit? (c : Char) : Option Nat :=
  if '0' ≤ c && c ≤ '9' then some (c.toNat - '0'.toNat)
  else if 'a' ≤ c && c ≤ 'f' then some (c.toNat - 'a'.toNat + 10)
  else if 'A' ≤ c && c ≤ 'F' then some (c.toNat - 'A'.toNat + 10)
  else none

/-- The character with a code written in hexadecimal digits. -/
def codeChar? (digits : List Char) : Option Char := do
  let n ← digits.foldlM (fun n c => return 16 * n + (← hexDigit? c)) 0
  if h : n.isValidChar then some (Char.ofNatAux n h) else none

/-- The character after a backslash, for the escapes of one character. -/
def escaped? : Char → Option Char
  | 'b' => some '\x08'
  | 't' => some '\t'
  | 'n' => some '\n'
  | 'f' => some '\x0c'
  | 'r' => some '\r'
  | '"' => some '"'
  | '\\' => some '\\'
  | _ => none

/-- Puts a character in front of the text that was read. -/
def before (c : Char) (read : Option (List Char × List Char)) : Option (List Char × List Char) :=
  read.map fun (text, rest) => (c :: text, rest)

/-- Reads a text up to a quotation mark. -/
def readBasic : List Char → Option (List Char × List Char)
  | [] => none
  | '"' :: rest => some ([], rest)
  | '\\' :: escape =>
      match escape with
      | 'u' :: a :: b :: c :: d :: rest =>
          (codeChar? [a, b, c, d]).bind fun char => before char (readBasic rest)
      | 'U' :: a :: b :: c :: d :: e :: f :: g :: h :: rest =>
          (codeChar? [a, b, c, d, e, f, g, h]).bind fun char => before char (readBasic rest)
      | c :: rest => (escaped? c).bind fun char => before char (readBasic rest)
      | [] => none
  | c :: rest => if isPlain c then before c (readBasic rest) else none

/-- Reads a text up to an apostrophe. -/
def readLiteral : List Char → Option (List Char × List Char)
  | [] => none
  | '\'' :: rest => some ([], rest)
  | c :: rest => if isPlain c then before c (readLiteral rest) else none

/-- What three closing marks end: up to two more marks belong to the text. -/
def closing (mark : Char) : List Char → List Char × List Char
  | a :: b :: rest =>
      if a = mark ∧ b = mark then ([mark, mark], rest)
      else if a = mark then ([mark], b :: rest)
      else ([], a :: b :: rest)
  | [a] => if a = mark then ([mark], []) else ([], [a])
  | [] => ([], [])

/-- Whether nothing but blanks stands before the next line break. -/
def endsLine (cs : List Char) : Bool :=
  match cs.dropWhile isBlank with
  | '\n' :: _ => true
  | '\r' :: '\n' :: _ => true
  | _ => false

/-- Reads a text of several lines up to three quotation marks. A backslash at the end of a
line removes the line break and all blanks and line breaks behind it; `skipping` says that
this is being done. -/
def readMultiBasic : (skipping : Bool) → List Char → Option (List Char × List Char)
  | _, [] => none
  | _, '"' :: '"' :: '"' :: rest => some (closing '"' rest)
  | skipping, '\r' :: '\n' :: rest =>
      if skipping then readMultiBasic true rest else before '\n' (readMultiBasic false rest)
  | _, '\\' :: escape =>
      if endsLine escape then readMultiBasic true escape
      else
        match escape with
        | 'u' :: a :: b :: c :: d :: rest =>
            (codeChar? [a, b, c, d]).bind fun char => before char (readMultiBasic false rest)
        | 'U' :: a :: b :: c :: d :: e :: f :: g :: h :: rest =>
            (codeChar? [a, b, c, d, e, f, g, h]).bind fun char =>
              before char (readMultiBasic false rest)
        | c :: rest => (escaped? c).bind fun char => before char (readMultiBasic false rest)
        | [] => none
  | skipping, c :: rest =>
      if skipping && (isBlank c || c = '\n') then readMultiBasic true rest
      else if isPlain c || c = '\n' then before c (readMultiBasic false rest)
      else none

/-- Reads a text of several lines up to three apostrophes. -/
def readMultiLiteral : List Char → Option (List Char × List Char)
  | [] => none
  | '\'' :: '\'' :: '\'' :: rest => some (closing '\'' rest)
  | '\r' :: '\n' :: rest => before '\n' (readMultiLiteral rest)
  | c :: rest => if isPlain c || c = '\n' then before c (readMultiLiteral rest) else none

/-- Drops a line break. -/
def dropBreak : List Char → List Char
  | '\n' :: rest => rest
  | '\r' :: '\n' :: rest => rest
  | cs => cs

/-- Reads a text in any of its forms, with the opening marks. -/
def readText : List Char → Option (List Char × List Char)
  | '"' :: '"' :: '"' :: rest => readMultiBasic false (dropBreak rest)
  | '"' :: rest => readBasic rest
  | '\'' :: '\'' :: '\'' :: rest => readMultiLiteral (dropBreak rest)
  | '\'' :: rest => readLiteral rest
  | _ => none

/-! ## Writing -/

/-- The forms of a text. -/
inductive Form where
  | basic
  | literal
  | multiBasic
  | multiLiteral
  deriving DecidableEq, Repr

/-- Whether `mark` stands `n` times in a row; it has stood `run` times right before. -/
def hasRun (mark : Char) (n : Nat) : (run : Nat) → List Char → Bool
  | _, [] => false
  | run, c :: cs =>
      if c = mark then run + 1 = n || hasRun mark n (run + 1) cs else hasRun mark n 0 cs

/-- Whether a form can show a text without escapes other than for tabs. -/
def Form.shows (cs : List Char) : Form → Bool
  | basic => cs.all fun c => isPlain c && c ≠ '\\' && c ≠ '"'
  | literal => cs.all fun c => isPlain c && c ≠ '\''
  | multiBasic => (cs.all fun c => !isCode c && c ≠ '\\') && !hasRun '"' 3 0 cs
  | multiLiteral => (cs.all fun c => !isCode c) && !hasRun '\'' 3 0 cs

/-- The first form that shows the text; if there is none, one with escapes, of several lines
if the text has several. -/
def Form.of (cs : List Char) : Form :=
  match [basic, literal, multiBasic, multiLiteral].find? (·.shows cs) with
  | some form => form
  | none => if '\n' ∈ cs then multiBasic else basic

def hexChar (n : Nat) : Char :=
  if n < 10 then Char.ofNat ('0'.toNat + n) else Char.ofNat ('A'.toNat + (n - 10))

/-- A character other than a quotation mark or a line break, as the forms with escapes show
it. -/
def escape (c : Char) : List Char :=
  if c = '\t' then ['\\', 't']
  else if c = '\x08' then ['\\', 'b']
  else if c = '\x0c' then ['\\', 'f']
  else if c = '\r' then ['\\', 'r']
  else if c = '\\' then ['\\', '\\']
  else if isCode c then
    ['\\', 'u', '0', '0', hexChar (c.toNat / 16), hexChar (c.toNat % 16)]
  else [c]

def writeBasic : List Char → List Char
  | [] => []
  | c :: cs =>
      if c = '"' then '\\' :: '"' :: writeBasic cs
      else if c = '\n' then '\\' :: 'n' :: writeBasic cs
      else escape c ++ writeBasic cs

/-- Of quotation marks in a row every third is escaped; `run` have been written as they
are. -/
def writeMultiBasic : (run : Nat) → List Char → List Char
  | _, [] => []
  | run, c :: cs =>
      if c = '"' then
        if run = 2 then '\\' :: '"' :: writeMultiBasic 0 cs
        else '"' :: writeMultiBasic (run + 1) cs
      else if c = '\n' then '\n' :: writeMultiBasic 0 cs
      else escape c ++ writeMultiBasic 0 cs

/-- The line break behind the opening marks of a text of several lines. -/
def openBreak (cs : List Char) : List Char := if '\n' ∈ cs then ['\n'] else []

def Form.write (cs : List Char) : Form → List Char
  | basic => '"' :: writeBasic cs ++ ['"']
  | literal => '\'' :: cs ++ ['\'']
  | multiBasic => ['"', '"', '"'] ++ openBreak cs ++ writeMultiBasic 0 cs ++ ['"', '"', '"']
  | multiLiteral => ['\'', '\'', '\''] ++ openBreak cs ++ cs ++ ['\'', '\'', '\'']

/-- A text in the form chosen for it. -/
def writeText (s : String) : List Char := (Form.of s.toList).write s.toList

end Autoscaler.Toml
