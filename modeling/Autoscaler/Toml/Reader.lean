import Autoscaler.Toml.Date
import Autoscaler.Toml.Number
import Autoscaler.Toml.Statement
import Autoscaler.Toml.Text

/-!
# Reading TOML

A reader for documents of TOML 1.0 over lists of characters. It follows the specification:
a line ends with a line feed, which may have a carriage return in front; a comment holds no
control characters but tabs; keys are bare, or quoted on one line, with dots between their
parts; arrays may run over lines and end with a comma, tables in braces may not. Where the
specification leaves room, the mark of an encoding is skipped at the very beginning, a key
has fewer than `nesting` parts, and values are nested less deeply than that.

Each function returns what it read together with the rest of the text. Loops carry a
budget, for which the length of the text is enough.
-/

namespace Autoscaler.Toml

def skipBlanks (cs : List Char) : List Char := cs.dropWhile isBlank

/-! ## Keys -/

def isBare (c : Char) : Bool :=
  ('A' ≤ c && c ≤ 'Z') || ('a' ≤ c && c ≤ 'z') || ('0' ≤ c && c ≤ '9') || c = '-' || c = '_'

/-- One part of a key, bare or quoted on one line. -/
def readPart : List Char → Option (List Char × List Char)
  | '"' :: rest => readBasic rest
  | '\'' :: rest => readLiteral rest
  | cs =>
      match cs.takeWhile isBare with
      | [] => none
      | part => some (part, cs.dropWhile isBare)

/-- Parts with dots between them, and blanks around each. -/
def readParts : (budget : Nat) → List Char → Option (List String × List Char)
  | 0, _ => none
  | budget + 1, cs => do
      let (part, rest) ← readPart (skipBlanks cs)
      match skipBlanks rest with
      | '.' :: rest =>
          let (parts, rest) ← readParts budget rest
          some (String.ofList part :: parts, rest)
      | rest => some ([String.ofList part], rest)

/-- One more than the number of parts that a key may have, and of the levels that a value
may have. -/
def nesting : Nat := 80

def readKey (cs : List Char) : Option (List String × List Char) :=
  (readParts (cs.length + 1) cs).filter fun (parts, _) => parts.length < nesting

/-! ## Values -/

/-- Characters of the values that are neither texts nor in brackets. -/
def isWordChar (c : Char) : Bool := isBare c || c = '+' || c = '.' || c = ':'

/-- The value that a word writes. -/
def wordValue? (word : List Char) : Option Value :=
  if word = "true".toList then some (.boolean true)
  else if word = "false".toList then some (.boolean false)
  else if isDateTime word then some (.dateTime (String.ofList word))
  else if isFloat word then some (.float (String.ofList word))
  else (integer? word).map .integer

/-- A value written in a word. Behind a date a time may follow after a space. -/
def readWord (cs : List Char) : Option (Value × List Char) :=
  let word := cs.takeWhile isWordChar
  let rest := cs.dropWhile isWordChar
  match rest with
  | ' ' :: more =>
      let time := more.takeWhile isWordChar
      if isDate word && isTime true time then
        some (.dateTime (String.ofList (word ++ ' ' :: time)), more.dropWhile isWordChar)
      else (wordValue? word).map fun v => (v, rest)
  | _ => (wordValue? word).map fun v => (v, rest)

/-- Skips blanks, line breaks and comments. In a comment, anything up to the end of the line
is skipped if it may stand there. -/
def skipFill : (inComment : Bool) → List Char → List Char
  | _, [] => []
  | _, '\r' :: '\n' :: rest => skipFill false rest
  | inComment, c :: rest =>
      if c = '\n' then skipFill false rest
      else if inComment then if isPlain c then skipFill true rest else c :: rest
      else if isBlank c then skipFill false rest
      else if c = '#' then skipFill true rest
      else c :: rest

/-- The items of an array up to its closing bracket. -/
def readItems (item : List Char → Option (Value × List Char)) :
    (budget : Nat) → List Char → Option (List Value × List Char)
  | 0, _ => none
  | budget + 1, cs =>
      match skipFill false cs with
      | ']' :: rest => some ([], rest)
      | cs => do
          let (v, rest) ← item cs
          match skipFill false rest with
          | ',' :: rest =>
              let (vs, rest) ← readItems item budget rest
              some (v :: vs, rest)
          | ']' :: rest => some ([v], rest)
          | _ => none

/-- The path and the last part of a key. -/
def splitKey (parts : List String) : Option (List String × String) :=
  parts.getLast?.map fun key => (parts.dropLast, key)

/-- A key with its value. -/
def readPair (item : List Char → Option (Value × List Char)) (cs : List Char) :
    Option ((List String × String × Value) × List Char) := do
  let (parts, rest) ← readKey cs
  let (path, key) ← splitKey parts
  match rest with
  | '=' :: rest =>
      let (v, rest) ← item (skipBlanks rest)
      some ((path, key, v), rest)
  | _ => none

/-- The pairs of a table in braces that has at least one, up to its closing brace. -/
def readPairs (item : List Char → Option (Value × List Char)) :
    (budget : Nat) → List Char → Option (List (List String × String × Value) × List Char)
  | 0, _ => none
  | budget + 1, cs => do
      let (pair, rest) ← readPair item cs
      match skipBlanks rest with
      | ',' :: rest =>
          let (pairs, rest) ← readPairs item budget rest
          some (pair :: pairs, rest)
      | '}' :: rest => some ([pair], rest)
      | _ => none

/-- A value without arrays and tables in brackets. -/
def readScalar (cs : List Char) : Option (Value × List Char) :=
  match cs with
  | '"' :: _ => (readText cs).map fun (s, rest) => (.text (String.ofList s), rest)
  | '\'' :: _ => (readText cs).map fun (s, rest) => (.text (String.ofList s), rest)
  | _ => readWord cs

/-- A value with at most `depth` levels of brackets. -/
def readValue : (depth : Nat) → List Char → Option (Value × List Char)
  | 0, cs => readScalar cs
  | depth + 1, cs =>
      match cs with
      | '[' :: rest =>
          (readItems (readValue depth) (rest.length + 1) rest).map fun (items, rest) =>
            (.array items, rest)
      | '{' :: rest =>
          match skipBlanks rest with
          | '}' :: rest => some (.table [], rest)
          | _ => do
              let (pairs, rest) ← readPairs (readValue depth) (rest.length + 1) rest
              let entries ← Entries.addAll pairs []
              some (.table (closeEntries entries), rest)
      | _ => readScalar cs

/-! ## Documents -/

/-- Goes to the next line, over blanks and a comment. -/
def endLine (cs : List Char) : Option (List Char) :=
  let cs := skipBlanks cs
  let cs := match cs with
    | '#' :: comment => comment.dropWhile isPlain
    | cs => cs
  match cs with
  | [] => some []
  | '\n' :: rest => some rest
  | '\r' :: '\n' :: rest => some rest
  | _ => none

/-- One statement, without the end of its line. -/
def readStatement : List Char → Option (Statement × List Char)
  | '[' :: '[' :: rest => do
      let (path, rest) ← readKey rest
      match rest with
      | ']' :: ']' :: rest => some (.header (.element path), rest)
      | _ => none
  | '[' :: rest => do
      let (path, rest) ← readKey rest
      match rest with
      | ']' :: rest => some (.header (.table path), rest)
      | _ => none
  | cs => do
      let ((path, key, v), rest) ← readPair (readValue (nesting - 1)) cs
      some (.entry path key v, rest)

/-- All statements, each on a line of its own. -/
def readLines : (budget : Nat) → List Char → Option (List Statement)
  | 0, _ => none
  | budget + 1, cs =>
      match skipBlanks cs with
      | [] => some []
      | '#' :: rest => do readLines budget (← endLine ('#' :: rest))
      | '\n' :: rest => readLines budget rest
      | '\r' :: '\n' :: rest => readLines budget rest
      | cs => do
          let (statement, rest) ← readStatement cs
          let statements ← readLines budget (← endLine rest)
          some (statement :: statements)

/-- A text without the mark of its encoding in front. -/
def dropMark : List Char → List Char
  | '\ufeff' :: cs => cs
  | cs => cs

/-- The table that a document describes. -/
def parse (text : String) : Option (List (String × Value)) := do
  let cs := dropMark text.toList
  let statements ← readLines (cs.length + 1) cs
  assemble statements

end Autoscaler.Toml
