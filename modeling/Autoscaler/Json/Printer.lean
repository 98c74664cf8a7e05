import Autoscaler.Json.Basic

/-!
# Writing JSON

Two layouts: on one line, and indented by two spaces a level with one item or
field per line. Characters outside ASCII are written as they are.
-/

namespace Autoscaler.Json

def hexChar (n : Nat) : Char :=
  if n < 10 then Char.ofNat ('0'.toNat + n) else Char.ofNat ('a'.toNat + (n - 10))

/-- A character as it stands in a string literal. -/
def escape (c : Char) : List Char :=
  match c with
  | '"' => ['\\', '"']
  | '\\' => ['\\', '\\']
  | '\x08' => ['\\', 'b']
  | '\x0c' => ['\\', 'f']
  | '\n' => ['\\', 'n']
  | '\r' => ['\\', 'r']
  | '\t' => ['\\', 't']
  | c =>
      if c.toNat < 0x20 then
        ['\\', 'u', '0', '0', hexChar (c.toNat / 16), hexChar (c.toNat % 16)]
      else [c]

def quote (s : String) : String :=
  String.ofList ('"' :: s.toList.flatMap escape ++ ['"'])

def Number.render (n : Number) : String :=
  (if n.negative then "-" else "") ++ Nat.repr n.mantissa
    ++ (if n.isInteger then "" else "e" ++ toString n.scale)

/-- A string without a text is written as `null`. -/
def renderText : Option String → String
  | none => "null"
  | some s => quote s

mutual

/-- All on one line, without spaces. -/
def compact : Json → String
  | .null => "null"
  | .bool b => if b then "true" else "false"
  | .num n => n.render
  | .str text => renderText text
  | .arr items => "[" ++ compactItems items ++ "]"
  | .obj fields => "\x7b" ++ compactFields fields ++ "\x7d"

def compactItems : List Json → String
  | [] => ""
  | [item] => compact item
  | item :: items => compact item ++ "," ++ compactItems items

def compactFields : List (Option String × Json) → String
  | [] => ""
  | [(name, value)] => renderText name ++ ":" ++ compact value
  | (name, value) :: fields =>
      renderText name ++ ":" ++ compact value ++ "," ++ compactFields fields

end

/-- The start of a line at a nesting level. -/
def newLine (level : Nat) : String :=
  String.ofList ('\n' :: List.replicate (2 * level) ' ')

mutual

/-- Indented; `level` counts the arrays and objects around the value. -/
def prettyAt (level : Nat) : Json → String
  | .null => "null"
  | .bool b => if b then "true" else "false"
  | .num n => n.render
  | .str text => renderText text
  | .arr [] => "[]"
  | .arr (item :: items) =>
      "[" ++ newLine (level + 1) ++ prettyAt (level + 1) item
        ++ prettyItems (level + 1) items ++ newLine level ++ "]"
  | .obj [] => "\x7b\x7d"
  | .obj ((name, value) :: fields) =>
      "\x7b" ++ newLine (level + 1) ++ renderText name ++ ": " ++ prettyAt (level + 1) value
        ++ prettyFields (level + 1) fields ++ newLine level ++ "\x7d"

def prettyItems (level : Nat) : List Json → String
  | [] => ""
  | item :: items => "," ++ newLine level ++ prettyAt level item ++ prettyItems level items

def prettyFields (level : Nat) : List (Option String × Json) → String
  | [] => ""
  | (name, value) :: fields =>
      "," ++ newLine level ++ renderText name ++ ": " ++ prettyAt level value
        ++ prettyFields level fields

end

def pretty (json : Json) : String := prettyAt 0 json

end Autoscaler.Json
