import Autoscaler.Toml.Value

/-!
# Tables under construction

A document fills a tree of tables piece by piece, and how a table came into being decides
what may still be added to it. These are the rules of TOML 1.0: no key is given twice; a table
with a header of its own is never opened again by a dotted key, nor by a second header; one
that was only passed on the way to another may get its header later; one that was made by
dotted keys grows by dotted keys only; and a header that passes an array of tables means the
last one of them. One thing more is taken: a dotted key may pass an array of tables as well.
-/

namespace Autoscaler.Toml

/-- How a table came into being. -/
inductive Origin where
  /-- By a header of its own. -/
  | header
  /-- On the way to the table of another header. -/
  | passed
  /-- By a dotted key. -/
  | dotted
  deriving DecidableEq, Repr

inductive Item where
  | value (v : Value)
  | table (origin : Origin) (entries : List (String × Item))
  /-- Tables under one header, each in double brackets. -/
  | tables (elements : List (List (String × Item)))
  deriving Inhabited, Repr

/-- The entries of a table. -/
abbrev Entries : Type := List (String × Item)

namespace Entries

/-- The item at a key. -/
def get? (key : String) : Entries → Option Item
  | [] => none
  | e :: es => if e.1 = key then some e.2 else get? key es

/-- Puts an item at a key, in its old place or behind the rest. -/
def put (key : String) (item : Item) : Entries → Entries
  | [] => [(key, item)]
  | e :: es => if e.1 = key then (key, item) :: es else e :: put key item es

/-- Adds a value at a dotted key: `path` leads to its table, which was made by a dotted key
as well, unless the path is empty. -/
def add : (path : List String) → (key : String) → Value → Entries → Option Entries
  | [], key, v, es => if (get? key es).isSome then none else some (put key (.value v) es)
  | step :: path, key, v, es =>
      match get? step es with
      | none => (add path key v []).map fun inner => put step (.table .dotted inner) es
      | some (.table origin inner) =>
          if origin = .header ∨ (path = [] ∧ origin ≠ .dotted) then none
          else (add path key v inner).map fun inner => put step (.table origin inner) es
      | some (.tables elements) =>
          if path = [] then none
          else
            match elements.getLast? with
            | none => none
            | some last => (add path key v last).map fun last =>
                put step (.tables (elements.dropLast ++ [last])) es
      | some (.value _) => none

/-- Adds several values, one after the other. -/
def addAll : List (List String × String × Value) → Entries → Option Entries
  | [], es => some es
  | (path, key, v) :: more, es => (add path key v es).bind (addAll more)

/-- Changes the item that a header path leads to. Tables on the way are made if they are
missing, and of several tables the last one is meant. -/
def change (f : Option Item → Option Item) : (path : List String) → Entries → Option Entries
  | [], _ => none
  | [key], es => (f (get? key es)).map fun item => put key item es
  | step :: path, es =>
      match get? step es with
      | none => (change f path []).map fun inner => put step (.table .passed inner) es
      | some (.table origin inner) =>
          (change f path inner).map fun inner => put step (.table origin inner) es
      | some (.tables elements) =>
          match elements.getLast? with
          | none => none
          | some last => (change f path last).map fun last =>
              put step (.tables (elements.dropLast ++ [last])) es
      | some (.value _) => none

end Entries

mutual

/-- The value of an item: several tables under one header are an array. -/
def Item.close : Item → Value
  | .value v => v
  | .table _ entries => .table (closeEntries entries)
  | .tables elements => .array (closeElements elements)

def closeEntries : List (String × Item) → List (String × Value)
  | [] => []
  | (key, item) :: entries => (key, item.close) :: closeEntries entries

def closeElements : List (List (String × Item)) → List Value
  | [] => []
  | entries :: elements => .table (closeEntries entries) :: closeElements elements

end

end Autoscaler.Toml
