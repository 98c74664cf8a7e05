import Autoscaler.Toml.Tree

/-!
# Statements of a document

A document is a sequence of headers and of values at dotted keys, as TOML 1.0 has it. The
values up to the first header belong to the document itself, those behind a header to its
table. A header in single brackets makes its table, once; one in double brackets adds a
table to an array of them.
-/

namespace Autoscaler.Toml

inductive Header where
  /-- In single brackets: the table itself. -/
  | table (path : List String)
  /-- In double brackets: one more of several tables. -/
  | element (path : List String)
  deriving DecidableEq, Repr

inductive Statement where
  | header (h : Header)
  | entry (path : List String) (key : String) (value : Value)
  deriving Repr

/-- A header with the values behind it. -/
structure Section where
  header : Header
  entries : List (List String × String × Value)
  deriving Repr

/-- The values in front of the first header, and the sections. -/
def sections : List Statement → List (List String × String × Value) × List Section
  | [] => ([], [])
  | .entry path key value :: statements =>
      let (entries, rest) := sections statements
      ((path, key, value) :: entries, rest)
  | .header header :: statements =>
      let (entries, rest) := sections statements
      ([], { header, entries } :: rest)

/-- What a section makes of the item that its header leads to. -/
def Section.open? (s : Section) : Option Item → Option Item :=
  match s.header with
  | .table _ => fun
      | none => (Entries.addAll s.entries []).map (.table .header)
      | some (.table .passed es) => (Entries.addAll s.entries es).map (.table .header)
      | some _ => none
  | .element _ => fun
      | none => (Entries.addAll s.entries []).map fun es => .tables [es]
      | some (.tables elements) =>
          (Entries.addAll s.entries []).map fun es => .tables (elements ++ [es])
      | some _ => none

def Header.path : Header → List String
  | table path => path
  | element path => path

/-- Adds sections one after the other. -/
def addSections : List Section → Entries → Option Entries
  | [], es => some es
  | s :: rest, es => (Entries.change s.open? s.header.path es).bind (addSections rest)

/-- The table that the statements of a document describe. -/
def assemble (statements : List Statement) : Option (List (String × Value)) := do
  let (entries, rest) := sections statements
  let root ← Entries.addAll entries []
  let root ← addSections rest root
  some (closeEntries root)

end Autoscaler.Toml
