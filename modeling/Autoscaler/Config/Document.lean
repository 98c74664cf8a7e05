import Autoscaler.Config.Basic
import Autoscaler.Toml.Decode
import Autoscaler.Toml.Reader

/-!
# Configurations as documents

A configuration is written as a document with a table for scaling up, a table for the
rosters and one table for each provider. Fields that are left out have default values,
and fields without a value are left out.

The layout is made to be read. Values come before tables, tables and the fields in them have a
fixed order, and an empty line stands between each two tables. An array of more than one item
has a line for each, indented by four blanks and with a comma behind it. Providers are an array
of tables, or an array without items if there are none.
-/

namespace Autoscaler

open Toml (Value)

/-! ## Reading -/

namespace ProviderConfig

def ofValue? (v : Value) : Option ProviderConfig := do
  let names :=
    ["kind", "project", "node_groups", "operation_poll_interval", "operation_wait_timeout"]
  match ← v.slots names names.length with
  | [kind, project, nodeGroups, pollInterval, waitTimeout] =>
      some
        { kind := ← ProviderKind.ofName? (← (← kind).variant?)
          project := ← Value.optional none (·.text?.map some) project
          nodeGroups := ← Value.optional [] (Value.list? Value.text?) nodeGroups
          pollInterval := ← Value.optional none (·.text?.map some) pollInterval
          waitTimeout := ← Value.optional none (·.text?.map some) waitTimeout }
  | _ => none

end ProviderConfig

namespace Config

/-- The fields of the table for scaling up. -/
def readScaleUp (v : Value) : Option (String × Strategy × ResizeMode) := do
  let default : Config := {}
  match ← v.slots ["interval", "expander", "resize_mode"] 0 with
  | [interval, strategy, mode] =>
      some
        (← Value.optional default.interval Value.text? interval,
          ← Value.optional default.strategy (fun v => v.variant?.bind Strategy.ofName?) strategy,
          ← Value.optional default.mode (fun v => v.variant?.bind ResizeMode.ofName?) mode)
  | _ => none

/-- The field of the table for the rosters. -/
def readCache (v : Value) : Option String := do
  let default : Config := {}
  match ← v.slots ["refresh_interval"] 0 with
  | [interval] => Value.optional default.refreshInterval Value.text? interval
  | _ => none

/-- The configuration in a table; a table that is missing counts as empty. -/
def ofTable? (entries : List (String × Value)) : Option Config := do
  let part (name : String) : Value := (Toml.lookup name entries).getD (.table [])
  let (interval, strategy, mode) ← readScaleUp (part "scale_up")
  let refreshInterval ← readCache (part "cache")
  let providers ←
    Value.optional [] (Value.list? ProviderConfig.ofValue?) (Toml.lookup "providers" entries)
  some { interval, strategy, mode, refreshInterval, providers }

/-- The configuration that a document describes. -/
def parse (text : String) : Option Config := (Toml.parse text).bind ofTable?

end Config

/-! ## Writing -/

/-- What the fields of a configuration hold. -/
inductive Field where
  | text (s : String)
  | texts (items : List String)

namespace Field

def value : Field → Value
  | text s => .text s
  | texts items => .array (items.map .text)

/-- A list has its items on one line if there is at most one, else on a line each. -/
def write : Field → List Char
  | text s => Toml.writeText s
  | texts [] => ['[', ']']
  | texts [item] => '[' :: Toml.writeText item ++ [']']
  | texts items =>
      '[' :: items.flatMap (fun item => "\n    ".toList ++ Toml.writeText item ++ [','])
        ++ ['\n', ']']

end Field

/-- A part of a document: fields behind a header, or in front of all headers. -/
structure Block where
  header : Option Toml.Header
  fields : List (String × Field)

namespace Block

/-- A header with the names of its tables as they are. -/
def writeHeader : Toml.Header → List Char
  | .table path => '[' :: ".".toList.intercalate (path.map String.toList) ++ "]\n".toList
  | .element path => "[[".toList ++ ".".toList.intercalate (path.map String.toList) ++ "]]\n".toList

def writeField (name : String) (field : Field) : List Char :=
  name.toList ++ " = ".toList ++ field.write ++ ['\n']

def write (b : Block) : List Char :=
  (b.header.map writeHeader).getD [] ++ b.fields.flatMap fun (name, field) => writeField name field

/-- Blocks with an empty line between each two. -/
def writeAll : List Block → List Char
  | [] => []
  | [b] => b.write
  | b :: blocks => b.write ++ '\n' :: writeAll blocks

/-- The statements that a block consists of. -/
def statements (b : Block) : List Toml.Statement :=
  (b.header.map Toml.Statement.header).toList
    ++ b.fields.map fun (name, field) => .entry [] name field.value

end Block

/-- A field that is left out if it has no value. -/
def optionalField (name : String) (value : Option String) : List (String × Field) :=
  value.toList.map fun s => (name, .text s)

def ProviderConfig.block (p : ProviderConfig) : Block where
  header := some (.element ["providers"])
  fields :=
    [("kind", .text p.kind.name)] ++ optionalField "project" p.project
      ++ [("node_groups", .texts p.nodeGroups)]
      ++ optionalField "operation_poll_interval" p.pollInterval
      ++ optionalField "operation_wait_timeout" p.waitTimeout

namespace Config

/-- The blocks of the document. Without providers it begins with an empty list of them. -/
def blocks (c : Config) : List Block :=
  let absent : Block := { header := none, fields := [("providers", .texts [])] }
  (if c.providers = [] then [absent] else [])
    ++ [{ header := some (.table ["scale_up"])
          fields :=
            [("interval", .text c.interval), ("expander", .text c.strategy.name),
              ("resize_mode", .text c.mode.name)] },
        { header := some (.table ["cache"])
          fields := [("refresh_interval", .text c.refreshInterval)] }]
    ++ c.providers.map ProviderConfig.block

/-- The document that describes the configuration. -/
def render (c : Config) : String := String.ofList (Block.writeAll c.blocks)

end Config

end Autoscaler
