import Autoscaler.Proofs.Config.Document

/-!
# Configurations are read back

The document of a configuration describes a table with one table for scaling up, one for the
rosters and an array with a table for each provider, and these hold what the configuration holds.
Decoding them gives the configuration again, whatever its texts are: fields that are left out have
no value there, and names of variants mean the variants that have them.
-/

namespace Autoscaler

open Toml (Bare Fields Value)

theorem ProviderKind.ofName?_name (kind : ProviderKind) : ofName? kind.name = some kind := by
  cases kind <;> rfl

theorem Strategy.ofName?_name (strategy : Strategy) : ofName? strategy.name = some strategy := by
  cases strategy <;> rfl

theorem ResizeMode.ofName?_name (mode : ResizeMode) : ofName? mode.name = some mode := by
  cases mode <;> rfl

/-- A list of values is decoded as each of them is. -/
theorem Toml.Value.list?_map {α : Type} {decode : Value → Option α} (encode : α → Value)
    (inverse : ∀ a, decode (encode a) = some a) (items : List α) :
    Value.list? decode (.array (items.map encode)) = some items := by
  show List.mapM decode (items.map encode) = some items
  induction items with
  | nil => rfl
  | cons item items ih =>
      rw [List.map_cons, List.mapM_cons, inverse, ih]
      rfl

/-- A text that may be absent is decoded as it is. -/
theorem Toml.Value.optional_text (value : Option String) :
    Value.optional none (·.text?.map some) (value.map .text) = some value := by
  cases value <;> rfl

theorem Toml.lookup_append (key : String) (es more : Fields) :
    lookup key (es ++ more) = (lookup key es).or (lookup key more) := by
  rw [lookup, List.find?_append, Option.map_or]
  rfl

theorem lookup_optionalField (key name : String) (value : Option String) :
    Toml.lookup key ((optionalField name value).map fun (name, field) => (name, field.value)) =
      if name = key then value.map .text else none := by
  cases value with
  | none => simp [optionalField, Toml.lookup]
  | some s => by_cases same : name = key <;> simp [optionalField, Toml.lookup, Field.value, same]

theorem sublist_optionalField (name : String) (value : Option String) :
    ((optionalField name value).map Prod.fst).Sublist [name] := by
  cases value with
  | none => exact List.nil_sublist _
  | some _ => exact List.Sublist.refl _

namespace ProviderConfig

/-- The names of all fields of a provider. -/
def names : List String :=
  ["kind", "project", "node_groups", "operation_poll_interval", "operation_wait_timeout"]

variable (p : ProviderConfig)

/-- The fields of a provider have their names in order, without those that are left out. -/
theorem names_block : (p.block.fields.map Prod.fst).Sublist names := by
  simp only [block, List.map_append]
  exact ((((List.Sublist.refl ["kind"]).append (sublist_optionalField _ _)).append
    (.refl ["node_groups"])).append (sublist_optionalField _ _)).append (sublist_optionalField _ _)

theorem plain_block : p.block.Plain where
  header := by
    rintro h ⟨⟩
    exact ⟨"providers", by decide, .inr rfl⟩
  names := by
    have bare : ∀ name ∈ names, Bare name := by decide
    exact fun name inside => bare name (p.names_block.subset inside)

theorem nodup_block : (p.block.values.map Prod.fst).Nodup := by
  rw [Block.values, List.map_map]
  exact p.names_block.nodup (by decide)

/-- Every field has its value under its name, and those that are left out have none. -/
theorem slots_block : (Value.table p.block.values).slots names names.length =
    some [some (.text p.kind.name), p.project.map .text, some (.array (p.nodeGroups.map .text)),
      p.pollInterval.map .text, p.waitTimeout.map .text] := by
  simp only [Value.slots, names, block, Block.values, List.map_append, Toml.lookup_append,
    lookup_optionalField, List.map_cons, List.map_nil]
  simp [Toml.lookup, Field.value]

/-- The table of a provider is decoded to the provider. -/
theorem ofValue?_block : ofValue? (.table p.block.values) = some p := by
  have groups : Value.optional [] (Value.list? Value.text?)
      (some (.array (p.nodeGroups.map .text))) = some p.nodeGroups :=
    Value.list?_map .text (fun _ => rfl) p.nodeGroups
  rw [ofValue?]
  show (Value.slots names names.length _ >>= _) = _
  rw [slots_block, Option.bind_eq_bind, Option.bind_some]
  simp only [Value.optional_text, groups]
  show (ProviderKind.ofName? p.kind.name >>= _) = _
  rw [ProviderKind.ofName?_name]
  rfl

end ProviderConfig

namespace Config

variable (c : Config)

/-- The values for scaling up. -/
def scaleUp : Fields :=
  [("interval", .text c.interval), ("expander", .text c.strategy.name),
    ("resize_mode", .text c.mode.name)]

/-- The values for the rosters. -/
def cache : Fields := [("refresh_interval", .text c.refreshInterval)]

/-- The values of each provider. -/
def elements : List Fields := c.providers.map fun p => p.block.values

/-- The empty list of providers, if there are none. -/
def absent : Fields := if c.providers = [] then [("providers", .array [])] else []

/-- The table that the document of the configuration describes. -/
def table : Fields :=
  c.absent ++ [("scale_up", .table c.scaleUp), ("cache", .table c.cache)]
    ++ if c.providers = [] then [] else [("providers", .array (c.elements.map .table))]

/-! ## The document -/

theorem plain_blocks : ∀ b ∈ c.blocks, b.Plain := by
  intro b inside
  simp only [blocks, List.mem_append, List.mem_map, List.mem_cons, List.not_mem_nil, or_false]
    at inside
  obtain (absent | rfl | rfl) | ⟨p, -, rfl⟩ := inside
  · split at absent
    · rw [List.mem_singleton.mp absent]
      refine ⟨by rintro h ⟨⟩, ?_⟩
      show ∀ name ∈ ["providers"], Bare name
      decide
    · cases absent
  · constructor
    · rintro h ⟨⟩
      exact ⟨"scale_up", by decide, .inl rfl⟩
    · show ∀ name ∈ ["interval", "expander", "resize_mode"], Bare name
      decide
  · constructor
    · rintro h ⟨⟩
      exact ⟨"cache", by decide, .inl rfl⟩
    · show ∀ name ∈ ["refresh_interval"], Bare name
      decide
  · exact p.plain_block

theorem sections_providers (providers : List ProviderConfig) :
    Toml.sections ((providers.map ProviderConfig.block).flatMap Block.statements) =
      ([], (providers.map fun p => p.block.values).map fun fields =>
        fields.under (.element ["providers"])) := by
  induction providers with
  | nil => rfl
  | cons p providers ih =>
      rw [List.map_cons, List.flatMap_cons,
        Block.sections_cons (h := .element ["providers"]) rfl (congrArg Prod.fst ih), ih,
        List.map_cons, List.map_cons]

/-- The document consists of a plain value, if there are no providers, and of sections. -/
theorem sections_blocks : Toml.sections (c.blocks.flatMap Block.statements) =
    (c.absent.entries, c.scaleUp.under (.table ["scale_up"]) :: c.cache.under (.table ["cache"]) ::
      c.elements.map fun fields => fields.under (.element ["providers"])) := by
  let scaleUp : Block :=
    ⟨some (.table ["scale_up"]), [("interval", .text c.interval),
      ("expander", .text c.strategy.name), ("resize_mode", .text c.mode.name)]⟩
  let cache : Block := ⟨some (.table ["cache"]), [("refresh_interval", .text c.refreshInterval)]⟩
  let providers := (c.providers.map ProviderConfig.block).flatMap Block.statements
  have last := sections_providers c.providers
  have headed := Block.sections_cons (b := cache) rfl (congrArg Prod.fst last)
  have both := Block.sections_cons (b := scaleUp) rfl (congrArg Prod.fst headed)
  rw [headed, last] at both
  rw [blocks, absent]
  split
  · show Toml.sections (.entry [] "providers" (.array []) ::
      (scaleUp.statements ++ (cache.statements ++ providers))) = _
    rw [Toml.sections, both]
    rfl
  · exact both

theorem absent_cases : c.absent = [] ∨ c.absent = [("providers", .array [])] := by
  rw [absent]
  split
  · exact .inr rfl
  · exact .inl rfl

/-- What is assembled in front of the providers. -/
def front : Toml.Entries :=
  c.absent.items ++ [("scale_up", .table .header c.scaleUp.items)]
    ++ [("cache", .table .header c.cache.items)]

theorem closeEntries_front : Toml.closeEntries c.front =
    c.absent ++ [("scale_up", .table c.scaleUp), ("cache", .table c.cache)] := by
  simp [front, Toml.closeEntries_append, Toml.closeEntries, Toml.Item.close]

/-- With the providers behind it that is the whole table. -/
theorem addSections_front :
    (Toml.addSections (c.elements.map fun fields => fields.under (.element ["providers"]))
      c.front).map Toml.closeEntries = some c.table := by
  rw [table, ← closeEntries_front]
  by_cases none : c.providers = []
  · rw [if_pos none, List.append_nil, elements, none]
    rfl
  · have some_element : c.elements ≠ [] := by simpa [elements] using none
    have new : "providers" ∉ c.front.map Prod.fst := by simp [front, absent, none]
    have distinct : ∀ fields ∈ c.elements, (fields.map Prod.fst).Nodup := by
      intro fields inside
      obtain ⟨p, -, rfl⟩ := List.mem_map.mp inside
      exact p.nodup_block
    have added := Toml.addSections_elements new distinct []
    rw [Toml.Entries.withTables, if_pos rfl, List.nil_append, Toml.Entries.withTables,
      if_neg (by simpa using some_element)] at added
    rw [added, if_neg none, Option.map_some, Toml.closeEntries_append, Toml.closeEntries,
      Toml.Item.close, Toml.closeElements_items]
    rfl

theorem assemble_blocks : Toml.assemble (c.blocks.flatMap Block.statements) = some c.table := by
  have first : Toml.Entries.addAll c.absent.entries [] = some c.absent.items := by
    apply Toml.Entries.addAll_entries
    obtain same | same := c.absent_cases <;> simp [same]
  rw [Toml.assemble, sections_blocks]
  show (Toml.Entries.addAll c.absent.entries [] >>= _) = _
  rw [first, Option.bind_eq_bind, Option.bind_some, Toml.addSections_table,
    Toml.addSections_table, ← addSections_front]
  · exact Option.map_eq_bind.symm
  · obtain same | same := c.absent_cases <;> simp [same]
  · simp [cache]
  · obtain same | same := c.absent_cases <;> simp [same]
  · simp [scaleUp]

theorem parse_render_table : Toml.parse c.render = some c.table := by
  have reads := Block.readsAs_writeAll c.plain_blocks
  rw [← c.assemble_blocks, render]
  apply Toml.ReadsAs.parse
  · rwa [String.toList_ofList]
  · rw [String.toList_ofList, blocks]
    split
    · show some 'p' ≠ some '\ufeff'
      decide
    · show some '[' ≠ some '\ufeff'
      decide

/-! ## Decoding -/

theorem readScaleUp_scaleUp :
    readScaleUp (.table c.scaleUp) = some (c.interval, c.strategy, c.mode) := by
  simp [readScaleUp, scaleUp, Value.slots, Toml.lookup, Value.optional, Value.text?,
    Value.variant?, c.strategy.ofName?_name, c.mode.ofName?_name]

theorem readCache_cache : readCache (.table c.cache) = some c.refreshInterval := by
  simp [readCache, cache, Value.slots, Toml.lookup, Value.optional, Value.text?]

theorem lookup_scaleUp : Toml.lookup "scale_up" c.table = some (.table c.scaleUp) := by
  rw [table, absent]
  split <;> simp [Toml.lookup]

theorem lookup_cache : Toml.lookup "cache" c.table = some (.table c.cache) := by
  rw [table, absent]
  split <;> simp [Toml.lookup]

theorem lookup_providers : Toml.lookup "providers" c.table =
    some (.array (c.elements.map .table)) := by
  rw [table, absent]
  split
  · next none => simp [Toml.lookup, elements, none]
  · simp [Toml.lookup]

/-- The table of a configuration is decoded to the configuration. -/
theorem ofTable?_table : ofTable? c.table = some c := by
  have decoded : Value.list? ProviderConfig.ofValue? (.array (c.elements.map .table)) =
      some c.providers := by
    rw [elements, List.map_map]
    exact Value.list?_map _ ProviderConfig.ofValue?_block c.providers
  simp only [ofTable?, lookup_scaleUp, lookup_cache, lookup_providers, Option.getD_some,
    readScaleUp_scaleUp, readCache_cache, Value.optional, decoded]
  rfl

/-- Every configuration is read back from its document. -/
theorem parse_render : parse c.render = some c := by
  rw [parse, parse_render_table, Option.bind_some, ofTable?_table]

end Config

end Autoscaler
