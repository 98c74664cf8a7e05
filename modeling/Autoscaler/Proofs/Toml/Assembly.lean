import Autoscaler.Toml.Statement
import Mathlib.Data.List.Nodup

/-!
# Tables that are assembled from plain sections

Where every key has one part and no table has a key twice, a document describes what its sections
hold, in their order: a table for each header in single brackets, and one array of tables for all
headers in double brackets that share a name.
-/

namespace Autoscaler.Toml

/-- The values of a table, each under its name. -/
abbrev Fields : Type := List (String × Value)

namespace Fields

/-- The values as statements of a section. -/
def entries (fields : Fields) : List (List String × String × Value) :=
  fields.map fun (name, v) => ([], name, v)

/-- The values as entries of a table under construction. -/
def items (fields : Fields) : Entries := fields.map fun (name, v) => (name, .value v)

/-- The values behind a header. -/
def under (fields : Fields) (header : Header) : Section := ⟨header, fields.entries⟩

@[simp] theorem map_fst_items (fields : Fields) :
    fields.items.map Prod.fst = fields.map Prod.fst := by
  rw [items, List.map_map]
  rfl

end Fields

variable {key name : String} {item : Item} {es : Entries} {fields : Fields}

namespace Entries

theorem get?_eq_none_iff : get? key es = none ↔ key ∉ es.map Prod.fst := by
  induction es with
  | nil => simp [get?]
  | cons e es ih =>
      rw [get?]
      split
      · next here => simp [here]
      · next other => simp [ih, Ne.symm other]

theorem get?_append (new : key ∉ es.map Prod.fst) (more : Entries) :
    get? key (es ++ more) = get? key more := by
  induction es with
  | nil => rfl
  | cons e es ih =>
      rw [List.map_cons, List.mem_cons, not_or] at new
      rw [List.cons_append, get?, if_neg (Ne.symm new.1), ih new.2]

theorem put_append (new : key ∉ es.map Prod.fst) (item : Item) (more : Entries) :
    put key item (es ++ more) = es ++ put key item more := by
  induction es with
  | nil => rfl
  | cons e es ih =>
      rw [List.map_cons, List.mem_cons, not_or] at new
      rw [List.cons_append, put, if_neg (Ne.symm new.1), ih new.2, List.cons_append]

/-- What is put at a new key stands behind the rest. -/
theorem put_new (new : key ∉ es.map Prod.fst) (item : Item) :
    put key item es = es ++ [(key, item)] := by
  have last := put_append new item []
  rwa [List.append_nil] at last

/-- Values under different names are added behind those that are there. -/
theorem addAll_entries (distinct : (es.map Prod.fst ++ fields.map Prod.fst).Nodup) :
    addAll fields.entries es = some (es ++ fields.items) := by
  induction fields generalizing es with
  | nil =>
      rw [Fields.items, List.map_nil, List.append_nil]
      rfl
  | cons field fields ih =>
      obtain ⟨name, v⟩ := field
      have new : name ∉ es.map Prod.fst := fun known =>
        (List.nodup_append.mp distinct).2.2 _ known _ List.mem_cons_self rfl
      have added : add [] name v es = some (es ++ [(name, .value v)]) := by
        rw [add, get?_eq_none_iff.mpr new, put_new new]
        rfl
      show (add [] name v es).bind (addAll (Fields.entries fields)) = _
      rw [added, Option.bind_some, ih, List.append_assoc]
      · rfl
      · rwa [List.map_append, List.append_assoc]

end Entries

/-! ## Sections -/

theorem sections_entries (fields : Fields) (statements : List Statement) :
    sections (fields.map (fun (name, v) => .entry [] name v) ++ statements) =
      (fields.entries ++ (sections statements).1, (sections statements).2) := by
  induction fields with
  | nil => rfl
  | cons field fields ih =>
      obtain ⟨name, v⟩ := field
      rw [List.map_cons, List.cons_append, sections, ih]
      rfl

/-- A header in single brackets with a new name makes a table. -/
theorem addSections_table (new : name ∉ es.map Prod.fst)
    (distinct : (fields.map Prod.fst).Nodup) (rest : List Section) :
    addSections (fields.under (.table [name]) :: rest) es =
      addSections rest (es ++ [(name, .table .header fields.items)]) := by
  have filled : Entries.addAll fields.entries [] = some fields.items :=
    Entries.addAll_entries distinct
  rw [addSections]
  show (((Section.open? _ (Entries.get? name es)).map _).bind _) = _
  rw [Entries.get?_eq_none_iff.mpr new]
  show ((((Entries.addAll fields.entries []).map _).map _).bind _) = _
  rw [filled, Option.map_some, Option.map_some, Option.bind_some, Entries.put_new new]

/-- The entries with several tables at a new name, if there are any. -/
def Entries.withTables (es : Entries) (name : String) (elements : List Entries) : Entries :=
  if elements = [] then es else es ++ [(name, .tables elements)]

/-- A header in double brackets makes one more table. -/
theorem addSections_element (new : name ∉ es.map Prod.fst)
    (distinct : (fields.map Prod.fst).Nodup) (done : List Entries) (rest : List Section) :
    addSections (fields.under (.element [name]) :: rest) (es.withTables name done) =
      addSections rest (es.withTables name (done ++ [fields.items])) := by
  have filled : Entries.addAll fields.entries [] = some fields.items :=
    Entries.addAll_entries distinct
  have changed : Entries.change (Section.open? (fields.under (.element [name]))) [name]
      (es.withTables name done) = some (es.withTables name (done ++ [fields.items])) := by
    have more : done ++ [fields.items] ≠ [] := by simp
    rw [Entries.withTables, Entries.withTables, if_neg more, Entries.change]
    split
    · next first =>
      rw [Entries.get?_eq_none_iff.mpr new, first]
      show Option.map _ (Option.map _ (Entries.addAll fields.entries [])) = _
      rw [filled, Option.map_some, Option.map_some, Entries.put_new new]
      rfl
    · rw [Entries.get?_append new, Entries.get?, if_pos rfl]
      show Option.map _ (Option.map _ (Entries.addAll fields.entries [])) = _
      rw [filled, Option.map_some, Option.map_some, Entries.put_append new, Entries.put,
        if_pos rfl]
  rw [addSections]
  show (Entries.change _ [name] _).bind _ = _
  rw [changed, Option.bind_some]

/-- All headers in double brackets with one name make one table each, in their order. -/
theorem addSections_elements {elements : List Fields} (new : name ∉ es.map Prod.fst)
    (distinct : ∀ fields ∈ elements, (fields.map Prod.fst).Nodup) (done : List Entries) :
    addSections (elements.map fun fields => fields.under (.element [name]))
        (es.withTables name done) =
      some (es.withTables name (done ++ elements.map Fields.items)) := by
  induction elements generalizing done with
  | nil =>
      rw [List.map_nil, List.map_nil, List.append_nil]
      rfl
  | cons fields elements ih =>
      obtain ⟨here, others⟩ := List.forall_mem_cons.mp distinct
      rw [List.map_cons, addSections_element new here, ih others, List.map_cons,
        List.append_assoc, List.singleton_append]

/-! ## Finished tables -/

theorem closeEntries_append (es more : Entries) :
    closeEntries (es ++ more) = closeEntries es ++ closeEntries more := by
  induction es with
  | nil => rfl
  | cons e es ih =>
      obtain ⟨key, item⟩ := e
      rw [List.cons_append, closeEntries, ih]
      rfl

@[simp] theorem closeEntries_items (fields : Fields) : closeEntries fields.items = fields := by
  induction fields with
  | nil => rfl
  | cons field fields ih =>
      obtain ⟨name, v⟩ := field
      show (name, v) :: closeEntries (Fields.items fields) = _
      rw [ih]

@[simp] theorem closeElements_items (elements : List Fields) :
    closeElements (elements.map Fields.items) = elements.map .table := by
  induction elements with
  | nil => rfl
  | cons fields elements ih =>
      rw [List.map_cons, closeElements, ih, closeEntries_items, List.map_cons]

end Autoscaler.Toml
