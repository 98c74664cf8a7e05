import Autoscaler.Config.Document
import Autoscaler.Proofs.Toml.Assembly
import Autoscaler.Proofs.Toml.Reader

/-!
# Blocks of a document are read back

Fields are read as the values that they hold: texts in whatever form is chosen for them, and lists
on one line or on several. A block is read as its header and its fields, and a document of blocks
as the statements of one block after the other; the empty lines between them do not count.
-/

namespace Autoscaler

open Toml (Bare ReadsAs Statement Header readValue readItems readStatement skipBlanks skipFill)

variable {name : String} {rest : List Char} {depth budget : ℕ} {statements : List Statement}

/-! ## Fields -/

namespace Field

/-- Neither form of a field begins with a blank. -/
theorem skipBlanks_write (field : Field) (rest : List Char) :
    skipBlanks (field.write ++ rest) = field.write ++ rest := by
  cases field with
  | text s =>
      obtain ⟨mark, more, begins, rfl | rfl⟩ := Toml.writeText_eq_cons s
      · rw [write, begins]
        rfl
      · rw [write, begins]
        rfl
  | texts items =>
      cases items with
      | nil => rfl
      | cons first items => cases items <;> rfl

/-- Items on lines of their own are read up to the closing bracket. -/
theorem readItems_lines (items : List String) (enough : items.length < budget) :
    readItems (readValue depth) budget
        (items.flatMap (fun item => "\n    ".toList ++ Toml.writeText item ++ [','])
          ++ '\n' :: ']' :: rest) =
      some (items.map .text, rest) := by
  induction items generalizing budget with
  | nil =>
      obtain ⟨budget, rfl⟩ := Nat.exists_eq_add_of_lt enough
      rfl
  | cons item items ih =>
      obtain ⟨budget, rfl⟩ := Nat.exists_eq_succ_of_ne_zero (Nat.ne_zero_of_lt enough)
      have others := ih (Nat.succ_lt_succ_iff.mp enough)
      rw [List.flatMap_cons, List.append_assoc, List.append_assoc, List.append_assoc]
      rw [Toml.readItems_more (s := item), others]
      · rfl
      · exact Toml.skipFill_writeText item _

theorem length_le_lines (items : List String) : items.length ≤
    (items.flatMap fun item => "\n    ".toList ++ Toml.writeText item ++ [',']).length := by
  induction items with
  | nil => exact Nat.le_refl _
  | cons item items ih =>
      rw [List.flatMap_cons, List.length_append, List.length_cons, Nat.add_comm]
      apply Nat.add_le_add _ ih
      simp

/-- A field that is written at the end of a line is read as its value. -/
theorem readValue_write (field : Field) :
    readValue (depth + 1) (field.write ++ '\n' :: rest) = some (field.value, '\n' :: rest) := by
  cases field with
  | text s => exact Toml.readValue_writeText _ s (by simp) (by simp)
  | texts items =>
      have bracket (cs : List Char) : readValue (depth + 1) ('[' :: cs) =
          (readItems (readValue depth) (cs.length + 1) cs).map fun read =>
            (.array read.1, read.2) := rfl
      cases items with
      | nil => rfl
      | cons first items =>
          cases items with
          | nil =>
              have written : (texts [first]).write ++ '\n' :: rest =
                  '[' :: (Toml.writeText first ++ ']' :: '\n' :: rest) := by simp [write]
              rw [written, bracket, Toml.readItems_last (Toml.skipFill_writeText first _)]
              rfl
          | cons second items =>
              have written : (texts (first :: second :: items)).write ++ '\n' :: rest =
                  '[' :: ((first :: second :: items).flatMap
                    (fun item => "\n    ".toList ++ Toml.writeText item ++ [','])
                      ++ '\n' :: ']' :: '\n' :: rest) := by simp [write]
              rw [written, bracket, readItems_lines]
              · rfl
              · rw [Nat.lt_succ_iff, List.length_append]
                exact (length_le_lines _).trans (Nat.le_add_right _ _)

end Field

/-! ## Blocks -/

namespace Block

/-- The values that a block holds, each under its name. -/
def values (b : Block) : Toml.Fields := b.fields.map fun (name, field) => (name, field.value)

/-- All names in a block are bare, and the key of its header has one part. -/
structure Plain (b : Block) : Prop where
  header : ∀ h ∈ b.header, ∃ name, Bare name ∧ (h = .table [name] ∨ h = .element [name])
  names : ∀ name ∈ b.fields.map Prod.fst, Bare name

theorem readsAs_field (bare : Bare name) (field : Field) (reads : ReadsAs rest statements) :
    ReadsAs (writeField name field ++ rest) (.entry [] name field.value :: statements) := by
  have written : writeField name field ++ rest =
      name.toList ++ " = ".toList ++ (field.write ++ '\n' :: rest) := by simp [writeField]
  rw [written]
  apply ReadsAs.line
  · exact Toml.readStatement_entry bare (field.skipBlanks_write _) field.readValue_write
  · obtain ⟨c, more, begins, first⟩ := bare.eq_cons
    rw [begins]
    exact ⟨c, _, rfl, .inl first⟩
  · simp only [List.length_append, List.length_cons]
    omega
  · exact reads

theorem readsAs_fields {fields : List (String × Field)}
    (bare : ∀ name ∈ fields.map Prod.fst, Bare name) (reads : ReadsAs rest statements) :
    ReadsAs (fields.flatMap (fun (name, field) => writeField name field) ++ rest)
      (fields.map (fun (name, field) => .entry [] name field.value) ++ statements) := by
  induction fields with
  | nil => exact reads
  | cons field fields ih =>
      obtain ⟨here, others⟩ := List.forall_mem_cons.mp bare
      rw [List.flatMap_cons, List.append_assoc]
      exact readsAs_field here field.2 (ih others)

theorem readsAs_header {h : Header} (bare : Bare name)
    (plain : h = .table [name] ∨ h = .element [name]) (reads : ReadsAs rest statements) :
    ReadsAs (writeHeader h ++ rest) (.header h :: statements) := by
  obtain rfl | rfl := plain
  · have written : writeHeader (.table [name]) ++ rest =
        '[' :: (name.toList ++ ']' :: '\n' :: rest) := by simp [writeHeader, List.intercalate]
    rw [written]
    apply ReadsAs.line
    · exact Toml.readStatement_table bare _
    · exact ⟨'[', _, rfl, .inr rfl⟩
    · simp only [List.length_append, List.length_cons]
      omega
    · exact reads
  · have written : writeHeader (.element [name]) ++ rest =
        '[' :: '[' :: (name.toList ++ ']' :: ']' :: '\n' :: rest) := by
      simp [writeHeader, List.intercalate]
    rw [written]
    apply ReadsAs.line
    · exact Toml.readStatement_element bare _
    · exact ⟨'[', _, rfl, .inr rfl⟩
    · simp only [List.length_append, List.length_cons]
      omega
    · exact reads

theorem Plain.readsAs {b : Block} (plain : b.Plain) (reads : ReadsAs rest statements) :
    ReadsAs (b.write ++ rest) (b.statements ++ statements) := by
  have fields := readsAs_fields plain.names reads
  rw [write, Block.statements, List.append_assoc, List.append_assoc]
  cases known : b.header with
  | none => exact fields
  | some h =>
      obtain ⟨name, bare, same⟩ := plain.header h known
      exact readsAs_header bare same fields

/-- A document of plain blocks is read as the statements of all blocks. -/
theorem readsAs_writeAll {blocks : List Block} (plain : ∀ b ∈ blocks, b.Plain) :
    ReadsAs (writeAll blocks) (blocks.flatMap Block.statements) := by
  induction blocks with
  | nil => exact .nil
  | cons b blocks ih =>
      obtain ⟨here, others⟩ := List.forall_mem_cons.mp plain
      cases blocks with
      | nil =>
          have last := here.readsAs .nil
          rw [List.append_nil b.write] at last
          exact last
      | cons next blocks => exact here.readsAs (ih others).blank

/-- A block with a header is a section, if a header or nothing stands behind it. -/
theorem sections_cons {b : Block} {h : Header} (header : b.header = some h)
    (headless : (Toml.sections statements).1 = []) :
    Toml.sections (b.statements ++ statements) =
      ([], b.values.under h :: (Toml.sections statements).2) := by
  have entries : Toml.sections (b.fields.map (fun (name, field) => .entry [] name field.value)
      ++ statements) = (b.values.entries, (Toml.sections statements).2) := by
    have values := Toml.sections_entries b.values statements
    rwa [headless, List.append_nil, Block.values, List.map_map] at values
  rw [Block.statements, header, Option.map_some, Option.toList_some, List.append_assoc,
    List.singleton_append, Toml.sections, entries]
  rfl

end Block

end Autoscaler
