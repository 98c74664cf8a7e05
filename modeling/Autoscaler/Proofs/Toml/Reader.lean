import Autoscaler.Proofs.Toml.Text
import Autoscaler.Toml.Reader

/-!
# Documents in TOML are read line by line

A bare name is read as a key of one part, a written text as its value and a list of written texts
as an array, whatever stands behind them, as long as it does not go on with more of the same. A
document is read as a list of statements if it consists of lines that are: each line costs one unit
of the budget, so that the length of the document is always enough.
-/

namespace Autoscaler.Toml

variable {name : String} {c : Char} {cs rest : List Char} {depth budget : ℕ}

/-! ## Names -/

/-- A name that may stand without marks. -/
structure Bare (name : String) : Prop where
  nonempty : name.toList ≠ []
  clear : name.toList.all isBare

instance (name : String) : Decidable (Bare name) :=
  decidable_of_iff (name.toList ≠ [] ∧ name.toList.all isBare)
    ⟨fun ⟨nonempty, clear⟩ => ⟨nonempty, clear⟩, fun bare => ⟨bare.nonempty, bare.clear⟩⟩

theorem Bare.isBare_of_mem (bare : Bare name) : ∀ c ∈ name.toList, isBare c :=
  List.all_eq_true.mp bare.clear

theorem Bare.eq_cons (bare : Bare name) :
    ∃ c more, name.toList = c :: more ∧ isBare c := by
  obtain ⟨c, more, begins⟩ := List.exists_cons_of_ne_nil bare.nonempty
  exact ⟨c, more, begins, bare.isBare_of_mem c (begins ▸ List.mem_cons_self)⟩

/-- A character of a name is none of those that mean something else. -/
theorem ne_of_isBare (bare : isBare c) : c ≠ ' ' ∧ c ≠ '\t' ∧ c ≠ '"' ∧ c ≠ '\'' ∧ c ≠ '[' ∧
    c ≠ '#' ∧ c ≠ '\n' ∧ c ≠ '\r' ∧ c ≠ '\ufeff' := by
  refine ⟨?_, ?_, ?_, ?_, ?_, ?_, ?_, ?_, ?_⟩ <;> rintro rfl <;> cases bare

theorem skipBlanks_cons (space : c ≠ ' ') (tab : c ≠ '\t') (cs : List Char) :
    skipBlanks (c :: cs) = c :: cs :=
  List.dropWhile_cons_of_neg (by simp [isBlank, space, tab])

theorem readPart_bare (bare : Bare name) (ends : isBare c = false) (cs : List Char) :
    readPart (name.toList ++ c :: cs) = some (name.toList, c :: cs) := by
  have taken : (name.toList ++ c :: cs).takeWhile isBare = name.toList := by
    rw [List.takeWhile_append_of_pos bare.isBare_of_mem, List.takeWhile_cons_of_neg (by simp [ends]),
      List.append_nil]
  have left : (name.toList ++ c :: cs).dropWhile isBare = c :: cs := by
    rw [List.dropWhile_append_of_pos bare.isBare_of_mem, List.dropWhile_cons_of_neg (by simp [ends])]
  obtain ⟨first, more, begins, solid⟩ := bare.eq_cons
  obtain ⟨-, -, quote, apostrophe, -⟩ := ne_of_isBare solid
  rw [readPart, taken, left]
  · rw [begins]
  · rintro rest same
    rw [begins] at same
    exact quote (List.cons.inj same).1
  · rintro rest same
    rw [begins] at same
    exact apostrophe (List.cons.inj same).1

/-- A bare name with no dot behind it is read as a key of one part. -/
theorem readKey_bare (bare : Bare name) (ends : isBare c = false)
    (single : (skipBlanks (c :: cs)).head? ≠ some '.') :
    readKey (name.toList ++ c :: cs) = some ([name], skipBlanks (c :: cs)) := by
  obtain ⟨first, more, begins, solid⟩ := bare.eq_cons
  obtain ⟨space, tab, -⟩ := ne_of_isBare solid
  have still : skipBlanks (name.toList ++ c :: cs) = name.toList ++ c :: cs := by
    rw [begins, List.cons_append, skipBlanks_cons space tab]
  have parts (budget : ℕ) : readParts (budget + 1) (name.toList ++ c :: cs) =
      some ([name], skipBlanks (c :: cs)) := by
    rw [readParts, still, readPart_bare bare ends, Option.bind_eq_bind, Option.bind_some]
    dsimp only
    split
    · next dotted =>
      rw [dotted] at single
      exact absurd rfl single
    · rw [String.ofList_toList]
  rw [readKey, parts]
  rfl

/-! ## Values -/

theorem readScalar_writeText (s : String) (quote : rest.head? ≠ some '"')
    (apostrophe : rest.head? ≠ some '\'') :
    readScalar (writeText s ++ rest) = some (.text s, rest) := by
  have read := readText_writeText s quote apostrophe
  obtain ⟨mark, more, begins, rfl | rfl⟩ := writeText_eq_cons s
  · rw [begins, List.cons_append] at read ⊢
    rw [readScalar, read, Option.map_some]
    dsimp only
    rw [String.ofList_toList]
  · rw [begins, List.cons_append] at read ⊢
    rw [readScalar, read, Option.map_some]
    dsimp only
    rw [String.ofList_toList]

/-- A written text is read as its value at any depth. -/
theorem readValue_writeText (depth : ℕ) (s : String) (quote : rest.head? ≠ some '"')
    (apostrophe : rest.head? ≠ some '\'') :
    readValue depth (writeText s ++ rest) = some (.text s, rest) := by
  cases depth with
  | zero => exact readScalar_writeText s quote apostrophe
  | succ depth =>
      rw [readValue, readScalar_writeText s quote apostrophe]
      · exact fun _ => writeText_append_ne s (by decide) (by decide)
      · exact fun _ => writeText_append_ne s (by decide) (by decide)

theorem skipFill_writeText (s : String) (rest : List Char) :
    skipFill false (writeText s ++ rest) = writeText s ++ rest := by
  obtain ⟨mark, more, begins, rfl | rfl⟩ := writeText_eq_cons s
  · rw [begins]
    rfl
  · rw [begins]
    rfl

/-- An item with a comma behind it is followed by other items. -/
theorem readItems_more {s : String} (filled : skipFill false cs = writeText s ++ ',' :: rest) :
    readItems (readValue depth) (budget + 1) cs =
      (readItems (readValue depth) budget rest).map fun (vs, rest) => (.text s :: vs, rest) := by
  have read : readValue depth (writeText s ++ ',' :: rest) = some (.text s, ',' :: rest) :=
    readValue_writeText depth s (by simp) (by simp)
  rw [readItems, filled]
  split
  · next bracket => exact absurd bracket (writeText_append_ne s (by decide) (by decide))
  · rw [read]
    show (readItems (readValue depth) budget rest >>= _) = _
    cases readItems (readValue depth) budget rest <;> rfl

/-- An item with the bracket behind it is the last one. -/
theorem readItems_last {s : String} (filled : skipFill false cs = writeText s ++ ']' :: rest) :
    readItems (readValue depth) (budget + 1) cs = some ([.text s], rest) := by
  have read : readValue depth (writeText s ++ ']' :: rest) = some (.text s, ']' :: rest) :=
    readValue_writeText depth s (by simp) (by simp)
  rw [readItems, filled]
  split
  · next bracket => exact absurd bracket (writeText_append_ne s (by decide) (by decide))
  · rw [read]
    rfl

/-! ## Statements -/

theorem readStatement_table (bare : Bare name) (rest : List Char) :
    readStatement ('[' :: (name.toList ++ ']' :: rest)) = some (.header (.table [name]), rest) := by
  have key : readKey (name.toList ++ ']' :: rest) = some ([name], ']' :: rest) :=
    readKey_bare bare (by decide) (by simp [skipBlanks_cons])
  rw [readStatement, key]
  · rfl
  · rintro more same
    obtain ⟨c, tail, begins, solid⟩ := bare.eq_cons
    rw [begins] at same
    cases same
    cases solid

theorem readStatement_element (bare : Bare name) (rest : List Char) :
    readStatement ('[' :: '[' :: (name.toList ++ ']' :: ']' :: rest)) =
      some (.header (.element [name]), rest) := by
  have key : readKey (name.toList ++ ']' :: ']' :: rest) = some ([name], ']' :: ']' :: rest) :=
    readKey_bare bare (by decide) (by simp [skipBlanks_cons])
  rw [readStatement, key]
  rfl

theorem readStatement_entry (bare : Bare name) {v : Value} (solid : skipBlanks cs = cs)
    (value : readValue (nesting - 1) cs = some (v, rest)) :
    readStatement (name.toList ++ " = ".toList ++ cs) = some (.entry [] name v, rest) := by
  have key : readKey (name.toList ++ ' ' :: '=' :: ' ' :: cs) =
      some ([name], '=' :: ' ' :: cs) :=
    readKey_bare bare (by decide) (by simp [skipBlanks, isBlank])
  have pair : readPair (readValue (nesting - 1)) (name.toList ++ ' ' :: '=' :: ' ' :: cs) =
      some (([], name, v), rest) := by
    have skipped : skipBlanks (' ' :: cs) = cs := solid
    rw [readPair, key]
    show (readValue (nesting - 1) (skipBlanks (' ' :: cs)) >>= _) = _
    rw [skipped, value]
    rfl
  obtain ⟨c, more, begins, first⟩ := bare.eq_cons
  obtain ⟨-, -, -, -, bracket, -⟩ := ne_of_isBare first
  rw [List.append_assoc]
  show readStatement (name.toList ++ ' ' :: '=' :: ' ' :: cs) = _
  rw [readStatement, pair]
  · rfl
  all_goals
    rintro tail same
    rw [begins] at same
    exact bracket (List.cons.inj same).1

/-! ## Lines -/

/-- The text consists of lines that are read as these statements. -/
def ReadsAs (cs : List Char) (statements : List Statement) : Prop :=
  ∀ budget, cs.length < budget → readLines budget cs = some statements

namespace ReadsAs

variable {statements : List Statement} {statement : Statement}

theorem nil : ReadsAs [] [] := by
  intro budget enough
  obtain ⟨budget, rfl⟩ := Nat.exists_eq_add_of_lt enough
  rfl

/-- An empty line does not count. -/
theorem blank (reads : ReadsAs cs statements) : ReadsAs ('\n' :: cs) statements := by
  intro budget enough
  rw [List.length_cons] at enough
  obtain ⟨budget, rfl⟩ := Nat.exists_eq_succ_of_ne_zero (Nat.ne_zero_of_lt enough)
  exact reads budget (by omega)

theorem line (read : readStatement cs = some (statement, '\n' :: rest))
    (begins : ∃ c more, cs = c :: more ∧ (isBare c ∨ c = '['))
    (shorter : rest.length < cs.length) (reads : ReadsAs rest statements) :
    ReadsAs cs (statement :: statements) := by
  intro budget enough
  obtain ⟨budget, rfl⟩ := Nat.exists_eq_succ_of_ne_zero (Nat.ne_zero_of_lt enough)
  obtain ⟨c, more, rfl, first⟩ := begins
  have solid : c ≠ ' ' ∧ c ≠ '\t' ∧ c ≠ '#' ∧ c ≠ '\n' ∧ c ≠ '\r' := by
    obtain bare | rfl := first
    · obtain ⟨space, tab, -, -, -, comment, newline, return', -⟩ := ne_of_isBare bare
      exact ⟨space, tab, comment, newline, return'⟩
    · decide
  obtain ⟨space, tab, comment, newline, return'⟩ := solid
  have onward := reads budget (by omega)
  rw [readLines, skipBlanks_cons space tab]
  split
  · next same => cases same
  · next same => exact absurd (List.cons.inj same).1 comment
  · next same => exact absurd (List.cons.inj same).1 newline
  · next same => exact absurd (List.cons.inj same).1 return'
  · rw [read]
    show (readLines budget rest >>= _) = _
    rw [onward]
    rfl

/-- A document without a mark of its encoding is the table that its statements describe. -/
theorem parse {text : String} (reads : ReadsAs text.toList statements)
    (unmarked : text.toList.head? ≠ some '\ufeff') : Toml.parse text = assemble statements := by
  have kept : dropMark text.toList = text.toList := by
    rw [dropMark]
    rintro more same
    rw [same] at unmarked
    exact unmarked rfl
  rw [Toml.parse, kept, reads _ (Nat.lt_succ_self _)]
  rfl

end ReadsAs

end Autoscaler.Toml
