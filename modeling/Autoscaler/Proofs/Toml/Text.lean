import Autoscaler.Toml.Text
import Mathlib.Data.List.Basic
import Mathlib.Tactic.IntervalCases

/-!
# Texts in TOML are read back

Whatever form is chosen for a text, reading what was written gives the text again and leaves what
stands behind it, as long as no further mark stands there. Escapes are read one by one. In the
forms of several lines, marks need more care: up to two in a row stand for themselves wherever they
are, but right before the three closing marks they are read as the end of the text only after these.
-/

namespace Autoscaler.Toml

/-- Reads a text, up to what ends it. -/
abbrev TextReader : Type := List Char → Option (List Char × List Char)

variable {read : TextReader} {c mark : Char} {cs rest tail : List Char} {k : ℕ}

/-! ## Escapes -/

/-- The reader takes characters as they are, and escapes for what they mean. -/
structure Unescapes (read : TextReader) : Prop where
  plain : ∀ c tail, isPlain c → c ≠ '"' → c ≠ '\\' → read (c :: tail) = before c (read tail)
  short : ∀ x c tail, escaped? x = some c → read ('\\' :: x :: tail) = before c (read tail)
  code : ∀ a₁ a₂ a₃ a₄ c tail, codeChar? [a₁, a₂, a₃, a₄] = some c →
    read ('\\' :: 'u' :: a₁ :: a₂ :: a₃ :: a₄ :: tail) = before c (read tail)

/-- An escape of one character begins no longer escape, and no line ends there. -/
theorem ne_of_escaped? {x : Char} (known : escaped? x = some c) :
    x ≠ 'u' ∧ x ≠ 'U' ∧ x ≠ ' ' ∧ x ≠ '\t' ∧ x ≠ '\n' ∧ x ≠ '\r' := by
  refine ⟨?_, ?_, ?_, ?_, ?_, ?_⟩ <;> rintro rfl <;> cases known

theorem unescapes_readBasic : Unescapes readBasic where
  plain c tail plain quote backslash := by
    rw [readBasic, if_pos plain]
    · exact quote
    · exact backslash
  short x c tail known := by
    obtain ⟨u, U, -⟩ := ne_of_escaped? known
    rw [readBasic, known]
    · rfl
    · exact fun _ _ _ _ _ same _ => u same
    · exact fun _ _ _ _ _ _ _ _ _ same _ => U same
  code a₁ a₂ a₃ a₄ c tail known := by
    rw [readBasic, known]
    rfl

theorem unescapes_readMultiBasic : Unescapes (readMultiBasic false) where
  plain c tail plain quote backslash := by
    rw [readMultiBasic]
    · simp [plain]
    · rintro _ rfl
      exact absurd rfl quote
    · rintro _ rfl
      cases plain
    · exact backslash
  short x c tail known := by
    obtain ⟨u, U, space, tab, newline, return'⟩ := ne_of_escaped? known
    have goes_on : endsLine (x :: tail) = false := by
      rw [endsLine, List.dropWhile_cons_of_neg (by simp [isBlank, space, tab])]
      split
      · next same => exact absurd (List.cons.inj same).1 newline
      · next same => exact absurd (List.cons.inj same).1 return'
      · rfl
    rw [readMultiBasic, if_neg (by simp [goes_on]), known]
    · rfl
    · exact fun _ _ _ _ _ same _ => u same
    · exact fun _ _ _ _ _ _ _ _ _ same _ => U same
  code a₁ a₂ a₃ a₄ c tail known := by
    rw [readMultiBasic, known]
    rfl

theorem codeChar?_hexChar : ∀ n < 128,
    codeChar? ['0', '0', hexChar (n / 16), hexChar (n % 16)] = some (Char.ofNat n) := by
  decide

/-- A character is shown by one of the short escapes, by its code, or by itself. -/
theorem escape_cases (c : Char) :
    (∃ x, escape c = ['\\', x] ∧ escaped? x = some c) ∨
      (isCode c ∧ escape c =
        ['\\', 'u', '0', '0', hexChar (c.toNat / 16), hexChar (c.toNat % 16)]) ∨
      (escape c = [c] ∧ c ≠ '\\' ∧ isCode c = false) := by
  rw [escape]
  split
  · next tab => exact .inl ⟨'t', rfl, by rw [tab]; rfl⟩
  split
  · next backspace => exact .inl ⟨'b', rfl, by rw [backspace]; rfl⟩
  split
  · next feed => exact .inl ⟨'f', rfl, by rw [feed]; rfl⟩
  split
  · next return' => exact .inl ⟨'r', rfl, by rw [return']; rfl⟩
  split
  · next backslash => exact .inl ⟨'\\', rfl, by rw [backslash]; rfl⟩
  split
  · next code => exact .inr (.inl ⟨code, rfl⟩)
  · next backslash uncoded => exact .inr (.inr ⟨rfl, backslash, by simpa using uncoded⟩)

/-- What shows a character begins with a backslash or with the character. -/
theorem escape_eq_cons (c : Char) :
    ∃ x more, escape c = x :: more ∧ (x = '\\' ∨ x = c ∧ isCode c = false) := by
  obtain ⟨x, shown, -⟩ | ⟨-, shown⟩ | ⟨shown, -, uncoded⟩ := escape_cases c
  · exact ⟨'\\', [x], shown, .inl rfl⟩
  · exact ⟨'\\', _, shown, .inl rfl⟩
  · exact ⟨c, [], shown, .inr ⟨rfl, uncoded⟩⟩

theorem Unescapes.escape (unescapes : Unescapes read) (quote : c ≠ '"') (newline : c ≠ '\n')
    (tail : List Char) : read (escape c ++ tail) = before c (read tail) := by
  obtain ⟨x, shown, known⟩ | ⟨code, shown⟩ | ⟨shown, backslash, uncoded⟩ := escape_cases c
  · rw [shown]
    exact unescapes.short x c tail known
  · have ascii : c.toNat < 128 := by
      simp only [isCode, Bool.or_eq_true, Bool.and_eq_true, decide_eq_true_eq] at code
      omega
    rw [shown]
    apply unescapes.code
    rw [codeChar?_hexChar _ ascii, Char.ofNat_toNat]
  · rw [shown]
    exact unescapes.plain c tail (by simp [isPlain, uncoded, newline]) quote backslash

/-! ## Forms of one line -/

theorem readBasic_writeBasic (cs rest : List Char) :
    readBasic (writeBasic cs ++ '"' :: rest) = some (cs, rest) := by
  induction cs with
  | nil => rfl
  | cons c cs ih =>
      rw [writeBasic]
      split
      · next quote =>
        subst quote
        show readBasic ('\\' :: '"' :: (writeBasic cs ++ '"' :: rest)) = _
        rw [unescapes_readBasic.short '"' '"' _ rfl, ih]
        rfl
      · next quote =>
        split
        · next newline =>
          subst newline
          show readBasic ('\\' :: 'n' :: (writeBasic cs ++ '"' :: rest)) = _
          rw [unescapes_readBasic.short 'n' '\n' _ rfl, ih]
          rfl
        · next newline =>
          rw [List.append_assoc, unescapes_readBasic.escape quote newline, ih]
          rfl

theorem readLiteral_append (shows : Form.literal.shows cs) (rest : List Char) :
    readLiteral (cs ++ '\'' :: rest) = some (cs, rest) := by
  induction cs with
  | nil => rfl
  | cons c cs ih =>
      rw [Form.shows, List.all_cons, Bool.and_eq_true] at shows
      obtain ⟨here, others⟩ := shows
      rw [Bool.and_eq_true, decide_eq_true_eq] at here
      rw [List.cons_append, readLiteral, if_pos here.1, ih others]
      · rfl
      · exact here.2

/-! ## Forms of several lines -/

/-- Of three or more marks in a row the reader takes the first three for the closing ones, and
other marks as they are. -/
structure Encloses (mark : Char) (read : TextReader) : Prop where
  alone : ∀ tail, (∀ more, tail ≠ mark :: mark :: more) →
    read (mark :: tail) = before mark (read tail)
  closed : ∀ rest, read (mark :: mark :: mark :: rest) = some (closing mark rest)

theorem encloses_readMultiBasic : Encloses '"' (readMultiBasic false) where
  alone tail few := by
    rw [readMultiBasic]
    · simp [isPlain, isCode]
    · exact fun more _ => few more
    · rintro _ ⟨⟩
    · rintro ⟨⟩
  closed rest := by rw [readMultiBasic]

theorem encloses_readMultiLiteral : Encloses '\'' readMultiLiteral where
  alone tail few := by
    rw [readMultiLiteral]
    · simp [isPlain, isCode]
    · exact fun more _ => few more
    · rintro _ ⟨⟩
  closed rest := by rw [readMultiLiteral]

theorem closing_replicate (few : k < 3) (fresh : rest.head? ≠ some mark) :
    closing mark (List.replicate k mark ++ rest) = (List.replicate k mark, rest) := by
  cases rest with
  | nil => interval_cases k <;> simp [closing]
  | cons c rest =>
      have other : c ≠ mark := by simpa using fresh
      interval_cases k
      · cases rest <;> simp [closing, other]
      · simp [closing, other]
      · simp [closing]

namespace Encloses

/-- One or two marks with something else behind them. -/
theorem marks (encloses : Encloses mark read) (few : k < 3) (other : c ≠ mark) (tail : List Char) :
    read (List.replicate k mark ++ c :: tail) =
      (read (c :: tail)).map fun (text, rest) => (List.replicate k mark ++ text, rest) := by
  have last : read (mark :: c :: tail) = before mark (read (c :: tail)) := by
    apply encloses.alone
    rintro more ⟨⟩
    exact other rfl
  interval_cases k
  · simp
  · exact last
  · have first : read (mark :: mark :: c :: tail) = before mark (read (mark :: c :: tail)) := by
      apply encloses.alone
      rintro more ⟨⟩
      exact other rfl
    show read (mark :: mark :: c :: tail) = _
    rw [first, last, before, before, Option.map_map]
    rfl

/-- Up to two marks right before the closing ones. -/
theorem marks_closed (encloses : Encloses mark read) (few : k < 3)
    (fresh : rest.head? ≠ some mark) :
    read (List.replicate k mark ++ mark :: mark :: mark :: rest) =
      some (List.replicate k mark, rest) := by
  rw [← closing_replicate few fresh, ← encloses.closed]
  interval_cases k <;> rfl

end Encloses

/-- A text is taken apart into its other characters, with up to two marks before each, three marks
at a time where there are more in a row, and up to two marks at its end. -/
theorem marks_induction {motive : List Char → Prop} (mark : Char)
    (last : ∀ k < 3, motive (List.replicate k mark))
    (other : ∀ k < 3, ∀ c cs, c ≠ mark → motive cs → motive (List.replicate k mark ++ c :: cs))
    (three : ∀ cs, motive cs → motive (mark :: mark :: mark :: cs)) : ∀ cs, motive cs
  | [] => last 0 (by decide)
  | [a] => by
      by_cases first : a = mark
      · exact first ▸ last 1 (by decide)
      · exact other 0 (by decide) a [] first (last 0 (by decide))
  | a :: b :: cs => by
      by_cases first : a = mark
      · subst first
        by_cases second : b = a
        · subst second
          cases cs with
          | nil => exact last 2 (by decide)
          | cons c cs =>
              by_cases third : c = b
              · subst third
                exact three cs (marks_induction c last other three cs)
              · exact other 2 (by decide) c cs third (marks_induction b last other three cs)
        · exact other 1 (by decide) b cs second (marks_induction a last other three cs)
      · exact other 0 (by decide) a (b :: cs) first (marks_induction mark last other three (b :: cs))

/-- A character other than a quotation mark, as texts of several lines with escapes show it. -/
def shown (c : Char) : List Char := if c = '\n' then ['\n'] else escape c

theorem writeMultiBasic_cons (quote : c ≠ '"') (run : ℕ) (cs : List Char) :
    writeMultiBasic run (c :: cs) = shown c ++ writeMultiBasic 0 cs := by
  rw [writeMultiBasic, if_neg quote, shown]
  split <;> rfl

theorem writeMultiBasic_replicate (few : k < 3) (cs : List Char) :
    writeMultiBasic 0 (List.replicate k '"' ++ cs) =
      List.replicate k '"' ++ writeMultiBasic k cs := by
  interval_cases k <;> rfl

theorem readMultiBasic_shown (quote : c ≠ '"') (tail : List Char) :
    readMultiBasic false (shown c ++ tail) = before c (readMultiBasic false tail) := by
  rw [shown]
  split
  · next newline =>
    subst newline
    rfl
  · next newline => exact unescapes_readMultiBasic.escape quote newline tail

theorem shown_eq_cons (quote : c ≠ '"') : ∃ x more, shown c = x :: more ∧ x ≠ '"' := by
  rw [shown]
  split
  · exact ⟨'\n', [], rfl, by decide⟩
  · obtain ⟨x, more, begins, rfl | ⟨rfl, -⟩⟩ := escape_eq_cons c
    · exact ⟨'\\', more, begins, by decide⟩
    · exact ⟨x, more, begins, quote⟩

theorem readMultiBasic_write (cs : List Char) (fresh : rest.head? ≠ some '"') :
    readMultiBasic false (writeMultiBasic 0 cs ++ '"' :: '"' :: '"' :: rest) = some (cs, rest) := by
  induction cs using marks_induction '"' with
  | last k few =>
      have written := writeMultiBasic_replicate few []
      rw [writeMultiBasic, List.append_nil] at written
      rw [written]
      exact encloses_readMultiBasic.marks_closed few fresh
  | other k few c cs quote ih =>
      obtain ⟨x, more, begins, other⟩ := shown_eq_cons quote
      have read := readMultiBasic_shown quote (writeMultiBasic 0 cs ++ '"' :: '"' :: '"' :: rest)
      rw [ih, begins, List.cons_append, ← List.append_assoc] at read
      rw [writeMultiBasic_replicate few, writeMultiBasic_cons quote, begins, List.cons_append,
        List.append_assoc, List.cons_append, encloses_readMultiBasic.marks few other, read]
      rfl
  | three cs ih =>
      -- The third mark is escaped, and the count begins anew behind it.
      have first : readMultiBasic false
          ('"' :: '"' :: '\\' :: '"' :: (writeMultiBasic 0 cs ++ '"' :: '"' :: '"' :: rest)) =
            (readMultiBasic false
              ('\\' :: '"' :: (writeMultiBasic 0 cs ++ '"' :: '"' :: '"' :: rest))).map
                fun (text, rest) => ('"' :: '"' :: text, rest) :=
        encloses_readMultiBasic.marks (k := 2) (by decide) (by decide) _
      show readMultiBasic false ('"' :: '"' :: '\\' :: '"' :: (writeMultiBasic 0 cs ++ _)) = _
      rw [first, unescapes_readMultiBasic.short '"' '"' _ rfl, ih]
      rfl

theorem readMultiLiteral_append (shows : Form.multiLiteral.shows cs)
    (fresh : rest.head? ≠ some '\'') :
    readMultiLiteral (cs ++ '\'' :: '\'' :: '\'' :: rest) = some (cs, rest) := by
  rw [Form.shows, Bool.and_eq_true, Bool.not_eq_true'] at shows
  obtain ⟨plain, runs⟩ := shows
  induction cs using marks_induction '\'' with
  | last k few => exact encloses_readMultiLiteral.marks_closed few fresh
  | other k few c cs mark ih =>
      rw [List.all_append, List.all_cons, Bool.and_eq_true, Bool.and_eq_true,
        Bool.not_eq_true'] at plain
      obtain ⟨-, here, others⟩ := plain
      have runs' : hasRun '\'' 3 0 cs = false := by
        interval_cases k <;> simpa [List.replicate_succ, hasRun, mark] using runs
      have read : readMultiLiteral (c :: (cs ++ '\'' :: '\'' :: '\'' :: rest)) =
          before c (readMultiLiteral (cs ++ '\'' :: '\'' :: '\'' :: rest)) := by
        rw [readMultiLiteral]
        · by_cases newline : c = '\n' <;> simp [isPlain, here, newline]
        · exact fun _ same _ => mark same
        · rintro _ rfl
          cases here
      rw [ih others runs'] at read
      rw [List.append_assoc, List.cons_append, encloses_readMultiLiteral.marks few mark, read]
      rfl
  | three cs _ => simp [hasRun] at runs

/-- The line break behind the opening marks is dropped, and nothing else is. -/
theorem dropBreak_openBreak
    (clear : '\n' ∉ cs → tail.head? ≠ some '\n' ∧ tail.head? ≠ some '\r') :
    dropBreak (openBreak cs ++ tail) = tail := by
  rw [openBreak]
  split
  · rfl
  · next single =>
    obtain ⟨newline, return'⟩ := clear single
    rw [List.nil_append, dropBreak]
    · rintro more rfl
      exact newline rfl
    · rintro more rfl
      exact return' rfl

/-! ## Every form -/

theorem readText_basic (cs : List Char) (fresh : rest.head? ≠ some '"') :
    readText (Form.basic.write cs ++ rest) = some (cs, rest) := by
  have alone : ∀ more, writeBasic cs ++ '"' :: rest ≠ '"' :: '"' :: more := by
    rintro more same
    cases cs with
    | nil =>
        cases same
        exact fresh rfl
    | cons c cs =>
        rw [writeBasic] at same
        split at same
        · cases same
        · next quote =>
          split at same
          · cases same
          · obtain ⟨x, tail, begins, rfl | ⟨rfl, -⟩⟩ := escape_eq_cons c
            · rw [begins] at same
              cases same
            · rw [begins] at same
              exact quote (List.cons.inj same).1
  rw [Form.write, List.append_assoc, List.cons_append, List.singleton_append, readText]
  · exact readBasic_writeBasic cs rest
  · exact alone

theorem readText_literal (shows : Form.literal.shows cs) (fresh : rest.head? ≠ some '\'') :
    readText (Form.literal.write cs ++ rest) = some (cs, rest) := by
  have alone : ∀ more, cs ++ '\'' :: rest ≠ '\'' :: '\'' :: more := by
    rintro more same
    cases cs with
    | nil =>
        cases same
        exact fresh rfl
    | cons c cs =>
        obtain ⟨rfl, -⟩ := List.cons.inj same
        simp [Form.shows] at shows
  rw [Form.write, List.append_assoc, List.cons_append, List.singleton_append, readText]
  · exact readLiteral_append shows rest
  · exact alone

theorem readText_multiBasic (cs : List Char) (fresh : rest.head? ≠ some '"') :
    readText (Form.multiBasic.write cs ++ rest) = some (cs, rest) := by
  have opened : dropBreak (openBreak cs ++ (writeMultiBasic 0 cs ++ '"' :: '"' :: '"' :: rest)) =
      writeMultiBasic 0 cs ++ '"' :: '"' :: '"' :: rest := by
    apply dropBreak_openBreak
    intro single
    cases cs with
    | nil => exact ⟨by simp [writeMultiBasic], by simp [writeMultiBasic]⟩
    | cons c cs =>
        rw [List.mem_cons, not_or] at single
        rw [writeMultiBasic]
        split
        · exact ⟨by simp, by simp⟩
        · rw [if_neg (Ne.symm single.1)]
          obtain ⟨x, tail, begins, rfl | ⟨rfl, uncoded⟩⟩ := escape_eq_cons c
          · rw [begins]
            exact ⟨by simp, by simp⟩
          · rw [begins]
            refine ⟨by simpa using Ne.symm single.1, ?_⟩
            rintro ⟨⟩
            cases uncoded
  rw [← readMultiBasic_write cs fresh, ← opened, Form.write]
  simp [readText]

theorem readText_multiLiteral (shows : Form.multiLiteral.shows cs)
    (fresh : rest.head? ≠ some '\'') :
    readText (Form.multiLiteral.write cs ++ rest) = some (cs, rest) := by
  have opened : dropBreak (openBreak cs ++ (cs ++ '\'' :: '\'' :: '\'' :: rest)) =
      cs ++ '\'' :: '\'' :: '\'' :: rest := by
    apply dropBreak_openBreak
    intro single
    cases cs with
    | nil => exact ⟨by simp, by simp⟩
    | cons c cs =>
        rw [List.mem_cons, not_or] at single
        refine ⟨by simpa using Ne.symm single.1, ?_⟩
        rintro ⟨⟩
        cases shows
  rw [← readMultiLiteral_append shows fresh, ← opened, Form.write]
  simp [readText]

/-- A text in the form chosen for it is read back. -/
theorem readText_writeText (s : String) (quote : rest.head? ≠ some '"')
    (apostrophe : rest.head? ≠ some '\'') :
    readText (writeText s ++ rest) = some (s.toList, rest) := by
  rw [writeText, Form.of]
  split
  · next form chosen =>
    have shows : form.shows s.toList := List.find?_some chosen
    cases form with
    | basic => exact readText_basic _ quote
    | literal => exact readText_literal shows apostrophe
    | multiBasic => exact readText_multiBasic _ quote
    | multiLiteral => exact readText_multiLiteral shows apostrophe
  · split
    · exact readText_multiBasic _ quote
    · exact readText_basic _ quote

/-- Every form begins with a mark. -/
theorem writeText_eq_cons (s : String) :
    ∃ mark more, writeText s = mark :: more ∧ (mark = '"' ∨ mark = '\'') := by
  rw [writeText]
  cases Form.of s.toList with
  | basic => exact ⟨_, _, rfl, .inl rfl⟩
  | literal => exact ⟨_, _, rfl, .inr rfl⟩
  | multiBasic => exact ⟨_, _, rfl, .inl rfl⟩
  | multiLiteral => exact ⟨_, _, rfl, .inr rfl⟩

theorem writeText_append_ne (s : String) (quote : c ≠ '"') (apostrophe : c ≠ '\'') :
    writeText s ++ rest ≠ c :: tail := by
  obtain ⟨mark, more, begins, rfl | rfl⟩ := writeText_eq_cons s
  · rw [begins]
    exact fun same => quote (List.cons.inj same).1.symm
  · rw [begins]
    exact fun same => apostrophe (List.cons.inj same).1.symm

end Autoscaler.Toml
