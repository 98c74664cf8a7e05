import Autoscaler.Duration
import Autoscaler.Proofs.Text.Numeral
import Mathlib.Data.List.TakeWhile

/-!
# Which texts write durations

The texts that write a duration are given by a grammar: digits and a unit, with blanks around them
at most. The number has to fit a 64-bit word, and so do the seconds that minutes or hours come to;
within these limits the duration is exactly the one that is written. Every other text is refused,
and the error shows it without the blanks around it.
-/

namespace Autoscaler

namespace Text

/-! ## Blanks around a text -/

/-- The text is `inner` with blanks around it, and `inner` neither begins nor ends with one. -/
structure Trims (cs inner : List Char) : Prop where
  around : ∃ before after, cs = before ++ (inner ++ after) ∧ (∀ c ∈ before, isBlank c) ∧
    ∀ c ∈ after, isBlank c
  first : ∀ c ∈ inner.head?, isBlank c = false
  last : ∀ c ∈ inner.getLast?, isBlank c = false

section Span

variable {p : Char → Bool} {front rest : List Char} (inside : ∀ c ∈ front, p c)
  (stops : ∀ c ∈ rest.head?, p c = false)

include inside stops

theorem dropWhile_exact : (front ++ rest).dropWhile p = rest := by
  rw [List.dropWhile_append_of_pos inside]
  cases rest with
  | nil => rfl
  | cons c rest => exact List.dropWhile_cons_of_neg (by simp [stops c rfl])

theorem takeWhile_exact : (front ++ rest).takeWhile p = front := by
  have whole := List.takeWhile_append_dropWhile (p := p) (l := front ++ rest)
  rw [dropWhile_exact inside stops] at whole
  exact List.append_cancel_right whole

end Span

variable {cs inner : List Char}

theorem head?_dropWhile {p : Char → Bool} (cs : List Char) :
    ∀ c ∈ (cs.dropWhile p).head?, p c = false := by
  intro c head
  have stops := List.head?_dropWhile_not p cs
  rw [Option.mem_def.mp head] at stops
  exact stops

/-- Blanks behind a text are dropped after those before it. -/
theorem dropWhile_eq_trim (cs : List Char) :
    ∃ after, cs.dropWhile isBlank = trim cs ++ after ∧ ∀ c ∈ after, isBlank c := by
  refine ⟨((cs.dropWhile isBlank).reverse.takeWhile isBlank).reverse, ?_, ?_⟩
  · rw [trim, ← List.reverse_append, List.takeWhile_append_dropWhile, List.reverse_reverse]
  · intro c inside
    exact List.mem_takeWhile_imp (List.mem_reverse.mp inside)

theorem trims_trim (cs : List Char) : Trims cs (trim cs) := by
  obtain ⟨after, rest, blank⟩ := dropWhile_eq_trim cs
  refine ⟨⟨cs.takeWhile isBlank, after, ?_, fun c => List.mem_takeWhile_imp, blank⟩, ?_, ?_⟩
  · rw [← rest, List.takeWhile_append_dropWhile]
  · intro c head
    apply head?_dropWhile cs
    rw [rest, List.head?_append, Option.mem_def.mp head]
    rfl
  · rw [trim, List.getLast?_reverse]
    exact head?_dropWhile _

/-- There is one way to take the blanks off a text. -/
theorem Trims.trim_eq (trims : Trims cs inner) : trim cs = inner := by
  obtain ⟨⟨before, after, rfl, blank, blank'⟩, first, last⟩ := trims
  cases inner with
  | nil =>
      have none_left : (before ++ ([] ++ after)).dropWhile isBlank = [] := by
        rw [List.nil_append, List.dropWhile_append_of_pos blank, ← List.append_nil after]
        exact dropWhile_exact blank' (by simp)
      rw [trim, none_left]
      rfl
  | cons c inner =>
      have behind : (before ++ (c :: inner ++ after)).dropWhile isBlank = c :: inner ++ after :=
        dropWhile_exact blank first
      rw [trim, behind, List.reverse_append, dropWhile_exact, List.reverse_reverse]
      · exact fun c inside => blank' c (List.mem_reverse.mp inside)
      · rwa [List.head?_reverse]

theorem word64?_eq_some_iff {n : Nat} : word64? cs = some n ↔ Digits cs n ∧ n < word64 := by
  rw [word64?, Option.filter_eq_some_iff, natural?_eq_some_iff, decide_eq_true_eq]

end Text

namespace Duration

open Text (Digits Trims)

/-- A number of units is this duration, and its seconds fit a 64-bit word. -/
inductive Amount (n : Nat) : List Char → Duration → Prop where
  | milliseconds : Amount n "ms".toList (ofMillis n)
  | seconds : Amount n "s".toList (ofSeconds n)
  | bare : Amount n [] (ofSeconds n)
  | minutes (fits : n * 60 < word64) : Amount n "m".toList (ofSeconds (n * 60))
  | hours (fits : n * 3600 < word64) : Amount n "h".toList (ofSeconds (n * 3600))

/-- The text writes this duration. -/
inductive Writes (text : String) : Duration → Prop where
  | intro {digits unit : List Char} {n : Nat} {d : Duration}
      (trims : Trims text.toList (digits ++ unit)) (number : Digits digits n) (fits : n < word64)
      (amount : Amount n unit d) : Writes text d

variable {n : Nat} {digits unit cs : List Char} {d : Duration} {s : String}

/-! ## Units -/

theorem ofWordSeconds?_eq_some_iff :
    ofWordSeconds? n = some d ↔ n < word64 ∧ d = ofSeconds n := by
  rw [ofWordSeconds?]
  split
  · next fits => simp [fits, eq_comm]
  · next large => simp [large]

theorem ofUnit?_eq_some_iff (fits : n < word64) : ofUnit? n unit = some d ↔ Amount n unit d := by
  constructor
  · intro read
    unfold ofUnit? at read
    split at read
    · cases read
      exact .milliseconds
    · obtain ⟨-, rfl⟩ := ofWordSeconds?_eq_some_iff.mp read
      exact .seconds
    · obtain ⟨-, rfl⟩ := ofWordSeconds?_eq_some_iff.mp read
      exact .bare
    · obtain ⟨fits, rfl⟩ := ofWordSeconds?_eq_some_iff.mp read
      exact .minutes fits
    · obtain ⟨fits, rfl⟩ := ofWordSeconds?_eq_some_iff.mp read
      exact .hours fits
    · cases read
  · intro amount
    cases amount with
    | milliseconds => rfl
    | seconds => exact ofWordSeconds?_eq_some_iff.mpr ⟨fits, rfl⟩
    | bare => exact ofWordSeconds?_eq_some_iff.mpr ⟨fits, rfl⟩
    | minutes fits => exact ofWordSeconds?_eq_some_iff.mpr ⟨fits, rfl⟩
    | hours fits => exact ofWordSeconds?_eq_some_iff.mpr ⟨fits, rfl⟩

/-- No unit begins with a digit. -/
theorem Amount.stops (amount : Amount n unit d) : ∀ c ∈ unit.head?, Text.isDigit c = false := by
  cases amount <;> simp <;> decide

/-- Milliseconds come to fewer whole seconds than there are milliseconds. -/
theorem Amount.seconds_lt (amount : Amount n unit d) (fits : n < word64) :
    d.seconds < word64 := by
  cases amount <;> simp only [Duration.seconds, ofMillis, ofSeconds] <;> omega

/-! ## Durations -/

theorem ofTrimmed?_eq_some_iff :
    ofTrimmed? cs = some d ↔ ∃ digits unit n, cs = digits ++ unit ∧ Digits digits n ∧
      n < word64 ∧ Amount n unit d := by
  simp only [ofTrimmed?, Option.bind_eq_bind, Option.bind_eq_some_iff, Text.word64?_eq_some_iff]
  constructor
  · rintro ⟨n, ⟨number, fits⟩, read⟩
    exact ⟨_, _, n, (List.takeWhile_append_dropWhile).symm, number, fits,
      (ofUnit?_eq_some_iff fits).mp read⟩
  · rintro ⟨digits, unit, n, rfl, number, fits, amount⟩
    have inside := List.all_eq_true.mp number.all_isDigit
    rw [Text.takeWhile_exact inside amount.stops, Text.dropWhile_exact inside amount.stops]
    exact ⟨n, ⟨number, fits⟩, (ofUnit?_eq_some_iff fits).mpr amount⟩

theorem ofTrimmed?_trim_eq_some_iff :
    ofTrimmed? (Text.trim s.toList) = some d ↔ Writes s d := by
  rw [ofTrimmed?_eq_some_iff]
  constructor
  · rintro ⟨digits, unit, n, text, number, fits, amount⟩
    exact ⟨text ▸ Text.trims_trim s.toList, number, fits, amount⟩
  · rintro ⟨trims, number, fits, amount⟩
    exact ⟨_, _, _, trims.trim_eq, number, fits, amount⟩

theorem parse_of_writes (writes : Writes s d) : parse s = .ok d := by
  rw [parse, ofTrimmed?_trim_eq_some_iff.mpr writes]

theorem parse_of_not_writes (none_written : ∀ d, ¬ Writes s d) :
    parse s = .error (.duration (String.ofList (Text.trim s.toList))) := by
  have unread : ofTrimmed? (Text.trim s.toList) = none := by
    rw [Option.eq_none_iff_forall_ne_some]
    exact fun d read => none_written d (ofTrimmed?_trim_eq_some_iff.mp read)
  rw [parse, unread]

theorem Writes.seconds_lt (writes : Writes s d) : d.seconds < word64 := by
  obtain ⟨-, -, fits, amount⟩ := writes
  exact amount.seconds_lt fits

/-- A text is read exactly if it writes a duration, which is the result and has no more seconds than
a 64-bit word can count. Otherwise the error shows the text without the blanks around it. -/
theorem parse_written (s : String) :
    (∀ d, parse s = .ok d ↔ Writes s d) ∧
      (∀ d, parse s = .ok d → d.seconds < word64) ∧
      ∀ e, parse s = .error e ↔
        (∀ d, ¬ Writes s d) ∧
          ∃ inner : String, Trims s.toList inner.toList ∧ e = .duration inner := by
  by_cases written : ∃ d, Writes s d
  · obtain ⟨d, writes⟩ := written
    have read := parse_of_writes writes
    rw [read]
    refine ⟨fun d' => ⟨?_, ?_⟩, ?_, fun e => ⟨?_, ?_⟩⟩
    · rintro ⟨⟩
      exact writes
    · exact fun writes' => read.symm.trans (parse_of_writes writes')
    · rintro _ ⟨⟩
      exact writes.seconds_lt
    · rintro ⟨⟩
    · exact fun ⟨unwritten, _⟩ => absurd writes (unwritten d)
  · have unwritten := not_exists.mp written
    have trims := Text.trims_trim s.toList
    rw [parse_of_not_writes unwritten]
    refine ⟨fun d => ⟨?_, ?_⟩, ?_, fun e => ⟨?_, ?_⟩⟩
    · rintro ⟨⟩
    · exact fun writes => absurd writes (unwritten d)
    · rintro _ ⟨⟩
    · rintro ⟨⟩
      exact ⟨unwritten, _, by rwa [String.toList_ofList], rfl⟩
    · rintro ⟨-, inner, trims', rfl⟩
      rw [trims'.trim_eq, String.ofList_toList]

example : parse "\t 007m\u00a0" = .ok (ofSeconds 420) := by decide

example : parse " 18446744073709551615m " = .error (.duration "18446744073709551615m") := by decide

end Duration

end Autoscaler
