import Autoscaler.Text.Numeral
import Mathlib.Data.List.Induction

/-!
# Which texts are numerals

Numerals are given by a grammar, with the numbers that they write: digits, digits that may stand
behind a plus sign, and digits behind either sign. The readers accept exactly these texts and
return exactly these numbers. Leading zeros do not count, a sign alone is no numeral, and a reader
for a machine word accepts a numeral by its value and not by its length.
-/

namespace Autoscaler.Text

/-- One or more digits and the number that they write, the most significant digit first. -/
inductive Digits : List Char → Nat → Prop where
  | one {c : Char} (digit : isDigit c) : Digits [c] (digitValue c)
  | more {cs : List Char} {n : Nat} {c : Char} (higher : Digits cs n) (digit : isDigit c) :
      Digits (cs ++ [c]) (10 * n + digitValue c)

/-- Digits, with or without a plus sign before them. -/
inductive Unsigned : List Char → Nat → Prop where
  | plain {cs : List Char} {n : Nat} (digits : Digits cs n) : Unsigned cs n
  | plus {cs : List Char} {n : Nat} (digits : Digits cs n) : Unsigned ('+' :: cs) n

/-- Digits, with or without a sign before them. -/
inductive Signed : List Char → Int → Prop where
  | unsigned {cs : List Char} {n : Nat} (written : Unsigned cs n) : Signed cs n
  | minus {cs : List Char} {n : Nat} (digits : Digits cs n) : Signed ('-' :: cs) (-(n : Int))

variable {cs : List Char} {c : Char} {n : Nat} {z : Int}

theorem value_concat (cs : List Char) (c : Char) :
    value (cs ++ [c]) = 10 * value cs + digitValue c := by
  rw [value, List.foldl_append, ← value, List.foldl_cons, List.foldl_nil]

namespace Digits

theorem value_eq (digits : Digits cs n) : value cs = n := by
  induction digits with
  | one digit => simp [value]
  | more higher digit ih => rw [value_concat, ih]

theorem all_isDigit (digits : Digits cs n) : cs.all isDigit := by
  induction digits with
  | one digit => simpa using digit
  | more higher digit ih => simp [ih, digit]

theorem ne_nil (digits : Digits cs n) : cs ≠ [] := by
  cases digits <;> simp

/-- Digits do not begin with a sign. -/
theorem not_cons (sign : isDigit c = false) : ¬ Digits (c :: cs) n := by
  intro digits
  have digit := (List.all_cons ▸ digits.all_isDigit : (isDigit c && cs.all isDigit) = true)
  simp [sign] at digit

theorem of_all_isDigit (nonempty : cs ≠ []) (all : cs.all isDigit) : Digits cs (value cs) := by
  induction cs using List.reverseRecOn with
  | nil => exact absurd rfl nonempty
  | append_singleton cs c ih =>
      simp only [List.all_append, List.all_cons, List.all_nil, Bool.and_true,
        Bool.and_eq_true] at all
      obtain ⟨higher, digit⟩ := all
      rw [value_concat]
      by_cases first : cs = []
      · subst first
        simpa [value] using Digits.one digit
      · exact .more (ih first higher) digit

end Digits

/-! ## Readers -/

theorem natural?_eq_some_iff : natural? cs = some n ↔ Digits cs n := by
  rw [natural?]
  constructor
  · intro read
    split at read
    · next digits =>
      cases read
      exact .of_all_isDigit digits.1 digits.2
    · cases read
  · intro digits
    rw [if_pos ⟨digits.ne_nil, digits.all_isDigit⟩, digits.value_eq]

theorem integer?_eq_some_iff : integer? cs = some z ↔ Signed cs z := by
  unfold integer?
  split
  · next cs =>
    simp only [Option.map_eq_some_iff, natural?_eq_some_iff]
    constructor
    · rintro ⟨n, digits, rfl⟩
      exact .unsigned (.plus digits)
    · intro written
      cases written with
      | unsigned written =>
        cases written with
        | plain digits => exact absurd digits (Digits.not_cons (by decide))
        | plus digits => exact ⟨_, digits, rfl⟩
  · next cs =>
    simp only [Option.map_eq_some_iff, Option.bind_eq_bind, Option.bind_eq_some_iff,
      Option.pure_def, Option.some.injEq, natural?_eq_some_iff]
    constructor
    · rintro ⟨_, ⟨n, digits, rfl⟩, rfl⟩
      exact .minus digits
    · intro written
      cases written with
      | unsigned written =>
        cases written with
        | plain digits => exact absurd digits (Digits.not_cons (by decide))
      | minus digits => exact ⟨_, ⟨_, digits, rfl⟩, rfl⟩
  · next no_plus no_minus =>
    simp only [Option.map_eq_some_iff, natural?_eq_some_iff]
    constructor
    · rintro ⟨n, digits, rfl⟩
      exact .unsigned (.plain digits)
    · intro written
      cases written with
      | unsigned written =>
        cases written with
        | plain digits => exact ⟨_, digits, rfl⟩
        | plus => exact absurd rfl (no_plus _)
      | minus => exact absurd rfl (no_minus _)

theorem int64?_eq_some_iff :
    int64? cs = some z ↔ Signed cs z ∧ -(word63 : Int) ≤ z ∧ z < word63 := by
  rw [int64?, Option.filter_eq_some_iff, integer?_eq_some_iff, decide_eq_true_eq]

/-! ## Numbers above zero -/

theorem Signed.unsigned_toNat (written : Signed cs z) (positive : 0 < z) :
    Unsigned cs z.toNat := by
  cases written with
  | unsigned written => exact written
  | minus digits => omega

end Autoscaler.Text
