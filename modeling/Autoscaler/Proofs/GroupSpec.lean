import Autoscaler.Proofs.Text.Numeral
import Autoscaler.Proofs.Text.Pieces

/-!
# Which texts specify groups

The texts that specify a group are given by a grammar: two numerals without a minus sign and an
identifier, with colons between them. Every other text is refused for one reason, and the reasons
are given by a grammar as well, in which a reason that comes later says that those before it do
not hold. A text is read if and only if the one grammar has it, and refused with an error if and
only if the other one has the error. The two grammars leave no text out, so it is enough to follow
the reader on texts of either.

Both bounds are read as signed 64-bit integers first. So a number that is too large for a size
is refused like a word, and a number that is too small is called so, unless it is too small even for
such an integer.
-/

namespace Autoscaler.GroupSpec

open Text (Signed Unsigned)

/-- The text has three fields. The third one holds all further colons. -/
structure Fields (spec low high identifier : String) : Prop where
  text : spec = low ++ ":" ++ high ++ ":" ++ identifier
  low_clear : ':' ∉ low.toList
  high_clear : ':' ∉ high.toList

/-- The field writes the least size of a group. -/
structure Least (low : String) (min : Nat) : Prop where
  written : Unsigned low.toList min
  pos : 1 ≤ min
  small : min < word32

/-- The field writes an integer that a signed 64-bit word can hold. -/
structure Integer (field : String) (n : Int) : Prop where
  written : Signed field.toList n
  least : -(word63 : Int) ≤ n
  greatest : n < word63

/-- The text specifies this group. -/
inductive Specifies (spec : String) : GroupSpec → Prop where
  | intro {low high identifier : String} {min max : Nat}
      (fields : Fields spec low high identifier) (named : identifier ≠ "")
      (least : Unsigned low.toList min) (greatest : Unsigned high.toList max)
      (pos : 1 ≤ min) (ordered : min ≤ max) (small : max < word32) :
      Specifies spec ⟨⟨min, max, pos, ordered, small⟩, identifier⟩

/-- The fields write no bounds, for this reason. -/
inductive Unreadable (low high : String) : FormatError → Prop where
  | minSizeTooSmall {min : Int} (written : Integer low min) (small : min ≤ 0) :
      Unreadable low high (.minSizeTooSmall min)
  | minSize (not_small : ¬ ∃ min, Integer low min ∧ min ≤ 0) (no_size : ¬ ∃ min, Least low min) :
      Unreadable low high (.minSize low)
  | maxBelowMin {min : Nat} {max : Int} (least : Least low min) (written : Integer high max)
      (below : max < min) : Unreadable low high (.maxBelowMin min (Max.max max 0).toNat)
  | maxSize {min : Nat} (least : Least low min)
      (not_below : ¬ ∃ max : Int, Integer high max ∧ max < min)
      (no_size : ¬ ∃ max, Unsigned high.toList max ∧ min ≤ max ∧ max < word32) :
      Unreadable low high (.maxSize high)

/-- The text specifies no group, for this reason. -/
inductive Refused (spec : String) : FormatError → Prop where
  | few (colons : spec.toList.count ':' < 2) : Refused spec (.groupSpec spec)
  | unnamed {low high : String} (fields : Fields spec low high "") : Refused spec (.groupSpec spec)
  | unreadable {low high identifier : String} {e : FormatError}
      (fields : Fields spec low high identifier) (named : identifier ≠ "")
      (reason : Unreadable low high e) : Refused spec e

variable {spec low high identifier field : String} {bounds : SizeBounds} {e : FormatError}
  {min max : Nat} {n : Int}

/-! ## Fields -/

theorem fields?_eq_some_iff :
    fields? spec.toList = some (low.toList, high.toList, identifier.toList) ↔
      Fields spec low high identifier := by
  simp only [fields?, Option.bind_eq_bind, Option.bind_eq_some_iff, Prod.exists, Option.some.injEq,
    Prod.mk.injEq, Text.cut?_eq_some_iff]
  constructor
  · rintro ⟨_, rest, ⟨text, low_clear⟩, _, _, ⟨rfl, high_clear⟩, rfl, rfl, rfl⟩
    refine ⟨String.toList_injective ?_, low_clear, high_clear⟩
    simp [text]
  · rintro ⟨text, low_clear, high_clear⟩
    have text : spec.toList = low.toList ++ ':' :: (high.toList ++ ':' :: identifier.toList) := by
      simp [text]
    exact ⟨_, _, ⟨text, low_clear⟩, _, _, ⟨rfl, high_clear⟩, rfl, rfl, rfl⟩

theorem fields?_eq_none_iff : fields? spec.toList = none ↔ spec.toList.count ':' < 2 := by
  simp only [fields?, Option.bind_eq_bind]
  cases first : Text.cut? ':' spec.toList with
  | none =>
      have none_there := List.count_eq_zero.mpr (Text.cut?_eq_none_iff.mp first)
      simp [none_there]
  | some cut =>
      obtain ⟨text, clear⟩ := Text.cut?_eq_some_iff.mp first
      have counted : spec.toList.count ':' = cut.2.count ':' + 1 := by
        rw [text, List.count_append, List.count_eq_zero.mpr clear, List.count_cons_self]
        omega
      cases second : Text.cut? ':' cut.2 with
      | none =>
          have none_there := List.count_eq_zero.mpr (Text.cut?_eq_none_iff.mp second)
          simp [second, counted, none_there]
      | some cut' =>
          obtain ⟨text', _⟩ := Text.cut?_eq_some_iff.mp second
          have one_there : 0 < cut.2.count ':' := by
            rw [List.count_pos_iff, text']
            simp
          simp only [Option.bind_some, second, counted]
          exact iff_of_false (by simp) (by omega)

/-! ## Bounds -/

theorem int64?_eq_some_iff : Text.int64? field.toList = some n ↔ Integer field n := by
  rw [Text.int64?_eq_some_iff]
  exact ⟨fun ⟨written, least, greatest⟩ => ⟨written, least, greatest⟩,
    fun ⟨written, least, greatest⟩ => ⟨written, least, greatest⟩⟩

theorem Integer.of_unsigned (written : Unsigned field.toList min) (small : min < word32) :
    Integer field min := by
  have words : word32 < word63 := by decide
  exact ⟨.unsigned written, by omega, by omega⟩

theorem Least.integer (least : Least low min) : Integer low min :=
  .of_unsigned least.written least.small

/-- A field that holds neither an integer up to zero nor a least size is read as nothing or as a
number that is too large. -/
theorem int64?_of_minSize (not_small : ¬ ∃ min, Integer low min ∧ min ≤ 0)
    (no_size : ¬ ∃ min, Least low min) (read : Text.int64? low.toList = some n) :
    0 < n ∧ (word32 : Int) ≤ n := by
  have written := int64?_eq_some_iff.mp read
  have positive : 0 < n := by
    by_contra small
    exact not_small ⟨n, written, by omega⟩
  refine ⟨positive, ?_⟩
  by_contra small
  exact no_size ⟨n.toNat, written.written.unsigned_toNat positive, by omega, by omega⟩

theorem int64?_of_maxSize (not_below : ¬ ∃ max : Int, Integer high max ∧ max < min)
    (pos : 1 ≤ min) (no_size : ¬ ∃ max, Unsigned high.toList max ∧ min ≤ max ∧ max < word32)
    (read : Text.int64? high.toList = some n) : min ≤ n ∧ (word32 : Int) ≤ n := by
  have written := int64?_eq_some_iff.mp read
  have ordered : min ≤ n := by
    by_contra below
    exact not_below ⟨n, written, by omega⟩
  refine ⟨ordered, ?_⟩
  by_contra small
  exact no_size ⟨n.toNat, written.written.unsigned_toNat (by omega), by omega, by omega⟩

/-- Two fields write bounds or there is a reason why they do not. -/
theorem readable_or_unreadable (low high : String) :
    (∃ bounds : SizeBounds,
      Unsigned low.toList bounds.min ∧ Unsigned high.toList bounds.max) ∨
    ∃ e, Unreadable low high e := by
  by_cases too_small : ∃ min, Integer low min ∧ min ≤ 0
  · obtain ⟨min, written, small⟩ := too_small
    exact .inr ⟨_, .minSizeTooSmall written small⟩
  by_cases size : ∃ min, Least low min
  · obtain ⟨min, least⟩ := size
    by_cases below_min : ∃ max : Int, Integer high max ∧ max < min
    · obtain ⟨max, written, below⟩ := below_min
      exact .inr ⟨_, .maxBelowMin least written below⟩
    by_cases greatest : ∃ max, Unsigned high.toList max ∧ min ≤ max ∧ max < word32
    · obtain ⟨max, written, ordered, small⟩ := greatest
      exact .inl ⟨⟨min, max, least.pos, ordered, small⟩, least.written, written⟩
    · exact .inr ⟨_, .maxSize least below_min greatest⟩
  · exact .inr ⟨_, .minSize too_small size⟩

theorem readBounds_of_unsigned (least : Unsigned low.toList bounds.min)
    (greatest : Unsigned high.toList bounds.max) :
    readBounds low.toList high.toList = .ok bounds := by
  obtain ⟨min, max, pos, ordered, small⟩ := bounds
  dsimp only at least greatest
  have readLow := int64?_eq_some_iff.mpr (.of_unsigned least (by omega))
  have readHigh := int64?_eq_some_iff.mpr (.of_unsigned greatest small)
  rw [readBounds, readLow]
  dsimp only
  rw [dif_neg (by omega), dif_neg (by omega), readHigh]
  dsimp only
  rw [dif_neg (by omega), dif_neg (by omega)]
  rfl

theorem readBounds_of_unreadable (reason : Unreadable low high e) :
    readBounds low.toList high.toList = .error e := by
  cases reason with
  | minSizeTooSmall written small =>
      simp [readBounds, int64?_eq_some_iff.mpr written, small]
  | minSize not_small no_size =>
      cases readLow : Text.int64? low.toList with
      | none => simp [readBounds, readLow]
      | some min =>
          obtain ⟨positive, large⟩ := int64?_of_minSize not_small no_size readLow
          simp [readBounds, readLow, large, positive]
  | @maxBelowMin min max least written below =>
      have readLow := int64?_eq_some_iff.mpr least.integer
      have readHigh := int64?_eq_some_iff.mpr written
      obtain ⟨-, pos, small⟩ := least
      rw [readBounds, readLow]
      dsimp only
      rw [dif_neg (by omega), dif_neg (by omega), readHigh]
      dsimp only
      have clipped : (Max.max max 0).toNat = max.toNat := by omega
      rw [dif_pos below, Int.toNat_natCast, clipped]
  | @maxSize min least not_below no_size =>
      have readLow := int64?_eq_some_iff.mpr least.integer
      obtain ⟨-, pos, small⟩ := least
      rw [readBounds, readLow]
      dsimp only
      rw [dif_neg (by omega), dif_neg (by omega)]
      cases readHigh : Text.int64? high.toList with
      | none => simp
      | some max =>
          obtain ⟨ordered, large⟩ := int64?_of_maxSize not_below pos no_size readHigh
          dsimp only
          rw [dif_neg (by omega), dif_pos large, String.ofList_toList]

/-! ## Specifications -/

theorem parse_of_fields (fields : Fields spec low high identifier) (named : identifier ≠ "") :
    parse spec = (readBounds low.toList high.toList).map fun bounds => ⟨bounds, identifier⟩ := by
  rw [parse, fields?_eq_some_iff.mpr fields]
  dsimp only
  rw [if_neg (by rwa [String.toList_eq_nil_iff]), String.ofList_toList]

theorem parse_of_unnamed (fields : Fields spec low high "") :
    parse spec = .error (.groupSpec spec) := by
  rw [parse, fields?_eq_some_iff.mpr fields]
  rfl

theorem parse_of_few (few : spec.toList.count ':' < 2) : parse spec = .error (.groupSpec spec) := by
  rw [parse, fields?_eq_none_iff.mpr few]

/-- A text specifies a group or there is a reason why it does not. -/
theorem specifies_or_refused (spec : String) :
    (∃ parsed, Specifies spec parsed) ∨ ∃ e, Refused spec e := by
  cases read : fields? spec.toList with
  | none => exact .inr ⟨_, .few (fields?_eq_none_iff.mp read)⟩
  | some cs =>
      obtain ⟨low, high, identifier, fields⟩ :
          ∃ low high identifier, Fields spec low high identifier := by
        refine ⟨.ofList cs.1, .ofList cs.2.1, .ofList cs.2.2, ?_⟩
        rw [← fields?_eq_some_iff, read]
        simp
      by_cases named : identifier = ""
      · subst named
        exact .inr ⟨_, .unnamed fields⟩
      obtain ⟨bounds, least, greatest⟩ | ⟨e, reason⟩ := readable_or_unreadable low high
      · exact .inl ⟨_, .intro fields named least greatest bounds.min_pos bounds.min_le_max
          bounds.max_lt⟩
      · exact .inr ⟨e, .unreadable fields named reason⟩

theorem parse_of_specifies {parsed : GroupSpec} (specifies : Specifies spec parsed) :
    parse spec = .ok parsed := by
  cases specifies with
  | @intro low high identifier min max fields named least greatest pos ordered small =>
      have written : readBounds low.toList high.toList = .ok ⟨min, max, pos, ordered, small⟩ :=
        readBounds_of_unsigned least greatest
      rw [parse_of_fields fields named, written]
      rfl

theorem parse_of_refused (refused : Refused spec e) : parse spec = .error e := by
  cases refused with
  | few colons => exact parse_of_few colons
  | unnamed fields => exact parse_of_unnamed fields
  | unreadable fields named reason =>
      rw [parse_of_fields fields named, readBounds_of_unreadable reason]
      rfl

/-- A text is read exactly if it specifies a group, which is the result, and refused with exactly
that error for which the text is refused. -/
theorem parse_iff (spec : String) :
    (∀ parsed, parse spec = .ok parsed ↔ Specifies spec parsed) ∧
      ∀ e, parse spec = .error e ↔ Refused spec e := by
  refine ⟨fun parsed => ⟨?_, parse_of_specifies⟩, fun e => ⟨?_, parse_of_refused⟩⟩
  · intro read
    obtain ⟨parsed', specifies⟩ | ⟨e, refused⟩ := specifies_or_refused spec
    · cases (parse_of_specifies specifies).symm.trans read
      exact specifies
    · cases (parse_of_refused refused).symm.trans read
  · intro read
    obtain ⟨parsed, specifies⟩ | ⟨e', refused⟩ := specifies_or_refused spec
    · cases (parse_of_specifies specifies).symm.trans read
    · cases (parse_of_refused refused).symm.trans read
      exact refused

example :
    parse "+007:4294967295:a:b" =
      .ok ⟨⟨7, 4294967295, by decide, by decide, by decide⟩, "a:b"⟩ := by
  decide

example : parse "3:-5:g" = .error (.maxBelowMin 3 0) := by decide

end Autoscaler.GroupSpec
