import Autoscaler.GroupSpec
import Autoscaler.Identity

/-!
# Texts that are read back

A text that was put together from pieces is taken apart into the same pieces, as long as the pieces
do not hold the separator. Numbers are read back from their digits, and specifications of groups
from their fields.
-/

namespace Autoscaler

namespace Text

variable {sep : Char} {piece : List Char}

theorem split_of_not_mem (clear : sep ∉ piece) : split sep piece = [piece] := by
  induction piece with
  | nil => rfl
  | cons c piece ih =>
      obtain ⟨other, clear⟩ := List.ne_and_not_mem_of_not_mem_cons clear
      rw [split, if_neg other.symm, ih clear]

theorem split_append (clear : sep ∉ piece) (cs : List Char) :
    split sep (piece ++ sep :: cs) = piece :: split sep cs := by
  induction piece with
  | nil => rw [List.nil_append, split, if_pos rfl]
  | cons c piece ih =>
      obtain ⟨other, clear⟩ := List.ne_and_not_mem_of_not_mem_cons clear
      rw [List.cons_append, split, if_neg other.symm, ih clear]

/-- A separator parts the pieces before it from those behind it. -/
theorem split_append_sep (sep : Char) (cs ds : List Char) :
    split sep (cs ++ sep :: ds) = split sep cs ++ split sep ds := by
  induction cs with
  | nil => simp [split]
  | cons c cs ih =>
      rw [List.cons_append, split, ih, split]
      split
      · rfl
      · cases pieces : split sep cs with
        | nil => exact absurd pieces (split_ne_nil sep cs)
        | cons piece pieces => rfl

theorem not_mem_of_mem_split {cs : List Char} (inside : piece ∈ split sep cs) : sep ∉ piece := by
  induction cs generalizing piece with
  | nil =>
      obtain rfl := List.mem_singleton.mp inside
      exact List.not_mem_nil
  | cons c cs ih =>
      rw [split] at inside
      split at inside
      · obtain rfl | later := List.mem_cons.mp inside
        · exact List.not_mem_nil
        · exact ih later
      · next other =>
        split at inside
        · next empty => exact absurd empty (split_ne_nil sep cs)
        · next first pieces split =>
          rw [split] at ih
          obtain rfl | later := List.mem_cons.mp inside
          · exact List.not_mem_cons_of_ne_of_not_mem (Ne.symm other) (ih List.mem_cons_self)
          · exact ih (List.mem_cons_of_mem _ later)

theorem eq_of_split_eq_singleton {cs : List Char} (single : split sep cs = [piece]) :
    piece = cs := by
  have joined := join_split sep cs
  rwa [single] at joined

theorem split_join {pieces : List (List Char)} (some_piece : pieces ≠ [])
    (clear : ∀ piece ∈ pieces, sep ∉ piece) : split sep (join sep pieces) = pieces := by
  induction pieces with
  | nil => exact absurd rfl some_piece
  | cons piece pieces ih =>
      obtain ⟨here, others⟩ := List.forall_mem_cons.mp clear
      cases pieces with
      | nil => exact split_of_not_mem here
      | cons next pieces =>
          rw [join, split_append here, ih (List.cons_ne_nil _ _) others]
          simp

/-- The pieces of a text are those without a separator that it is joined from. -/
theorem split_eq_iff {cs : List Char} {pieces : List (List Char)} :
    split sep cs = pieces ↔
      pieces ≠ [] ∧ (∀ piece ∈ pieces, sep ∉ piece) ∧ cs = join sep pieces := by
  constructor
  · rintro rfl
    exact ⟨split_ne_nil sep cs, fun _ => not_mem_of_mem_split, (join_split sep cs).symm⟩
  · rintro ⟨some_piece, clear, rfl⟩
    exact split_join some_piece clear

theorem after?_eq_some_iff {lead text rest : List Char} :
    after? lead text = some rest ↔ text = lead ++ rest := by
  constructor
  · exact eq_append_of_after?
  · rintro rfl
    exact after?_append lead rest

theorem cut?_append (clear : sep ∉ piece) (cs : List Char) :
    cut? sep (piece ++ sep :: cs) = some (piece, cs) := by
  induction piece with
  | nil => rw [List.nil_append, cut?, if_pos rfl]
  | cons c piece ih =>
      obtain ⟨other, clear⟩ := List.ne_and_not_mem_of_not_mem_cons clear
      rw [List.cons_append, cut?, if_neg other.symm, ih clear]
      rfl

theorem cut?_eq_some_iff {cs rest : List Char} :
    cut? sep cs = some (piece, rest) ↔ cs = piece ++ sep :: rest ∧ sep ∉ piece := by
  constructor
  · intro cut
    induction cs generalizing piece with
    | nil => cases cut
    | cons c cs ih =>
        rw [cut?] at cut
        split at cut
        · next here =>
          cases cut
          exact ⟨by rw [here, List.nil_append], List.not_mem_nil⟩
        · next other =>
          obtain ⟨⟨before, _⟩, later, same⟩ := Option.map_eq_some_iff.mp cut
          cases same
          obtain ⟨rfl, clear⟩ := ih later
          exact ⟨rfl, List.not_mem_cons_of_ne_of_not_mem (Ne.symm other) clear⟩
  · rintro ⟨rfl, clear⟩
    exact cut?_append clear rest

theorem cut?_eq_none_iff {cs : List Char} : cut? sep cs = none ↔ sep ∉ cs := by
  induction cs with
  | nil => simp [cut?]
  | cons c cs ih =>
      rw [cut?, List.mem_cons]
      split
      · next here => simp [here]
      · next other => simp [ih, Ne.symm other]

/-- A text that can stand between slashes. -/
structure Plain (text : String) : Prop where
  nonempty : text ≠ ""
  clear : '/' ∉ text.toList

instance (text : String) : Decidable (Plain text) :=
  decidable_of_iff (text ≠ "" ∧ '/' ∉ text.toList)
    ⟨fun ⟨nonempty, clear⟩ => ⟨nonempty, clear⟩, fun plain => ⟨plain.nonempty, plain.clear⟩⟩

theorem Plain.toList_ne_nil {text : String} (plain : Plain text) : text.toList ≠ [] := by
  rw [ne_eq, String.toList_eq_nil_iff]
  exact plain.nonempty

theorem slashPair?_plain {zone name : String} (plain : Plain zone) (plain' : Plain name) :
    slashPair? (zone.toList ++ '/' :: name.toList) = some (zone, name) := by
  rw [slashPair?, split_append plain.clear, split_of_not_mem plain'.clear]
  simp [plain.toList_ne_nil, plain'.toList_ne_nil]

theorem plain_ofList {cs : List Char} (nonempty : cs ≠ []) (clear : '/' ∉ cs) :
    Plain (String.ofList cs) where
  nonempty := by rwa [ne_eq, ← String.toList_eq_nil_iff, String.toList_ofList]
  clear := by rwa [String.toList_ofList]

theorem slashPair?_eq_some_iff {cs : List Char} {zone name : String} :
    slashPair? cs = some (zone, name) ↔
      (Plain zone ∧ Plain name) ∧ cs = zone.toList ++ '/' :: name.toList := by
  constructor
  · intro read
    rw [slashPair?] at read
    split at read
    · next zone' name' pieces =>
      obtain ⟨-, clear, joined⟩ := split_eq_iff.mp pieces
      split at read
      · next nonempty =>
        cases read
        refine ⟨⟨plain_ofList nonempty.1 (clear _ ?_), plain_ofList nonempty.2 (clear _ ?_)⟩, ?_⟩
        · simp
        · simp
        · rw [joined, String.toList_ofList, String.toList_ofList]
          rfl
      · cases read
    · cases read
  · rintro ⟨⟨plain, plain'⟩, rfl⟩
    exact slashPair?_plain plain plain'

/-! ## Numbers -/

theorem isDigit_repr {n : Nat} {c : Char} (digit : c ∈ n.repr.toList) : isDigit c := by
  rw [Nat.toList_repr] at digit
  exact Nat.isDigit_of_mem_toDigits (by decide) (by decide) digit

theorem natural?_repr (n : Nat) : natural? n.repr.toList = some n := by
  have some_digit : n.repr.toList ≠ [] := by
    rw [Nat.toList_repr]
    exact Nat.toDigits_ne_nil
  have digits : n.repr.toList.all isDigit := List.all_eq_true.mpr fun _ => isDigit_repr
  have read : value n.repr.toList = n := by
    rw [Nat.toList_repr]
    exact Nat.ofDigitChars_toDigits (by decide) (by decide)
  rw [natural?, if_pos ⟨some_digit, digits⟩, read]

theorem int64?_repr {n : Nat} (small : n < word63) : int64? n.repr.toList = some (n : Int) := by
  have unsigned : integer? n.repr.toList = some (n : Int) := by
    rw [integer?, natural?_repr]
    · rfl
    · rintro cs signed
      exact absurd (isDigit_repr (signed ▸ List.mem_cons_self)) (by decide)
    · rintro cs signed
      exact absurd (isDigit_repr (signed ▸ List.mem_cons_self)) (by decide)
  rw [int64?, unsigned, Option.filter_some, if_pos]
  rw [decide_eq_true_eq]
  omega

end Text

namespace GroupSpec

/-- How a specification is written. -/
def text (spec : GroupSpec) : String :=
  s!"{spec.bounds.min}:{spec.bounds.max}:{spec.identifier}"

theorem readBounds_repr (bounds : SizeBounds) :
    readBounds bounds.min.repr.toList bounds.max.repr.toList = .ok bounds := by
  obtain ⟨min, max, min_pos, min_le_max, max_lt⟩ := bounds
  have words : word32 < word63 := by decide
  rw [readBounds, Text.int64?_repr (n := min) (by omega), Text.int64?_repr (n := max) (by omega)]
  have positive : min ≠ 0 := by omega
  have small : ¬ (word32 : Int) ≤ min := by omega
  have ordered : ¬ (max : Int) < min := by omega
  have small' : ¬ (word32 : Int) ≤ max := by omega
  simp [positive, small, ordered, small']

theorem parse_text (spec : GroupSpec) (named : spec.identifier ≠ "") :
    parse spec.text = .ok spec := by
  have digits (n : Nat) : ':' ∉ n.repr.toList := fun colon =>
    absurd (Text.isDigit_repr colon) (by decide)
  have written : spec.text.toList = spec.bounds.min.repr.toList ++
      ':' :: (spec.bounds.max.repr.toList ++ ':' :: spec.identifier.toList) := by
    simp [text, toString]
  have fields : fields? spec.text.toList = some (spec.bounds.min.repr.toList,
      spec.bounds.max.repr.toList, spec.identifier.toList) := by
    rw [written, fields?]
    simp only [Text.cut?_append (digits _), Option.bind_eq_bind, Option.bind_some]
  rw [parse, fields]
  dsimp only
  rw [if_neg (by rwa [String.toList_eq_nil_iff]), readBounds_repr, String.ofList_toList]
  rfl

end GroupSpec

end Autoscaler
