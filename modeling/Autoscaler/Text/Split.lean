/-!
# Cutting text at separators

Identifiers, specifications and file names are taken apart at single characters
or at a fixed leading text. All functions work on lists of characters; joining
the pieces with the separator gives the text back (`join_split`).
-/

namespace Autoscaler.Text

/-- The pieces between the occurrences of `sep`. There is always at least one. -/
def split (sep : Char) : List Char → List (List Char)
  | [] => [[]]
  | c :: cs =>
      if c = sep then [] :: split sep cs
      else
        match split sep cs with
        | [] => [[c]]
        | piece :: pieces => (c :: piece) :: pieces

/-- The parts before and after the first `sep`. -/
def cut? (sep : Char) : List Char → Option (List Char × List Char)
  | [] => none
  | c :: cs =>
      if c = sep then some ([], cs)
      else (cut? sep cs).map fun (before, rest) => (c :: before, rest)

/-- What follows `lead`, for a text that begins with it. -/
def after? : (lead text : List Char) → Option (List Char)
  | [], text => some text
  | _ :: _, [] => none
  | l :: lead, c :: text => if l = c then after? lead text else none

/-- The part before the first occurrence of `mark`. -/
def before? (mark : List Char) : List Char → Option (List Char)
  | [] => if (after? mark []).isSome then some [] else none
  | c :: cs =>
      if (after? mark (c :: cs)).isSome then some []
      else (before? mark cs).map (c :: ·)

/-- Pieces with one `sep` between each two. -/
def join (sep : Char) : List (List Char) → List Char
  | [] => []
  | [piece] => piece
  | piece :: pieces => piece ++ sep :: join sep pieces

theorem split_ne_nil (sep : Char) (cs : List Char) : split sep cs ≠ [] := by
  cases cs with
  | nil => simp [split]
  | cons c cs =>
      rw [split]
      split
      · simp
      · split <;> simp

theorem join_split (sep : Char) (cs : List Char) : join sep (split sep cs) = cs := by
  induction cs with
  | nil => rfl
  | cons c cs ih =>
      rw [split]
      match h : split sep cs with
      | [] => exact absurd h (split_ne_nil sep cs)
      | [piece] =>
          rw [h] at ih
          by_cases hc : c = sep <;> simp_all [join]
      | piece :: next :: pieces =>
          rw [h] at ih
          by_cases hc : c = sep <;> simp_all [join]

@[simp] theorem after?_append (lead text : List Char) : after? lead (lead ++ text) = some text := by
  induction lead with
  | nil => simp [after?]
  | cons l lead ih => simp [after?, ih]

theorem eq_append_of_after? {lead text rest : List Char} (h : after? lead text = some rest) :
    text = lead ++ rest := by
  induction lead generalizing text with
  | nil => simpa [after?] using h
  | cons l lead ih =>
      cases text with
      | nil => simp [after?] at h
      | cons c text =>
          rw [after?] at h
          split at h
          · next hc => simp [hc, ih h]
          · simp at h

end Autoscaler.Text
