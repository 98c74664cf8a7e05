import Autoscaler.Directory

/-!
# Entries and changes of directories

A key is looked up to the value of its one entry. A change at one key leaves every other key
as it was; what has become of the value there is left to a relation. This is stated for
look-ups of any kind, since a directory is not all that is looked up by a key.
-/

namespace Autoscaler

variable {κ α : Type}

/-- Where no two items have one key, each is found under its key. -/
theorem find?_key_iff [DecidableEq κ] {key : α → κ} {items : List α}
    (unique : ∀ a ∈ items, ∀ a' ∈ items, key a = key a' → a = a') {k : κ} {a : α} :
    (items.find? fun a => key a = k) = some a ↔ a ∈ items ∧ key a = k := by
  constructor
  · intro found
    exact ⟨List.mem_of_find?_eq_some found, by simpa using List.find?_some found⟩
  · rintro ⟨inside, rfl⟩
    cases found : items.find? fun a' => key a' = key a with
    | none =>
        have missing := List.find?_eq_none.mp found a inside
        simp at missing
    | some a' =>
        have same : key a' = key a := by simpa using List.find?_some found
        rw [unique a' (List.mem_of_find?_eq_some found) a inside same]

namespace Directory

variable [DecidableEq κ]

theorem lookup_eq_some_iff {key : κ} {a : α} {es : List (κ × α)}
    (nodup : (es.map Prod.fst).Nodup) : lookup key es = some a ↔ (key, a) ∈ es := by
  induction es with
  | nil => simp [lookup]
  | cons e es ih =>
      obtain ⟨fresh, nodup⟩ := List.nodup_cons.mp nodup
      rw [lookup, List.mem_cons]
      split
      · next here =>
          subst here
          constructor
          · intro found
            cases found
            exact .inl rfl
          · rintro (first | later)
            · rw [← first]
            · exact absurd (List.mem_map_of_mem later) fresh
      · next elsewhere =>
          rw [ih nodup]
          constructor
          · exact .inr
          · rintro (rfl | later)
            · exact absurd rfl elsewhere
            · exact later

theorem mem_entries_iff {d : Directory κ α} {key : κ} {a : α} :
    (key, a) ∈ d.entries ↔ d.find? key = some a := (lookup_eq_some_iff d.nodup).symm

theorem find?_ofList [Ord κ] {pairs : List (κ × α)} (nodup : (pairs.map Prod.fst).Nodup)
    (key : κ) : (ofList pairs : Directory κ α).find? key = lookup key pairs := by
  have insertAll (d : Directory κ α) :
      (pairs.foldl (fun d e => d.insert e.1 e.2) d).find? key =
        (lookup key pairs).or (d.find? key) := by
    induction pairs generalizing d with
    | nil => rfl
    | cons e pairs ih =>
        obtain ⟨fresh, nodup⟩ := List.nodup_cons.mp nodup
        rw [List.foldl_cons, ih nodup, find?_insert, lookup]
        by_cases here : e.1 = key
        · have absent : lookup key pairs = none := by
            rw [← Option.not_isSome_iff_eq_none, lookup_isSome_iff, ← here]
            exact fresh
          simp [here, absent]
        · rw [if_neg here, if_neg fun same => here same.symm]
  rw [ofList, insertAll, find?_empty, Option.or_none]

end Directory

/-- At most the value at `key` has changed, to one that `R` relates to the old one. -/
structure ChangedAt (key : κ) (R : α → α → Prop) (find find' : κ → Option α) : Prop where
  here : Option.Rel R (find key) (find' key)
  elsewhere : ∀ other, other ≠ key → find' other = find other

/-- Every value of the later look-up comes from one of the earlier look-up. -/
def Within (R : α → α → Prop) (find find' : κ → Option α) : Prop :=
  ∀ key a', find' key = some a' → ∃ a, find key = some a ∧ R a a'

variable {key : κ} {R S : α → α → Prop} {find find' find'' : κ → Option α}

namespace ChangedAt

theorem refl (same : ∀ a, R a a) (key : κ) (find : κ → Option α) : ChangedAt key R find find where
  here := by
    cases find key with
    | none => exact .none
    | some a => exact .some (same a)
  elsewhere _ _ := rfl

theorem modify [DecidableEq κ] {d : Directory κ α} {f : α → α}
    (changes : ∀ a, d.find? key = some a → R a (f a)) :
    ChangedAt key R d.find? (d.modify key f).find? where
  here := by
    rw [Directory.find?_modify]
    cases found : d.find? key with
    | none => exact .none
    | some a =>
        rw [Option.map_some, if_pos rfl]
        exact .some (changes a found)
  elsewhere other different := by simp [Directory.find?_modify, different]

theorem trans {T : α → α → Prop} (compose : ∀ a b c, R a b → S b c → T a c)
    (first : ChangedAt key R find find') (rest : ChangedAt key S find' find'') :
    ChangedAt key T find find'' where
  here := by
    have begun := first.here
    have ended := rest.here
    generalize find key = before at begun ⊢
    generalize find' key = between at begun ended
    generalize find'' key = after at ended ⊢
    cases begun with
    | none =>
        cases ended
        exact .none
    | some begun =>
        cases ended with
        | some ended => exact .some (compose _ _ _ begun ended)
  elsewhere other different :=
    (rest.elsewhere other different).trans (first.elsewhere other different)

/-- The value before the change, if there is one after it. -/
theorem before (changed : ChangedAt key R find find') {a' : α} (found : find' key = some a') :
    ∃ a, find key = some a ∧ R a a' := by
  have here := changed.here
  rw [found] at here
  generalize earlier : find key = before at here
  cases here with
  | some related => exact ⟨_, rfl, related⟩

/-- The value after the change, if there is one before it. -/
theorem after (changed : ChangedAt key R find find') {a : α} (found : find key = some a) :
    ∃ a', find' key = some a' ∧ R a a' := by
  have here := changed.here
  rw [found] at here
  generalize later : find' key = after at here
  cases here with
  | some related => exact ⟨_, rfl, related⟩

/-- What was known of the value helps to say what it has become. -/
theorem mono (weaker : ∀ a b, find key = some a → R a b → S a b)
    (changed : ChangedAt key R find find') : ChangedAt key S find find' where
  here := by
    have here := changed.here
    generalize known : find key = before at here ⊢
    generalize find' key = after at here ⊢
    cases here with
    | none => exact .none
    | some related => exact .some (weaker _ _ known related)
  elsewhere := changed.elsewhere

/-- What becomes of a part of the value. -/
theorem here_map {β : Type} {part : α → β} {T : β → β → Prop}
    (changed : ChangedAt key (fun a b => T (part a) (part b)) find find') :
    Option.Rel T ((find key).map part) ((find' key).map part) := by
  have here := changed.here
  generalize find key = before at here ⊢
  generalize find' key = after at here ⊢
  cases here with
  | none => exact .none
  | some related => exact .some related

theorem within (same : ∀ a, R a a) (changed : ChangedAt key R find find') :
    Within R find find' := by
  intro other a' found
  by_cases here : other = key
  · subst here
    exact changed.before found
  · rw [changed.elsewhere other here] at found
    exact ⟨a', found, same a'⟩

end ChangedAt

theorem Within.trans (compose : ∀ a b c, R a b → R b c → R a c) (first : Within R find find')
    (rest : Within R find' find'') : Within R find find'' := by
  intro key c found
  obtain ⟨b, found, related⟩ := rest key c found
  obtain ⟨a, found, related'⟩ := first key b found
  exact ⟨a, found, compose a b c related' related⟩

end Autoscaler
