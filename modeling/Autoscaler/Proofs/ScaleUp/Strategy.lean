import Autoscaler.ScaleUp.Strategy
import Mathlib.Data.List.Forall2

/-!
# What strategies choose

Each strategy picks an option by its place among the others: all options before it help no
pod, or fewer pods, and for the strategy that looks for most pods none behind it helps more.
Options that help no pod make no difference to any of this. Told by positions, one strategy
chooses the least position of an option that helps, the other one the least position of an option
that helps most.
-/

namespace Autoscaler.Strategy

variable {α β : Type} {helps : α → Nat} {strategy : Strategy} {options seen : List α} {o : α}

/-- The option has the place that a strategy looks for. -/
def Picks (helps : α → Nat) (strategy : Strategy) (options : List α) (o : α) : Prop :=
  0 < helps o ∧ ∃ before after, options = before ++ o :: after ∧
    match strategy with
    | first => ∀ other ∈ before, helps other = 0
    | mostPods =>
        (∀ other ∈ before, helps other < helps o) ∧ ∀ other ∈ after, helps other ≤ helps o

theorem Picks.mem (picks : strategy.Picks helps options o) : o ∈ options := by
  obtain ⟨-, before, after, rfl, -⟩ := picks
  simp

/-- An option that was picked among images is the image of one that is picked. -/
theorem Picks.of_map {helps : β → Nat} {f : α → β} {b : β}
    (picks : strategy.Picks helps (options.map f) b) :
    ∃ a, f a = b ∧ strategy.Picks (fun a => helps (f a)) options a := by
  obtain ⟨some_pod, before, after, split, place⟩ := picks
  obtain ⟨before, rest, rfl, rfl, onward⟩ := List.map_eq_append_iff.mp split
  obtain ⟨a, after, rfl, rfl, rfl⟩ := List.map_eq_cons_iff.mp onward
  refine ⟨a, rfl, some_pod, before, after, rfl, ?_⟩
  cases strategy with
  | first => simpa only [List.forall_mem_map] using place
  | mostPods => simpa only [List.forall_mem_map] using place

/-- What a search for most pods holds after it has seen some options. -/
def Leads (helps : α → Nat) (seen : List α) : Option α → Prop
  | none => ∀ o ∈ seen, helps o = 0
  | some best => mostPods.Picks helps seen best

theorem Leads.skip {best : Option α} (leads : Leads helps seen best) (useless : helps o = 0) :
    Leads helps (seen ++ [o]) best := by
  cases best with
  | none =>
      intro other member
      obtain earlier | last := List.mem_append.mp member
      · exact leads other earlier
      · rwa [List.mem_singleton.mp last]
  | some best =>
      obtain ⟨some_pod, before, after, rfl, fewer, atMost⟩ := leads
      refine ⟨some_pod, before, after ++ [o], by simp, fewer, ?_⟩
      intro other member
      obtain earlier | last := List.mem_append.mp member
      · exact atMost other earlier
      · rw [List.mem_singleton.mp last, useless]
        exact Nat.zero_le _

theorem Leads.better {best : Option α} (leads : Leads helps seen best) (useful : 0 < helps o) :
    Leads helps (seen ++ [o]) (better helps best o) := by
  cases best with
  | none =>
      refine ⟨useful, seen, [], rfl, ?_, by simp⟩
      intro other member
      rw [leads other member]
      exact useful
  | some best =>
      obtain ⟨some_pod, before, after, rfl, fewer, atMost⟩ := leads
      rw [Strategy.better]
      split
      · next no_more =>
          refine ⟨some_pod, before, after ++ [o], by simp, fewer, ?_⟩
          intro other member
          obtain earlier | last := List.mem_append.mp member
          · exact atMost other earlier
          · rwa [List.mem_singleton.mp last]
      · next more =>
          have less : helps best < helps o := Nat.lt_of_not_le more
          refine ⟨useful, before ++ best :: after, [], rfl, ?_, by simp⟩
          intro other member
          obtain earlier | later := List.mem_append.mp member
          · exact Nat.lt_trans (fewer other earlier) less
          · obtain rfl | later := List.mem_cons.mp later
            · exact less
            · exact Nat.lt_of_le_of_lt (atMost other later) less

/-- A search that has seen some options goes on through the others. -/
theorem Leads.run {best : Option α} (leads : Leads helps seen best) (rest : List α) :
    Leads helps (seen ++ rest)
      ((rest.filter fun o => 0 < helps o).foldl (Strategy.better helps) best) := by
  -- The seen options grow by one at the end for each one that the rest loses at the front.
  induction rest generalizing seen best with
  | nil => simpa using leads
  | cons o rest ih =>
      rw [List.append_cons, List.filter_cons]
      by_cases useful : 0 < helps o
      · rw [if_pos (decide_eq_true useful), List.foldl_cons]
        exact ih (leads.better useful)
      · rw [if_neg (by simpa using useful)]
        exact ih (leads.skip (Nat.eq_zero_of_not_pos useful))

theorem leads_mostPods (helps : α → Nat) (options : List α) :
    Leads helps options (mostPods.choose? helps options) := by
  have start : Leads helps [] none := by simp [Leads]
  exact start.run options

/-- A strategy chooses no option only if none helps a pod. -/
theorem choose?_eq_none (chosen : strategy.choose? helps options = none) :
    ∀ o ∈ options, helps o = 0 := by
  cases strategy with
  | first =>
      intro o member
      have useless := List.find?_eq_none.mp chosen o member
      exact Nat.eq_zero_of_not_pos (by simpa using useless)
  | mostPods =>
      have leads := leads_mostPods helps options
      rwa [chosen] at leads

/-- A chosen option is the one to pick. -/
theorem choose?_eq_some (chosen : strategy.choose? helps options = some o) :
    strategy.Picks helps options o := by
  cases strategy with
  | first =>
      obtain ⟨useful, before, after, split, useless⟩ := List.find?_eq_some_iff_append.mp chosen
      refine ⟨of_decide_eq_true useful, before, after, split, ?_⟩
      intro other member
      exact Nat.eq_zero_of_not_pos (by simpa using useless other member)
  | mostPods =>
      have leads := leads_mostPods helps options
      rwa [chosen] at leads

/-- Options that help no pod make no difference. -/
theorem choose?_filter (strategy : Strategy) (options : List α) :
    strategy.choose? helps (options.filter fun o => 0 < helps o) =
      strategy.choose? helps options := by
  cases strategy with
  | first => simp [choose?, List.find?_filter]
  | mostPods => simp [choose?, List.filter_filter]

/-- A choice among images is the image of the choice. -/
theorem choose?_map (strategy : Strategy) (helps : β → Nat) (f : α → β) (options : List α) :
    strategy.choose? helps (options.map f) =
      (strategy.choose? (fun a => helps (f a)) options).map f := by
  cases strategy with
  | first => exact List.find?_map
  | mostPods =>
      have step (options : List α) (best : Option α) :
          (options.map f).foldl (better helps) (best.map f) =
            (options.foldl (better fun a => helps (f a)) best).map f := by
        induction options generalizing best with
        | nil => rfl
        | cons o options ih =>
            rw [List.map_cons, List.foldl_cons, List.foldl_cons, ← ih]
            congr 1
            cases best with
            | none => rfl
            | some best =>
                simp only [better, Option.map_some]
                split <;> rfl
      rw [choose?, choose?, List.filter_map]
      exact step _ none

/-- Options that are related and help equally many pods are chosen alike. -/
theorem choose?_rel {R : α → β → Prop} {helps' : β → Nat}
    (same : ∀ a b, R a b → helps a = helps' b) {options' : List β}
    (related : List.Forall₂ R options options') (strategy : Strategy) :
    Option.Rel R (strategy.choose? helps options) (strategy.choose? helps' options') := by
  cases strategy with
  | first =>
      induction related with
      | nil => exact .none
      | @cons a b options options' here others ih =>
          simp only [choose?, List.find?_cons, same a b here] at ih ⊢
          split
          · exact .some here
          · exact ih
  | mostPods =>
      have useful : List.Forall₂ R (options.filter fun o => 0 < helps o)
          (options'.filter fun o => 0 < helps' o) :=
        List.rel_filter (fun a b here => by simp [same a b here]) related
      refine List.rel_foldl ?_ .none useful
      intro best best' leads a b here
      cases leads with
      | none => exact .some here
      | some there =>
          rw [better, better, same _ _ there, same _ _ here]
          split
          · exact .some there
          · exact .some here

/-! ## Positions -/

/-- The option at position `i` is the one that a strategy looks for. -/
def Stands (helps : α → Nat) (options : List α) (i : Nat) (o : α) : Strategy → Prop
  | first => 0 < helps o ∧ ∀ j < i, ∀ other, options[j]? = some other → helps other = 0
  | mostPods =>
      0 < helps o ∧ (∀ other ∈ options, helps other ≤ helps o) ∧
        ∀ j < i, ∀ other, options[j]? = some other → helps other < helps o

variable {i i' : Nat} {o' : α}

theorem Stands.useful (stands : strategy.Stands helps options i o) : 0 < helps o := by
  cases strategy with
  | first => exact stands.1
  | mostPods => exact stands.1

/-- No two positions are looked for. -/
theorem Stands.unique (here : options[i]? = some o) (there : options[i']? = some o')
    (stands : strategy.Stands helps options i o) (stands' : strategy.Stands helps options i' o') :
    i = i' := by
  obtain earlier | same | later := Nat.lt_trichotomy i i'
  · cases strategy with
    | first => exact absurd (stands'.2 i earlier o here) (Nat.ne_of_gt stands.1)
    | mostPods =>
        have more := stands'.2.2 i earlier o here
        exact absurd (stands.2.1 o' (List.mem_of_getElem? there)) (Nat.not_le_of_lt more)
  · exact same
  · cases strategy with
    | first => exact absurd (stands.2 i' later o' there) (Nat.ne_of_gt stands'.1)
    | mostPods =>
        have more := stands.2.2 i' later o' there
        exact absurd (stands'.2.1 o (List.mem_of_getElem? here)) (Nat.not_le_of_lt more)

theorem Picks.stands (picks : strategy.Picks helps options o) :
    ∃ i, options[i]? = some o ∧ strategy.Stands helps options i o := by
  obtain ⟨useful, before, after, rfl, place⟩ := picks
  have earlier {j : Nat} (less : j < before.length) {other : α}
      (there : (before ++ o :: after)[j]? = some other) : other ∈ before := by
    rw [List.getElem?_append_left less] at there
    exact List.mem_of_getElem? there
  refine ⟨before.length, by simp, ?_⟩
  cases strategy with
  | first => exact ⟨useful, fun j less other there => place other (earlier less there)⟩
  | mostPods =>
      refine ⟨useful, ?_, fun j less other there => place.1 other (earlier less there)⟩
      intro other member
      obtain front | back := List.mem_append.mp member
      · exact Nat.le_of_lt (place.1 other front)
      · obtain rfl | back := List.mem_cons.mp back
        · exact Nat.le_refl _
        · exact place.2 other back

/-- Numbers on the options change nothing about where a strategy looks. -/
theorem stands_zipIdx_iff : strategy.Stands (fun e => helps e.1) options.zipIdx i (o, i) ↔
    strategy.Stands helps options i o := by
  have numbered (j : Nat) : options.zipIdx[j]? = options[j]?.map fun other => (other, j) := by
    rw [List.getElem?_zipIdx, Nat.zero_add]
  have before (P : α → Prop) :
      (∀ j < i, ∀ e, options.zipIdx[j]? = some e → P e.1) ↔
        ∀ j < i, ∀ other, options[j]? = some other → P other := by
    simp [numbered]
  have all (P : α → Prop) : (∀ e ∈ options.zipIdx, P e.1) ↔ ∀ other ∈ options, P other := by
    rw [← List.forall_mem_map (f := Prod.fst) (P := P), List.zipIdx_map_fst]
  cases strategy with
  | first => exact and_congr_right' (before fun other => helps other = 0)
  | mostPods =>
      exact and_congr_right' (and_congr (all fun other => helps other ≤ helps o)
        (before fun other => helps other < helps o))

/-- Of numbered options exactly the one at the position looked for is chosen. -/
theorem choose?_zipIdx_eq_some_iff :
    strategy.choose? (fun e => helps e.1) options.zipIdx = some (o, i) ↔
      options[i]? = some o ∧ strategy.Stands helps options i o := by
  have sound {o : α} {i : Nat}
      (chosen : strategy.choose? (fun e => helps e.1) options.zipIdx = some (o, i)) :
      options[i]? = some o ∧ strategy.Stands helps options i o := by
    obtain ⟨j, there, stands⟩ := (choose?_eq_some chosen).stands
    rw [List.getElem?_zipIdx, Nat.zero_add] at there
    obtain ⟨other, here, same⟩ := Option.map_eq_some_iff.mp there
    cases same
    exact ⟨here, stands_zipIdx_iff.mp stands⟩
  refine ⟨sound, ?_⟩
  rintro ⟨here, stands⟩
  cases chosen : strategy.choose? (fun e => helps e.1) options.zipIdx with
  | none =>
      have useless := choose?_eq_none chosen (o, i) (List.mk_mem_zipIdx_iff_getElem?.mpr here)
      exact absurd useless (Nat.ne_of_gt stands.useful)
  | some e =>
      obtain ⟨o', i'⟩ := e
      obtain ⟨there, stands'⟩ := sound chosen
      cases stands.unique here there stands'
      cases here.symm.trans there
      rfl

theorem choose?_eq_none_iff : strategy.choose? helps options = none ↔ ∀ o ∈ options, helps o = 0 := by
  refine ⟨choose?_eq_none, ?_⟩
  intro useless
  cases chosen : strategy.choose? helps options with
  | none => rfl
  | some o =>
      have picks := choose?_eq_some chosen
      exact absurd (useless o picks.mem) (Nat.ne_of_gt picks.1)

/-- One strategy chooses the first option that helps a pod, the other one the first of those
that help most. What is chosen is told by its position, since options may be equal. Neither
chooses anything if and only if no option helps a pod, so they agree on whether to choose. -/
theorem choose?_leastPosition (helps : α → Nat) (options : List α) :
    (∀ o i, first.choose? (fun e => helps e.1) options.zipIdx = some (o, i) ↔
      options[i]? = some o ∧ 0 < helps o ∧
        ∀ j < i, ∀ other, options[j]? = some other → helps other = 0) ∧
    (∀ o i, mostPods.choose? (fun e => helps e.1) options.zipIdx = some (o, i) ↔
      options[i]? = some o ∧ 0 < helps o ∧ (∀ other ∈ options, helps other ≤ helps o) ∧
        ∀ j < i, ∀ other, options[j]? = some other → helps other < helps o) ∧
    (∀ strategy : Strategy, strategy.choose? helps options =
      (strategy.choose? (fun e => helps e.1) options.zipIdx).map Prod.fst) ∧
    (∀ strategy : Strategy, strategy.choose? helps options = none ↔
      ∀ o ∈ options, helps o = 0) ∧
    ((first.choose? helps options).isSome ↔ (mostPods.choose? helps options).isSome) := by
  refine ⟨fun o i => choose?_zipIdx_eq_some_iff, fun o i => choose?_zipIdx_eq_some_iff, ?_,
    fun strategy => choose?_eq_none_iff, ?_⟩
  · intro strategy
    rw [← choose?_map, List.zipIdx_map_fst]
  · rw [Option.isSome_iff_ne_none, Option.isSome_iff_ne_none, ne_eq, ne_eq, choose?_eq_none_iff,
      choose?_eq_none_iff]

end Autoscaler.Strategy
