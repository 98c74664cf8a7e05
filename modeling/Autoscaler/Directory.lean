/-!
# Directories

A directory maps keys to values and lists its entries in the order of their keys.
Every key has one entry. Looking up after an insertion or a change is described by
one equation per operation; the order is left to `insert`, which puts a new key
before the first larger one.
-/

namespace Autoscaler

structure Directory (κ α : Type) where
  entries : List (κ × α)
  nodup : (entries.map Prod.fst).Nodup

namespace Directory

variable {κ α : Type}

instance [DecidableEq κ] [DecidableEq α] : DecidableEq (Directory κ α) := fun a b =>
  decidable_of_iff (a.entries = b.entries) (by cases a; cases b; simp)

instance [Repr κ] [Repr α] : Repr (Directory κ α) := ⟨fun d n => reprPrec d.entries n⟩

def empty : Directory κ α := ⟨[], .nil⟩

instance : Inhabited (Directory κ α) := ⟨empty⟩

def keys (d : Directory κ α) : List κ := d.entries.map Prod.fst

def values (d : Directory κ α) : List α := d.entries.map Prod.snd

/-- A new entry in front of the first one with a larger key. -/
def place [Ord κ] (key : κ) (a : α) : List (κ × α) → List (κ × α)
  | [] => [(key, a)]
  | e :: es =>
      match compare key e.1 with
      | .gt => e :: place key a es
      | _ => (key, a) :: e :: es

theorem place_perm [Ord κ] (key : κ) (a : α) (es : List (κ × α)) :
    (place key a es).Perm ((key, a) :: es) := by
  induction es with
  | nil => exact .refl _
  | cons e es ih =>
      rw [place]
      split
      · exact (ih.cons e).trans (.swap _ _ _)
      · exact .refl _

variable [DecidableEq κ]

/-- The value in the first entry of `key`. -/
def lookup (key : κ) : List (κ × α) → Option α
  | [] => none
  | e :: es => if e.1 = key then some e.2 else lookup key es

def find? (d : Directory κ α) (key : κ) : Option α := lookup key d.entries

/-- The entry of `key`, if there is one, changed by `f`. -/
def modify (d : Directory κ α) (key : κ) (f : α → α) : Directory κ α where
  entries := d.entries.map fun e => if e.1 = key then (e.1, f e.2) else e
  nodup := by
    have h : (d.entries.map fun e => if e.1 = key then (e.1, f e.2) else e).map Prod.fst =
        d.entries.map Prod.fst := by
      rw [List.map_map]
      refine List.map_congr_left fun e _ => ?_
      by_cases he : e.1 = key <;> simp [he]
    rw [h]
    exact d.nodup

/-- The value at `key` becomes `a`. -/
def insert [Ord κ] (d : Directory κ α) (key : κ) (a : α) : Directory κ α :=
  if h : key ∈ d.keys then d.modify key fun _ => a
  else
    { entries := place key a d.entries
      nodup := ((place_perm key a d.entries).map Prod.fst).nodup_iff.mpr
        (List.nodup_cons.mpr ⟨h, d.nodup⟩) }

/-- Of two pairs with one key the later counts. -/
def ofList [Ord κ] (pairs : List (κ × α)) : Directory κ α :=
  pairs.foldl (fun d e => d.insert e.1 e.2) empty

@[simp] theorem find?_empty (key : κ) : (empty : Directory κ α).find? key = none := rfl

theorem lookup_isSome_iff (key : κ) (es : List (κ × α)) :
    (lookup key es).isSome ↔ key ∈ es.map Prod.fst := by
  induction es with
  | nil => simp [lookup]
  | cons e es ih =>
      by_cases h : e.1 = key
      · simp [lookup, h]
      · simp only [lookup, h, ↓reduceIte, ih, List.map_cons, List.mem_cons]
        exact ⟨.inr, fun hk => hk.resolve_left fun hk => h hk.symm⟩

theorem find?_isSome_iff (d : Directory κ α) (key : κ) : (d.find? key).isSome ↔ key ∈ d.keys :=
  lookup_isSome_iff key d.entries

@[simp] theorem keys_modify (d : Directory κ α) (key : κ) (f : α → α) :
    (d.modify key f).keys = d.keys := by
  simp only [keys, modify, List.map_map]
  refine List.map_congr_left fun e _ => ?_
  by_cases he : e.1 = key <;> simp [he]

theorem find?_modify (d : Directory κ α) (key other : κ) (f : α → α) :
    (d.modify key f).find? other = (d.find? other).map fun a => if other = key then f a else a := by
  simp only [find?, modify]
  induction d.entries with
  | nil => rfl
  | cons e es ih =>
      simp only [List.map_cons, lookup]
      by_cases he : e.1 = key <;> by_cases ho : e.1 = other <;> grind

theorem lookup_place [Ord κ] (key other : κ) (a : α) (es : List (κ × α))
    (fresh : key ∉ es.map Prod.fst) :
    lookup other (place key a es) = if other = key then some a else lookup other es := by
  induction es with
  | nil => simp [place, lookup, eq_comm]
  | cons e es ih =>
      simp only [List.map_cons, List.mem_cons, not_or] at fresh
      rw [place]
      split
      · simp only [lookup, ih fresh.2]
        grind
      · simp [lookup, eq_comm]

theorem find?_insert [Ord κ] (d : Directory κ α) (key other : κ) (a : α) :
    (d.insert key a).find? other = if other = key then some a else d.find? other := by
  rw [insert]
  split
  · next h =>
      rw [find?_modify]
      by_cases ho : other = key
      · subst ho
        obtain ⟨b, hb⟩ := Option.isSome_iff_exists.mp ((find?_isSome_iff d other).mpr h)
        simp [hb]
      · simp [ho]
  · next h => exact lookup_place key other a d.entries h

end Directory

end Autoscaler
