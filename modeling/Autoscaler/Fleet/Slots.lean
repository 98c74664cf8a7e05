/-!
# Numbered slots

A slot for every natural number. All but finitely many hold the default value, and
reading after writing is described without any bound on the number.
-/

namespace Autoscaler

structure Slots (α : Type) where
  items : List α := []
  deriving Inhabited

namespace Slots

variable {α : Type} [Inhabited α]

def get (s : Slots α) (n : Nat) : α := s.items.getD n default

/-- A list with `a` at position `n`, filled up with the default value. -/
def put : List α → Nat → α → List α
  | [], 0, a => [a]
  | [], n + 1, a => default :: put [] n a
  | _ :: items, 0, a => a :: items
  | item :: items, n + 1, a => item :: put items n a

def set (s : Slots α) (n : Nat) (a : α) : Slots α := ⟨put s.items n a⟩

theorem getD_put (items : List α) (n m : Nat) (a : α) :
    (put items n a).getD m default = if m = n then a else items.getD m default := by
  induction n generalizing items m with
  | zero => cases items <;> cases m <;> simp [put]
  | succ n ih =>
      simp only [List.getD_eq_getElem?_getD] at ih ⊢
      cases items <;> cases m <;> simp [put, ih]

theorem get_set (s : Slots α) (n m : Nat) (a : α) :
    (s.set n a).get m = if m = n then a else s.get m := getD_put s.items n m a

@[simp] theorem get_set_self (s : Slots α) (n : Nat) (a : α) : (s.set n a).get n = a := by
  simp [get_set]

theorem get_set_ne (s : Slots α) {n m : Nat} (a : α) (h : m ≠ n) :
    (s.set n a).get m = s.get m := by
  simp [get_set, h]

end Slots

end Autoscaler
