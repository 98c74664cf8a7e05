/-!
# Calls to a control plane

Every call that is made is kept, with whether it reached the control plane, and a plan
says which calls fail on the way there. The plan numbers the calls from the first one
ever made, so it can cut a run of calls at any point.
-/

namespace Autoscaler

/-- A call that was made. -/
structure Sent (call : Type) where
  call : call
  /-- Whether the control plane has seen it. -/
  reached : Bool
  deriving DecidableEq, Repr

structure Traffic (call : Type) where
  /-- The calls that were made, the last one first. -/
  sent : List (Sent call)
  /-- The number of the next call. -/
  next : Nat
  next_eq : next = sent.length
  /-- Whether the call with this number fails on its way. -/
  fails : Nat → Bool

namespace Traffic

variable {call : Type}

/-- No calls so far, and none to come that fails. -/
def empty : Traffic call where
  sent := []
  next := 0
  next_eq := rfl
  fails := fun _ => false

instance : Inhabited (Traffic call) := ⟨empty⟩

/-- Whether the next call fails on its way. -/
def blocked (t : Traffic call) : Bool := t.fails t.next

def record (t : Traffic call) (c : call) (reached : Bool) : Traffic call where
  sent := ⟨c, reached⟩ :: t.sent
  next := t.next + 1
  next_eq := by simp [t.next_eq]
  fails := t.fails

/-- The next `passing` calls pass and then `failing` calls fail, or all if that is `none`. -/
def failAfter (t : Traffic call) (passing : Nat) (failing : Option Nat) : Traffic call :=
  let first := t.next + passing
  { t with
    fails := fun n =>
      first ≤ n && match failing with
        | none => true
        | some count => n < first + count }

/-- Every later call passes. -/
def neverFail (t : Traffic call) : Traffic call := { t with fails := fun _ => false }

/-- How many of the calls that reached the control plane are of one kind. -/
def count (t : Traffic call) (kind : call → Bool) : Nat :=
  t.sent.countP fun s => s.reached && kind s.call

/-- The calls made after the first `n`, in order. -/
def since (t : Traffic call) (n : Nat) : List call :=
  ((t.sent.take (t.next - n)).map Sent.call).reverse

@[simp] theorem record_sent (t : Traffic call) (c : call) (reached : Bool) :
    (t.record c reached).sent = ⟨c, reached⟩ :: t.sent := rfl

@[simp] theorem record_next (t : Traffic call) (c : call) (reached : Bool) :
    (t.record c reached).next = t.next + 1 := rfl

@[simp] theorem record_fails (t : Traffic call) (c : call) (reached : Bool) :
    (t.record c reached).fails = t.fails := rfl

end Traffic

end Autoscaler
