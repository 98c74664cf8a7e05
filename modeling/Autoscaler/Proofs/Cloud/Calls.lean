import Autoscaler.Aws.Cloud
import Autoscaler.Gce.Cloud

/-!
# Kinds of calls

Calls to a control plane ask for something, give a group another size, or delete
instances. A stretch of traffic in which all calls ask is what an observer leaves behind:
it is longer than before, nothing else about the plan of failures has changed, and the
numbers of resizing and deleting calls are the same.
-/

namespace Autoscaler

inductive CallKind where
  | ask
  | resize
  | delete
  deriving DecidableEq, Repr

def Aws.Call.kind : Aws.Call → CallKind
  | describeGroup _ => .ask
  | describeInstance _ => .ask
  | setDesiredCapacity .. => .resize
  | terminateInstance .. => .delete

def Gce.Call.kind : Gce.Call → CallKind
  | targetSize _ => .ask
  | listInstances _ => .ask
  | resize .. => .resize
  | deleteInstances .. => .delete
  | operationStatus _ => .ask

/-- The group that a call gives another size. -/
def Aws.Call.resizes? : Aws.Call → Option String
  | setDesiredCapacity name .. => some name
  | _ => none

/-- The group that a call gives another size. -/
def Gce.Call.resizes? : Gce.Call → Option Gce.GroupKey
  | resize key _ => some key
  | _ => none

theorem Aws.Call.resizes?_of_ask {call : Aws.Call} (asks : call.kind = .ask) :
    call.resizes? = none := by
  cases call <;> first | rfl | cases asks

theorem Gce.Call.resizes?_of_ask {call : Gce.Call} (asks : call.kind = .ask) :
    call.resizes? = none := by
  cases call <;> first | rfl | cases asks

/-- Whether a check of a caller refused, so that no control plane was asked to delete. -/
def CloudError.isRefusal : CloudError → Bool
  | mixedGroups .. => true
  | foreignMember .. => true
  | notManaged _ => true
  | minSizeReached .. => true
  | _ => false

namespace Traffic

variable {call : Type} {kindOf : call → CallKind} {kind : CallKind} {t t' t'' : Traffic call}

/-- How many calls of one kind were made, whether or not they reached the control plane. -/
def made (kindOf : call → CallKind) (kind : CallKind) (t : Traffic call) : Nat :=
  t.sent.countP fun s => kindOf s.call = kind

theorem made_record (t : Traffic call) (c : call) (reached : Bool) :
    (t.record c reached).made kindOf kind =
      t.made kindOf kind + if kindOf c = kind then 1 else 0 := by
  simp [made, List.countP_cons]

/-- No later call fails on its way. -/
def Open (t : Traffic call) : Prop := ∀ n, t.next ≤ n → t.fails n = false

theorem Open.not_blocked (clear : t.Open) : t.blocked = false := clear t.next (Nat.le_refl _)

theorem Open.record (clear : t.Open) (c : call) (reached : Bool) : (t.record c reached).Open :=
  fun n later => clear n (Nat.le_of_succ_le later)

/-- The traffic after more calls, all of which ask. -/
structure Asks (kindOf : call → CallKind) (t t' : Traffic call) : Prop where
  fails : t'.fails = t.fails
  sent : ∃ asked, t'.sent = asked ++ t.sent ∧ ∀ s ∈ asked, kindOf s.call = .ask

theorem Asks.refl (t : Traffic call) : Asks kindOf t t := ⟨rfl, [], rfl, by simp⟩

theorem Asks.trans (first : Asks kindOf t t') (rest : Asks kindOf t' t'') :
    Asks kindOf t t'' := by
  obtain ⟨asked, sent, all⟩ := first.sent
  obtain ⟨asked', sent', all'⟩ := rest.sent
  refine ⟨rest.fails.trans first.fails, asked' ++ asked, ?_, ?_⟩
  · rw [sent', sent, List.append_assoc]
  · intro s member
    obtain later | earlier := List.mem_append.mp member
    · exact all' s later
    · exact all s earlier

theorem Asks.record {c : call} (asks : kindOf c = .ask) (t : Traffic call) (reached : Bool) :
    Asks kindOf t (t.record c reached) :=
  ⟨rfl, [⟨c, reached⟩], rfl, by simpa using asks⟩

theorem Asks.suffix (asks : Asks kindOf t t') : t.sent <:+ t'.sent := by
  obtain ⟨asked, sent, -⟩ := asks.sent
  exact ⟨asked, sent.symm⟩

theorem Asks.made_eq (asks : Asks kindOf t t') (changing : kind ≠ .ask) :
    t'.made kindOf kind = t.made kindOf kind := by
  obtain ⟨asked, sent, all⟩ := asks.sent
  have none_changing : asked.countP (fun s => kindOf s.call = kind) = 0 := by
    rw [List.countP_eq_zero]
    intro s member same
    exact changing ((of_decide_eq_true same).symm.trans (all s member))
  rw [made, sent, List.countP_append, none_changing, Nat.zero_add, made]

/-- One call of some kind with calls that ask behind it counts as one call of that kind. -/
theorem Asks.made_of_record {c : call} {reached : Bool}
    (asks : (t.record c reached).Asks kindOf t') (changing : kind ≠ .ask) :
    t'.made kindOf kind = t.made kindOf kind + if kindOf c = kind then 1 else 0 := by
  rw [asks.made_eq changing, made_record]

theorem Asks.suffix_of_record {c : call} {reached : Bool}
    (asks : (t.record c reached).Asks kindOf t') : t.sent <:+ t'.sent :=
  (List.suffix_cons _ _).trans asks.suffix

/-- All later calls fail on their way if `fate` is true, and none does otherwise. -/
def Fated (fate : Bool) (t : Traffic call) : Prop := ∀ n, t.next ≤ n → t.fails n = fate

theorem Fated.blocked {fate : Bool} (fated : t.Fated fate) : t.blocked = fate :=
  fated t.next (Nat.le_refl _)

theorem Fated.record {fate : Bool} (fated : t.Fated fate) (c : call) (reached : Bool) :
    (t.record c reached).Fated fate := fun n later => fated n (Nat.le_of_succ_le later)

theorem Asks.fated {fate : Bool} (asks : Asks kindOf t t') (fated : t.Fated fate) :
    t'.Fated fate := by
  obtain ⟨asked, sent, -⟩ := asks.sent
  intro n later
  rw [asks.fails]
  refine fated n (Nat.le_trans ?_ later)
  rw [t.next_eq, t'.next_eq, sent, List.length_append]
  omega

theorem Asks.open (asks : Asks kindOf t t') (clear : t.Open) : t'.Open := asks.fated clear

/-- The same later calls fail on their way, whatever was called before and how often. -/
def Alike (t t' : Traffic call) : Prop := ∀ n, t'.fails (t'.next + n) = t.fails (t.next + n)

namespace Alike

theorem refl (t : Traffic call) : Alike t t := fun _ => rfl

theorem blocked (alike : Alike t t') : t'.blocked = t.blocked := alike 0

theorem record (alike : Alike t t') (c c' : call) (reached reached' : Bool) :
    Alike (t.record c reached) (t'.record c' reached') := by
  intro n
  have later := alike (1 + n)
  rwa [← Nat.add_assoc, ← Nat.add_assoc] at later

end Alike

/-- From now on the calls fail in both, or in neither. -/
def Twin (t t' : Traffic call) : Prop := ∃ fate, t.Fated fate ∧ t'.Fated fate

namespace Twin

theorem symm (twin : Twin t t') : Twin t' t := by
  obtain ⟨fate, here, there⟩ := twin
  exact ⟨fate, there, here⟩

theorem trans (first : Twin t t') (rest : Twin t' t'') : Twin t t'' := by
  obtain ⟨fate, here, there⟩ := first
  obtain ⟨fate', here', there'⟩ := rest
  have same : fate' = fate := here'.blocked.symm.trans there.blocked
  exact ⟨fate, here, same ▸ there'⟩

theorem alike (twin : Twin t t') : Alike t t' := by
  obtain ⟨fate, here, there⟩ := twin
  intro n
  rw [here _ (Nat.le_add_right _ _), there _ (Nat.le_add_right _ _)]

theorem blocked (twin : Twin t t') : t'.blocked = t.blocked := twin.alike.blocked

theorem record (twin : Twin t t') (c c' : call) (reached reached' : Bool) :
    Twin (t.record c reached) (t'.record c' reached') := by
  obtain ⟨fate, here, there⟩ := twin
  exact ⟨fate, here.record _ _, there.record _ _⟩

end Twin

/-- The traffic after more calls, all of which satisfy `P`. -/
def Extends (P : call → Prop) (t t' : Traffic call) : Prop :=
  ∃ more, t'.sent = more ++ t.sent ∧ ∀ s ∈ more, P s.call

namespace Extends

variable {P Q : call → Prop}

theorem refl (t : Traffic call) : Extends P t t := ⟨[], rfl, by simp⟩

theorem trans (first : Extends P t t') (rest : Extends P t' t'') : Extends P t t'' := by
  obtain ⟨more, sent, all⟩ := first
  obtain ⟨more', sent', all'⟩ := rest
  refine ⟨more' ++ more, by rw [sent', sent, List.append_assoc], ?_⟩
  intro s member
  obtain later | earlier := List.mem_append.mp member
  · exact all' s later
  · exact all s earlier

theorem mono (weaker : ∀ c, P c → Q c) (longer : Extends P t t') : Extends Q t t' := by
  obtain ⟨more, sent, all⟩ := longer
  exact ⟨more, sent, fun s member => weaker _ (all s member)⟩

theorem record {c : call} (here : P c) (t : Traffic call) (reached : Bool) :
    Extends P t (t.record c reached) := ⟨[⟨c, reached⟩], rfl, by simpa using here⟩

end Extends

theorem Asks.longer (asks : Asks kindOf t t') : Extends (fun c => kindOf c = .ask) t t' :=
  asks.sent

end Traffic

end Autoscaler
