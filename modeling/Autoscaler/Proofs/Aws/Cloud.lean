import Autoscaler.Aws.Groups
import Autoscaler.Proofs.Cloud.Calls
import Autoscaler.Proofs.Cloud.Frame

/-!
# What the calls of auto scaling groups do to their control plane

Descriptions and listings leave everything but the traffic as it was. Setting a size sends
one call, and changes the desired size of one group if that call is answered.
-/

namespace Autoscaler.Aws

/-- What the control plane tells about a group that it holds. -/
def Group.described (name : String) (g : Group) : GroupDescription :=
  { name, desired := g.desired, instanceIds := g.instances.map Instance.id }

namespace Cloud

open Autoscaler.Action (Keeps)

/-- The control plane after calls that only ask. -/
def Observed (c c' : Cloud) : Prop :=
  ∃ traffic, c.traffic.Asks Call.kind traffic ∧ c' = { c with traffic }

instance : IsPreorder Cloud Observed where
  refl c := ⟨c.traffic, .refl _, rfl⟩
  trans := by
    rintro c _ _ ⟨traffic, first, rfl⟩ ⟨traffic', rest, rfl⟩
    exact ⟨traffic', first.trans rest, rfl⟩

/-- The control plane answers, and no later call to it fails on its way. -/
structure Healthy (c : Cloud) : Prop where
  available : c.available = true
  clear : c.traffic.Open

variable {c c' : Cloud}

theorem Observed.groups (seen : Observed c c') : c'.groups = c.groups := by
  obtain ⟨traffic, -, rfl⟩ := seen
  rfl

theorem Observed.healthy (seen : Observed c c') (healthy : c.Healthy) : c'.Healthy := by
  obtain ⟨traffic, asks, rfl⟩ := seen
  exact ⟨healthy.available, asks.open healthy.clear⟩

/-- Whatever becomes of a call, it is kept and nothing else changes. -/
theorem send_cases (call : Call) (reaches : Bool) (c : Cloud) :
    ∃ r reached, (send call reaches).runOn c =
        (r, { c with traffic := c.traffic.record call reached }) ∧
      (r = .ok () ∨ ∃ message, r = .error (.api backendName message)) := by
  rw [send, Action.runOn_ofFn]
  split
  · exact ⟨_, false, rfl, .inr ⟨_, rfl⟩⟩
  · by_cases refused : (reaches && !c.available) = true
    · exact ⟨_, reaches, by rw [if_pos refused], .inr ⟨_, rfl⟩⟩
    · exact ⟨_, reaches, by rw [if_neg refused], .inl rfl⟩

/-- A call that was answered is kept as it was sent. -/
theorem send_ok {call : Call} {reaches : Bool} (sent : (send call reaches).runOn c = (.ok (), c')) :
    c' = { c with traffic := c.traffic.record call reaches } := by
  rw [send, Action.runOn_ofFn] at sent
  split at sent
  · cases sent
  · dsimp only at sent
    split at sent
    · cases sent
    · cases sent
      rfl

theorem send_healthy (healthy : c.Healthy) (call : Call) (reaches : Bool) :
    (send call reaches).runOn c =
      (.ok (), { c with traffic := c.traffic.record call reaches }) := by
  simp [send, healthy.clear.not_blocked, healthy.available]

theorem keeps_send (call : Call) (reaches : Bool) (asks : call.kind = .ask) :
    Keeps Observed (send call reaches) := by
  intro c
  obtain ⟨r, reached, run, -⟩ := send_cases call reaches c
  rw [run]
  exact ⟨_, .record asks _ _, rfl⟩

/-! ## Descriptions and listings -/

theorem keeps_describeGroup (name : String) : Keeps Observed (describeGroup name) :=
  .bind (keeps_send _ _ rfl) fun _ => .bind .get fun _ => .pure _

theorem keeps_describeInstance (id : String) : Keeps Observed (describeInstance id) := by
  refine .bind .get ?_
  intro c
  refine .bind (keeps_send _ _ rfl) ?_
  intro _
  split
  · exact .bind .get fun _ => .pure _
  · exact .pure _

theorem keeps_describe (group : GroupId) : Keeps Observed (describe group) := by
  refine .bind (keeps_describeGroup _) ?_
  intro found
  cases found with
  | none => exact .throw _
  | some description => exact .pure _

theorem keeps_locate (ids : List String) : Keeps Observed (locate ids) := by
  induction ids with
  | nil => exact .pure _
  | cons id ids ih =>
      exact .bind (keeps_describeInstance id) fun _ => .bind ih fun _ => .pure _

theorem keeps_listMembers (group : GroupId) : Keeps Observed (listMembers group) :=
  .bind (keeps_describe group) fun description => keeps_locate description.instanceIds

theorem keeps_groupSize (group : GroupId) : Keeps Observed (groupSize group) :=
  .bind (keeps_describe group) fun _ => .pure _

/-- An answer describes the group that the control plane holds. -/
theorem describe_ok {group : GroupId} {description : GroupDescription}
    (run : (describe group).runOn c = (.ok description, c')) :
    ∃ g, c.groups.find? group.name = some g ∧ description = Group.described group.name g := by
  obtain ⟨found, m, grouped, told⟩ := Action.bind_ok_cases run
  obtain ⟨_, m', sent, looked⟩ := Action.bind_ok_cases grouped
  have same : m'.groups = c.groups := ((keeps_send _ _ rfl).of_runOn sent).groups
  cases looked
  rw [same] at told
  cases known : c.groups.find? group.name with
  | none =>
      rw [known] at told
      cases told
  | some g =>
      rw [known] at told
      cases told
      exact ⟨g, rfl, rfl⟩

theorem describe_healthy (healthy : c.Healthy) {group : GroupId} {g : Group}
    (known : c.groups.find? group.name = some g) :
    (describe group).runOn c = (.ok (Group.described group.name g),
      { c with traffic := c.traffic.record (.describeGroup group.name) true }) := by
  have sent := send_healthy healthy (.describeGroup group.name) true
  have grouped : (describeGroup group.name).runOn c = (.ok (some (Group.described group.name g)),
      { c with traffic := c.traffic.record (.describeGroup group.name) true }) := by
    rw [describeGroup, Action.runOn_bind_ok sent, Action.runOn_bind_ok (Action.runOn_get _),
      Action.runOn_pure, known]
    rfl
  rw [describe, Action.runOn_bind_ok grouped, Action.runOn_pure]

/-! ## Sizes -/

/-- A size that is read is the one that the control plane holds. -/
theorem groupSize_ok {group : GroupId} {n : Nat} (run : (groupSize group).runOn c = (.ok n, c')) :
    c.desired? group.name = some n := by
  obtain ⟨description, m, described, told⟩ := Action.bind_ok_cases run
  obtain ⟨g, known, rfl⟩ := describe_ok described
  cases told
  rw [desired?, known]
  rfl

/-- A size is read with one call. -/
theorem groupSize_left {group : GroupId} {n : Nat}
    (run : (groupSize group).runOn c = (.ok n, c')) :
    c' = { c with traffic := c.traffic.record (.describeGroup group.name) true } := by
  obtain ⟨description, m, described, told⟩ := Action.bind_ok_cases run
  obtain ⟨found, m', grouped, answered⟩ := Action.bind_ok_cases described
  obtain ⟨_, m'', sent, looked⟩ := Action.bind_ok_cases grouped
  cases looked
  cases told
  split at answered
  · cases answered
  · cases answered
    exact send_ok sent

theorem groupSize_healthy (healthy : c.Healthy) {group : GroupId} {n : Nat}
    (known : c.desired? group.name = some n) : ((groupSize group).runOn c).1 = .ok n := by
  obtain ⟨g, found, rfl⟩ := Option.map_eq_some_iff.mp known
  rw [groupSize, Action.runOn_bind_ok (describe_healthy healthy found), Action.runOn_pure]
  rfl

/-- Setting a size sends one call. It changes the one size if it ends well, and no group
otherwise. -/
theorem setGroupSize_cases {group : GroupId} {size : Nat} {r : Except CloudError Unit}
    (run : (setGroupSize group size).runOn c = (r, c')) :
    (∃ reached, c'.traffic =
      c.traffic.record (.setDesiredCapacity group.name size false) reached) ∧
    (r = .ok () ∧ c'.groups = (c.setDesired group.name size).groups ∨
      ∃ e, r = .error e ∧ c'.groups = c.groups) := by
  obtain ⟨answer, reached, sent, -⟩ :=
    send_cases (.setDesiredCapacity group.name size false) true c
  cases answer with
  | error e =>
      rw [setGroupSize, setDesiredCapacity, Action.runOn_bind_error sent] at run
      cases run
      exact ⟨⟨reached, rfl⟩, .inr ⟨e, rfl, rfl⟩⟩
  | ok =>
      rw [setGroupSize, setDesiredCapacity, Action.runOn_bind_ok sent,
        Action.runOn_bind_ok (Action.runOn_get _)] at run
      cases known : c.groups.find? group.name with
      | none =>
          simp only [known, Action.runOn_throw] at run
          cases run
          exact ⟨⟨reached, rfl⟩, .inr ⟨_, rfl, rfl⟩⟩
      | some g =>
          simp only [known, Action.runOn_set] at run
          cases run
          exact ⟨⟨reached, rfl⟩, .inl ⟨rfl, rfl⟩⟩

/-- Only a group that is there can be given a size. -/
theorem setGroupSize_known {group : GroupId} {size : Nat}
    (run : (setGroupSize group size).runOn c = (.ok (), c')) :
    (c.desired? group.name).isSome := by
  rw [setGroupSize, setDesiredCapacity] at run
  obtain ⟨_, m, sent, rest⟩ := Action.bind_ok_cases run
  obtain ⟨r, reached, sent', -⟩ :=
    send_cases (.setDesiredCapacity group.name size false) true c
  cases sent.symm.trans sent'
  rw [Action.runOn_bind_ok (Action.runOn_get _)] at rest
  cases known : c.groups.find? group.name with
  | none =>
      simp only [known, Action.runOn_throw] at rest
      cases rest
  | some g => simp [desired?, known]

theorem setGroupSize_healthy (healthy : c.Healthy) {group : GroupId} {n : Nat} (size : Nat)
    (known : c.desired? group.name = some n) : ((setGroupSize group size).runOn c).1 = .ok () := by
  obtain ⟨g, found, rfl⟩ := Option.map_eq_some_iff.mp known
  have sent := send_healthy healthy (.setDesiredCapacity group.name size false) true
  rw [setGroupSize, setDesiredCapacity, Action.runOn_bind_ok sent,
    Action.runOn_bind_ok (Action.runOn_get _), found, Action.runOn_set]

end Cloud

end Autoscaler.Aws
