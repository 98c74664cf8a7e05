import Autoscaler.Gce.Groups
import Autoscaler.Proofs.Cloud.Calls
import Autoscaler.Proofs.Cloud.Frame

/-!
# What the calls of managed instance groups do to their control plane

Sizes and listings leave everything but the traffic as it was. An operation goes through a
number of questions before it has ended; these change how far it is, but neither a group
nor how the operation is going to end.
-/

namespace Autoscaler.Gce.Cloud

open Autoscaler.Action (Keeps)

/-- The control plane after calls that only ask. -/
def Observed (c c' : Cloud) : Prop :=
  ∃ traffic, c.traffic.Asks Call.kind traffic ∧ c' = { c with traffic }

instance : IsPreorder Cloud Observed where
  refl c := ⟨c.traffic, .refl _, rfl⟩
  trans := by
    rintro c _ _ ⟨traffic, first, rfl⟩ ⟨traffic', rest, rfl⟩
    exact ⟨traffic', first.trans rest, rfl⟩

/-- The control plane answers, and no later call to it fails on its way. -/
structure Healthy (c : Cloud) : Prop where
  available : c.available = true
  clear : c.traffic.Open

/-- Operations that are started now end well, and callers who poll this way see them end
before their time is over: each answer that the end is still to come comes early enough. -/
structure Prompt (polling : Polling) (c : Cloud) : Prop where
  succeeds : c.operationFailure = none
  timely : ∀ asked, asked < c.pending + c.operationPolls →
    asked * polling.interval.nanos < polling.timeout.nanos

variable {c c' : Cloud}

theorem Observed.groups (seen : Observed c c') : c'.groups = c.groups := by
  obtain ⟨traffic, -, rfl⟩ := seen
  rfl

theorem Observed.healthy (seen : Observed c c') (healthy : c.Healthy) : c'.Healthy := by
  obtain ⟨traffic, asks, rfl⟩ := seen
  exact ⟨healthy.available, asks.open healthy.clear⟩

theorem Observed.prompt {polling : Polling} (seen : Observed c c') (prompt : c.Prompt polling) :
    c'.Prompt polling := by
  obtain ⟨traffic, -, rfl⟩ := seen
  exact ⟨prompt.succeeds, prompt.timely⟩

/-- Whatever becomes of a call, it is kept and nothing else changes. -/
theorem send_cases (call : Call) (reaches : Bool) (c : Cloud) :
    ∃ r reached, (send call reaches).runOn c =
        (r, { c with traffic := c.traffic.record call reached }) ∧
      (r = .ok () ∨ ¬ c.Healthy ∧ ∃ message, r = .error (.api backendName message)) := by
  rw [send, Action.runOn_ofFn]
  split
  · next blocked =>
      refine ⟨_, false, rfl, .inr ⟨?_, _, rfl⟩⟩
      intro healthy
      rw [healthy.clear.not_blocked] at blocked
      cases blocked
  · by_cases refused : (reaches && !c.available) = true
    · refine ⟨_, reaches, by rw [if_pos refused], .inr ⟨?_, _, rfl⟩⟩
      intro healthy
      simp [healthy.available] at refused
    · exact ⟨_, reaches, by rw [if_neg refused], .inl rfl⟩

/-- A call that was answered is kept as it was sent. -/
theorem send_ok {call : Call} {reaches : Bool} (sent : (send call reaches).runOn c = (.ok (), c')) :
    c' = { c with traffic := c.traffic.record call reaches } := by
  rw [send, Action.runOn_ofFn] at sent
  split at sent
  · cases sent
  · dsimp only at sent
    split at sent
    · cases sent
    · cases sent
      rfl

theorem send_healthy (healthy : c.Healthy) (call : Call) (reaches : Bool) :
    (send call reaches).runOn c =
      (.ok (), { c with traffic := c.traffic.record call reaches }) := by
  simp [send, healthy.clear.not_blocked, healthy.available]

theorem keeps_send (call : Call) (reaches : Bool) (asks : call.kind = .ask) :
    Keeps Observed (send call reaches) := by
  intro c
  obtain ⟨r, reached, run, -⟩ := send_cases call reaches c
  rw [run]
  exact ⟨_, .record asks _ _, rfl⟩

theorem group_runOn (key : GroupKey) (c : Cloud) :
    (group key).runOn c = match c.groups.find? key with
      | none => (.error (.unknownGroup key.text), c)
      | some g => (.ok g, c) := by
  rw [group, Action.runOn_bind_ok (Action.runOn_get _)]
  cases c.groups.find? key <;> rfl

theorem group_known {key : GroupKey} {g : Group} (known : c.groups.find? key = some g)
    (traffic : Traffic Call) :
    (group key).runOn { c with traffic } = (.ok g, { c with traffic }) := by
  rw [group_runOn, known]

/-! ## Sizes and listings -/

theorem keeps_group (key : GroupKey) : Keeps Observed (group key) := by
  intro c
  rw [group_runOn]
  cases c.groups.find? key <;> exact refl_of Observed c

theorem keeps_groupSize (project : String) (id : GroupId) :
    Keeps Observed (groupSize project id) :=
  .bind (keeps_send _ _ rfl) fun _ => .bind (keeps_group _) fun _ => .pure _

theorem keeps_listInstances (key : GroupKey) : Keeps Observed (listInstances key) :=
  .bind (keeps_send _ _ rfl) fun _ => .bind (keeps_group key) fun _ => .bind .get fun _ => .pure _

theorem keeps_listMembers (project : String) (id : GroupId) :
    Keeps Observed (listMembers project id) :=
  .bind (keeps_listInstances _) fun _ => .ofExcept _

/-- A size that is read is the one that the control plane holds. -/
theorem groupSize_ok {project : String} {id : GroupId} {n : Nat}
    (run : (groupSize project id).runOn c = (.ok n, c')) :
    c.target? ⟨project, id.zone, id.name⟩ = some n := by
  obtain ⟨_, m, sent, looked⟩ := Action.bind_ok_cases run
  obtain ⟨g, m', found, told⟩ := Action.bind_ok_cases looked
  rw [group_runOn, ((keeps_send _ _ rfl).of_runOn sent).groups] at found
  cases known : c.groups.find? ⟨project, id.zone, id.name⟩ with
  | none =>
      rw [known] at found
      cases found
  | some g =>
      rw [known] at found
      cases found
      cases told
      rw [target?, known]
      rfl

/-- A size is read with one call. -/
theorem groupSize_left {project : String} {id : GroupId} {n : Nat}
    (run : (groupSize project id).runOn c = (.ok n, c')) :
    c' = { c with traffic := c.traffic.record (.targetSize ⟨project, id.zone, id.name⟩) true } := by
  obtain ⟨_, m, sent, looked⟩ := Action.bind_ok_cases run
  obtain ⟨g, m', found, told⟩ := Action.bind_ok_cases looked
  cases told
  rw [group_runOn] at found
  split at found
  · cases found
  · cases found
    exact send_ok sent

theorem groupSize_healthy (healthy : c.Healthy) {project : String} {id : GroupId} {n : Nat}
    (known : c.target? ⟨project, id.zone, id.name⟩ = some n) :
    ((groupSize project id).runOn c).1 = .ok n := by
  obtain ⟨g, found, rfl⟩ := Option.map_eq_some_iff.mp known
  rw [groupSize, targetSize, Action.runOn_bind_ok (send_healthy healthy _ _),
    Action.runOn_bind_ok (group_known found _), Action.runOn_pure]

end Autoscaler.Gce.Cloud
