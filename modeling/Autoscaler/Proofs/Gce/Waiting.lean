import Autoscaler.Proofs.Gce.Operations

/-!
# Waiting for a control plane

A control plane in memory answers a caller who waits like anything else that is watched: its
state is the state of the watch, and the clock is the time that callers have waited. So the
general facts about waiting hold for it, whether its calls fail or not, and every question is one
call. As long as it is healthy more is known: the answers before the end of an operation can be
counted beforehand, and so can the calls of a caller who sees the end.
-/

namespace Autoscaler.Gce

namespace Cloud

variable {c : Cloud} {operation : String} {polling : Polling} {start : Duration}

/-- The calls that were made, the last one first. -/
def calls (c : Cloud) : List Call := c.traffic.sent.map Sent.call

/-- Each question is one call. -/
theorem calls_after (polling : Polling) (operation : String) (start : Duration) (c : Cloud) :
    ((watch polling operation start).after c).calls = .operationStatus operation :: c.calls := by
  rcases asked : (operationStatus operation).runOn c with ⟨answer, m⟩
  rw [Watch.after_of_run asked]
  obtain ⟨reached, given⟩ := operationStatus_cases asked
  cases given <;> rfl

theorem calls_next (polling : Polling) (operation : String) (start : Duration) (c : Cloud)
    (n : Nat) : ((watch polling operation start).next^[n] c).calls =
      List.replicate n (.operationStatus operation) ++ c.calls := by
  induction n with
  | zero => rfl
  | succ n ih =>
      rw [Function.iterate_succ_apply', List.replicate_succ, List.cons_append, ← ih]
      exact calls_after polling operation start _

/-- Waiting comes to an end, and the calls are the question that it stops behind and those
before. -/
theorem awaitOperation_stops (polling : Polling) (operation : String) (c : Cloud) :
    ∃ i r c', (awaitOperation polling operation).runOn c = (r, c') ∧
      (∀ j < i, ((watch polling operation c.waited).nth c j).Goes polling.timeout) ∧
      ((watch polling operation c.waited).nth c i).Ends operation polling.timeout r ∧
      c'.calls = List.replicate (i + 1) (.operationStatus operation) ++ c.calls := by
  rcases run : (awaitOperation polling operation).runOn c with ⟨r, c'⟩
  obtain ⟨i, earlier, ends, rfl⟩ := Watch.returns_iff.mp (awaitOperation_iff.mp run)
  refine ⟨i, r, _, rfl, earlier, ends, ?_⟩
  rw [calls_after, calls_next, List.replicate_succ, List.cons_append]

/-! ## Operations that end -/

/-- The operation is going to end with `fate` after `left` answers that it has not ended yet. -/
structure Underway (operation : String) (fate : Option String) (left : Nat) (c : Cloud) :
    Prop where
  healthy : c.Healthy
  fate : c.fate? operation = some fate
  left : c.remaining operation = left

/-- What a caller is told who sees an operation end. -/
def outcome (operation : String) : Option String → Except CloudError Unit
  | none => .ok ()
  | some message => .error (.operationFailed operation message)

namespace Underway

variable {fate : Option String} {left : Nat}

/-- One question before the end. -/
theorem next (underway : Underway operation fate (left + 1) c) (polling : Polling)
    (start : Duration) :
    ((watch polling operation start).poll c).Unfinished ∧
      ((watch polling operation start).poll c).passed = ⟨c.waited.nanos - start.nanos⟩ ∧
      ((watch polling operation start).next c).waited = c.waited + polling.interval ∧
      Underway operation fate left ((watch polling operation start).next c) := by
  obtain ⟨healthy, known, closing⟩ := underway
  rcases asked : (operationStatus operation).runOn c with ⟨answer, m⟩
  obtain ⟨reached, given⟩ := operationStatus_cases asked
  have polled : (watch polling operation start).poll c = _ := Watch.poll_of_run asked
  have unfinished : ((watch polling operation start).poll c).Unfinished := by
    rw [polled]
    cases given with
    | unanswered message cause => exact absurd ⟨healthy, by simp [known]⟩ cause
    | pending => exact .inl rfl
    | running => exact .inr rfl
    | done _ ended => omega
    | failed _ _ ended => omega
  have closer := remaining_next unfinished
  rw [Watch.next, Watch.after_of_run asked] at closer ⊢
  refine ⟨unfinished, ?_, ?_, ?_, ?_, by omega⟩
  · rw [polled]
    exact congrArg (fun waited => Duration.mk (waited.nanos - start.nanos)) given.waited
  · exact congrArg (· + polling.interval) given.waited
  · exact ⟨(given.healthy healthy).available, (given.healthy healthy).clear⟩
  · exact given.polled.fate.trans known

/-- The question that sees the end. -/
theorem ends (underway : Underway operation fate 0 c) (timeout : Duration) :
    ((watch polling operation start).poll c).Ends operation timeout (outcome operation fate) := by
  obtain ⟨healthy, known, closing⟩ := underway
  rcases asked : (operationStatus operation).runOn c with ⟨answer, m⟩
  obtain ⟨reached, given⟩ := operationStatus_cases asked
  rw [Watch.poll_of_run asked]
  cases given with
  | unanswered message cause => exact absurd ⟨healthy, by simp [known]⟩ cause
  | pending more =>
      simp only [remaining] at closing
      omega
  | running o found started more =>
      simp only [remaining, found, Option.map_some, Option.getD_some] at closing
      omega
  | done ended =>
      obtain rfl : fate = none := by simpa [known] using ended
      exact .done _
  | failed message ended =>
      obtain rfl : fate = some message := by simpa [known] using ended
      exact .failed message _

theorem iterate (n : Nat) (underway : Underway operation fate (left + n) c)
    (polling : Polling) (start : Duration) :
    ((watch polling operation start).next^[n] c).waited.nanos =
        c.waited.nanos + n * polling.interval.nanos ∧
      Underway operation fate left ((watch polling operation start).next^[n] c) := by
  induction n generalizing left with
  | zero => exact ⟨by simp, underway⟩
  | succ n ih =>
      have underway' : Underway operation fate (left + 1 + n) c := by
        rwa [Nat.succ_add_eq_add_succ]
      obtain ⟨waited, onward⟩ := ih underway'
      obtain ⟨-, -, paused, onward⟩ := onward.next polling start
      rw [Function.iterate_succ_apply']
      refine ⟨?_, onward⟩
      rw [paused, Duration.add_nanos, waited, Nat.succ_mul, Nat.add_assoc]

/-- The answers before the end come after whole numbers of pauses. -/
theorem nth {n : Nat} (underway : Underway operation fate left c) (before : n < left)
    (polling : Polling) :
    ((watch polling operation c.waited).nth c n).Unfinished ∧
      ((watch polling operation c.waited).nth c n).passed.nanos =
        n * polling.interval.nanos := by
  obtain ⟨more, rfl⟩ : ∃ more, left = more + 1 + n := ⟨left - 1 - n, by omega⟩
  obtain ⟨waited, onward⟩ := underway.iterate n polling c.waited
  obtain ⟨unfinished, passed, -⟩ := onward.next polling c.waited
  refine ⟨unfinished, ?_⟩
  rw [Watch.nth, passed, waited, Nat.add_sub_cancel_left]

theorem nth_ends (underway : Underway operation fate left c) (timeout : Duration) :
    ((watch polling operation c.waited).nth c left).Ends operation timeout
      (outcome operation fate) :=
  (iterate left (by rwa [Nat.zero_add]) polling c.waited).2.ends timeout

/-- A caller sees the end if no answer before it comes too late, and has asked once more than the
operation answered that it was not there yet. -/
theorem awaited (underway : Underway operation fate left c)
    (timely : ∀ n < left, n * polling.interval.nanos < polling.timeout.nanos) :
    ∃ c', (awaitOperation polling operation).runOn c = (outcome operation fate, c') ∧
      c'.calls = List.replicate (left + 1) (.operationStatus operation) ++ c.calls := by
  refine ⟨_, awaitOperation_iff.mpr (Watch.returns_iff.mpr
    ⟨left, ?_, underway.nth_ends polling.timeout, rfl⟩), ?_⟩
  · intro n before
    obtain ⟨unfinished, passed⟩ := underway.nth before polling
    have early := timely n before
    rw [← passed] at early
    exact ⟨unfinished, early⟩
  · rw [calls_after, calls_next, List.replicate_succ, List.cons_append]

/-- A caller who does not want to wait asks once. -/
theorem awaited_zero (underway : Underway operation fate left c)
    (zero : polling.timeout = .zero) :
    ((awaitOperation polling operation).runOn c).1 = .ok () ↔ left = 0 ∧ fate = none := by
  cases left with
  | zero =>
      obtain ⟨c', run, -⟩ : ∃ c', (awaitOperation polling operation).runOn c = _ ∧ _ :=
        underway.awaited (by simp)
      rw [run]
      cases fate <;> simp [outcome]
  | succ left =>
      obtain ⟨unfinished, -⟩ := underway.nth (Nat.succ_pos left) polling
      have expired : polling.timeout ≤ ((watch polling operation c.waited).nth c 0).passed := by
        rw [zero]
        exact Nat.zero_le _
      have late := awaitOperation_iff.mpr
        (Watch.returns_iff.mpr ⟨0, by simp, .late unfinished expired, rfl⟩)
      simp [late]

end Underway

section Sizes

variable {project : String} {id : GroupId} {n : Nat}

/-- A group that is there is given its size by an operation that is waited for. -/
theorem setGroupSize_underway (healthy : c.Healthy)
    (known : c.target? ⟨project, id.zone, id.name⟩ = some n) (polling : Polling) (size : Nat) :
    ∃ m, (setGroupSize project polling id size).runOn c =
        (awaitOperation polling (operationName c.operations.entries.length)).runOn m ∧
      m.calls = .resize ⟨project, id.zone, id.name⟩ size :: c.calls ∧
      Underway (operationName c.operations.entries.length) c.operationFailure
        (c.pending + c.operationPolls) m := by
  obtain ⟨g, found, -⟩ := Option.map_eq_some_iff.mp known
  have accepted := resize_of_sent
    (send_healthy healthy (.resize ⟨project, id.zone, id.name⟩ size) true)
  rw [found] at accepted
  refine ⟨_, by rw [setGroupSize, Action.runOn_bind_ok accepted], ?_, ?_, ?_, ?_⟩
  · rw [calls, resized_traffic]
    rfl
  · exact resized_healthy ⟨healthy.available, healthy.clear.record _ _⟩
  · exact resized_fate _ _ _
  · exact resized_remaining _ _ _

theorem setGroupSize_awaited (healthy : c.Healthy)
    (known : c.target? ⟨project, id.zone, id.name⟩ = some n) (size : Nat)
    (timely : ∀ j < c.pending + c.operationPolls,
      j * polling.interval.nanos < polling.timeout.nanos) :
    ∃ c', (setGroupSize project polling id size).runOn c =
        (outcome (operationName c.operations.entries.length) c.operationFailure, c') ∧
      c'.calls =
        List.replicate (c.pending + c.operationPolls + 1)
            (.operationStatus (operationName c.operations.entries.length)) ++
          .resize ⟨project, id.zone, id.name⟩ size :: c.calls := by
  obtain ⟨m, run, sent, underway⟩ := setGroupSize_underway healthy known polling size
  obtain ⟨c', ended, asked⟩ := underway.awaited timely
  exact ⟨c', run.trans ended, by rw [asked, sent]⟩

theorem setGroupSize_zero (healthy : c.Healthy)
    (known : c.target? ⟨project, id.zone, id.name⟩ = some n) (size : Nat)
    (zero : polling.timeout = .zero) :
    ((setGroupSize project polling id size).runOn c).1 = .ok () ↔
      c.pending + c.operationPolls = 0 ∧ c.operationFailure = none := by
  obtain ⟨m, run, -, underway⟩ := setGroupSize_underway healthy known polling size
  rw [run]
  exact underway.awaited_zero zero

theorem setGroupSize_prompt (healthy : c.Healthy) (prompt : c.Prompt polling) (size : Nat)
    (known : c.target? ⟨project, id.zone, id.name⟩ = some n) :
    ((setGroupSize project polling id size).runOn c).1 = .ok () := by
  obtain ⟨c', run, -⟩ := setGroupSize_awaited healthy known size prompt.timely
  rw [run, prompt.succeeds]
  rfl

end Sizes

end Cloud

/-- **Waiting is exact.** Whatever is answered at whatever times, a caller stops behind the first
question after which it does not go on, and is told what the answer says; it is told success only
of an operation that is done, and never of a timeout if the last answer was an end. Waiting for a
control plane always stops that way, with one call for each question. A size that is set while
all calls are answered takes one question more than there are answers before the end, if these
come in time, and a caller who does not want to wait succeeds only if there are none. -/
theorem waiting_exact (operation : String) :
    (∀ answers times timeout r asked,
      (Watch.scripted answers times).Returns operation timeout 0 r asked ↔
        ∃ i, asked = i + 1 ∧ (∀ j < i, Poll.Goes timeout ⟨answers j, times j⟩) ∧
          Poll.Ends operation timeout ⟨answers i, times i⟩ r) ∧
    (∀ answers times timeout asked,
      (Watch.scripted answers times).Returns operation timeout 0 (.ok ()) asked ↔
        ∃ i, asked = i + 1 ∧ (∀ j < i, Poll.Goes timeout ⟨answers j, times j⟩) ∧
          answers i = .ok .done) ∧
    (∀ answers times timeout r i progress told,
      (Watch.scripted answers times).Returns operation timeout 0 r (i + 1) →
      answers i = .ok progress → progress.ended? operation = some told → r = told) ∧
    (∀ polling (c : Cloud), ∃ i r c', (Cloud.awaitOperation polling operation).runOn c = (r, c') ∧
      (∀ j < i, ((Cloud.watch polling operation c.waited).nth c j).Goes polling.timeout) ∧
      ((Cloud.watch polling operation c.waited).nth c i).Ends operation polling.timeout r ∧
      c'.calls = List.replicate (i + 1) (.operationStatus operation) ++ c.calls) ∧
    ∀ project polling id size (c : Cloud), c.Healthy →
      (c.target? ⟨project, id.zone, id.name⟩).isSome →
      operation = Cloud.operationName c.operations.entries.length →
      ((∀ j < c.pending + c.operationPolls,
          j * polling.interval.nanos < polling.timeout.nanos) →
        ∃ c', (Cloud.setGroupSize project polling id size).runOn c =
            (Cloud.outcome operation c.operationFailure, c') ∧
          c'.calls =
            List.replicate (c.pending + c.operationPolls + 1) (.operationStatus operation) ++
              .resize ⟨project, id.zone, id.name⟩ size :: c.calls) ∧
      (polling.timeout = .zero →
        (((Cloud.setGroupSize project polling id size).runOn c).1 = .ok () ↔
          c.pending + c.operationPolls = 0 ∧ c.operationFailure = none)) := by
  refine ⟨fun _ _ _ _ _ => Watch.scripted_returns_iff, fun _ _ _ _ => Watch.scripted_done_iff,
    fun _ _ _ _ _ _ _ => Watch.scripted_told,
    fun polling c => Cloud.awaitOperation_stops polling operation c, ?_⟩
  intro project polling id size c healthy known named
  obtain ⟨n, known⟩ := Option.isSome_iff_exists.mp known
  subst named
  exact ⟨Cloud.setGroupSize_awaited healthy known size, Cloud.setGroupSize_zero healthy known size⟩

namespace Slow

/-- Done at the second question, and then the time is over already. -/
def answers : Nat → Except CloudError Progress
  | 0 => .ok .running
  | _ => .ok .done

def times (asked : Nat) : Duration := .ofSeconds (4 * asked)

/-- Operations answer twice that they are running. -/
def cloud : Cloud where
  groups := { entries := [(⟨"p", "z", "m"⟩, { target := 3 })], nodup := by decide }
  operationPolls := 2

theorem healthy : cloud.Healthy := ⟨rfl, fun _ _ => rfl⟩

end Slow

/-- An end that comes after the time is over, and a size that is set. -/
theorem waiting_exact_slow :
    (Watch.scripted Slow.answers Slow.times).Returns "operation-0" (.ofSeconds 3) 0 (.ok ()) 2 ∧
      ((Cloud.setGroupSize "p" {} ⟨"z", "m"⟩ 4).runOn Slow.cloud).2.calls =
        List.replicate 3 (.operationStatus "operation-0") ++ [.resize ⟨"p", "z", "m"⟩ 4] ∧
      ((Cloud.setGroupSize "p" ⟨.ofMillis 100, .zero⟩ ⟨"z", "m"⟩ 4).runOn Slow.cloud).1 ≠
        .ok () := by
  obtain ⟨-, succeeds, -, -, sets⟩ := waiting_exact "operation-0"
  refine ⟨(succeeds _ _ _ _).mpr ⟨1, rfl, ?_, rfl⟩, ?_, ?_⟩
  · intro j first
    obtain rfl : j = 0 := by omega
    exact ⟨.inr rfl, by decide⟩
  · obtain ⟨timely, -⟩ := sets "p" {} ⟨"z", "m"⟩ 4 Slow.cloud Slow.healthy rfl rfl
    obtain ⟨c', run, asked⟩ := timely (by decide)
    rw [run, asked]
    rfl
  · obtain ⟨-, impatient⟩ :=
      sets "p" ⟨.ofMillis 100, .zero⟩ ⟨"z", "m"⟩ 4 Slow.cloud Slow.healthy rfl rfl
    rw [Ne, impatient rfl]
    decide

end Autoscaler.Gce
