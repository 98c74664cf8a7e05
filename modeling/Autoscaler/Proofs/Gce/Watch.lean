import Autoscaler.Gce.Groups
import Autoscaler.Proofs.Cloud.Frame
import Mathlib.Logic.Function.Iterate

/-!
# Waiting question by question

A caller who waits goes through one state after the other: it asks, reads the clock, and pauses
or stops. What it is told depends on the first question behind which it stops and on nothing
else. That holds whatever answers, so the answers and the clock are a parameter here; a script
of answers and times is one choice, and a control plane in memory is another.

The recursion has a budget of questions. A caller that has stopped does not notice the budget, so
waiting without one is what comes of some budget. The induction is on the budget.
-/

namespace Autoscaler.Gce

/-- What a waiting caller gets by one question. -/
structure Poll where
  answer : Except CloudError Progress
  /-- The time that has passed when the answer is there. -/
  passed : Duration

namespace Poll

/-- The operation has not ended yet. -/
def Unfinished (poll : Poll) : Prop := poll.answer = .ok .pending ∨ poll.answer = .ok .running

/-- The caller pauses and asks again. -/
structure Goes (timeout : Duration) (poll : Poll) : Prop where
  unfinished : poll.Unfinished
  early : poll.passed < timeout

/-- The caller stops, and is told a result. -/
inductive Ends (operation : String) (timeout : Duration) :
    Poll → Except CloudError Unit → Prop where
  | done (passed : Duration) : Ends operation timeout ⟨.ok .done, passed⟩ (.ok ())
  | failed (message : String) (passed : Duration) :
      Ends operation timeout ⟨.ok (.failed message), passed⟩
        (.error (.operationFailed operation message))
  | unanswered (e : CloudError) (passed : Duration) :
      Ends operation timeout ⟨.error e, passed⟩ (.error e)
  | late {poll : Poll} (unfinished : poll.Unfinished) (expired : timeout ≤ poll.passed) :
      Ends operation timeout poll (.error (.operationTimeout operation timeout))

variable {operation : String} {timeout : Duration} {poll : Poll} {r r' : Except CloudError Unit}

theorem Unfinished.ended? (unfinished : poll.Unfinished) (operation : String) :
    ∃ progress, poll.answer = .ok progress ∧ progress.ended? operation = none := by
  obtain same | same := unfinished <;> exact ⟨_, same, rfl⟩

/-- An unfinished operation leaves it to the clock whether the caller stops. -/
theorem Unfinished.goes_or_ends (unfinished : poll.Unfinished) (operation : String)
    (timeout : Duration) : poll.Goes timeout ∨ ∃ r, poll.Ends operation timeout r := by
  rcases Nat.lt_or_ge poll.passed.nanos timeout.nanos with early | expired
  · exact .inl ⟨unfinished, early⟩
  · exact .inr ⟨_, .late unfinished expired⟩

theorem goes_or_ends (operation : String) (timeout : Duration) (poll : Poll) :
    poll.Goes timeout ∨ ∃ r, poll.Ends operation timeout r := by
  obtain ⟨answer, passed⟩ := poll
  cases answer with
  | error e => exact .inr ⟨_, .unanswered e passed⟩
  | ok progress =>
      cases progress with
      | pending => exact Unfinished.goes_or_ends (.inl rfl) operation timeout
      | running => exact Unfinished.goes_or_ends (.inr rfl) operation timeout
      | done => exact .inr ⟨_, .done passed⟩
      | failed message => exact .inr ⟨_, .failed message passed⟩

/-- An end that was seen is told, whatever the clock says. -/
theorem Ends.told {progress : Progress} {told : Except CloudError Unit}
    (ends : poll.Ends operation timeout r) (seen : poll.answer = .ok progress)
    (ended : progress.ended? operation = some told) : r = told := by
  cases ends with
  | done => cases seen; cases ended; rfl
  | failed message => cases seen; cases ended; rfl
  | unanswered => cases seen
  | late unfinished =>
      obtain ⟨progress', seen', unended⟩ := unfinished.ended? operation
      cases seen.symm.trans seen'
      rw [ended] at unended
      cases unended

theorem ends_ok_iff : poll.Ends operation timeout (.ok ()) ↔ poll.answer = .ok .done := by
  constructor
  · intro ends
    cases ends
    rfl
  · obtain ⟨answer, passed⟩ := poll
    rintro rfl
    exact .done passed

theorem Goes.not_ends (goes : poll.Goes timeout) : ¬ poll.Ends operation timeout r := by
  intro ends
  obtain ⟨progress, seen, unended⟩ := goes.unfinished.ended? operation
  cases ends with
  | done => cases seen; cases unended
  | failed => cases seen; cases unended
  | unanswered => cases seen
  | late _ expired => exact Nat.not_le.mpr goes.early expired

theorem Ends.unique (ends : poll.Ends operation timeout r)
    (ends' : poll.Ends operation timeout r') : r = r' := by
  cases ends with
  | done => exact (ends'.told rfl rfl).symm
  | failed => exact (ends'.told rfl rfl).symm
  | unanswered =>
      cases ends' with
      | unanswered => rfl
      | late unfinished => obtain same | same := unfinished <;> cases same
  | late unfinished =>
      obtain ⟨progress, seen, unended⟩ := unfinished.ended? operation
      cases ends' with
      | done => cases seen; cases unended
      | failed => cases seen; cases unended
      | unanswered => cases seen
      | late => rfl

end Poll

/-- What a waiting caller deals with. -/
structure Watch (σ : Type) where
  /-- The call that asks how far the operation is. -/
  status : CloudM σ Progress
  /-- The time that has passed since the caller began to wait. -/
  elapsed : σ → Duration
  pause : σ → σ

namespace Watch

variable {σ : Type}

/-- Asks how the operation has ended, and reads the clock. -/
def ask (watch : Watch σ) (operation : String) :
    CloudM σ (Option (Except CloudError Unit) × Duration) := do
  let progress ← watch.status
  let s ← get
  return (progress.ended? operation, watch.elapsed s)

/-- What comes of waiting with a budget of questions: nothing, if the budget is used up first. -/
def await (watch : Watch σ) (operation : String) (timeout : Duration) (budget : Nat) (s : σ) :
    Option (Except CloudError Unit) × σ :=
  match (awaitResult (watch.ask operation) (modify watch.pause) timeout
    (.operationTimeout operation timeout) budget).runOn s with
  | (.ok told, t) => (told, t)
  | (.error e, t) => (some (.error e), t)

/-- Waiting from `s` ends with `r` and leaves `t`. -/
def Returns (watch : Watch σ) (operation : String) (timeout : Duration) (s : σ)
    (r : Except CloudError Unit) (t : σ) : Prop :=
  ∃ budget, watch.await operation timeout budget s = (some r, t)

/-- The state after one question. -/
def after (watch : Watch σ) (s : σ) : σ := (watch.status.runOn s).2

/-- The state in which the next question is asked. -/
def next (watch : Watch σ) (s : σ) : σ := watch.pause (watch.after s)

def poll (watch : Watch σ) (s : σ) : Poll where
  answer := (watch.status.runOn s).1
  passed := watch.elapsed (watch.after s)

/-- What the caller gets by the question after `n` others. -/
def nth (watch : Watch σ) (s : σ) (n : Nat) : Poll := watch.poll (watch.next^[n] s)

variable {watch : Watch σ} {operation : String} {timeout : Duration} {budget : Nat} {s t t' : σ}
  {r r' : Except CloudError Unit}

/-! ## One question -/

theorem after_of_run {answer : Except CloudError Progress}
    (run : watch.status.runOn s = (answer, t)) : watch.after s = t := by
  rw [after, run]

theorem poll_of_run {answer : Except CloudError Progress}
    (run : watch.status.runOn s = (answer, t)) : watch.poll s = ⟨answer, watch.elapsed t⟩ := by
  rw [poll, after, run]

theorem ask_answered {progress : Progress} (run : watch.status.runOn s = (.ok progress, t)) :
    (watch.ask operation).runOn s = (.ok (progress.ended? operation, watch.elapsed t), t) := by
  rw [ask, Action.runOn_bind_ok run, Action.runOn_bind_ok (Action.runOn_get _)]
  rfl

theorem ask_unanswered {e : CloudError} (run : watch.status.runOn s = (.error e, t)) :
    (watch.ask operation).runOn s = (.error e, t) := by
  rw [ask, Action.runOn_bind_error run]

theorem await_goes (goes : (watch.poll s).Goes timeout) :
    watch.await operation timeout (budget + 1) s =
      watch.await operation timeout budget (watch.next s) := by
  rcases run : watch.status.runOn s with ⟨answer, m⟩
  rw [poll_of_run run] at goes
  obtain ⟨progress, rfl, unended⟩ := goes.unfinished.ended? operation
  have intime : ¬ timeout ≤ watch.elapsed m := Nat.not_le.mpr goes.early
  have step : (awaitResult (watch.ask operation) (modify watch.pause) timeout
      (.operationTimeout operation timeout) (budget + 1)).runOn s =
      (awaitResult (watch.ask operation) (modify watch.pause) timeout
        (.operationTimeout operation timeout) budget).runOn (watch.pause m) := by
    rw [awaitResult, Action.runOn_bind_ok (ask_answered run), unended]
    dsimp only
    rw [if_neg intime, Action.runOn_bind_ok (Action.runOn_modify _ _)]
  rw [await, step, await, next, after_of_run run]

theorem await_ends (ends : (watch.poll s).Ends operation timeout r) :
    watch.await operation timeout (budget + 1) s = (some r, watch.after s) := by
  rcases run : watch.status.runOn s with ⟨answer, m⟩
  rw [poll_of_run run] at ends
  rw [await, awaitResult, after_of_run run]
  cases ends with
  | done => rw [Action.runOn_bind_ok (ask_answered run)]; rfl
  | failed message => rw [Action.runOn_bind_ok (ask_answered run)]; rfl
  | unanswered e => rw [Action.runOn_bind_error (ask_unanswered run)]
  | late unfinished expired =>
      obtain ⟨progress, rfl, unended⟩ := unfinished.ended? operation
      rw [Action.runOn_bind_ok (ask_answered run), unended]
      dsimp only
      rw [if_pos expired]
      rfl

/-! ## Whole waits -/

/-- Waiting stops behind the first question after which the caller does not go on. -/
theorem await_iff : watch.await operation timeout budget s = (some r, t) ↔
    ∃ i < budget, (∀ j < i, (watch.nth s j).Goes timeout) ∧
      (watch.nth s i).Ends operation timeout r ∧ t = watch.after (watch.next^[i] s) := by
  induction budget generalizing s with
  | zero => simp [await, awaitResult]
  | succ budget ih =>
      obtain goes | ⟨r', ends⟩ := (watch.poll s).goes_or_ends operation timeout
      · rw [await_goes goes, ih]
        constructor
        · rintro ⟨i, before, earlier, ends, left⟩
          refine ⟨i + 1, Nat.succ_lt_succ before, ?_, ends, left⟩
          rintro (_ | j) sooner
          · exact goes
          · exact earlier j (Nat.lt_of_succ_lt_succ sooner)
        · rintro ⟨_ | i, before, earlier, ends, left⟩
          · exact absurd ends goes.not_ends
          · exact ⟨i, Nat.lt_of_succ_lt_succ before,
              fun j sooner => earlier (j + 1) (Nat.succ_lt_succ sooner), ends, left⟩
      · rw [await_ends ends]
        constructor
        · intro same
          cases same
          exact ⟨0, Nat.succ_pos _, by simp, ends, rfl⟩
        · rintro ⟨_ | i, before, earlier, ends', left⟩
          · rw [ends.unique ends', left]
            rfl
          · exact absurd ends (earlier 0 (Nat.succ_pos _)).not_ends

theorem returns_iff : watch.Returns operation timeout s r t ↔
    ∃ i, (∀ j < i, (watch.nth s j).Goes timeout) ∧ (watch.nth s i).Ends operation timeout r ∧
      t = watch.after (watch.next^[i] s) := by
  simp only [Returns, await_iff]
  constructor
  · rintro ⟨budget, i, -, stopped⟩
    exact ⟨i, stopped⟩
  · rintro ⟨i, stopped⟩
    exact ⟨i + 1, i, Nat.lt_succ_self i, stopped⟩

theorem Returns.unique (returns : watch.Returns operation timeout s r t)
    (returns' : watch.Returns operation timeout s r' t') : r = r' ∧ t = t' := by
  obtain ⟨i, earlier, ends, rfl⟩ := returns_iff.mp returns
  obtain ⟨i', earlier', ends', rfl⟩ := returns_iff.mp returns'
  obtain before | rfl | behind := Nat.lt_trichotomy i i'
  · exact absurd ends (earlier' i before).not_ends
  · exact ⟨ends.unique ends', rfl⟩
  · exact absurd ends' (earlier i' behind).not_ends

/-! ## Scripts -/

/-- The answers and the times are given; the state counts the questions that were asked. -/
def scripted (answers : Nat → Except CloudError Progress) (times : Nat → Duration) :
    Watch Nat where
  status := .ofFn fun asked => (answers asked, asked + 1)
  elapsed asked := times (asked - 1)
  pause asked := asked

section Scripted

variable {answers : Nat → Except CloudError Progress} {times : Nat → Duration} {asked : Nat}

theorem scripted_next (answers : Nat → Except CloudError Progress) (times : Nat → Duration)
    (n : Nat) : (scripted answers times).next^[n] 0 = n := by
  induction n with
  | zero => rfl
  | succ n ih =>
      rw [Function.iterate_succ_apply', ih]
      rfl

theorem scripted_nth (answers : Nat → Except CloudError Progress) (times : Nat → Duration)
    (n : Nat) : (scripted answers times).nth 0 n = ⟨answers n, times n⟩ := by
  rw [nth, scripted_next]
  rfl

/-- The number of questions is that of the last one. -/
theorem scripted_returns_iff : (scripted answers times).Returns operation timeout 0 r asked ↔
    ∃ i, asked = i + 1 ∧ (∀ j < i, Poll.Goes timeout ⟨answers j, times j⟩) ∧
      Poll.Ends operation timeout ⟨answers i, times i⟩ r := by
  rw [returns_iff]
  simp only [scripted_nth, scripted_next]
  constructor
  · rintro ⟨i, earlier, ends, rfl⟩
    exact ⟨i, rfl, earlier, ends⟩
  · rintro ⟨i, rfl, earlier, ends⟩
    exact ⟨i, earlier, ends, rfl⟩

theorem scripted_done_iff : (scripted answers times).Returns operation timeout 0 (.ok ()) asked ↔
    ∃ i, asked = i + 1 ∧ (∀ j < i, Poll.Goes timeout ⟨answers j, times j⟩) ∧
      answers i = .ok .done := by
  simp only [scripted_returns_iff, Poll.ends_ok_iff]

/-- The last answer is told if it is an end, and the clock has no say in that. -/
theorem scripted_told {i : Nat} {progress : Progress} {told : Except CloudError Unit}
    (returns : (scripted answers times).Returns operation timeout 0 r (i + 1))
    (seen : answers i = .ok progress) (ended : progress.ended? operation = some told) :
    r = told := by
  obtain ⟨last, same, -, ends⟩ := scripted_returns_iff.mp returns
  obtain rfl : i = last := Nat.succ.inj same
  exact ends.told seen ended

end Scripted

end Watch

end Autoscaler.Gce
