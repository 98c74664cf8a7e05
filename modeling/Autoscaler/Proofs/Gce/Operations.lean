import Autoscaler.Proofs.Gce.Cloud
import Autoscaler.Proofs.Gce.Watch

/-!
# Waiting for operations

A question about an operation is answered with an error, with how it has ended, or with the
answer that it has not ended yet; of the last kind there are only so many, so the questions
that a waiting caller may ask are enough to see the end. A control plane is thus watched like
anything else, and its budget does not show. What a caller who waits gets to know fits what the
operation has done: an operation that changes a group cannot be reported as failed, and one
that changes nothing cannot be reported as done. Neither calls nor waiting make later
operations end later or in another way.
-/

namespace Autoscaler.Gce.Cloud

open Autoscaler.Action (Keeps)

variable {c c' : Cloud}

/-- How an operation is going to end, if it exists. -/
def fate? (c : Cloud) (operation : String) : Option (Option String) :=
  (c.operations.find? operation).map Operation.failure

/-- How many times an operation is going to be answered as not ended. -/
def remaining (c : Cloud) (operation : String) : Nat :=
  c.pending + ((c.operations.find? operation).map (·.pollsLeft)).getD 0

/-- A waiting caller may ask once more than that. -/
theorem remaining_lt_questions (c : Cloud) (operation : String) :
    c.remaining operation < c.questions operation := Nat.lt_succ_self _

/-- The control plane after a question about an operation. -/
structure Polled (operation : String) (c c' : Cloud) : Prop where
  groups : c'.groups = c.groups
  fate : c'.fate? operation = c.fate? operation
  asks : c.traffic.Asks Call.kind c'.traffic

instance (operation : String) : IsPreorder Cloud (Polled operation) where
  refl _ := ⟨rfl, rfl, .refl _⟩
  trans _ _ _ first rest :=
    ⟨rest.groups.trans first.groups, rest.fate.trans first.fate, first.asks.trans rest.asks⟩

/-- The last call is a question about the operation. -/
def JustAsked (operation : String) (c : Cloud) : Prop :=
  ∃ reached, c.traffic.sent.head? = some ⟨.operationStatus operation, reached⟩

/-- The answers to a question about an operation, and what each of them leaves behind when
`traffic` includes the question. -/
inductive Answer (operation : String) (c : Cloud) (traffic : Traffic Call) :
    Except CloudError Progress → Cloud → Prop where
  | unanswered (message : String) (cause : ¬ (c.Healthy ∧ (c.fate? operation).isSome)) :
      Answer operation c traffic (.error (.api backendName message)) { c with traffic }
  | pending (more : 0 < c.pending) :
      Answer operation c traffic (.ok .pending) { c with traffic, pending := c.pending - 1 }
  | running (o : Operation) (known : c.operations.find? operation = some o)
      (started : c.pending = 0) (more : 0 < o.pollsLeft) :
      Answer operation c traffic (.ok .running)
        { c with
          traffic
          operations := c.operations.modify operation fun o =>
            { o with pollsLeft := o.pollsLeft - 1 } }
  | done (fate : c.fate? operation = some none) (ended : c.remaining operation = 0) :
      Answer operation c traffic (.ok .done) { c with traffic }
  | failed (message : String) (fate : c.fate? operation = some (some message))
      (ended : c.remaining operation = 0) :
      Answer operation c traffic (.ok (.failed message)) { c with traffic }

/-- A question is sent once and gets one of the answers. -/
theorem operationStatus_cases {operation : String} {r : Except CloudError Progress}
    (run : (operationStatus operation).runOn c = (r, c')) :
    ∃ reached, Answer operation c (c.traffic.record (.operationStatus operation) reached) r c' := by
  rw [operationStatus, Action.runOn_bind_ok (Action.runOn_get _)] at run
  obtain ⟨answer, reached, sent, outcome⟩ :=
    send_cases (.operationStatus operation) (decide (c.pending = 0)) c
  refine ⟨reached, ?_⟩
  obtain rfl | ⟨unhealthy, message, rfl⟩ := outcome
  · rw [Action.runOn_bind_ok sent, Action.runOn_bind_ok (Action.runOn_get _)] at run
    by_cases started : c.pending = 0
    · rw [if_pos started] at run
      cases known : c.operations.find? operation with
      | none =>
          simp only [known, Action.runOn_throw] at run
          cases run
          exact .unanswered _ (by simp [fate?, known])
      | some o =>
          by_cases ended : o.pollsLeft = 0
          · have none_left : c.remaining operation = 0 := by simp [remaining, known, started, ended]
            cases fate : o.failure with
            | none =>
                simp only [known, ended, ↓reduceIte, fate, Action.runOn_pure] at run
                cases run
                exact .done (by simp [fate?, known, fate]) none_left
            | some message =>
                simp only [known, ended, ↓reduceIte, fate, Action.runOn_pure] at run
                cases run
                exact .failed message (by simp [fate?, known, fate]) none_left
          · simp only [known, ended, ↓reduceIte] at run
            rw [Action.runOn_bind_ok (Action.runOn_set _ _), Action.runOn_pure] at run
            cases run
            exact .running o known started (Nat.pos_of_ne_zero ended)
    · rw [if_neg started, Action.runOn_bind_ok (Action.runOn_set _ _), Action.runOn_pure] at run
      cases run
      exact .pending (Nat.pos_of_ne_zero started)
  · rw [Action.runOn_bind_error sent] at run
    cases run
    exact .unanswered message fun healthy => unhealthy healthy.1

section Answer

variable {operation : String} {reached : Bool} {r : Except CloudError Progress}

theorem Answer.polled
    (answer : Answer operation c (c.traffic.record (.operationStatus operation) reached) r c') :
    Polled operation c c' := by
  have asks : c.traffic.Asks Call.kind (c.traffic.record (.operationStatus operation) reached) :=
    .record rfl _ _
  cases answer with
  | unanswered => exact ⟨rfl, rfl, asks⟩
  | pending => exact ⟨rfl, rfl, asks⟩
  | running o known =>
      refine ⟨rfl, ?_, asks⟩
      simp [fate?, Directory.find?_modify, known]
  | done => exact ⟨rfl, rfl, asks⟩
  | failed => exact ⟨rfl, rfl, asks⟩

theorem Answer.justAsked
    (answer : Answer operation c (c.traffic.record (.operationStatus operation) reached) r c') :
    JustAsked operation c' := by
  cases answer <;> exact ⟨reached, rfl⟩

theorem Answer.waited {traffic : Traffic Call} (answer : Answer operation c traffic r c') :
    c'.waited = c.waited := by
  cases answer <;> rfl

/-- An answer that the end is still to come brings it closer. -/
theorem Answer.closer {traffic : Traffic Call} {progress : Progress}
    (answer : Answer operation c traffic (.ok progress) c')
    (unfinished : progress.ended? operation = none) :
    c.remaining operation = c'.remaining operation + 1 := by
  cases answer with
  | pending more =>
      simp only [remaining]
      omega
  | running o known started more =>
      simp only [remaining, started, known, Directory.find?_modify, ↓reduceIte, Option.map_some,
        Option.getD_some]
      omega
  | done => cases unfinished
  | failed => cases unfinished

theorem Answer.healthy
    (answer : Answer operation c (c.traffic.record (.operationStatus operation) reached) r c')
    (healthy : c.Healthy) : c'.Healthy := by
  cases answer <;> exact ⟨healthy.available, healthy.clear.record _ _⟩

end Answer

/-- How a caller is told that an operation has ended. -/
inductive Verdict (operation : String) (c : Cloud) : Except CloudError Unit → Prop where
  | done (fate : c.fate? operation = some none) : Verdict operation c (.ok ())
  | failed (message : String) (fate : c.fate? operation = some (some message)) :
      Verdict operation c (.error (.operationFailed operation message))

theorem Polled.verdict {operation : String} {r : Except CloudError Unit}
    (polled : Polled operation c c') (verdict : Verdict operation c' r) :
    Verdict operation c r := by
  cases verdict with
  | done fate => exact .done (polled.fate.symm.trans fate)
  | failed message fate => exact .failed message (polled.fate.symm.trans fate)

section Waiting

variable {operation : String} {start : Duration} {polling : Polling}

/-- The control plane after a pause of the caller. -/
def paused (polling : Polling) (c : Cloud) : Cloud :=
  { c with waited := c.waited + polling.interval }

/-- Waiting for an operation, by a caller who began at `start`. -/
def watch (polling : Polling) (operation : String) (start : Duration) : Watch Cloud where
  status := operationStatus operation
  elapsed c := ⟨c.waited.nanos - start.nanos⟩
  pause := paused polling

/-- A question that finds an operation unfinished brings its end closer. -/
theorem remaining_next (unfinished : ((watch polling operation start).poll c).Unfinished) :
    c.remaining operation =
      ((watch polling operation start).next c).remaining operation + 1 := by
  rcases asked : (operationStatus operation).runOn c with ⟨answer, m⟩
  rw [Watch.poll_of_run asked] at unfinished
  obtain ⟨reached, given⟩ := operationStatus_cases asked
  obtain ⟨progress, rfl, unended⟩ := unfinished.ended? operation
  rw [Watch.next, Watch.after_of_run asked]
  exact given.closer unended

/-- A caller who may ask more often than an operation can put off its end stops within that. -/
theorem await_stops (polling : Polling) (start : Duration) {budget : Nat}
    (enough : c.remaining operation < budget) :
    ∃ r c', (watch polling operation start).await operation polling.timeout budget c =
      (some r, c') := by
  induction budget generalizing c with
  | zero => exact absurd enough (Nat.not_lt_zero _)
  | succ budget ih =>
      obtain goes | ⟨r, ends⟩ :=
        ((watch polling operation start).poll c).goes_or_ends operation polling.timeout
      · rw [Watch.await_goes goes]
        have closer := remaining_next goes.unfinished
        exact ih (by omega)
      · exact ⟨r, _, Watch.await_ends ends⟩

theorem watch_ask (polling : Polling) (operation : String) (start : Duration) :
    (watch polling operation start).ask operation = askEnd operation start := rfl

theorem watch_pause (polling : Polling) (operation : String) (start : Duration) :
    modify (watch polling operation start).pause = pause polling := rfl

theorem awaitOperation_of_await {r : Except CloudError Unit}
    (awaited : (watch polling operation c.waited).await operation polling.timeout
      (c.questions operation) c = (some r, c')) :
    (awaitOperation polling operation).runOn c = (r, c') := by
  rw [Watch.await, watch_ask, watch_pause] at awaited
  rw [awaitOperation, Action.runOn_bind_ok (Action.runOn_get _)]
  rcases run : (awaitResult (askEnd operation c.waited) (pause polling) polling.timeout
    (.operationTimeout operation polling.timeout) (c.questions operation)).runOn c with ⟨told, m⟩
  rw [run] at awaited
  cases told with
  | error e =>
      rw [Action.runOn_bind_error run]
      cases awaited
      rfl
  | ok told =>
      rw [Action.runOn_bind_ok run]
      cases awaited
      rfl

/-- A control plane is waited for as anything else is. -/
theorem awaitOperation_iff {r : Except CloudError Unit} :
    (awaitOperation polling operation).runOn c = (r, c') ↔
      (watch polling operation c.waited).Returns operation polling.timeout c r c' := by
  obtain ⟨told, m, awaited⟩ := await_stops polling c.waited (c.remaining_lt_questions operation)
  rw [awaitOperation_of_await awaited]
  constructor
  · intro same
    cases same
    exact ⟨_, awaited⟩
  · intro returns
    obtain ⟨rfl, rfl⟩ := Watch.Returns.unique ⟨_, awaited⟩ returns
    rfl

/-- Any number of questions, with the pauses behind them. -/
theorem polled_next (polling : Polling) (operation : String) (start : Duration) (c : Cloud)
    (n : Nat) : Polled operation c ((watch polling operation start).next^[n] c) := by
  induction n with
  | zero => exact refl_of (Polled operation) c
  | succ n ih =>
      rw [Function.iterate_succ_apply']
      obtain ⟨reached, given⟩ := operationStatus_cases
        (rfl : (operationStatus operation).runOn ((watch polling operation start).next^[n] c) = _)
      obtain ⟨groups, fate, asks⟩ := trans_of (Polled operation) ih given.polled
      exact ⟨groups, fate, asks⟩

/-- What questions and pauses keep, waiting keeps. -/
theorem keeps_awaitOperation_of {R : Cloud → Cloud → Prop} [IsPreorder Cloud R]
    (asks : ∀ start, Keeps R (askEnd operation start)) (pauses : Keeps R (pause polling)) :
    Keeps R (awaitOperation polling operation) := by
  have waits (start : Duration) (late : CloudError) (budget : Nat) : Keeps R
      (awaitResult (askEnd operation start) (pause polling) polling.timeout late budget) := by
    induction budget with
    | zero => exact .pure _
    | succ budget ih =>
        refine .bind (asks start) ?_
        rintro ⟨_ | result, passed⟩
        · dsimp only
          split
          · exact .throw _
          · exact .bind pauses fun _ => ih
        · exact .pure _
  refine .bind .get fun c => .bind (waits _ _ _) ?_
  rintro (_ | result)
  · exact .throw _
  · exact .ofExcept _

/-- A caller who waits has asked last thing before it is told an error or how the operation has
ended. -/
theorem awaitOperation_cases {r : Except CloudError Unit}
    (run : (awaitOperation polling operation).runOn c = (r, c')) :
    Polled operation c c' ∧ JustAsked operation c' ∧
      ((∃ message, r = .error (.api backendName message)) ∨
        r = .error (.operationTimeout operation polling.timeout) ∨ Verdict operation c r) := by
  obtain ⟨i, -, ends, rfl⟩ := Watch.returns_iff.mp (awaitOperation_iff.mp run)
  have polled := polled_next polling operation c.waited c i
  rw [Watch.nth] at ends
  generalize (watch polling operation c.waited).next^[i] c = m at *
  rcases asked : (operationStatus operation).runOn m with ⟨answer, m'⟩
  obtain ⟨reached, given⟩ := operationStatus_cases asked
  rw [Watch.poll_of_run asked] at ends
  rw [Watch.after_of_run asked]
  refine ⟨trans_of (Polled operation) polled given.polled, given.justAsked, ?_⟩
  cases ends with
  | done =>
      cases given with
      | done fate => exact .inr (.inr (polled.verdict (.done fate)))
  | failed message =>
      cases given with
      | failed _ fate => exact .inr (.inr (polled.verdict (.failed message fate)))
  | unanswered =>
      cases given with
      | unanswered message => exact .inl ⟨message, rfl⟩
  | late => exact .inr (.inl rfl)

end Waiting

/-! ## Sizes -/

/-- The control plane after an operation was started. -/
def started (c : Cloud) : Cloud :=
  { c with
    operations := c.operations.insert (operationName c.operations.entries.length)
      { pollsLeft := c.operationPolls, failure := c.operationFailure } }

theorem startOperation_runOn (c : Cloud) :
    startOperation.runOn c =
      (.ok (operationName c.operations.entries.length, c.operationFailure.isNone), c.started) := by
  rw [startOperation, Action.runOn_bind_ok (Action.runOn_get _),
    Action.runOn_bind_ok (Action.runOn_set _ _), Action.runOn_pure]
  rfl

theorem started_fate (c : Cloud) :
    c.started.fate? (operationName c.operations.entries.length) = some c.operationFailure := by
  rw [fate?, started, Directory.find?_insert, if_pos rfl]
  rfl

/-- The control plane after it has accepted a call that gives a group another size. Only an
operation that is going to end well makes the change. -/
def resized (c : Cloud) (key : GroupKey) (size : Nat) : Cloud :=
  if c.operationFailure.isNone then c.started.setTarget key size else c.started

theorem resized_cases (c : Cloud) (key : GroupKey) (size : Nat) :
    c.operationFailure = none ∧ (c.resized key size).groups = (c.setTarget key size).groups ∨
      ∃ message, c.operationFailure = some message ∧ (c.resized key size).groups = c.groups := by
  rw [resized]
  cases c.operationFailure with
  | none => exact .inl ⟨rfl, rfl⟩
  | some message => exact .inr ⟨message, rfl, rfl⟩

theorem resized_operations (c : Cloud) (key : GroupKey) (size : Nat) :
    (c.resized key size).operations = c.started.operations := by
  rw [resized]
  split <;> rfl

theorem resized_fate (c : Cloud) (key : GroupKey) (size : Nat) :
    (c.resized key size).fate? (operationName c.operations.entries.length) =
      some c.operationFailure := by
  rw [fate?, resized_operations]
  exact started_fate c

theorem resized_remaining (c : Cloud) (key : GroupKey) (size : Nat) :
    (c.resized key size).remaining (operationName c.operations.entries.length) =
      c.pending + c.operationPolls := by
  have pending : (c.resized key size).pending = c.pending := by
    rw [resized]
    split <;> rfl
  rw [remaining, resized_operations, started, Directory.find?_insert, if_pos rfl, pending]
  rfl

theorem resized_traffic (c : Cloud) (key : GroupKey) (size : Nat) :
    (c.resized key size).traffic = c.traffic := by
  rw [resized]
  split <;> rfl

theorem resized_healthy {key : GroupKey} {size : Nat} (healthy : c.Healthy) :
    (c.resized key size).Healthy := by
  rw [resized]
  split <;> exact ⟨healthy.available, healthy.clear⟩

/-- What follows the sending of a call that gives a group another size. -/
theorem resize_of_sent {key : GroupKey} {size : Nat} {reached : Bool}
    (sent : (send (.resize key size) true).runOn c =
      (.ok (), { c with traffic := c.traffic.record (.resize key size) reached })) :
    (resize key size).runOn c = match c.groups.find? key with
      | none => (.error (.unknownGroup key.text),
          { c with traffic := c.traffic.record (.resize key size) reached })
      | some _ => (.ok (operationName c.operations.entries.length),
          { c with traffic := c.traffic.record (.resize key size) reached }.resized key size) := by
  rw [resize, Action.runOn_bind_ok sent]
  cases known : c.groups.find? key with
  | none =>
      rw [Action.runOn_bind_error]
      rw [group_runOn, known]
  | some g =>
      rw [Action.runOn_bind_ok (group_known known _),
        Action.runOn_bind_ok (startOperation_runOn _)]
      simp only [resized]
      cases c.operationFailure <;> rfl

/-- An error of a caller who has just asked about an operation and was not told how it
ended. -/
def UnseenEnd (c : Cloud) (e : CloudError) : Prop :=
  ∃ operation, JustAsked operation c ∧
    ((∃ timeout, e = .operationTimeout operation timeout) ∨
      ∃ message, e = .api backendName message)

section Sizes

variable {project : String} {polling : Polling} {id : GroupId} {size : Nat}

/-- A caller who waits for an accepted call is told no error that contradicts the change, and
no success without it. -/
theorem awaitResized_cases {key : GroupKey} {r : Except CloudError Unit}
    (run : (awaitOperation polling (operationName c.operations.entries.length)).runOn
      (c.resized key size) = (r, c')) :
    c.traffic.Asks Call.kind c'.traffic ∧
    (r = .ok () ∧ c'.groups = (c.setTarget key size).groups ∨
      ∃ e, r = .error e ∧ (c'.groups = c.groups ∨
        c'.groups = (c.setTarget key size).groups ∧ c'.UnseenEnd e)) := by
  obtain ⟨polled, justAsked, ended⟩ := awaitOperation_cases run
  refine ⟨by simpa only [resized_traffic] using polled.asks, ?_⟩
  rw [polled.groups]
  obtain ⟨succeeds, changed⟩ | ⟨doom, fails, same⟩ := resized_cases c key size
  · rw [changed]
    obtain ⟨message, rfl⟩ | rfl | verdict := ended
    · exact .inr ⟨_, rfl, .inr ⟨rfl, _, justAsked, .inr ⟨message, rfl⟩⟩⟩
    · exact .inr ⟨_, rfl, .inr ⟨rfl, _, justAsked, .inl ⟨_, rfl⟩⟩⟩
    · cases verdict with
      | done => exact .inl ⟨rfl, rfl⟩
      | failed message fate =>
          rw [resized_fate, succeeds] at fate
          cases fate
  · rw [same]
    obtain ⟨message, rfl⟩ | rfl | verdict := ended
    · exact .inr ⟨_, rfl, .inl rfl⟩
    · exact .inr ⟨_, rfl, .inl rfl⟩
    · cases verdict with
      | done fate =>
          rw [resized_fate, fails] at fate
          cases fate
      | failed message => exact .inr ⟨_, rfl, .inl rfl⟩

/-- Setting a size sends one call and then asks about one operation. If that ends well the one
size has changed. Otherwise no group has, unless the operation was accepted and the caller
did not see its end. -/
theorem setGroupSize_cases {r : Except CloudError Unit}
    (run : (setGroupSize project polling id size).runOn c = (r, c')) :
    (∃ reached, (c.traffic.record (.resize ⟨project, id.zone, id.name⟩ size) reached).Asks
      Call.kind c'.traffic) ∧
    (r = .ok () ∧ c'.groups = (c.setTarget ⟨project, id.zone, id.name⟩ size).groups ∨
      ∃ e, r = .error e ∧ (c'.groups = c.groups ∨
        c'.groups = (c.setTarget ⟨project, id.zone, id.name⟩ size).groups ∧ c'.UnseenEnd e)) := by
  obtain ⟨answer, reached, sent, outcome⟩ :=
    send_cases (.resize ⟨project, id.zone, id.name⟩ size) true c
  rw [setGroupSize] at run
  obtain rfl | ⟨-, message, rfl⟩ := outcome
  · have accepted := resize_of_sent sent
    cases known : c.groups.find? ⟨project, id.zone, id.name⟩ with
    | none =>
        rw [known] at accepted
        rw [Action.runOn_bind_error accepted] at run
        cases run
        exact ⟨⟨reached, .refl _⟩, .inr ⟨_, rfl, .inl rfl⟩⟩
    | some g =>
        rw [known] at accepted
        rw [Action.runOn_bind_ok accepted] at run
        obtain ⟨asks, ended⟩ := awaitResized_cases run
        exact ⟨⟨reached, asks⟩, ended⟩
  · rw [Action.runOn_bind_error (by rw [resize, Action.runOn_bind_error sent])] at run
    cases run
    exact ⟨⟨reached, .refl _⟩, .inr ⟨_, rfl, .inl rfl⟩⟩

/-- Only a group that is there can be given a size. -/
theorem setGroupSize_known
    (run : (setGroupSize project polling id size).runOn c = (.ok (), c')) :
    (c.target? ⟨project, id.zone, id.name⟩).isSome := by
  obtain ⟨operation, m, accepted, -⟩ := Action.bind_ok_cases run
  obtain ⟨_, m', sent, -⟩ := Action.bind_ok_cases accepted
  obtain ⟨r, reached, sent', -⟩ := send_cases (.resize ⟨project, id.zone, id.name⟩ size) true c
  cases sent.symm.trans sent'
  rw [resize_of_sent sent'] at accepted
  cases known : c.groups.find? ⟨project, id.zone, id.name⟩ with
  | none =>
      rw [known] at accepted
      cases accepted
  | some g => simp [target?, known]

end Sizes

/-! ## Later operations -/

section Later

/-- Later operations go as before or sooner, and listings show the same strangers. -/
structure Lasting (c c' : Cloud) : Prop where
  polls : c'.operationPolls = c.operationPolls
  failure : c'.operationFailure = c.operationFailure
  pending : c'.pending ≤ c.pending
  strangers : c'.strangers = c.strangers

instance : IsPreorder Cloud Lasting where
  refl _ := ⟨rfl, rfl, Nat.le_refl _, rfl⟩
  trans _ _ _ first rest :=
    ⟨rest.polls.trans first.polls, rest.failure.trans first.failure,
      Nat.le_trans rest.pending first.pending, rest.strangers.trans first.strangers⟩

variable {polling : Polling}

theorem Lasting.prompt (lasting : Lasting c c') (prompt : c.Prompt polling) :
    c'.Prompt polling where
  succeeds := lasting.failure.trans prompt.succeeds
  timely asked early := by
    apply prompt.timely asked
    have polls := lasting.polls
    have pending := lasting.pending
    omega

theorem lasting_awaitOperation (polling : Polling) (operation : String) :
    Keeps Lasting (awaitOperation polling operation) := by
  apply keeps_awaitOperation_of
  · intro start
    refine .bind ?_ fun _ => .bind .get fun _ => .pure _
    intro c
    rcases asked : (operationStatus operation).runOn c with ⟨r, c'⟩
    obtain ⟨reached, answer⟩ := operationStatus_cases asked
    cases answer <;> exact ⟨rfl, rfl, by simp, rfl⟩
  · intro c
    exact ⟨rfl, rfl, Nat.le_refl _, rfl⟩

theorem lasting_setGroupSize (project : String) (polling : Polling) (id : GroupId) (size : Nat) :
    Keeps Lasting (setGroupSize project polling id size) := by
  refine .bind ?_ (lasting_awaitOperation polling)
  intro c
  obtain ⟨answer, reached, sent, outcome⟩ :=
    send_cases (.resize ⟨project, id.zone, id.name⟩ size) true c
  obtain rfl | ⟨-, message, rfl⟩ := outcome
  · rw [resize_of_sent sent]
    split
    · exact ⟨rfl, rfl, Nat.le_refl _, rfl⟩
    · dsimp only
      rw [resized]
      split <;> exact ⟨rfl, rfl, Nat.le_refl _, rfl⟩
  · rw [resize, Action.runOn_bind_error sent]
    exact ⟨rfl, rfl, Nat.le_refl _, rfl⟩

end Later

end Autoscaler.Gce.Cloud
