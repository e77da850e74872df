import Craxii.Gateway.Attempt
import Craxii.Gateway.InvokeCore

/-!
The attempts of one logical invocation.
-/

namespace Craxii

open Utf8Text ExceptRules

/-! What the flags of the stream loop say about the delivered events. -/

section

variable {Store : Type} (ops : AttemptOps Store) (limits : ModelGatewayLimits)
  (sha256 : Text → Sha256Digest) {invocation : GatewayInvocation} {attemptId : ModelInvocationId}

def EventTurn.isSemantic (turn : EventTurn) : Bool :=
  turn.event.isSemanticOutput

def EventTurn.exposesDraft (turn : EventTurn) : Bool :=
  turn.event.hasDraftDelta && turn.draftExposed

structure StreamProgress.Faithful (progress : StreamProgress Store) : Prop where
  semantic : progress.semantic = progress.delivered.any (·.isSemantic)
  draft : progress.draftExposed = progress.delivered.any (·.exposesDraft)

def ProviderError.isRetryable (error : ProviderError) : Bool :=
  error.kind.transientBeforeOutput && error.certainty.isUnprocessed

variable {script : AttemptScript} {draftExposed semanticOutputObserved : Bool}
  {accumulator : CanonicalStreamAccumulator} {attempt : DurableModelAttempt} {final : FinalTurn}
  {evidence : FinishEvidence} {startedEvent streamingEvent waitingEvent : JournalEventId}
  {turns : List EventTurn} {failure : ModelGatewayError} {response : ModelResponse}
  {event : ModelStreamEvent} {attemptNo deadline : Nat} {error given : ProviderError}
  {store : Store} {work : WorkLifecycleSnapshot}

theorem observe_accepted_semantic {observed : CanonicalStreamAccumulator}
    (accepted : accumulator.observe limits event = (observed, none)) :
    observed.semanticOutputObserved =
      (accumulator.semanticOutputObserved || event.isSemanticOutput) := by
  have limited : (accumulator.enforceConfiguredContentLimits limits event).1.semanticOutputObserved =
      accumulator.semanticOutputObserved := by
    unfold CanonicalStreamAccumulator.enforceConfiguredContentLimits
    split
    · rfl
    · split <;> rfl
  have recorded : ∀ before : CanonicalStreamAccumulator,
      (before.record event).semanticOutputObserved =
        (before.semanticOutputObserved || event.isSemanticOutput) := by
    intro before
    cases event <;> rfl
  unfold CanonicalStreamAccumulator.observe at accepted
  split at accepted
  · cases accepted
  · split at accepted
    · cases accepted
    · rename_i enforced outcome
      rw [outcome] at limited
      dsimp only at accepted
      split at accepted
      · cases accepted
      · cases accepted
        rw [recorded, limited]

theorem noteFirstByte_keeps {observedAt : UtcTimestamp} {progress marked : StreamProgress Store}
    (noted : noteFirstByte ops invocation attemptId streamingEvent event observedAt progress =
      .ok marked) :
    marked.accumulator = progress.accumulator ∧ marked.draftExposed = progress.draftExposed ∧
      marked.delivered = progress.delivered := by
  unfold noteFirstByte at noted
  split at noted
  · cases noted
    exact ⟨rfl, rfl, rfl⟩
  · obtain ⟨store, _, returned⟩ := bind_eq_ok.mp noted
    cases returned
    exact ⟨rfl, rfl, rfl⟩

theorem semanticOrUnknown_not_retryable (kind : ProviderErrorKind) (semantic : Bool) :
    (ProviderError.new kind (semanticOrUnknown semantic)).isRetryable = false := by
  cases semantic <;> cases kind <;> rfl

theorem closeStream_retryable {rest : List EventTurn}
    (ended : closeStream limits deadline final rest accumulator = .failed error)
    (retryable : error.isRetryable = true) : trailingDelivered limits deadline rest = [] := by
  cases rest with
  | nil => rfl
  | cons next others =>
    simp only [trailingDelivered]
    split
    · rfl
    · rename_i polled
      simp only [closeStream, trailingPoll, polled, ↓reduceIte, StreamEnd.failed.injEq] at ended
      subst ended
      simp [ProviderError.isRetryable, ProviderError.new,
        ProviderErrorKind.transientBeforeOutput] at retryable

theorem streamLoop_faithful (retryable : error.isRetryable = true) :
    ∀ {progress ended : StreamProgress Store}, progress.Faithful →
      streamLoop ops limits invocation attemptId streamingEvent deadline final turns progress =
        (ended, .failed error) → ended.Faithful := by
  induction turns with
  | nil =>
    intro progress ended faithful outcome
    unfold streamLoop at outcome
    repeat' split at outcome
    all_goals
      simp only [Prod.mk.injEq] at outcome
      rw [← outcome.1]
      exact faithful
  | cons turn rest ih =>
    intro progress ended faithful outcome
    unfold streamLoop at outcome
    split at outcome
    · simp only [Prod.mk.injEq] at outcome
      rw [← outcome.1]
      exact faithful
    · dsimp only at outcome
      split at outcome
      · cases outcome
      · rename_i observedAt _
        split at outcome
        · cases outcome
        · rename_i marked noted
          obtain ⟨sameAccumulator, sameDraft, sameDelivered⟩ := noteFirstByte_keeps ops noted
          split at outcome
          · simp only [Prod.mk.injEq, StreamEnd.failed.injEq] at outcome
            rw [← outcome.2, semanticOrUnknown_not_retryable] at retryable
            cases retryable
          · rename_i accumulator observed
            have semantic := observe_accepted_semantic limits observed
            have next : ({ noteOutput turn observedAt marked with accumulator } :
                StreamProgress Store).Faithful := by
              refine ⟨?_, ?_⟩
              · simp only [StreamProgress.semantic, noteOutput] at semantic ⊢
                rw [semantic, sameAccumulator, sameDelivered]
                simp only [StreamProgress.deliver, List.any_append, List.any_cons, List.any_nil,
                  Bool.or_false]
                rw [← faithful.semantic]
                rfl
              · simp only [noteOutput]
                rw [sameDraft, sameDelivered]
                simp only [StreamProgress.deliver, List.any_append, List.any_cons, List.any_nil,
                  Bool.or_false]
                rw [← faithful.draft]
                rfl
            split at outcome
            · simp only [Prod.mk.injEq] at outcome
              have untrailed := closeStream_retryable limits outcome.2 retryable
              rw [← outcome.1]
              refine ⟨?_, ?_⟩
              · simp only [untrailed, List.append_nil]
                exact next.semantic
              · simp only [untrailed, List.append_nil]
                exact next.draft
            · exact ih next outcome

structure FailedFinish (report : FinishReport Store) (attemptId : ModelInvocationId)
    (error : ProviderError) (semanticOutputObserved draftExposed : Bool)
    (attempt : DurableModelAttempt) : Prop where
  accepted : ∃ request, report.accepted = some request ∧
    request.expectedModel.modelInvocationId = attemptId ∧
    request.outcome.state = failedTerminalState error ∧
    request.outcome.providerOutcomeCertainty =
      (if failedTerminalState error == .failed && semanticOutputObserved then
        .semanticOutputObserved
      else error.certainty) ∧
    request.outcome.draftExposed = draftExposed
  definite : error.isAmbiguous = false
  sameAttempt : attempt.modelInvocationId = attemptId
  work : ∃ work, failedWorkNext work attemptId error = .ok attempt.work

theorem finishFailedAttempt_failed {script : FinishScript}
    (failed : (finishFailedAttempt ops invocation attemptId attemptNo given evidence script
      store).result = .failed error semanticOutputObserved draftExposed attempt) :
    error = given ∧ semanticOutputObserved = evidence.semanticOutputObserved ∧
      draftExposed = evidence.draftExposed ∧
      FailedFinish (finishFailedAttempt ops invocation attemptId attemptNo given evidence script
        store) attemptId error semanticOutputObserved draftExposed attempt := by
  unfold finishFailedAttempt at failed ⊢
  dsimp only at failed ⊢
  split at failed
  · cases failed
  · split at failed
    · cases failed
    · rename_i workNext next
      split at failed
      · cases failed
      · dsimp only at failed ⊢
        split at failed
        · cases failed
        · rename_i definite
          cases failed
          exact ⟨rfl, rfl, rfl, ⟨_, rfl, rfl, rfl, rfl, rfl⟩, by simpa using definite, rfl,
            ⟨_, next⟩⟩

theorem finishCompletedAttempt_not_failed :
    (finishCompletedAttempt ops sha256 invocation attemptId attemptNo response evidence script
      store).result ≠ .failed error semanticOutputObserved draftExposed attempt := by
  intro failed
  unfold finishCompletedAttempt at failed
  dsimp only at failed
  split at failed
  · cases failed
  · split at failed
    · obtain ⟨same, _, _, finished⟩ := finishFailedAttempt_failed ops failed
      have definite := finished.definite
      subst same
      cases definite
    · split at failed
      · cases failed
      · split at failed <;> cases failed

/-- The report of a failed attempt: its finish was accepted, and after a retryable error its
flags are what the delivered events show. -/
def ReportsFailure (report : AttemptReport Store) (attemptId : ModelInvocationId)
    (error : ProviderError) (semanticOutputObserved draftExposed : Bool)
    (attempt : DurableModelAttempt) : Prop :=
  FailedFinish report.toFinishReport attemptId error semanticOutputObserved draftExposed attempt ∧
    (error.isRetryable = true → semanticOutputObserved = report.delivered.any (·.isSemantic) ∧
      draftExposed = report.delivered.any (·.exposesDraft))

theorem finishFailedAttempt_reports {script : FinishScript} {delivered : List EventTurn}
    (shown : given.isRetryable = true →
      evidence.semanticOutputObserved = delivered.any (·.isSemantic) ∧
      evidence.draftExposed = delivered.any (·.exposesDraft))
    (failed : ((finishFailedAttempt ops invocation attemptId attemptNo given evidence script
      store).delivering delivered).result = .failed error semanticOutputObserved draftExposed
        attempt) :
    ReportsFailure ((finishFailedAttempt ops invocation attemptId attemptNo given evidence script
      store).delivering delivered) attemptId error semanticOutputObserved draftExposed attempt := by
  obtain ⟨sameError, sameSemantic, sameDraft, finished⟩ := finishFailedAttempt_failed ops failed
  refine ⟨finished, ?_⟩
  rw [sameError, sameSemantic, sameDraft]
  exact shown

theorem runPhysicalAttempt_failed
    (failed : (runPhysicalAttempt ops limits sha256 invocation attemptNo attemptId startedEvent
      waitingEvent script store).result = .failed error semanticOutputObserved draftExposed attempt) :
    ReportsFailure (runPhysicalAttempt ops limits sha256 invocation attemptNo attemptId startedEvent
      waitingEvent script store) attemptId error semanticOutputObserved draftExposed attempt := by
  revert failed
  unfold runPhysicalAttempt
  dsimp only
  split
  · intro failed
    cases failed
  · split
    · intro failed
      cases failed
    · split
      · exact finishFailedAttempt_reports ops (fun _ => ⟨rfl, rfl⟩)
      · split
        · exact finishFailedAttempt_reports ops (fun _ => ⟨rfl, rfl⟩)
        · split
          · exact finishFailedAttempt_reports ops (fun _ => ⟨rfl, rfl⟩)
          · exact finishFailedAttempt_reports ops (fun _ => ⟨rfl, rfl⟩)
          · exact finishFailedAttempt_reports ops (fun _ => ⟨rfl, rfl⟩)
          · split
            · intro failed
              cases failed
            · rename_i progress given ended
              refine finishFailedAttempt_reports ops ?_
              intro retryable
              have faithful : progress.Faithful :=
                streamLoop_faithful ops limits retryable ⟨rfl, rfl⟩ ended
              exact ⟨faithful.semantic, faithful.draft⟩
            · intro failed
              exact absurd failed (finishCompletedAttempt_not_failed ops sha256)

omit ops limits sha256 in
theorem decideNext_error_lifecycle {request : WorkTransitionRequest}
    (refused : decideNext work request = .error failure) : failure = .lifecycle := by
  unfold decideNext at refused
  split at refused
  · cases refused
  · cases refused
    rfl

omit ops limits sha256 in
theorem confirmCancellation_error_lifecycle (refused : confirmCancellation work = .error failure) :
    failure = .lifecycle := by
  unfold confirmCancellation at refused
  rcases bind_eq_error.mp refused with missing | ⟨_, _, undecided⟩
  · cases reason : work.cancellationReason with
    | none =>
      rw [reason] at missing
      cases missing
      rfl
    | some =>
      rw [reason] at missing
      cases missing
  · exact decideNext_error_lifecycle undecided

omit ops limits sha256 in
theorem failedWorkNext_error_lifecycle (refused : failedWorkNext work attemptId error = .error failure) :
    failure = .lifecycle := by
  unfold failedWorkNext at refused
  split at refused
  · exact decideNext_error_lifecycle refused
  · split at refused
    · exact confirmCancellation_error_lifecycle refused
    · exact decideNext_error_lifecycle refused

omit ops limits sha256 in
theorem completedWorkNext_error_lifecycle (refused : completedWorkNext work attemptId = .error failure) :
    failure = .lifecycle := by
  unfold completedWorkNext at refused
  split at refused
  · exact confirmCancellation_error_lifecycle refused
  · exact decideNext_error_lifecycle refused

theorem finishFailedAttempt_not_invalid {script : FinishScript} :
    (finishFailedAttempt ops invocation attemptId attemptNo error evidence script store).result ≠
      .infrastructure .invalidInvocation := by
  unfold finishFailedAttempt
  dsimp only
  split
  · simp
  · split
    · rename_i failure refused
      simp [failedWorkNext_error_lifecycle refused]
    · split
      · simp
      · dsimp only
        split <;> simp

theorem finishCompletedAttempt_not_invalid :
    (finishCompletedAttempt ops sha256 invocation attemptId attemptNo response evidence script
      store).result ≠ .infrastructure .invalidInvocation := by
  unfold finishCompletedAttempt
  dsimp only
  split
  · simp
  · split
    · exact finishFailedAttempt_not_invalid ops
    · split
      · rename_i failure refused
        simp [completedWorkNext_error_lifecycle refused]
      · split <;> simp

theorem streamLoop_not_invalid :
    ∀ {progress : StreamProgress Store},
      (streamLoop ops limits invocation attemptId streamingEvent deadline final turns progress).2 ≠
        .infrastructure .invalidInvocation := by
  induction turns with
  | nil =>
    intro progress
    unfold streamLoop
    repeat' split
    all_goals simp
  | cons turn rest ih =>
    intro progress
    unfold streamLoop
    dsimp only
    split
    · simp
    · split
      · simp
      · split
        · simp
        · split
          · simp
          · split
            · exact closeStream_ne_infrastructure limits deadline final rest _ _
            · exact ih

theorem runPhysicalAttempt_not_invalid :
    (runPhysicalAttempt ops limits sha256 invocation attemptNo attemptId startedEvent waitingEvent
      script store).result ≠ .infrastructure .invalidInvocation := by
  unfold runPhysicalAttempt
  dsimp only
  split
  · simp [FinishReport.delivering]
  · split
    · simp [FinishReport.delivering]
    · split
      · exact finishFailedAttempt_not_invalid ops
      · split
        · exact finishFailedAttempt_not_invalid ops
        · split
          · exact finishFailedAttempt_not_invalid ops
          · exact finishFailedAttempt_not_invalid ops
          · exact finishFailedAttempt_not_invalid ops
          · split
            · rename_i progress failure ended
              intro invalid
              simp only [FinishReport.delivering, PhysicalAttemptResult.infrastructure.injEq]
                at invalid
              subst invalid
              exact streamLoop_not_invalid ops limits (congrArg Prod.snd ended)
            · exact finishFailedAttempt_not_invalid ops
            · exact finishCompletedAttempt_not_invalid ops sha256

end

section

variable {Store : Type} {ops : GatewayOps Store} {limits : ModelGatewayLimits}
  {sha256 : Text → Sha256Digest} {invocation : GatewayInvocation}

/-- The attempt was durably finished as failed, as not sent or as definitely refused by the
provider, and neither a semantic event was delivered nor a draft exposed. -/
def AttemptRecord.FinishedUnprocessed (record : AttemptRecord Store) : Prop :=
  ∃ report request, record.report = some report ∧ report.accepted = some request ∧
    request.expectedModel.modelInvocationId = record.begun.attempt.modelInvocationId ∧
    request.outcome.state = .failed ∧
    (request.outcome.providerOutcomeCertainty = .definitelyNotSent ∨
      request.outcome.providerOutcomeCertainty = .definiteProviderFailure) ∧
    request.outcome.draftExposed = false ∧
    ∀ turn ∈ report.delivered, turn.event.isSemanticOutput = false ∧
      (turn.event.hasDraftDelta && turn.draftExposed) = false

/-- Attempts numbered from the given one, each naming its predecessor, and all but the last
finished without having been processed. -/
def ChainedAttempts : Nat → Option ModelInvocationId → List (AttemptRecord Store) → Prop
  | _, _, [] => True
  | attemptNo, retryOf, record :: later =>
    record.begun.attempt.attemptNo.value = attemptNo ∧ record.begun.attempt.retryOf = retryOf ∧
      (later ≠ [] → record.FinishedUnprocessed) ∧
      ChainedAttempts (attemptNo + 1) (some record.begun.attempt.modelInvocationId) later

def attemptCap (limits : ModelGatewayLimits) (invocation : GatewayInvocation) : Nat :=
  min limits.maximumAttemptsPerLogicalInvocation
    (limits.maximumAttemptsPerWork - invocation.workAttemptsBeforeInvocation)

structure RetryState.Fits (state : RetryState Store) (limits : ModelGatewayLimits)
    (invocation : GatewayInvocation) : Prop where
  positive : 0 < state.attemptNo
  capped : state.attemptNo ≤ attemptCap limits invocation
  owned : state.work.runtimeOwner.isSome = true

theorem ModelGatewayLimits.isValid_bounds (valid : limits.isValid = true) :
    0 < limits.maximumAttemptsPerLogicalInvocation ∧
      limits.maximumAttemptsPerLogicalInvocation ≤ 3 ∧ limits.maximumAttemptsPerWork ≤ 32 := by
  simp only [ModelGatewayLimits.isValid, Bool.and_eq_true, bne_iff_ne, decide_eq_true_eq] at valid
  simp only [maxProviderAttempts, maxProviderAttemptsPerWork] at valid
  omega

variable {report : AttemptReport Store} {request : BeginModelInvocationRequest}
  {next state : RetryState Store} {turn : RetryTurn} {ended : Store}

theorem beginRequest_ok (requested : beginRequest invocation state turn = .ok request) :
    request.attempt.attemptNo.value = state.attemptNo ∧ request.attempt.retryOf = state.retryOf ∧
      request.attempt.modelInvocationId = turn.attemptId := by
  unfold beginRequest at requested
  obtain ⟨startedAt, _, requested⟩ := bind_eq_ok.mp requested
  obtain ⟨owner, _, requested⟩ := bind_eq_ok.mp requested
  obtain ⟨waiting, _, requested⟩ := bind_eq_ok.mp requested
  obtain ⟨attemptNo, numbered, requested⟩ := bind_eq_ok.mp requested
  cases requested
  refine ⟨?_, rfl, rfl⟩
  rw [orRefuse_eq_ok, PositiveInteger.tryNew] at numbered
  split at numbered
  · cases numbered
    rfl
  · cases numbered

theorem resumed_owned {work next : WorkLifecycleSnapshot} {attemptId : ModelInvocationId}
    (resumed : resumeFromModel work attemptId = .ok next) : next.runtimeOwner.isSome = true := by
  have accepted := (decideNext_eq_ok_iff _ _ _).mp resumed
  have shape := accepted.nextShape
  have target := accepted.target
  simp only [WorkTransitionRequest.targetState] at target
  simp only [WorkLifecycleSnapshot.shapeOk, workShapeOk, target, Bool.and_eq_true] at shape
  simp_all

theorem settled_unprocessed {begun : Store}
    (requested : beginRequest invocation state turn = .ok request)
    (ran : report = runPhysicalAttempt ops.toAttemptOps limits sha256
      { invocation with work := request.workNext } state.attemptNo turn.attemptId
      turn.startedEvent turn.waitingEvent turn.attempt begun)
    (settled : settleAttempt limits invocation state turn report = .retry next) :
    AttemptRecord.FinishedUnprocessed ⟨request, some report⟩ ∧
      next.retryOf = some request.attempt.modelInvocationId ∧
      next.work.runtimeOwner.isSome = true := by
  obtain ⟨error, semanticOutputObserved, draftExposed, attempt, failed, sent, retries⟩ :=
    settleAttempt_retry limits invocation settled
  obtain ⟨⟨_, retryable⟩, unexposed, _, _, sameWork, sameAttempt⟩ :=
    settleFailure_retry limits invocation retries
  obtain ⟨unobserved, _, _, transient, unprocessed⟩ := classifyProviderRetry_retryable retryable
  subst ran
  obtain ⟨finished, shown⟩ := runPhysicalAttempt_failed ops.toAttemptOps limits sha256 failed
  obtain ⟨semantic, draft⟩ := shown (by simp [ProviderError.isRetryable, transient, unprocessed])
  obtain ⟨accepted, acceptedIs, sameModel, state, certainty, exposed⟩ := finished.accepted
  obtain ⟨work, workNext⟩ := finished.work
  have identity := (beginRequest_ok requested).2.2
  have terminal : failedTerminalState error = .failed := by
    simp [failedTerminalState, finished.definite, sent]
  subst unobserved unexposed
  refine ⟨⟨_, accepted, rfl, acceptedIs, ?_, ?_, ?_, exposed, ?_⟩, ?_, ?_⟩
  · rw [sameModel, identity]
  · rw [state, terminal]
  · simp only [Bool.and_false, Bool.false_eq_true, ↓reduceIte] at certainty
    rw [certainty]
    exact error.certainty.isUnprocessed_iff.mp unprocessed
  · intro event delivered
    have noSemantic := List.any_eq_false.mp semantic.symm event delivered
    have noDraft := List.any_eq_false.mp draft.symm event delivered
    exact ⟨Bool.eq_false_iff.mpr noSemantic, Bool.eq_false_iff.mpr noDraft⟩
  · rw [sameAttempt, finished.sameAttempt, identity]
  · rw [sameWork]
    simp only [failedWorkNext, finished.definite, sent, Bool.false_and, Bool.false_eq_true,
      ↓reduceIte] at workNext
    exact resumed_owned workNext

theorem RetryState.Fits.within (fits : state.Fits limits invocation)
    (valid : limits.isValid = true) :
    saturatingAdd32 invocation.workAttemptsBeforeInvocation state.attemptNo ≤
        limits.maximumAttemptsPerWork ∧ state.attemptNo ≤ maxProviderAttempts := by
  have bounds := ModelGatewayLimits.isValid_bounds valid
  have capped := fits.capped
  have positive := fits.positive
  simp only [attemptCap] at capped
  simp only [saturatingAdd32, maxProviderAttempts]
  omega

theorem beginRequest_not_invalid
    (fits : state.Fits limits invocation) (valid : limits.isValid = true) :
    beginRequest invocation state turn ≠ .error .invalidInvocation := by
  obtain ⟨owner, owned⟩ := Option.isSome_iff_exists.mp fits.owned
  have small := (fits.within valid).2
  have positive := fits.positive
  simp only [maxProviderAttempts] at small
  have numbered : PositiveInteger.tryNew state.attemptNo =
      some ⟨state.attemptNo, positive, Nat.le_trans small (by decide)⟩ := by
    simp only [PositiveInteger.tryNew, positive, Nat.le_trans small (by decide : 3 ≤ i64Max),
      and_self, ↓reduceDIte]
  unfold beginRequest
  rw [owned, numbered]
  cases turn.wallNow with
  | none => simp
  | some startedAt =>
    cases decided : decideNext state.work (.waitForModel turn.attemptId) with
    | ok waiting => simp [pure, Except.pure]
    | error failure => simp [decideNext_error_lifecycle decided]

theorem settleFailure_not_invalid
    {store : Store} {error : ProviderError} {semanticOutputObserved draftExposed : Bool}
    {attempt : DurableModelAttempt} :
    settleFailure limits invocation state turn store error semanticOutputObserved draftExposed
      attempt ≠ .returned ended (.error .invalidInvocation) := by
  unfold settleFailure
  dsimp only
  repeat' split
  all_goals simp

theorem settleAttempt_not_invalid (ran : report.result ≠ .infrastructure .invalidInvocation) :
    settleAttempt limits invocation state turn report ≠
      .returned ended (.error .invalidInvocation) := by
  unfold settleAttempt
  split
  · simp
  · simp
  · rename_i failure result
    intro invalid
    simp only [TurnEnd.returned.injEq, Except.error.injEq] at invalid
    rw [result, invalid.2] at ran
    exact ran rfl
  · split
    · simp
    · exact settleFailure_not_invalid

theorem retryTurn_not_invalid
    (fits : state.Fits limits invocation) (valid : limits.isValid = true) :
    (retryTurn ops limits sha256 invocation state turn).2 ≠
      .returned ended (.error .invalidInvocation) := by
  obtain ⟨within, small⟩ := fits.within valid
  have positive := fits.positive
  unfold retryTurn
  split
  · omega
  · split
    · simp
    · split
      · simp
      · split
        · rename_i failure refused
          intro invalid
          simp only [TurnEnd.returned.injEq, Except.error.injEq] at invalid
          rw [invalid.2] at refused
          exact beginRequest_not_invalid fits valid refused
        · split
          · simp
          · split
            · rename_i numbered
              simp only [providerAttempt?, ite_eq_left_iff] at numbered
              have outside := Classical.byContradiction fun bounded => nomatch numbered bounded
              omega
            · exact settleAttempt_not_invalid (runPhysicalAttempt_not_invalid _ limits sha256)

theorem retryTurn_record {record : AttemptRecord Store}
    (recorded : (retryTurn ops limits sha256 invocation state turn).1 = some record) :
    record.begun.attempt.attemptNo.value = state.attemptNo ∧
      record.begun.attempt.retryOf = state.retryOf := by
  unfold retryTurn at recorded
  split at recorded
  · cases recorded
  · split at recorded
    · cases recorded
    · split at recorded
      · cases recorded
      · split at recorded
        · cases recorded
        · rename_i request requested
          have numbered := beginRequest_ok requested
          split at recorded
          · cases recorded
          · split at recorded
            · cases recorded
              exact ⟨numbered.1, numbered.2.1⟩
            · cases recorded
              exact ⟨numbered.1, numbered.2.1⟩

theorem retryTurn_retries {record : Option (AttemptRecord Store)} (valid : limits.isValid = true)
    (retries : retryTurn ops limits sha256 invocation state turn = (record, .retry next)) :
    next.Fits limits invocation ∧ next.attemptNo = state.attemptNo + 1 ∧
      ∃ finished, record = some finished ∧ finished.FinishedUnprocessed ∧
        next.retryOf = some finished.begun.attempt.modelInvocationId := by
  obtain ⟨request, begun, report, requested, ran, recorded, settled⟩ :=
    retryTurn_retry ops limits sha256 invocation retries
  obtain ⟨unprocessed, retryOf, owned⟩ := settled_unprocessed requested ran settled
  obtain ⟨_, _, _, _, _, _, failed⟩ := settleAttempt_retry limits invocation settled
  obtain ⟨_, _, uncapped, numbered, _, _⟩ := settleFailure_retry limits invocation failed
  refine ⟨⟨by omega, ?_, owned⟩, numbered, _, recorded, unprocessed, retryOf⟩
  have bounds := ModelGatewayLimits.isValid_bounds valid
  simp only [capReached, Bool.or_eq_false_iff, decide_eq_false_iff_not, Nat.not_le] at uncapped
  simp only [saturatingAdd32, u32Max] at uncapped
  simp only [attemptCap]
  omega

variable (ops sha256) in
theorem retryLoop_attempts (valid : limits.isValid = true) (turns : Nat → RetryTurn)
    (state : RetryState Store) (fits : state.Fits limits invocation) :
    ChainedAttempts state.attemptNo state.retryOf
        (retryLoop ops limits sha256 invocation turns state).attempts ∧
      (retryLoop ops limits sha256 invocation turns state).attempts.length + state.attemptNo ≤
        attemptCap limits invocation + 1 ∧
      (retryLoop ops limits sha256 invocation turns state).result ≠ .error .invalidInvocation := by
  fun_induction retryLoop ops limits sha256 invocation turns state with
  | case1 state record store result ended =>
    have capped := fits.capped
    have returned : result ≠ .error .invalidInvocation := by
      intro invalid
      subst invalid
      exact retryTurn_not_invalid fits valid (congrArg Prod.snd ended)
    cases record with
    | none => exact ⟨trivial, by simpa using Nat.le_succ_of_le capped, returned⟩
    | some begun =>
      obtain ⟨numbered, retryOf⟩ := retryTurn_record (congrArg Prod.fst ended)
      refine ⟨⟨numbered, retryOf, fun more => absurd rfl more, trivial⟩, ?_, returned⟩
      simp only [Option.toList_some, List.length_singleton]
      omega
  | case2 state record next ended below report ih =>
    obtain ⟨nextFits, nextNo, finished, recorded, unprocessed, nextRetryOf⟩ :=
      retryTurn_retries valid ended
    obtain ⟨chained, count, returned⟩ := ih nextFits
    subst recorded
    obtain ⟨numbered, retryOf⟩ := retryTurn_record (congrArg Prod.fst ended)
    rw [nextNo, nextRetryOf] at chained
    refine ⟨⟨numbered, retryOf, fun _ => unprocessed, chained⟩, ?_, returned⟩
    simp only [Option.toList_some, List.singleton_append, List.length_cons, report]
    omega

variable {attempts : List (AttemptRecord Store)} {provider : ProviderDescription}

theorem ChainedAttempts.numbered :
    ∀ {first : Nat} {retryOf : Option ModelInvocationId}, ChainedAttempts first retryOf attempts →
      ∀ {index : Nat} {record : AttemptRecord Store}, attempts[index]? = some record →
        record.begun.attempt.attemptNo.value = first + index := by
  induction attempts with
  | nil =>
    intro _ _ _ _ _ found
    simp at found
  | cons head later ih =>
    intro first retryOf chained index record found
    obtain ⟨numbered, _, _, rest⟩ := chained
    cases index with
    | zero =>
      simp only [List.getElem?_cons_zero, Option.some.injEq] at found
      rw [← found, numbered, Nat.add_zero]
    | succ index =>
      have position := ih rest (List.getElem?_cons_succ ▸ found)
      omega

theorem ChainedAttempts.linked :
    ∀ {first : Nat} {retryOf : Option ModelInvocationId}, ChainedAttempts first retryOf attempts →
      ∀ {index : Nat} {earlier later : AttemptRecord Store}, attempts[index]? = some earlier →
        attempts[index + 1]? = some later →
        later.begun.attempt.retryOf = some earlier.begun.attempt.modelInvocationId := by
  induction attempts with
  | nil =>
    intro _ _ _ _ _ _ found
    simp at found
  | cons head rest ih =>
    intro first retryOf chained index earlier later found next
    obtain ⟨_, _, _, restChained⟩ := chained
    cases index with
    | zero =>
      simp only [List.getElem?_cons_zero, Option.some.injEq] at found
      cases rest with
      | nil => simp at next
      | cons second others =>
        simp only [Nat.zero_add, List.getElem?_cons_succ, List.getElem?_cons_zero,
          Option.some.injEq] at next
        rw [← next, ← found]
        exact restChained.2.1
    | succ index =>
      simp only [List.getElem?_cons_succ] at found next
      exact ih restChained found next

theorem ChainedAttempts.unprocessed :
    ∀ {first : Nat} {retryOf : Option ModelInvocationId}, ChainedAttempts first retryOf attempts →
      ∀ {index : Nat} {record : AttemptRecord Store}, attempts[index]? = some record →
        index + 1 < attempts.length → record.FinishedUnprocessed := by
  induction attempts with
  | nil =>
    intro _ _ _ _ _ found
    simp at found
  | cons head rest ih =>
    intro first retryOf chained index record found more
    obtain ⟨_, _, finished, restChained⟩ := chained
    cases index with
    | zero =>
      simp only [List.getElem?_cons_zero, Option.some.injEq] at found
      rw [← found]
      apply finished
      intro empty
      simp [empty] at more
    | succ index =>
      simp only [List.getElem?_cons_succ, List.length_cons] at found more
      exact ih restChained found (by omega)

theorem validateInvocation_ok (validated : validateInvocation limits invocation provider = .ok ()) :
    invocation.work.runtimeOwner.isSome = true ∧
      invocation.workAttemptsBeforeInvocation < limits.maximumAttemptsPerWork := by
  unfold validateInvocation at validated
  obtain ⟨capabilities, _, accepted⟩ := bind_eq_ok.mp validated
  simp only [refuseIf_eq_ok, Bool.or_eq_false_iff, decide_eq_false_iff_not, Nat.not_le] at accepted
  refine ⟨?_, accepted.2⟩
  simpa using accepted.1.1.1.1.1.1.2

theorem initialRetryState_fits (valid : limits.isValid = true)
    (validated : validateInvocation limits invocation provider = .ok ()) (store : Store) :
    (initialRetryState invocation store).Fits limits invocation := by
  obtain ⟨owned, below⟩ := validateInvocation_ok validated
  have bounds := ModelGatewayLimits.isValid_bounds valid
  refine ⟨Nat.one_pos, ?_, owned⟩
  simp only [initialRetryState, attemptCap]
  omega

end

/-- Whatever the surroundings do, the attempts of one `invoke` stay within both caps and form a
chain, and one that was processed is the last. -/
theorem invoke_attempts_bounded {Store : Type} (ops : GatewayOps Store)
    (limits : ModelGatewayLimits) (valid : limits.isValid = true) (sha256 : Text → Sha256Digest)
    (invocation : GatewayInvocation) (provider : ProviderDescription) (cancelledAtEntry : Bool)
    (turns : Nat → RetryTurn) (store : Store) (report : InvokeReport Store)
    (invoked : report = invoke ops limits sha256 invocation provider cancelledAtEntry turns store) :
    report.attempts.length ≤ min limits.maximumAttemptsPerLogicalInvocation
        (limits.maximumAttemptsPerWork - invocation.workAttemptsBeforeInvocation) ∧
      (∀ (index : Nat) (record : AttemptRecord Store), report.attempts[index]? = some record →
        record.begun.attempt.attemptNo.value = index + 1) ∧
      (∀ record : AttemptRecord Store, report.attempts[0]? = some record →
        record.begun.attempt.retryOf = none) ∧
      (∀ (index : Nat) (earlier later : AttemptRecord Store),
        report.attempts[index]? = some earlier → report.attempts[index + 1]? = some later →
        later.begun.attempt.retryOf = some earlier.begun.attempt.modelInvocationId) ∧
      (∀ (first second : Nat) (earlier later : AttemptRecord Store), first < second →
        report.attempts[first]? = some earlier → report.attempts[second]? = some later →
        earlier.FinishedUnprocessed) ∧
      (report.result = .error .invalidInvocation →
        validateInvocation limits invocation provider = .error .invalidInvocation) := by
  have chain : ChainedAttempts 1 none report.attempts ∧
      report.attempts.length ≤ attemptCap limits invocation ∧
      (report.result = .error .invalidInvocation →
        validateInvocation limits invocation provider = .error .invalidInvocation) := by
    subst invoked
    unfold invoke
    cases validated : validateInvocation limits invocation provider with
    | error failure =>
      refine ⟨trivial, Nat.zero_le _, ?_⟩
      intro invalid
      simpa using invalid
    | ok =>
      dsimp only
      split
      · exact ⟨trivial, Nat.zero_le _, fun invalid => nomatch invalid⟩
      · obtain ⟨chained, count, returned⟩ := retryLoop_attempts ops sha256 valid turns _
          (initialRetryState_fits valid validated store)
        refine ⟨chained, ?_, fun invalid => absurd invalid returned⟩
        simp only [initialRetryState] at count ⊢
        omega
  obtain ⟨chained, count, refused⟩ := chain
  refine ⟨count, ?_, ?_, ?_, ?_, refused⟩
  · intro index record found
    rw [chained.numbered found, Nat.add_comm]
  · intro record found
    cases attempts : report.attempts with
    | nil => simp [attempts] at found
    | cons head later =>
      rw [attempts] at chained found
      simp only [List.getElem?_cons_zero, Option.some.injEq] at found
      rw [← found]
      exact chained.2.1
  · intro index earlier later found next
    exact chained.linked found next
  · intro first second earlier later before found next
    obtain ⟨inside, _⟩ := List.getElem?_eq_some_iff.mp next
    exact chained.unprocessed found (by omega)

/-! A provider that is rate limited at every attempt. -/

def acceptingOps : GatewayOps Unit where
  markModelStreaming := fun _ _ => .ok ()
  finishModelInvocation := fun _ _ => .ok ()
  beginModelInvocation := fun _ _ => .ok ()

def sampleRunning : GatewayInvocation :=
  { sampleInvocation with work := resumedWork sampleWaiting (sampleNumber 4) }

def rateLimitedTurn (attemptId : ModelInvocationId) : RetryTurn where
  cancelledAtStart := false
  nowAtStart := 1
  attemptId
  wallNow := some 1
  startedEvent := ⟨sampleUuid 10⟩
  waitingEvent := ⟨sampleUuid 11⟩
  attempt := { sampleScript .closed with
    opening := .refused (.new .rateLimited .definiteProviderFailure) }
  cancelledAfter := false
  nowAfter := 2
  nowAtBackoff := 2
  jitter := some id
  cancelledAtBackoff := false
  delayCancelled := false
  cancelledAfterDelay := false

def rateLimitedTurns : Nat → RetryTurn
  | 1 => rateLimitedTurn ⟨sampleUuid 1⟩
  | 2 => rateLimitedTurn ⟨sampleUuid 2⟩
  | _ => rateLimitedTurn ⟨sampleUuid 3⟩

def sampleProvider : ProviderDescription :=
  ⟨sampleIdentity.providerId, fun target => some target.reference.capabilities⟩

def rateLimitedReport : InvokeReport Unit :=
  invoke acceptingOps sampleLimits (fun _ => sampleDigest) sampleRunning sampleProvider false
    rateLimitedTurns ()

theorem rate_limited_attempts :
    sampleLimits.isValid = true ∧ rateLimitedReport.attempts.length = 3 ∧
      (∀ (index : Nat) (record : AttemptRecord Unit),
        rateLimitedReport.attempts[index]? = some record →
        record.begun.attempt.attemptNo.value = index + 1) := by
  have bounded := invoke_attempts_bounded acceptingOps sampleLimits (by decide)
    (fun _ => sampleDigest) sampleRunning sampleProvider false rateLimitedTurns () rateLimitedReport
    rfl
  exact ⟨by decide, by decide +kernel, bounded.2.1⟩

end Craxii
