import Craxii.Gateway.AttemptCore

/-!
Embedding of `ModelGateway::invoke`: the validation and the retry loop around
`run_physical_attempt`.
-/

namespace Craxii

open Utf8Text ExceptRules

def u32Max : Nat := 4294967295

def saturatingAdd32 (first second : Nat) : Nat := min (first + second) u32Max

structure ModelAttemptReference where
  logicalInvocationId : LogicalInvocationId
  modelInvocationId : ModelInvocationId
  workId : WorkId
  runtimeInstanceId : RuntimeInstanceId
  contextManifestId : ContextManifestId
  agentStepNo : AgentStepNo
  attemptNo : AttemptNo
  providerModel : ProviderModelReference
  retryOf : Option ModelInvocationId

structure BeginModelInvocationRequest where
  expectedWork : WorkExpectation
  attempt : ModelAttemptReference
  selectionReason : ModelSelectionReason
  retryEvidence : Option ProviderRetryEvidence
  startedAt : UtcTimestamp
  workNext : WorkLifecycleSnapshot
  (invocationEvent workEvent : EventIntent)

structure GatewayOps (Store : Type) extends AttemptOps Store where
  beginModelInvocation : Store → BeginModelInvocationRequest → Except StoreRefusal Store

structure ProviderDescription where
  providerId : ProviderId
  capabilities : ModelTarget → Option ModelCapabilitySnapshot

inductive DurableModelOutcome
  | completed (response : ModelResponse) (attempt : DurableModelAttempt)
  | interrupted (errorKind : ProviderErrorKind) (attempt : DurableModelAttempt)
  | failed (errorKind : ProviderErrorKind) (semanticOutputObserved retriesExhausted : Bool)
      (attempt : DurableModelAttempt)
  | cancelledBeforeAttempt (work : WorkLifecycleSnapshot)
  | deadlineBeforeAttempt (work : WorkLifecycleSnapshot)

structure RetryTurn where
  cancelledAtStart : Bool
  nowAtStart : Nat
  attemptId : ModelInvocationId
  wallNow : Option UtcTimestamp
  (startedEvent waitingEvent : JournalEventId)
  attempt : AttemptScript
  cancelledAfter : Bool
  (nowAfter nowAtBackoff : Nat)
  jitter : Option (Nat → Nat)
  (cancelledAtBackoff delayCancelled cancelledAfterDelay : Bool)

structure RetryState (Store : Type) where
  store : Store
  work : WorkLifecycleSnapshot
  attemptNo : Nat
  retryOf : Option ModelInvocationId
  retryEvidence : Option ProviderRetryEvidence
  precedingEvent : JournalEventId

structure AttemptRecord (Store : Type) where
  begun : BeginModelInvocationRequest
  report : Option (AttemptReport Store)

inductive TurnEnd (Store : Type)
  | returned (store : Store) (result : Except ModelGatewayError DurableModelOutcome)
  | retry (next : RetryState Store)

structure InvokeReport (Store : Type) where
  store : Store
  result : Except ModelGatewayError DurableModelOutcome
  attempts : List (AttemptRecord Store)

section

variable {Store : Type} (ops : GatewayOps Store) (limits : ModelGatewayLimits)
  (sha256 : Text → Sha256Digest) (invocation : GatewayInvocation)

def validateInvocation (provider : ProviderDescription) : Except ModelGatewayError Unit := do
  let target := invocation.selection.selectedTarget
  let capabilities ← orRefuse (provider.capabilities target) .invalidInvocation
  refuseIf
    (invocation.work.state != .running || invocation.work.runtimeOwner.isNone ||
      invocation.work.currentAttempt != .none || invocation.requestTarget != target ||
      invocation.packageSelection != invocation.selection ||
      provider.providerId != target.reference.identity.providerId ||
      capabilities != target.reference.capabilities ||
      decide (limits.maximumAttemptsPerWork ≤ invocation.workAttemptsBeforeInvocation))
    .invalidInvocation

def beginRequest (state : RetryState Store) (turn : RetryTurn) :
    Except ModelGatewayError BeginModelInvocationRequest := do
  let startedAt ← orRefuse turn.wallNow .clock
  let owner ← orRefuse state.work.runtimeOwner .invalidInvocation
  let waiting ← decideNext state.work (.waitForModel turn.attemptId)
  let attemptNo ← orRefuse (PositiveInteger.tryNew state.attemptNo) .invalidInvocation
  return {
    expectedWork := .forSnapshot state.work
    attempt := {
      logicalInvocationId := invocation.logicalInvocationId
      modelInvocationId := turn.attemptId
      workId := state.work.workId
      runtimeInstanceId := owner
      contextManifestId := invocation.contextManifestId
      agentStepNo := invocation.agentStep
      attemptNo
      providerModel := invocation.selection.selectedTarget.reference
      retryOf := state.retryOf }
    selectionReason := invocation.selection.reason
    retryEvidence := state.retryEvidence
    startedAt
    workNext := waiting
    invocationEvent := ⟨turn.startedEvent, invocation.correlationId, some state.precedingEvent⟩
    workEvent := ⟨turn.waitingEvent, invocation.correlationId, some turn.startedEvent⟩ }

def capReached (attemptNo : Nat) : Bool :=
  decide (limits.maximumAttemptsPerLogicalInvocation ≤ attemptNo) ||
    decide (limits.maximumAttemptsPerWork ≤
      saturatingAdd32 invocation.workAttemptsBeforeInvocation attemptNo)

def settleFailure (state : RetryState Store) (turn : RetryTurn) (store : Store)
    (error : ProviderError) (semanticOutputObserved draftExposed : Bool)
    (attempt : DurableModelAttempt) : TurnEnd Store :=
  let decision := classifyProviderRetry error semanticOutputObserved state.attemptNo
    turn.cancelledAfter (decide (invocation.workDeadline ≤ turn.nowAfter))
  let capped := capReached limits invocation state.attemptNo
  let transientBeforeOutput := error.kind.transientBeforeOutput && error.certainty.isUnprocessed &&
    !semanticOutputObserved
  if !decision.retryable || draftExposed || capped then
    .returned store (.ok (.failed error.kind semanticOutputObserved
      (transientBeforeOutput && capped) attempt))
  else match turn.jitter with
    | none => .returned store (.error .invalidComposition)
    | some jitter =>
      let remaining :=
        if turn.nowAtBackoff ≤ invocation.workDeadline then
          some (invocation.workDeadline - turn.nowAtBackoff)
        else none
      match providerBackoff state.attemptNo decision.providerRetryAfter jitter
          turn.cancelledAtBackoff remaining with
      | .delay delay =>
        if delay != 0 && turn.delayCancelled then
          .returned store (.ok
            (if turn.cancelledAfterDelay then .cancelledBeforeAttempt attempt.work
            else .deadlineBeforeAttempt attempt.work))
        else
          -- Below a 32-bit limit, so the saturating increment adds one.
          .retry {
            store
            work := attempt.work
            attemptNo := state.attemptNo + 1
            retryOf := some attempt.modelInvocationId
            retryEvidence := some ⟨decision.reason, delay, decision.providerRetryAfter⟩
            precedingEvent := attempt.terminalWorkEventId }
      | .cancelled | .deadlineInsufficient =>
        .returned store (.ok (.failed error.kind semanticOutputObserved true attempt))

def settleAttempt (state : RetryState Store) (turn : RetryTurn) (report : AttemptReport Store) :
    TurnEnd Store :=
  match report.result with
  | .completed response attempt => .returned report.store (.ok (.completed response attempt))
  | .interrupted errorKind attempt => .returned report.store (.ok (.interrupted errorKind attempt))
  | .infrastructure failure => .returned report.store (.error failure)
  | .failed error semanticOutputObserved draftExposed attempt =>
    if error.isLocalCancellation then
      .returned report.store (.ok (.cancelledBeforeAttempt attempt.work))
    else
      settleFailure limits invocation state turn report.store error semanticOutputObserved
        draftExposed attempt

def retryTurn (state : RetryState Store) (turn : RetryTurn) :
    Option (AttemptRecord Store) × TurnEnd Store :=
  if limits.maximumAttemptsPerWork <
      saturatingAdd32 invocation.workAttemptsBeforeInvocation state.attemptNo then
    (none, .returned state.store (.error .invalidInvocation))
  else if turn.cancelledAtStart then
    (none, .returned state.store (.ok (.cancelledBeforeAttempt state.work)))
  else if invocation.workDeadline ≤ turn.nowAtStart then
    (none, .returned state.store (.ok (.deadlineBeforeAttempt state.work)))
  else match beginRequest invocation state turn with
    | .error failure => (none, .returned state.store (.error failure))
    | .ok request =>
      match ops.beginModelInvocation state.store request with
      | .error _ => (none, .returned state.store (.error .stateStore))
      | .ok begun =>
        match providerAttempt? state.attemptNo with
        | none => (some ⟨request, none⟩, .returned begun (.error .invalidInvocation))
        | some attemptNo =>
          let report := runPhysicalAttempt ops.toAttemptOps limits sha256
            { invocation with work := request.workNext } attemptNo turn.attemptId
            turn.startedEvent turn.waitingEvent turn.attempt begun
          (some ⟨request, some report⟩, settleAttempt limits invocation state turn report)

variable {record : Option (AttemptRecord Store)} {next state : RetryState Store} {turn : RetryTurn}

theorem settleFailure_retry {store : Store}
    {error : ProviderError} {semanticOutputObserved draftExposed : Bool}
    {attempt : DurableModelAttempt}
    (retries : settleFailure limits invocation state turn store error semanticOutputObserved
      draftExposed attempt = .retry next) :
    (∃ deadlinePassed, (classifyProviderRetry error semanticOutputObserved state.attemptNo
        turn.cancelledAfter deadlinePassed).retryable = true) ∧
      draftExposed = false ∧ capReached limits invocation state.attemptNo = false ∧
      next.attemptNo = state.attemptNo + 1 ∧ next.work = attempt.work ∧
      next.retryOf = some attempt.modelInvocationId := by
  unfold settleFailure at retries
  dsimp only at retries
  split at retries
  · cases retries
  · rename_i allowed
    simp only [Bool.or_eq_true, Bool.not_eq_true', not_or, Bool.not_eq_false,
      Bool.not_eq_true] at allowed
    obtain ⟨⟨retryable, unexposed⟩, uncapped⟩ := allowed
    repeat' split at retries
    all_goals cases retries
    exact ⟨⟨_, retryable⟩, unexposed, uncapped, rfl, rfl, rfl⟩

theorem settleAttempt_retry {report : AttemptReport Store}
    (retries : settleAttempt limits invocation state turn report = .retry next) :
    ∃ error semanticOutputObserved draftExposed attempt,
      report.result = .failed error semanticOutputObserved draftExposed attempt ∧
      error.isLocalCancellation = false ∧
      settleFailure limits invocation state turn report.store error semanticOutputObserved
        draftExposed attempt = .retry next := by
  unfold settleAttempt at retries
  split at retries
  · cases retries
  · cases retries
  · cases retries
  · rename_i error semanticOutputObserved draftExposed attempt result
    split at retries
    · cases retries
    · rename_i sent
      exact ⟨error, semanticOutputObserved, draftExposed, attempt, result, by simpa using sent,
        retries⟩

theorem retryTurn_retry
    (retries : retryTurn ops limits sha256 invocation state turn = (record, .retry next)) :
    ∃ request begun report, beginRequest invocation state turn = .ok request ∧
      report = runPhysicalAttempt ops.toAttemptOps limits sha256
        { invocation with work := request.workNext } state.attemptNo turn.attemptId
        turn.startedEvent turn.waitingEvent turn.attempt begun ∧
      record = some ⟨request, some report⟩ ∧
      settleAttempt limits invocation state turn report = .retry next := by
  unfold retryTurn at retries
  split at retries
  · cases retries
  · split at retries
    · cases retries
    · split at retries
      · cases retries
      · split at retries
        · cases retries
        · rename_i request requested
          split at retries
          · cases retries
          · rename_i begun _
            split at retries
            · cases retries
            · rename_i attemptNo numbered
              have same : attemptNo = state.attemptNo := by
                unfold providerAttempt? at numbered
                split at numbered
                · cases numbered
                · cases numbered
                  rfl
              subst same
              simp only [Prod.mk.injEq] at retries
              exact ⟨request, begun, _, requested, rfl, retries.1.symm, retries.2⟩

theorem retryTurn_retry_below
    (retries : retryTurn ops limits sha256 invocation state turn = (record, .retry next)) :
    state.attemptNo < limits.maximumAttemptsPerLogicalInvocation ∧
      next.attemptNo = state.attemptNo + 1 := by
  obtain ⟨_, _, _, _, _, _, settled⟩ := retryTurn_retry ops limits sha256 invocation retries
  obtain ⟨_, _, _, _, _, _, failed⟩ := settleAttempt_retry limits invocation settled
  obtain ⟨_, _, uncapped, numbered, _, _⟩ := settleFailure_retry limits invocation failed
  simp only [capReached, Bool.or_eq_false_iff, decide_eq_false_iff_not, Nat.not_le] at uncapped
  exact ⟨uncapped.1, numbered⟩

def retryLoop (turns : Nat → RetryTurn) (state : RetryState Store) : InvokeReport Store :=
  match ended : retryTurn ops limits sha256 invocation state (turns state.attemptNo) with
  | (record, .returned store result) => ⟨store, result, record.toList⟩
  | (record, .retry next) =>
    have _below := retryTurn_retry_below ops limits sha256 invocation ended
    let report := retryLoop turns next
    { report with attempts := record.toList ++ report.attempts }
termination_by limits.maximumAttemptsPerLogicalInvocation - state.attemptNo
decreasing_by omega

def initialRetryState (store : Store) : RetryState Store where
  store
  work := invocation.work
  attemptNo := 1
  retryOf := none
  retryEvidence := none
  precedingEvent := invocation.causationEventId

def invoke (provider : ProviderDescription) (cancelledAtEntry : Bool) (turns : Nat → RetryTurn)
    (store : Store) : InvokeReport Store :=
  match validateInvocation limits invocation provider with
  | .error failure => ⟨store, .error failure, []⟩
  | .ok _ =>
    if cancelledAtEntry then ⟨store, .ok (.cancelledBeforeAttempt invocation.work), []⟩
    else retryLoop ops limits sha256 invocation turns (initialRetryState invocation store)

end

end Craxii
