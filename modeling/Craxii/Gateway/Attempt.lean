import Craxii.Gateway.AttemptCore
import Craxii.Store.WorkProjection

/-!
Durable endings of a physical attempt whose stream ends in an error.
-/

namespace Craxii

open Utf8Text ExceptRules KeyedRows

/-! The decisions a finish without cancellation takes. -/

theorem decideNext_eq_ok_iff (work next : WorkLifecycleSnapshot) (request : WorkTransitionRequest) :
    decideNext work request = .ok next ↔
      AcceptedWork work (.forSnapshot work) request next := by
  rw [← stepWork_eq_some_iff]
  unfold decideNext stepWork
  cases decideWorkTransition work (.forSnapshot work) request with
  | error => simp [Except.toOption]
  | ok decision => simp [Except.toOption]

variable {attemptId : ModelInvocationId} {version : ProjectionVersion}
  {work : WorkLifecycleSnapshot}

theorem decideNext_error {request : WorkTransitionRequest}
    (refused : ∀ next, ¬AcceptedWork work (.forSnapshot work) request next) :
    decideNext work request = .error .lifecycle := by
  cases outcome : decideNext work request with
  | ok next => exact absurd ((decideNext_eq_ok_iff work next request).mp outcome) (refused next)
  | error failure =>
    unfold decideNext at outcome
    split at outcome
    · cases outcome
    · cases outcome
      rfl

structure WaitsOnModel (work : WorkLifecycleSnapshot) (attemptId : ModelInvocationId) : Prop where
  state : work.state = .waitingOnModel
  attempt : work.currentAttempt = .model attemptId
  shape : work.shapeOk = true

theorem WaitsOnModel.reasons (waits : WaitsOnModel work attemptId) :
    work.runtimeOwner.isSome = true ∧ work.cancellationReason = none ∧ work.terminalReason = none := by
  have shape := waits.shape
  simp only [WorkLifecycleSnapshot.shapeOk, workShapeOk, waits.state, waits.attempt,
    Bool.and_eq_true, Option.isNone_iff_eq_none] at shape
  exact ⟨shape.1.1.1, shape.1.2, shape.2⟩

theorem WaitsOnModel.resume (waits : WaitsOnModel work attemptId)
    (incremented : work.projectionVersion.checkedIncrement = some version) :
    resumeFromModel work attemptId = .ok (resumedWork work version) := by
  obtain ⟨owned, _, _⟩ := waits.reasons
  refine (decideNext_eq_ok_iff _ _ _).mpr ⟨waits.shape, checkGuard_forSnapshot work, ?_, ?_,
    incremented, ⟨.workResumed, .commitObservedModelTerminal, ?_⟩, ?_, rfl, rfl⟩
  · rw [waits.state]
    rfl
  · rw [waits.state]
    rfl
  · simp [transitionFields, waits.attempt, resumedWork]
  · simp [WorkLifecycleSnapshot.shapeOk, workShapeOk, resumedWork, owned]

theorem WaitsOnModel.interrupt
    (waits : WaitsOnModel work attemptId) (reason : WorkInterruptionReason)
    (incremented : work.projectionVersion.checkedIncrement = some version) :
    decideNext work (.interrupt reason) = .ok (interruptedWork work version reason) := by
  refine (decideNext_eq_ok_iff _ _ _).mpr ⟨waits.shape, checkGuard_forSnapshot work, ?_, ?_,
    incremented, ⟨.workInterrupted, .commitInterruptionEvidence, rfl⟩, rfl, rfl, rfl⟩
  · rw [waits.state]
    rfl
  · rw [waits.state]
    rfl

def failedNext (work : WorkLifecycleSnapshot) (version : ProjectionVersion) (error : ProviderError) :
    WorkLifecycleSnapshot :=
  if error.isAmbiguous then interruptedWork work version .providerOutcomeUnknown
  else resumedWork work version

theorem WaitsOnModel.failed_next (waits : WaitsOnModel work attemptId) (error : ProviderError)
    (incremented : work.projectionVersion.checkedIncrement = some version) :
    failedWorkNext work attemptId error = .ok (failedNext work version error) := by
  unfold failedWorkNext failedNext
  split
  · exact waits.interrupt .providerOutcomeUnknown incremented
  · simp only [waits.state, Bool.and_eq_true, beq_iff_eq, reduceCtorEq, and_false, ↓reduceIte]
    exact waits.resume incremented

theorem WaitsOnModel.failed_next_overflow (waits : WaitsOnModel work attemptId) (error : ProviderError)
    (exhausted : work.projectionVersion.checkedIncrement = none) :
    failedWorkNext work attemptId error = .error .lifecycle := by
  have refused : ∀ request next, ¬AcceptedWork work (.forSnapshot work) request next := by
    intro request next accepted
    have version := accepted.version
    rw [exhausted] at version
    cases version
  unfold failedWorkNext
  split
  · exact decideNext_error (refused _)
  · simp only [waits.state, Bool.and_eq_true, beq_iff_eq, reduceCtorEq, and_false, ↓reduceIte]
    exact decideNext_error (refused _)

/-! What the store makes of the request. -/

def ProviderError.isStorable (error : ProviderError) (semantic : Bool) : Bool :=
  if error.isAmbiguous then error.certainty == .providerOutcomeUnknown
  else error.certainty != .definitelyCompleted || semantic

theorem terminalEvidenceValid_failedOutcome (error : ProviderError) (evidence : FinishEvidence)
    (completedAt : UtcTimestamp) :
    terminalEvidenceValid (failedOutcome error evidence completedAt).state
      (if error.isAmbiguous then .providerOutcomeUnknown else error.kind)
      (failedOutcome error evidence completedAt).providerOutcomeCertainty error.isAmbiguous =
        error.isStorable evidence.semanticOutputObserved := by
  by_cases ambiguous : error.isAmbiguous = true
  · simp [failedOutcome, failedTerminalState, ProviderError.isStorable, terminalEvidenceValid,
      ambiguous]
  · have definite : error.isAmbiguous = false := by simpa using ambiguous
    have known : error.certainty ≠ .providerOutcomeUnknown := by
      intro unknown
      simp [ProviderError.isAmbiguous, unknown] at definite
    by_cases isLocal : error.isLocalCancellation = true
    · have notSent := isLocal
      simp only [ProviderError.isLocalCancellation, Bool.and_eq_true, beq_iff_eq] at notSent
      simp [failedOutcome, failedTerminalState, ProviderError.isStorable, terminalEvidenceValid,
        definite, isLocal, notSent.1, notSent.2]
      cases evidence.semanticOutputObserved <;> rfl
    · simp only [failedOutcome, failedTerminalState, ProviderError.isStorable, definite,
        Bool.false_eq_true, ↓reduceIte, isLocal, terminalEvidenceValid, beq_self_eq_true,
        Bool.true_and, Bool.not_false, Bool.and_true]
      cases evidence.semanticOutputObserved with
      | true => simp
      | false =>
        cases certainty : error.certainty <;> simp_all

structure FinishEvidence.Bounded (evidence : FinishEvidence) : Prop where
  live : evidence.modelState = .requesting ∨ evidence.modelState = .streaming
  requestId : evidence.providerRequestId.all (isBoundedTrimmed · 255) = true
  responseId : evidence.providerResponseId.all (isBoundedTrimmed · 255) = true

theorem storedUsage_isEncodable (usage : ModelUsage) : (storedUsage usage).isEncodable = true := by
  have cached := usage.cachedWithin
  have reasoning := usage.reasoningWithin
  have total := usage.total
  have bounded := usage.bounded
  simp only [StoredModelUsage.isEncodable, storedUsage, List.all_cons, List.all_nil, Bool.and_true,
    Bool.and_eq_true, decide_eq_true_eq, beq_iff_eq]
  refine ⟨⟨⟨decide_eq_true cached, decide_eq_true reasoning⟩, total⟩, ?_⟩
  omega

theorem failedTerminalState_cases (error : ProviderError) :
    failedTerminalState error = .failed ∨ failedTerminalState error = .cancelledLocally ∨
      failedTerminalState error = .providerOutcomeUnknown := by
  unfold failedTerminalState
  split
  · exact Or.inr (Or.inr rfl)
  · split
    · exact Or.inr (Or.inl rfl)
    · exact Or.inl rfl

theorem normalized_certainty (error : ProviderError) :
    error.normalized.certainty = error.certainty.normalized := by
  unfold ProviderError.normalized
  split
  · rfl
  · split <;> rfl

theorem normalizedErrorCertaintyOk_failed (error : ProviderError) (evidence : FinishEvidence)
    (completedAt : UtcTimestamp) :
    normalizedErrorCertaintyOk (failedOutcome error evidence completedAt) = true := by
  by_cases ambiguous : error.isAmbiguous = true
  · simp [normalizedErrorCertaintyOk, failedOutcome, failedTerminalState, ambiguous,
      NormalizedError.provider]
  · have definite : error.certainty.normalized = .definite := by
      cases certainty : error.certainty <;> simp_all [ProviderError.isAmbiguous,
        ProviderOutcomeCertainty.normalized]
    have state : failedTerminalState error ≠ .providerOutcomeUnknown := by
      unfold failedTerminalState
      simp only [ambiguous, Bool.false_eq_true, ↓reduceIte]
      split <;> simp
    simp [normalizedErrorCertaintyOk, failedOutcome, ambiguous, normalized_certainty, definite, state]

section

variable (library : Json.Library) (invocation : GatewayInvocation) (error : ProviderError)
  {work : WorkLifecycleSnapshot} {attemptId : ModelInvocationId} {evidence : FinishEvidence}

def failedRequest (work : WorkLifecycleSnapshot) (attemptId : ModelInvocationId)
    (evidence : FinishEvidence) (version : ProjectionVersion) (cause : JournalEventId)
    (completedAt : UtcTimestamp) (script : FinishScript) : FinishModelInvocationRequest :=
  finishRequest invocation work attemptId evidence.modelState cause
    (failedOutcome error evidence completedAt) [] (failedNext work version error) script

theorem lifecycleTransitionOk_failed (waits : WaitsOnModel work attemptId)
    (bounded : evidence.Bounded) (version : ProjectionVersion) (cause : JournalEventId)
    (completedAt : UtcTimestamp) (script : FinishScript) :
    lifecycleTransitionOk (failedRequest invocation error work attemptId evidence version cause
      completedAt script) = true := by
  have terminal : (failedTerminalState error).isTerminal = true ∧
      isLegalModelPair evidence.modelState (failedTerminalState error) = true := by
    rcases failedTerminalState_cases error with state | state | state <;>
      rcases bounded.live with live | live <;> rw [state, live] <;> exact ⟨rfl, rfl⟩
  have unattached : (failedNext work version error).currentAttempt = .none := by
    unfold failedNext
    split <;> rfl
  simp [lifecycleTransitionOk, failedRequest, finishRequest, WorkExpectation.forSnapshot,
    failedOutcome, waits.state, waits.attempt, terminal.1, terminal.2, unattached]

theorem validateModelTerminal_failed (waits : WaitsOnModel work attemptId)
    (bounded : evidence.Bounded) (version : ProjectionVersion) (cause : JournalEventId)
    (completedAt : UtcTimestamp) (script : FinishScript) :
    validateModelTerminal library (failedRequest invocation error work attemptId evidence version
      cause completedAt script) =
        if error.isStorable evidence.semanticOutputObserved then .ok none
        else .error .internalInvariant := by
  have transition := lifecycleTransitionOk_failed invocation error waits bounded version cause
    completedAt script
  have table := terminalEvidenceValid_failedOutcome error evidence completedAt
  have identifiers : evidenceIdentifiersOk (failedOutcome error evidence completedAt) = true := by
    simp [evidenceIdentifiersOk, failedOutcome, bounded.requestId, bounded.responseId]
  have failedFields : failedEvidenceOk (failedOutcome error evidence completedAt) = true := by
    simp [failedEvidenceOk, failedOutcome, usageStatusFor]
  have usage : (failedOutcome error evidence completedAt).usage.all (·.isEncodable) = true := by
    cases found : evidence.usage with
    | none => simp [failedOutcome, found]
    | some reported => simp [failedOutcome, found, storedUsage_isEncodable]
  have certainty := normalizedErrorCertaintyOk_failed error evidence completedAt
  have outcome : (failedRequest invocation error work attemptId evidence version cause completedAt
      script).outcome = failedOutcome error evidence completedAt := rfl
  have kind : (failedOutcome error evidence completedAt).providerErrorKind =
      some (if error.isAmbiguous then .providerOutcomeUnknown else error.kind) := rfl
  have ambiguity : (failedOutcome error evidence completedAt).billingAmbiguity =
      error.isAmbiguous := rfl
  have stopReason : stopReasonOrToolCountOk (failedOutcome error evidence completedAt) = true := rfl
  have state := failedTerminalState_cases error
  simp only [validateModelTerminal, outcome, transition, identifiers, stopReason, Bool.not_true,
    refuseIf_false, ok_bind]
  cases storable : error.isStorable evidence.semanticOutputObserved with
  | true | false =>
    rw [storable] at table
    rcases state with state | state | state <;>
      simp_all [failedOutcome]

end

/-! The rows of a begun attempt. -/

def ModelRow.isAttempt (attemptId : ModelInvocationId) (row : ModelRow) : Bool :=
  row.modelInvocationId == attemptId

def AttemptStore.workState? (store : AttemptStore) (workId : WorkId) : Option WorkState :=
  (store.works.find? (WorkRow.isWork workId)).map (·.lifecycle.state)

def AttemptStore.modelState? (store : AttemptStore) (attemptId : ModelInvocationId) :
    Option ModelInvocationState :=
  (store.models.find? (ModelRow.isAttempt attemptId)).map (·.state)

/-- The store holds the work as the gateway sees it, and its attempt in the given state. -/
structure HoldsAttempt (store : AttemptStore) (work : WorkLifecycleSnapshot)
    (attemptId : ModelInvocationId) (correlationId : CorrelationId)
    (modelState : ModelInvocationState) : Prop where
  workRow : ∃ row, store.works.find? (WorkRow.isWork work.workId) = some row ∧
    row.lifecycle = work ∧ row.correlationId = correlationId ∧ row.startedAt.isSome = true
  modelRow : ∃ row, store.models.find? (ModelRow.isAttempt attemptId) = some row ∧
    row.workId = work.workId ∧ row.state = modelState ∧
    work.runtimeOwner = some row.runtimeInstanceId

variable {store : AttemptStore} {attemptId : ModelInvocationId} {work : WorkLifecycleSnapshot}

theorem HoldsAttempt.context {correlationId : CorrelationId} {modelState : ModelInvocationState}
    (holds : HoldsAttempt store work attemptId correlationId modelState) :
    ∃ row, loadWorkContext store.works work.workId = .ok row ∧ row.lifecycle = work ∧
      row.correlationId = correlationId ∧ row.startedAt.isSome = true := by
  obtain ⟨row, found, lifecycle, correlation, started⟩ := holds.workRow
  exact ⟨row, loadWorkContext_started found started, lifecycle, correlation, started⟩

theorem WaitsOnModel.failedNext_projects (waits : WaitsOnModel work attemptId)
    {version : ProjectionVersion}
    (incremented : work.projectionVersion.checkedIncrement = some version) (error : ProviderError)
    {startedAt : Option UtcTimestamp} (started : startedAt.isSome = true)
    (completedAt : UtcTimestamp) :
    (failedNext work version error).workId = work.workId ∧
      (failedNext work version error).projectionVersion.value = work.projectionVersion.value + 1 ∧
      isLegalWorkPair work.state (failedNext work version error).state = true ∧
      validTimeShape (failedNext work version error).state
        ⟨startedAt, none, if (failedNext work version error).state.isTerminal then some completedAt
          else none⟩ = true := by
  have raised := PositiveInteger.checkedIncrement_some incremented
  unfold failedNext
  split
  · refine ⟨rfl, raised, ?_, ?_⟩
    · rw [waits.state]
      rfl
    · simp [validTimeShape, interruptedWork, WorkState.isTerminal, started]
  · refine ⟨rfl, raised, ?_, ?_⟩
    · rw [waits.state]
      rfl
    · simp [validTimeShape, resumedWork, WorkState.isTerminal, started]

variable (library : Json.Library)

theorem finishModel_without_output
    {request : FinishModelInvocationRequest} {outputJson : Option Text} {context : WorkRow}
    {row : ModelRow} {expected : WorkLifecycleSnapshot} {works : List WorkRow}
    (validated : validateModelTerminal library request = .ok outputJson)
    (noArtifacts : request.artifacts = []) (noResponse : request.outcome.responseArtifactId = none)
    (noOutput : request.outcome.normalizedOutput = none)
    (loaded : loadWorkContext store.works request.expectedWork.workId = .ok context)
    (found : store.models.find? (·.matchesExpectation request.expectedWork.workId
      request.expectedModel) = some row)
    (owner : request.expectedWork.runtimeOwner = some row.runtimeInstanceId)
    (snapshot : expectedSnapshot request.expectedWork = .ok expected)
    (updated : guardedWorkUpdate store.works expected request.workNext
      ⟨context.startedAt, none, if request.workNext.state.isTerminal then
        some request.outcome.completedAt else none⟩ = .ok works)
    (modelCorrelation : request.modelEvent.correlationId = context.correlationId)
    (workCorrelation : request.workEvent.correlationId = context.correlationId) :
    finishModel library store request = .ok {
      works
      models := store.models.map (ModelRow.finish request outputJson)
      artifacts := store.artifacts } := by
  simp only [finishModel, validated, noArtifacts, noResponse, noOutput, loaded, found, owner,
    snapshot, updated, modelCorrelation, workCorrelation, ok_bind, orRefuse_some]
  simp [indexValidatedArtifacts, requireExactArtifactSet, opaqueReferences, pure, Except.pure]

section

variable (library : Json.Library) (invocation : GatewayInvocation) (error : ProviderError)
  {store : AttemptStore} {work : WorkLifecycleSnapshot} {attemptId : ModelInvocationId}
  {evidence : FinishEvidence}

theorem finishModel_failed (waits : WaitsOnModel work attemptId) (bounded : evidence.Bounded)
    (holds : HoldsAttempt store work attemptId invocation.correlationId evidence.modelState)
    {version : ProjectionVersion}
    (incremented : work.projectionVersion.checkedIncrement = some version) (cause : JournalEventId)
    (completedAt : UtcTimestamp) (script : FinishScript) :
    (error.isStorable evidence.semanticOutputObserved = true →
      ∃ finished, finishModel library store (failedRequest invocation error work attemptId evidence
          version cause completedAt script) = .ok finished ∧
        finished.workState? work.workId = some (failedNext work version error).state ∧
        finished.modelState? attemptId = some (failedTerminalState error)) ∧
    (error.isStorable evidence.semanticOutputObserved = false →
      finishModel library store (failedRequest invocation error work attemptId evidence version cause
        completedAt script) = .error .internalInvariant) := by
  have validated := validateModelTerminal_failed library invocation error waits bounded
    version cause completedAt script
  refine ⟨?_, ?_⟩
  · intro storable
    simp only [storable, ↓reduceIte] at validated
    obtain ⟨workRow, workFound, lifecycle, correlation, started⟩ := holds.workRow
    obtain ⟨context, loaded, _, contextCorrelation, contextStarted⟩ := holds.context
    obtain ⟨modelRow, modelFound, sameWork, state, owner⟩ := holds.modelRow
    have matching : modelRow.matchesExpectation work.workId ⟨attemptId, evidence.modelState⟩ = true := by
      have key := List.find?_some modelFound
      simp only [ModelRow.isAttempt, beq_iff_eq] at key
      simp [ModelRow.matchesExpectation, key, sameWork, state]
    have attemptFound : store.models.find? (fun row =>
        row.matchesExpectation work.workId ⟨attemptId, evidence.modelState⟩) = some modelRow := by
      refine find?_narrow modelFound matching ?_
      intro other others
      simp only [ModelRow.matchesExpectation, Bool.and_eq_true] at others
      exact others.1.1
    obtain ⟨sameNext, raised, legal, timeShape⟩ :=
      waits.failedNext_projects incremented error contextStarted completedAt
    have live : work.state.isTerminal = false := by
      rw [waits.state]
      rfl
    obtain ⟨works, updated, workAfter⟩ :=
      guardedWorkUpdate_current workFound lifecycle sameNext live raised legal timeShape
    have expected := expectedSnapshot_forSnapshot waits.shape waits.reasons.2.2
    refine ⟨{ works, models := store.models.map (ModelRow.finish (failedRequest invocation error work
      attemptId evidence version cause completedAt script) none), artifacts := store.artifacts }, ?_,
      ?_, ?_⟩
    · exact finishModel_without_output library validated rfl rfl rfl loaded attemptFound owner
        expected updated contextCorrelation.symm contextCorrelation.symm
    · simp [AttemptStore.workState?, workAfter]
    · rw [AttemptStore.modelState?, find?_update _ modelFound]
      · simp [ModelRow.finish, failedRequest, finishRequest, WorkExpectation.forSnapshot, matching,
          failedOutcome]
      · intro other
        unfold ModelRow.finish
        split <;> rfl
  · intro unstorable
    simp only [unstorable, Bool.false_eq_true, ↓reduceIte] at validated
    simp only [finishModel, validated, error_bind]

end

/-! What the stream loop keeps. -/

def ModelRow.markStreaming (expected : ModelExpectation) (row : ModelRow) : ModelRow :=
  if row.modelInvocationId == expected.modelInvocationId && row.state == expected.state then
    { row with state := .streaming }
  else row

def finishRefusingOps : AttemptOps AttemptStore where
  markModelStreaming := fun store request =>
    .ok { store with models := store.models.map (ModelRow.markStreaming request.expectedModel) }
  finishModelInvocation := finishModel library

theorem HoldsAttempt.markStreaming {store : AttemptStore} {work : WorkLifecycleSnapshot}
    {attemptId : ModelInvocationId} {correlationId : CorrelationId}
    (holds : HoldsAttempt store work attemptId correlationId .requesting) :
    HoldsAttempt { store with
      models := store.models.map (ModelRow.markStreaming ⟨attemptId, .requesting⟩) }
      work attemptId correlationId .streaming := by
  obtain ⟨row, found, sameWork, state, owner⟩ := holds.modelRow
  have key := List.find?_some found
  simp only [ModelRow.isAttempt, beq_iff_eq] at key
  refine ⟨holds.workRow, ModelRow.markStreaming ⟨attemptId, .requesting⟩ row, ?_, ?_, ?_, ?_⟩
  · refine find?_update _ found ?_
    intro other
    simp only [ModelRow.markStreaming]
    split <;> rfl
  · simpa [ModelRow.markStreaming, key, state] using sameWork
  · simp [ModelRow.markStreaming, key, state]
  · simpa [ModelRow.markStreaming, key, state] using owner

theorem evidenceId_bounded (id : Option ProviderEvidenceId) :
    (id.map (·.text)).all (isBoundedTrimmed · 255) = true := by
  cases id with
  | none => rfl
  | some id =>
    exact isBoundedTrimmed_mono (by decide) (isBoundedTrimmed_of_isIdentifier id.accepted)

def CanonicalStreamAccumulator.Identified (accumulator : CanonicalStreamAccumulator) : Prop :=
  accumulator.providerRequestId.all (isBoundedTrimmed · 255) = true ∧
    accumulator.providerResponseId.all (isBoundedTrimmed · 255) = true

variable {accumulator : CanonicalStreamAccumulator}

variable (outcome : FinalOutcome) (limits : ModelGatewayLimits)

theorem enforce_identified (identified : accumulator.Identified) (event : ModelStreamEvent) :
    (accumulator.enforceConfiguredContentLimits limits event).1.Identified := by
  unfold CanonicalStreamAccumulator.enforceConfiguredContentLimits
  split
  · exact identified
  · cases event <;> exact identified

theorem record_identified (identified : accumulator.Identified) (event : ModelStreamEvent) :
    (accumulator.record event).Identified := by
  cases event with
  | responseStarted target requestId responseId =>
    exact ⟨evidenceId_bounded requestId, evidenceId_bounded responseId⟩
  | _ => exact identified

theorem observe_identified (identified : accumulator.Identified) (event : ModelStreamEvent) :
    (accumulator.observe limits event).1.Identified := by
  have limited := enforce_identified limits identified event
  unfold CanonicalStreamAccumulator.observe
  split
  · exact identified
  · split
    · rename_i found
      rw [found] at limited
      exact limited
    · rename_i found
      rw [found] at limited
      dsimp only
      split <;> exact record_identified limited event

structure Tracks (invocation : GatewayInvocation) (attemptId : ModelInvocationId)
    (progress : StreamProgress AttemptStore) : Prop where
  holds : HoldsAttempt progress.store invocation.work attemptId invocation.correlationId
    progress.modelState
  live : progress.modelState = .requesting ∨ progress.modelState = .streaming
  unstarted : progress.firstByteAt = none → progress.modelState = .requesting
  identified : progress.accumulator.Identified

section

variable (library : Json.Library) (limits : ModelGatewayLimits) {invocation : GatewayInvocation}
  {attemptId : ModelInvocationId} (streamingEvent : JournalEventId)

theorem noteFirstByte_tracks {progress : StreamProgress AttemptStore}
    (tracks : Tracks invocation attemptId progress) (event : ModelStreamEvent)
    (observedAt : UtcTimestamp) :
    ∃ marked, noteFirstByte (finishRefusingOps library) invocation attemptId streamingEvent event
        observedAt progress = .ok marked ∧ Tracks invocation attemptId marked ∧
      marked.accumulator = progress.accumulator := by
  unfold noteFirstByte
  cases unstarted : progress.firstByteAt with
  | some => exact ⟨progress, rfl, tracks, rfl⟩
  | none =>
    have requesting := tracks.unstarted unstarted
    have holds := tracks.holds
    rw [requesting] at holds
    refine ⟨_, rfl, ⟨holds.markStreaming, Or.inr rfl, ?_, tracks.identified⟩, rfl⟩
    intro missing
    cases missing

omit library in
theorem closeStream_ne_infrastructure (deadline : Nat) (final : FinalTurn) (rest : List EventTurn)
    (accumulator : CanonicalStreamAccumulator) (failure : ModelGatewayError) :
    closeStream limits deadline final rest accumulator ≠ .infrastructure failure := by
  unfold closeStream
  split
  · simp
  · simp
  · simp
  · split <;> simp

theorem streamLoop_tracks (deadline : Nat) (final : FinalTurn) (turns : List EventTurn) :
    ∀ progress : StreamProgress AttemptStore, Tracks invocation attemptId progress →
      (∀ turn ∈ turns, turn.wallNow.isSome = true) →
      Tracks invocation attemptId (streamLoop (finishRefusingOps library) limits invocation attemptId
        streamingEvent deadline final turns progress).1 ∧
      ∀ failure, (streamLoop (finishRefusingOps library) limits invocation attemptId streamingEvent
        deadline final turns progress).2 ≠ .infrastructure failure := by
  induction turns with
  | nil =>
    intro progress tracks _
    unfold streamLoop
    split
    · exact ⟨tracks, by simp⟩
    · split <;> exact ⟨tracks, by simp⟩
  | cons turn rest ih =>
    intro progress tracks clocks
    obtain ⟨observedAt, wallNow⟩ := Option.isSome_iff_exists.mp (clocks turn (by simp))
    have delivered : Tracks invocation attemptId (progress.deliver turn) :=
      ⟨tracks.holds, tracks.live, tracks.unstarted, tracks.identified⟩
    obtain ⟨marked, noted, markedTracks, _⟩ :=
      noteFirstByte_tracks library streamingEvent delivered turn.event observedAt
    have observed := observe_identified limits markedTracks.identified turn.event
    have next : ∀ accumulator firstOutputAt delivered, accumulator.Identified →
        Tracks invocation attemptId { noteOutput turn observedAt marked with
          accumulator, firstOutputAt, delivered } :=
      fun _ _ _ identified => ⟨markedTracks.holds, markedTracks.live, markedTracks.unstarted, identified⟩
    unfold streamLoop
    simp only [wallNow, noted]
    split
    · exact ⟨tracks, by simp⟩
    · split
      · rename_i accumulator kind outcome
        have identified : accumulator.Identified := by
          rw [show accumulator = _ from congrArg Prod.fst outcome.symm]
          exact observed
        exact ⟨next accumulator _ _ identified, by simp⟩
      · rename_i accumulator outcome
        have identified : accumulator.Identified := by
          rw [show accumulator = _ from congrArg Prod.fst outcome.symm]
          exact observed
        split
        · refine ⟨next accumulator _ _ identified, ?_⟩
          exact closeStream_ne_infrastructure limits deadline final rest accumulator
        · exact ih _ (next accumulator _ _ identified) (fun turn found => clocks turn (by simp [found]))

end

/-! The attempt as a whole. -/

/-- The error an attempt ends with and whether semantic output was observed by then;
`none` when its stream completed. -/
def attemptFailure {Store : Type} (ops : AttemptOps Store) (limits : ModelGatewayLimits)
    (invocation : GatewayInvocation) (attemptId : ModelInvocationId) (startedEvent : JournalEventId)
    (script : AttemptScript) (store : Store) : Option (ProviderError × Bool) :=
  let deadline := effectiveDeadline invocation (script.startedMono + limits.providerInvocationLimit)
  if deadline ≤ script.nowBeforeOpen then some (.new .timeoutBeforeOutput .definitelyNotSent, false)
  else if script.cancelledBeforeOpen then some (.new .cancelled .definitelyNotSent, false)
  else match script.opening with
    | .cancelled => some (.new .cancelled .providerOutcomeUnknown, false)
    | .timedOut => some (.new .timeoutBeforeOutput .providerOutcomeUnknown, false)
    | .refused error => some (error, false)
    | .opened stream =>
      match streamLoop ops limits invocation attemptId script.streamingEvent deadline stream.final
          stream.turns (openedProgress store startedEvent) with
      | (progress, .failed error) => some (error, progress.semantic)
      | _ => none

structure AttemptScript.Uncancelled (script : AttemptScript) : Prop where
  beforeOpen : script.cancelledBeforeOpen = false
  opening : script.opening ≠ .cancelled
  polls : ∀ stream, script.opening = .opened stream → stream.final.outcome ≠ .cancelled
  finish : script.finish.cancelled = false

structure AttemptScript.ClockWorks (script : AttemptScript) (limits : ModelGatewayLimits) : Prop where
  deadline : script.startedMono + limits.providerInvocationLimit ≤ durationMax
  events : ∀ stream, script.opening = .opened stream →
    ∀ turn ∈ stream.turns, turn.wallNow.isSome = true
  finish : script.finish.wallNow.isSome = true

/-- The attempt ended durably: its finish was accepted, its row is in a failed terminal
state and the work runs again or was interrupted. -/
structure EndedDurably (report : FinishReport AttemptStore) (workId : WorkId)
    (attemptId : ModelInvocationId) : Prop where
  noInfrastructure : ∀ failure, report.result ≠ .infrastructure failure
  accepted : report.accepted.isSome = true
  attempt : report.store.modelState? attemptId = some .failed ∨
    report.store.modelState? attemptId = some .cancelledLocally ∨
    report.store.modelState? attemptId = some .providerOutcomeUnknown
  work : report.store.workState? workId = some .running ∨
    report.store.workState? workId = some .interrupted

theorem not_endedDurably_of_infrastructure {report : FinishReport AttemptStore} {workId : WorkId}
    {attemptId : ModelInvocationId} {failure : ModelGatewayError}
    (failed : report.result = .infrastructure failure) : ¬EndedDurably report workId attemptId :=
  fun durable => durable.noInfrastructure failure failed

section

variable (library : Json.Library) (invocation : GatewayInvocation) (error : ProviderError)
  {store : AttemptStore} {attemptId : ModelInvocationId} {evidence : FinishEvidence}

theorem finishFailedAttempt_durable_iff (waits : WaitsOnModel invocation.work attemptId)
    (bounded : evidence.Bounded)
    (holds : HoldsAttempt store invocation.work attemptId invocation.correlationId
      evidence.modelState)
    (attemptNo : Nat) {script : FinishScript} (quiet : script.cancelled = false)
    (clock : script.wallNow.isSome = true) :
    EndedDurably (finishFailedAttempt (finishRefusingOps library) invocation attemptId attemptNo
        error evidence script store) invocation.work.workId attemptId ↔
      error.isStorable evidence.semanticOutputObserved = true ∧
        invocation.work.projectionVersion.value < i64Max := by
  obtain ⟨completedAt, wallNow⟩ := Option.isSome_iff_exists.mp clock
  have basis : finishBasis invocation.work attemptId evidence.cause script =
      (invocation.work, evidence.cause) := by
    simp [finishBasis, quiet]
  rw [← PositiveInteger.checkedIncrement_isSome_iff]
  cases incremented : invocation.work.projectionVersion.checkedIncrement with
  | none =>
    have next := waits.failed_next_overflow error incremented
    simp only [finishFailedAttempt, basis, wallNow, next]
    exact iff_of_false (not_endedDurably_of_infrastructure rfl) (by simp)
  | some version =>
    have next := waits.failed_next error incremented
    obtain ⟨whenStorable, whenNot⟩ := finishModel_failed library invocation error waits bounded holds
      incremented evidence.cause completedAt script
    simp only [failedRequest] at whenStorable whenNot
    cases storable : error.isStorable evidence.semanticOutputObserved with
    | false =>
      simp only [finishFailedAttempt, basis, wallNow, next, finishRefusingOps, whenNot storable]
      exact iff_of_false (not_endedDurably_of_infrastructure rfl) (by simp)
    | true =>
      obtain ⟨finished, accepted, workState, modelState⟩ := whenStorable storable
      simp only [finishFailedAttempt, basis, wallNow, next, finishRefusingOps, accepted]
      refine iff_of_true ⟨?_, rfl, ?_, ?_⟩ (by simp)
      · intro failure
        split <;> simp
      · rw [modelState]
        rcases failedTerminalState_cases error with state | state | state <;> simp [state]
      · rw [workState]
        unfold failedNext
        split
        · exact Or.inr rfl
        · exact Or.inl rfl

end

theorem unopenedEvidence_bounded (waitingEvent : JournalEventId) :
    (unopenedEvidence waitingEvent).Bounded :=
  ⟨Or.inl rfl, rfl, rfl⟩

theorem FinishEvidence.Bounded.withRequestId {evidence : FinishEvidence} (bounded : evidence.Bounded)
    (error : ProviderError) :
    FinishEvidence.Bounded { evidence with
      providerRequestId :=
        evidence.providerRequestId.orElse fun _ => error.providerRequestId.map (·.text) } := by
  refine ⟨bounded.live, ?_, bounded.responseId⟩
  cases found : evidence.providerRequestId with
  | none => exact evidenceId_bounded error.providerRequestId
  | some id =>
    have own := bounded.requestId
    rw [found] at own
    exact own

theorem Tracks.bounded {invocation : GatewayInvocation} {attemptId : ModelInvocationId}
    {progress : StreamProgress AttemptStore} (tracks : Tracks invocation attemptId progress) :
    progress.evidence.Bounded :=
  ⟨tracks.live, tracks.identified.1, tracks.identified.2⟩

theorem limits_idle {limits : ModelGatewayLimits} (valid : limits.isValid = true) :
    ¬(limits.streamIdleLimit = 0 ∨ defaultProviderIdleTimeout < limits.streamIdleLimit) := by
  simp only [ModelGatewayLimits.isValid, Bool.and_eq_true, bne_iff_ne, decide_eq_true_eq] at valid
  omega

/-- An attempt whose stream ends in an error ends durably exactly when the store's table has that
error and a version is left for the work. -/
theorem runPhysicalAttempt_error_durable_iff {limits : ModelGatewayLimits}
    (valid : limits.isValid = true) (sha256 : Text → Sha256Digest) (invocation : GatewayInvocation)
    (attemptNo : Nat) {attemptId : ModelInvocationId} (startedEvent waitingEvent : JournalEventId)
    {script : AttemptScript} {store : AttemptStore} (waits : WaitsOnModel invocation.work attemptId)
    (holds : HoldsAttempt store invocation.work attemptId invocation.correlationId .requesting)
    (uncancelled : script.Uncancelled) (clock : script.ClockWorks limits) {error : ProviderError}
    {semantic : Bool}
    (ends : attemptFailure (finishRefusingOps library) limits invocation attemptId startedEvent
      script store = some (error, semantic)) :
    EndedDurably (runPhysicalAttempt (finishRefusingOps library) limits sha256 invocation attemptNo
        attemptId startedEvent waitingEvent script store).toFinishReport invocation.work.workId attemptId ↔
      error.isStorable semantic = true ∧ invocation.work.projectionVersion.value < i64Max := by
  have withinRange : ¬durationMax < script.startedMono + limits.providerInvocationLimit :=
    Nat.not_lt.mpr clock.deadline
  have unopened := unopenedEvidence_bounded waitingEvent
  simp only [attemptFailure, uncancelled.beforeOpen] at ends
  simp only [runPhysicalAttempt, withinRange, limits_idle valid, ↓reduceIte,
    uncancelled.beforeOpen]
  split at ends
  · rename_i expired
    simp only [Option.some.injEq, Prod.mk.injEq] at ends
    obtain ⟨rfl, rfl⟩ := ends
    simp only [expired, ↓reduceIte]
    exact finishFailedAttempt_durable_iff library invocation _ waits unopened holds attemptNo
      uncancelled.finish clock.finish
  · rename_i notExpired
    simp only [notExpired, Bool.false_eq_true, ↓reduceIte] at ends ⊢
    cases opening : script.opening with
    | cancelled => exact absurd opening uncancelled.opening
    | timedOut =>
      simp only [opening, Option.some.injEq, Prod.mk.injEq] at ends
      obtain ⟨rfl, rfl⟩ := ends
      exact finishFailedAttempt_durable_iff library invocation _ waits unopened holds attemptNo
        uncancelled.finish clock.finish
    | refused refusal =>
      simp only [opening, Option.some.injEq, Prod.mk.injEq] at ends
      obtain ⟨rfl, rfl⟩ := ends
      exact finishFailedAttempt_durable_iff library invocation _ waits
        (unopened.withRequestId refusal) holds attemptNo uncancelled.finish clock.finish
    | opened stream =>
      simp only [opening] at ends ⊢
      obtain ⟨tracks, _⟩ := streamLoop_tracks library limits script.streamingEvent
        (effectiveDeadline invocation (script.startedMono + limits.providerInvocationLimit))
        stream.final stream.turns (openedProgress store startedEvent)
        (⟨holds, Or.inl rfl, fun _ => rfl, rfl, rfl⟩ : Tracks invocation attemptId _)
        (clock.events stream opening)
      split at ends
      · rename_i progress failure looped
        simp only [Option.some.injEq, Prod.mk.injEq] at ends
        obtain ⟨rfl, rfl⟩ := ends
        rw [looped] at tracks ⊢
        exact finishFailedAttempt_durable_iff library invocation _ waits
          (tracks.bounded.withRequestId failure) tracks.holds attemptNo uncancelled.finish
          clock.finish
      · cases ends

/-! A begun attempt, streamed up to its first text. -/

def sampleIdentity : ModelTargetIdentity :=
  ⟨⟨"primary".toList, by decide⟩, ⟨"openai".toList, by decide⟩, ⟨"model".toList, by decide⟩, .one⟩

def sampleTarget : ModelTarget where
  reference := ⟨sampleIdentity, ⟨true, true, true, true, true, true, true, 128000, 16384⟩⟩
  enabled := true
  endpointReference := "endpoint".toList
  accountReference := "account".toList
  requestedOutputTokens := 8192
  estimatorId := "conservative_v1".toList
  estimatorVersion := 1
  reasoningContinuation := false
  outputWithin := by decide
  continuationCapable := by decide

def sampleAttempt : ModelInvocationId := ⟨sampleUuid 3⟩

def sampleWaiting : WorkLifecycleSnapshot where
  workId := ⟨sampleUuid 0⟩
  state := .waitingOnModel
  projectionVersion := sampleNumber 3
  runtimeOwner := some ⟨sampleUuid 1⟩
  currentAttempt := .model sampleAttempt
  cancellationReason := none
  terminalReason := none

def sampleInvocation : GatewayInvocation where
  craxiiId := ⟨sampleUuid 4⟩
  conversationId := ⟨sampleUuid 5⟩
  work := sampleWaiting
  logicalInvocationId := ⟨sampleUuid 6⟩
  contextManifestId := ⟨sampleUuid 7⟩
  requestTarget := sampleTarget
  packageSelection := ⟨sampleTarget, .explicit⟩
  selection := ⟨sampleTarget, .explicit⟩
  agentStep := .one
  correlationId := ⟨sampleUuid 8⟩
  causationEventId := ⟨sampleUuid 9⟩
  workDeadline := 1000000000000
  shutdownDeadline := none
  workAttemptsBeforeInvocation := 0

def sampleStore : AttemptStore where
  works := [⟨sampleWaiting, ⟨sampleUuid 4⟩, ⟨sampleUuid 5⟩, ⟨sampleUuid 8⟩, some 1⟩]
  models := [⟨sampleAttempt, ⟨sampleUuid 6⟩, sampleWaiting.workId, ⟨sampleUuid 1⟩, .one,
    none, .requesting, none, none, none, false⟩]
  artifacts := []

def sampleLimits : ModelGatewayLimits :=
  ⟨3, 32, defaultProviderInvocationLimit, defaultProviderIdleTimeout, 64, 65536⟩

def sampleStream : StreamScript where
  turns := [
    ⟨2, .responseStarted sampleIdentity none none, some 2, false⟩,
    ⟨3, .textDelta 0 ⟨"a".toList, by decide⟩, some 3, false⟩]
  final := ⟨4, outcome⟩

def sampleScript : AttemptScript where
  startedMono := 1
  nowBeforeOpen := 1
  cancelledBeforeOpen := false
  opening := .opened (sampleStream outcome)
  streamingEvent := ⟨sampleUuid 10⟩
  capture := fun _ _ => none
  finish := ⟨false, none, some 5, ⟨sampleUuid 11⟩, ⟨sampleUuid 12⟩⟩
  fallbackFinish := ⟨false, none, some 5, ⟨sampleUuid 11⟩, ⟨sampleUuid 12⟩⟩

def sampleDigest : Sha256Digest := zeroDigest

def sampleReport : FinishReport AttemptStore :=
  (runPhysicalAttempt (finishRefusingOps Json.compactLibrary) sampleLimits (fun _ => sampleDigest)
    sampleInvocation 1 sampleAttempt ⟨sampleUuid 13⟩ ⟨sampleUuid 14⟩ (sampleScript outcome)
    sampleStore).toFinishReport

def droppedAfterOutput : ProviderError :=
  .new .transportAfterPossibleProcessing .semanticOutputObserved

theorem dropped_after_output_not_finished :
    (sampleReport (.failed droppedAfterOutput)).result = .infrastructure .stateStore ∧
      (sampleReport (.failed droppedAfterOutput)).store.modelState? sampleAttempt = some .streaming ∧
      (sampleReport (.failed droppedAfterOutput)).store.workState? sampleWaiting.workId =
        some .waitingOnModel ∧
      ¬EndedDurably (sampleReport (.failed droppedAfterOutput)) sampleWaiting.workId sampleAttempt := by
  have result : (sampleReport (.failed droppedAfterOutput)).result = .infrastructure .stateStore := rfl
  exact ⟨result, by decide, by decide, not_endedDurably_of_infrastructure result⟩

theorem closed_after_output_finished :
    EndedDurably (sampleReport .closed) sampleWaiting.workId sampleAttempt := by
  have waits : WaitsOnModel sampleInvocation.work sampleAttempt := ⟨rfl, rfl, by decide⟩
  have holds : HoldsAttempt sampleStore sampleInvocation.work sampleAttempt
      sampleInvocation.correlationId .requesting :=
    ⟨⟨_, rfl, rfl, rfl, rfl⟩, ⟨_, rfl, rfl, rfl, rfl⟩⟩
  have uncancelled : (sampleScript .closed).Uncancelled :=
    ⟨rfl, by simp [sampleScript], by simp [sampleScript, sampleStream], rfl⟩
  have clock : (sampleScript .closed).ClockWorks sampleLimits :=
    ⟨by decide, by simp [sampleScript, sampleStream], rfl⟩
  have ends : attemptFailure (finishRefusingOps Json.compactLibrary) sampleLimits sampleInvocation
      sampleAttempt ⟨sampleUuid 13⟩ (sampleScript .closed) sampleStore =
        some (.new .malformedResponse .semanticOutputObserved, true) := rfl
  exact (runPhysicalAttempt_error_durable_iff Json.compactLibrary (by decide) (fun _ => sampleDigest)
    sampleInvocation 1 ⟨sampleUuid 13⟩ ⟨sampleUuid 14⟩ waits holds uncancelled clock
    ends).mpr ⟨by decide, by decide⟩

end Craxii
