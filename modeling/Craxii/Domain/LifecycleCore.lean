import Craxii.Domain.Values
import Craxii.Lib.ExceptRules

/-!
Embedding of the Work and model-invocation state machines of `domain/lifecycle.rs`.
-/

namespace Craxii

open ExceptRules

inductive WorkState
  | queued | running | waitingOnModel | waitingOnTool | cancelRequested | completed | failed
  | cancelled | interrupted
deriving DecidableEq

def WorkState.isTerminal : WorkState → Bool
  | .completed | .failed | .cancelled | .interrupted => true
  | _ => false

def WorkState.isActive : WorkState → Bool
  | .running | .waitingOnModel | .waitingOnTool | .cancelRequested => true
  | _ => false

inductive ModelInvocationState
  | requesting | streaming | completed | failed | cancelledLocally | providerOutcomeUnknown
deriving DecidableEq

def ModelInvocationState.isTerminal : ModelInvocationState → Bool
  | .requesting | .streaming => false
  | _ => true

inductive ToolExecutionState
  | requested | dispatching | completed | interruptedBeforeDispatch | outcomeUnknown
deriving DecidableEq

def ToolExecutionState.isTerminal : ToolExecutionState → Bool
  | .requested | .dispatching => false
  | _ => true

inductive WorkCompletionReason
  | answered
  | refused
deriving DecidableEq

inductive WorkCancellationReason
  | userRequest
  | gracefulShutdown
deriving DecidableEq

inductive WorkInterruptionReason
  | runtimeOwnershipLost | providerOutcomeUnknown | toolInterruptedBeforeDispatch
  | toolOutcomeUnknown | cleanupUnconfirmed
deriving DecidableEq

inductive LifecycleLimit
  | context | modelAttempts | agentLoopSteps | toolCalls | modelOutputItems | toolArgumentBytes
  | modelInvocationTime | totalWorkTime
deriving DecidableEq

inductive ModelOutputFailure
  | incomplete | providerFailed | empty | unknownCorrectnessBearingItem | contradictoryRefusal
deriving DecidableEq

inductive CleanupStatus
  | notRequired | confirmed | unconfirmed
deriving DecidableEq

inductive WorkEventKind
  | workStarted | workWaitingOnModel | workWaitingOnTool | workResumed | workCancelRequested
  | workCompleted | workFailed | workCancelled | workInterrupted
deriving DecidableEq

inductive LifecycleConflictKind
  | staleState | staleVersion | staleOwner | wrongCurrentAttempt | illegalTransition
  | duplicateTerminalDecision | duplicateAttemptIdentity | duplicateAttemptNumber
deriving DecidableEq

inductive LifecycleInvariantKind
  | invalidStateShape | missingRequiredEvidence | versionOverflow | unclassifiableRecovery
  | contradictoryProjection | impossibleTerminalShape
deriving DecidableEq

inductive LifecycleTransitionError
  | conflict (kind : LifecycleConflictKind)
  | invariant (kind : LifecycleInvariantKind)
deriving DecidableEq

inductive CurrentWorkAttempt
  | none
  | model (id : ModelInvocationId)
  | tool (id : ToolExecutionId)
deriving DecidableEq

inductive WorkFailureReason
  | definite (error : NormalizedError)
  | providerExhausted
  | invalidModelOutput (failure : ModelOutputFailure)
  | limit (limit : LifecycleLimit)
deriving DecidableEq

inductive WorkTerminalReason
  | completion (reason : WorkCompletionReason)
  | failure (reason : WorkFailureReason)
  | cancellation (reason : WorkCancellationReason)
  | interruption (reason : WorkInterruptionReason)
deriving DecidableEq

structure WorkLifecycleSnapshot where
  workId : WorkId
  state : WorkState
  projectionVersion : ProjectionVersion
  runtimeOwner : Option RuntimeInstanceId
  currentAttempt : CurrentWorkAttempt
  cancellationReason : Option WorkCancellationReason
  terminalReason : Option WorkTerminalReason
deriving DecidableEq

def WorkLifecycleSnapshot.initial (workId : WorkId) : WorkLifecycleSnapshot where
  workId := workId
  state := .queued
  projectionVersion := .one
  runtimeOwner := none
  currentAttempt := .none
  cancellationReason := none
  terminalReason := none

def workShapeOk (state : WorkState) (owner : Option RuntimeInstanceId) (attempt : CurrentWorkAttempt)
    (cancellationReason : Option WorkCancellationReason)
    (terminalReason : Option WorkTerminalReason) : Bool :=
  match state with
  | .queued => owner.isNone && attempt == .none && cancellationReason.isNone && terminalReason.isNone
  | .running => owner.isSome && attempt == .none && cancellationReason.isNone && terminalReason.isNone
  | .waitingOnModel =>
    owner.isSome && (match attempt with | .model _ => true | _ => false) &&
      cancellationReason.isNone && terminalReason.isNone
  | .waitingOnTool =>
    owner.isSome && (match attempt with | .tool _ => true | _ => false) &&
      cancellationReason.isNone && terminalReason.isNone
  | .cancelRequested => owner.isSome && cancellationReason.isSome && terminalReason.isNone
  | .completed =>
    owner.isNone && attempt == .none && cancellationReason.isNone &&
      (match terminalReason with | some (.completion _) => true | _ => false)
  | .failed =>
    owner.isNone && attempt == .none && cancellationReason.isNone &&
      (match terminalReason with | some (.failure _) => true | _ => false)
  | .cancelled =>
    owner.isNone && attempt == .none && cancellationReason.isNone &&
      (match terminalReason with | some (.cancellation _) => true | _ => false)
  | .interrupted =>
    owner.isNone && attempt == .none && cancellationReason.isNone &&
      (match terminalReason with | some (.interruption _) => true | _ => false)

def validateWorkShape (state : WorkState) (owner : Option RuntimeInstanceId)
    (attempt : CurrentWorkAttempt) (cancellationReason : Option WorkCancellationReason)
    (terminalReason : Option WorkTerminalReason) : Except LifecycleTransitionError Unit :=
  if workShapeOk state owner attempt cancellationReason terminalReason then .ok ()
  else if state.isTerminal then .error (.invariant .impossibleTerminalShape)
  else .error (.invariant .invalidStateShape)

def WorkLifecycleSnapshot.validateShape (snapshot : WorkLifecycleSnapshot) :
    Except LifecycleTransitionError Unit :=
  validateWorkShape snapshot.state snapshot.runtimeOwner snapshot.currentAttempt
    snapshot.cancellationReason snapshot.terminalReason

structure WorkTransitionGuard where
  expectedState : WorkState
  expectedVersion : ProjectionVersion
  expectedOwner : Option RuntimeInstanceId
  expectedCurrentAttempt : CurrentWorkAttempt

def WorkTransitionGuard.forSnapshot (snapshot : WorkLifecycleSnapshot) : WorkTransitionGuard where
  expectedState := snapshot.state
  expectedVersion := snapshot.projectionVersion
  expectedOwner := snapshot.runtimeOwner
  expectedCurrentAttempt := snapshot.currentAttempt

structure WorkCompletionEvidence where
  (assistantMessageInOwningTransaction terminalModelInvocationCompleted cancellationHasNotWon : Bool)

def WorkCompletionEvidence.satisfied : WorkCompletionEvidence := ⟨true, true, true⟩

def WorkCompletionEvidence.isSatisfied (evidence : WorkCompletionEvidence) : Bool :=
  evidence.assistantMessageInOwningTransaction && evidence.terminalModelInvocationCompleted &&
    evidence.cancellationHasNotWon

inductive WorkTransitionRequest
  | start (runtimeOwner : RuntimeInstanceId)
  | waitForModel (modelInvocationId : ModelInvocationId)
  | resumeFromModel (modelInvocationId : ModelInvocationId)
  | waitForTool (toolExecutionId : ToolExecutionId)
  | resumeFromTool (toolExecutionId : ToolExecutionId)
  | requestCancellation (reason : WorkCancellationReason)
  | complete (reason : WorkCompletionReason) (evidence : WorkCompletionEvidence)
  | fail (reason : WorkFailureReason) (cleanupStatus : CleanupStatus)
  | cancel (reason : WorkCancellationReason) (cleanupStatus : CleanupStatus)
  | interrupt (reason : WorkInterruptionReason)

def WorkTransitionRequest.targetState : WorkTransitionRequest → WorkState
  | .start _ | .resumeFromModel _ | .resumeFromTool _ => .running
  | .waitForModel _ => .waitingOnModel
  | .waitForTool _ => .waitingOnTool
  | .requestCancellation _ => .cancelRequested
  | .complete _ _ => .completed
  | .fail _ _ => .failed
  | .cancel _ _ => .cancelled
  | .interrupt _ => .interrupted

def WorkTransitionRequest.isTerminalDecision (request : WorkTransitionRequest) : Bool :=
  request.targetState.isTerminal

inductive WorkRequiredEffect
  | claimRuntimeOwnership | commitModelIntent | commitToolRequestOrDispatchIntent
  | commitObservedModelTerminal | commitObservedToolTerminal | commitCancellationRequest
  | commitFinalAnswer | commitFailureEvidence | commitConfirmedCancellation
  | commitInterruptionEvidence

structure WorkTransitionDecision where
  next : WorkLifecycleSnapshot
  eventKind : WorkEventKind
  requiredEffect : WorkRequiredEffect

variable (current : WorkLifecycleSnapshot)

def checkGuard (guard : WorkTransitionGuard) : Except LifecycleTransitionError Unit :=
  if guard.expectedState ≠ current.state then .error (.conflict .staleState)
  else if guard.expectedVersion ≠ current.projectionVersion then .error (.conflict .staleVersion)
  else if guard.expectedOwner ≠ current.runtimeOwner then .error (.conflict .staleOwner)
  else if guard.expectedCurrentAttempt ≠ current.currentAttempt then
    .error (.conflict .wrongCurrentAttempt)
  else .ok ()

def isLegalWorkPair : WorkState → WorkState → Bool
  | .queued, .running
  | .queued, .cancelled
  | .running, .waitingOnModel
  | .waitingOnModel, .running
  | .waitingOnModel, .failed
  | .running, .waitingOnTool
  | .waitingOnTool, .running
  | .running, .cancelRequested
  | .waitingOnModel, .cancelRequested
  | .waitingOnTool, .cancelRequested
  | .running, .completed
  | .running, .failed
  | .running, .interrupted
  | .waitingOnModel, .interrupted
  | .waitingOnTool, .interrupted
  | .cancelRequested, .cancelled
  | .cancelRequested, .interrupted => true
  | _, _ => false

structure WorkTransitionFields where
  owner : Option RuntimeInstanceId
  attempt : CurrentWorkAttempt
  cancellationReason : Option WorkCancellationReason
  terminalReason : Option WorkTerminalReason
  eventKind : WorkEventKind
  requiredEffect : WorkRequiredEffect

def transitionFields :
    WorkTransitionRequest → Except LifecycleTransitionError WorkTransitionFields
  | .start runtimeOwner =>
    .ok ⟨some runtimeOwner, .none, none, none, .workStarted, .claimRuntimeOwnership⟩
  | .waitForModel modelInvocationId =>
    .ok ⟨current.runtimeOwner, .model modelInvocationId, none, none, .workWaitingOnModel,
      .commitModelIntent⟩
  | .resumeFromModel modelInvocationId =>
    if current.currentAttempt ≠ .model modelInvocationId then
      .error (.conflict .wrongCurrentAttempt)
    else
      .ok ⟨current.runtimeOwner, .none, none, none, .workResumed, .commitObservedModelTerminal⟩
  | .waitForTool toolExecutionId =>
    .ok ⟨current.runtimeOwner, .tool toolExecutionId, none, none, .workWaitingOnTool,
      .commitToolRequestOrDispatchIntent⟩
  | .resumeFromTool toolExecutionId =>
    if current.currentAttempt ≠ .tool toolExecutionId then
      .error (.conflict .wrongCurrentAttempt)
    else
      .ok ⟨current.runtimeOwner, .none, none, none, .workResumed, .commitObservedToolTerminal⟩
  | .requestCancellation reason =>
    .ok ⟨current.runtimeOwner, current.currentAttempt, some reason, none, .workCancelRequested,
      .commitCancellationRequest⟩
  | .complete reason evidence =>
    if !evidence.isSatisfied then .error (.invariant .missingRequiredEvidence)
    else .ok ⟨none, .none, none, some (.completion reason), .workCompleted, .commitFinalAnswer⟩
  | .fail reason cleanupStatus =>
    let uncertain := match reason with
      | .definite error => error.certainty != .definite
      | _ => false
    if cleanupStatus == .unconfirmed || uncertain then .error (.invariant .missingRequiredEvidence)
    else .ok ⟨none, .none, none, some (.failure reason), .workFailed, .commitFailureEvidence⟩
  | .cancel reason cleanupStatus =>
    if cleanupStatus == .unconfirmed ||
        (current.state == .queued && cleanupStatus != .notRequired) ||
        (current.state == .cancelRequested && current.cancellationReason != some reason) then
      .error (.invariant .missingRequiredEvidence)
    else
      .ok ⟨none, .none, none, some (.cancellation reason), .workCancelled,
        .commitConfirmedCancellation⟩
  | .interrupt reason =>
    .ok ⟨none, .none, none, some (.interruption reason), .workInterrupted,
      .commitInterruptionEvidence⟩

def decideWorkTransition (guard : WorkTransitionGuard)
    (request : WorkTransitionRequest) : Except LifecycleTransitionError WorkTransitionDecision := do
  current.validateShape
  checkGuard current guard
  refuseIf current.state.isTerminal
    (.conflict (if request.isTerminalDecision then .duplicateTerminalDecision else .illegalTransition))
  let target := request.targetState
  refuseIf (current.state == target || !isLegalWorkPair current.state target)
    (.conflict .illegalTransition)
  let nextVersion ← orRefuse current.projectionVersion.checkedIncrement (.invariant .versionOverflow)
  let fields ← transitionFields current request
  validateWorkShape target fields.owner fields.attempt fields.cancellationReason
    fields.terminalReason
  return {
    next := {
      workId := current.workId
      state := target
      projectionVersion := nextVersion
      runtimeOwner := fields.owner
      currentAttempt := fields.attempt
      cancellationReason := fields.cancellationReason
      terminalReason := fields.terminalReason
    }
    eventKind := fields.eventKind
    requiredEffect := fields.requiredEffect
  }

def stepWork (input : WorkTransitionGuard × WorkTransitionRequest) : Option WorkLifecycleSnapshot :=
  (decideWorkTransition current input.1 input.2).toOption.map (·.next)

def isLegalModelPair : ModelInvocationState → ModelInvocationState → Bool
  | .requesting, .streaming
  | .requesting, .completed
  | .streaming, .completed
  | .requesting, .failed
  | .streaming, .failed
  | .requesting, .cancelledLocally
  | .streaming, .cancelledLocally
  | .requesting, .providerOutcomeUnknown
  | .streaming, .providerOutcomeUnknown => true
  | _, _ => false

inductive ModelTransitionRequest
  | observeFirstProviderDelta
  | complete (normalizedResponseDurablyObserved : Bool)
  | fail (definiteTerminalFailureObserved : Bool)
  | cancelLocally (localWaitCancellationConfirmed : Bool)
  | markProviderOutcomeUnknown

def ModelTransitionRequest.targetState : ModelTransitionRequest → ModelInvocationState
  | .observeFirstProviderDelta => .streaming
  | .complete _ => .completed
  | .fail _ => .failed
  | .cancelLocally _ => .cancelledLocally
  | .markProviderOutcomeUnknown => .providerOutcomeUnknown

/-- `decide_model_transition` on the state; the reference of the attempt is carried along unchanged. -/
def decideModelTransition (current : ModelInvocationState) (request : ModelTransitionRequest) :
    Except LifecycleTransitionError ModelInvocationState :=
  if current.isTerminal then .error (.conflict .illegalTransition)
  else if current == request.targetState || !isLegalModelPair current request.targetState then
    .error (.conflict .illegalTransition)
  else
    match request with
    | .complete false | .fail false | .cancelLocally false =>
      .error (.invariant .missingRequiredEvidence)
    | _ => .ok request.targetState

end Craxii
