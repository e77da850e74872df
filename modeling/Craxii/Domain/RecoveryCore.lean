import Craxii.Domain.LifecycleCore

/-!
Embedding of the startup recovery classification of `domain/lifecycle.rs`.
-/

namespace Craxii

inductive RecoveryAttempt
  | none
  | model (modelInvocationId : ModelInvocationId) (state : ModelInvocationState)
      (committedResponseConsistent : Bool)
  | tool (toolExecutionId : ToolExecutionId) (state : ToolExecutionState)
      (committedResultConsistent : Bool)
deriving DecidableEq

structure RecoveryInput where
  work : WorkLifecycleSnapshot
  currentRuntimeId : RuntimeInstanceId
  attempt : RecoveryAttempt
  cleanupStatus : CleanupStatus

inductive RecoveryClassification
  | retainQueued | alreadyTerminal | interruptActiveWork
  | markModelProviderOutcomeUnknownAndInterrupt | markToolInterruptedBeforeDispatchAndInterrupt
  | markToolOutcomeUnknownAndInterrupt | reconcileCommittedToolResultWithoutExecution
  | finalizeCancellation
deriving DecidableEq

inductive SyntheticStatusRequirement
  | none | runtimeOwnershipLost | providerOutcomeUnknown | toolInterruptedBeforeDispatch
  | toolOutcomeUnknown | cleanupUnconfirmed
deriving DecidableEq

structure RecoveryDecision where
  classification : RecoveryClassification
  syntheticStatus : SyntheticStatusRequirement
deriving DecidableEq

def RecoveryDecision.emitsRetry (_ : RecoveryDecision) : Bool := false

def RecoveryDecision.emitsDispatch (_ : RecoveryDecision) : Bool := false

def contradictoryRecovery : Except LifecycleTransitionError RecoveryDecision :=
  .error (.invariant .contradictoryProjection)

def classifyModelRecovery (input : RecoveryInput) : Except LifecycleTransitionError RecoveryDecision :=
  match input.work.currentAttempt, input.attempt with
  | .model currentId, .model modelInvocationId state committedResponseConsistent =>
    if currentId ≠ modelInvocationId then .error (.conflict .wrongCurrentAttempt)
    else if state ≠ .completed ∧ committedResponseConsistent then contradictoryRecovery
    else match state with
      | .requesting | .streaming =>
        .ok ⟨.markModelProviderOutcomeUnknownAndInterrupt, .providerOutcomeUnknown⟩
      | .completed =>
        if committedResponseConsistent then .ok ⟨.interruptActiveWork, .runtimeOwnershipLost⟩
        else contradictoryRecovery
      | .providerOutcomeUnknown => .ok ⟨.interruptActiveWork, .providerOutcomeUnknown⟩
      | .failed | .cancelledLocally => .ok ⟨.interruptActiveWork, .runtimeOwnershipLost⟩
  | _, _ => contradictoryRecovery

def classifyToolRecovery (input : RecoveryInput) : Except LifecycleTransitionError RecoveryDecision :=
  match input.work.currentAttempt, input.attempt with
  | .tool currentId, .tool toolExecutionId state committedResultConsistent =>
    if currentId ≠ toolExecutionId then .error (.conflict .wrongCurrentAttempt)
    else if state ≠ .completed ∧ committedResultConsistent then contradictoryRecovery
    else match state with
      | .requested =>
        .ok ⟨.markToolInterruptedBeforeDispatchAndInterrupt, .toolInterruptedBeforeDispatch⟩
      | .dispatching => .ok ⟨.markToolOutcomeUnknownAndInterrupt, .toolOutcomeUnknown⟩
      | .completed =>
        if committedResultConsistent then
          .ok ⟨.reconcileCommittedToolResultWithoutExecution, .none⟩
        else contradictoryRecovery
      | .interruptedBeforeDispatch => .ok ⟨.interruptActiveWork, .toolInterruptedBeforeDispatch⟩
      | .outcomeUnknown => .ok ⟨.interruptActiveWork, .toolOutcomeUnknown⟩
  | _, _ => contradictoryRecovery

def cleanupDecision (cleanupStatus : CleanupStatus) : RecoveryDecision :=
  if cleanupStatus = .unconfirmed then ⟨.interruptActiveWork, .cleanupUnconfirmed⟩
  else ⟨.finalizeCancellation, .none⟩

def classifyCancelRecovery (input : RecoveryInput) :
    Except LifecycleTransitionError RecoveryDecision :=
  match input.work.currentAttempt, input.attempt with
  | .none, .none => .ok (cleanupDecision input.cleanupStatus)
  | .model currentId, .model modelInvocationId state committedResponseConsistent =>
    if currentId ≠ modelInvocationId then .error (.conflict .wrongCurrentAttempt)
    else if (state = .requesting ∨ state = .streaming) ∧ !committedResponseConsistent then
      .ok ⟨.markModelProviderOutcomeUnknownAndInterrupt, .providerOutcomeUnknown⟩
    else if state = .completed ∧ !committedResponseConsistent then contradictoryRecovery
    else if state ≠ .completed ∧ committedResponseConsistent then contradictoryRecovery
    else if state = .providerOutcomeUnknown then
      .ok ⟨.interruptActiveWork, .providerOutcomeUnknown⟩
    else .ok (cleanupDecision input.cleanupStatus)
  | .tool currentId, .tool toolExecutionId state committedResultConsistent =>
    if currentId ≠ toolExecutionId then .error (.conflict .wrongCurrentAttempt)
    else if state ≠ .completed ∧ committedResultConsistent then contradictoryRecovery
    else match state with
      | .requested =>
        .ok ⟨.markToolInterruptedBeforeDispatchAndInterrupt, .toolInterruptedBeforeDispatch⟩
      | .dispatching => .ok ⟨.markToolOutcomeUnknownAndInterrupt, .toolOutcomeUnknown⟩
      | .outcomeUnknown => .ok ⟨.interruptActiveWork, .toolOutcomeUnknown⟩
      | .interruptedBeforeDispatch => .ok ⟨.interruptActiveWork, .toolInterruptedBeforeDispatch⟩
      | .completed =>
        if committedResultConsistent then .ok (cleanupDecision input.cleanupStatus)
        else contradictoryRecovery
  | _, _ => contradictoryRecovery

def classifyRecovery (input : RecoveryInput) : Except LifecycleTransitionError RecoveryDecision := do
  input.work.validateShape
  if input.work.runtimeOwner = some input.currentRuntimeId then .error (.conflict .staleOwner)
  else match input.work.state with
    | .queued =>
      if input.attempt ≠ .none then contradictoryRecovery else .ok ⟨.retainQueued, .none⟩
    | .completed | .failed | .cancelled | .interrupted =>
      if input.attempt ≠ .none then contradictoryRecovery else .ok ⟨.alreadyTerminal, .none⟩
    | .running =>
      match input.attempt with
      | .none | .model _ .completed true => .ok ⟨.interruptActiveWork, .runtimeOwnershipLost⟩
      | _ => contradictoryRecovery
    | .waitingOnModel => classifyModelRecovery input
    | .waitingOnTool => classifyToolRecovery input
    | .cancelRequested => classifyCancelRecovery input

end Craxii
