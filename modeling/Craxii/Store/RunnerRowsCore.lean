import Craxii.Domain.ToolCore
import Craxii.Lib.KeyedStates
import Craxii.Store.ModelAttemptCore

/-!
Embedding of the guards of the transactions that touch one claimed work, of `stage8.rs`,
`cancellation.rs` and `stage10.rs`.
-/

namespace Craxii

open ExceptRules KeyedStates

structure RunnerRows where
  work : WorkLifecycleSnapshot
  models : List (ModelInvocationId × ModelInvocationState)
  tools : List (ToolExecutionId × ToolExecutionState)

def WorkLifecycleSnapshot.matchesGuard (stored expected : WorkLifecycleSnapshot) : Bool :=
  stored.workId == expected.workId && stored.state == expected.state &&
    stored.projectionVersion == expected.projectionVersion &&
    stored.runtimeOwner == expected.runtimeOwner && stored.currentAttempt == expected.currentAttempt

variable (rows : RunnerRows)

def RunnerRows.guardedUpdate (expected next : WorkLifecycleSnapshot) :
    Except StoreRefusal RunnerRows := do
  refuseIf (expected.workId != next.workId || expected.state.isTerminal ||
    next.projectionVersion.value != expected.projectionVersion.value + 1 ||
    !isLegalWorkPair expected.state next.state) .internalInvariant
  refuseIf (!rows.work.matchesGuard expected) .conflict
  return { rows with work := next }

def decodeActiveWorkRow (stored : WorkLifecycleSnapshot) :
    Except StoreRefusal WorkLifecycleSnapshot := do
  -- The terminal reason column is never read, so the shape of a terminal row is refused.
  refuseIf (!workShapeOk stored.state stored.runtimeOwner stored.currentAttempt
    stored.cancellationReason none) .inconsistentSchema
  return { stored with terminalReason := none }

structure OwnedWorkState where
  lifecycle : WorkLifecycleSnapshot
  (modelAttemptCount toolCallCount : Nat)
deriving DecidableEq

variable (expected : WorkLifecycleSnapshot) (runtimeId : RuntimeInstanceId)

def loadOwnedWorkState :
    Except StoreRefusal OwnedWorkState := do
  let lifecycle ← decodeActiveWorkRow rows.work
  refuseIf (lifecycle.runtimeOwner != some runtimeId || lifecycle.state.isTerminal) .conflict
  return ⟨lifecycle, rows.models.length, rows.tools.length⟩

variable (attemptId : ModelInvocationId)

def beginModel (next : WorkLifecycleSnapshot) :
    Except StoreRefusal RunnerRows := do
  refuseIf (expected.state != .running || expected.currentAttempt != .none ||
    next.state != .waitingOnModel || next.currentAttempt != .model attemptId ||
    next.runtimeOwner != expected.runtimeOwner) .internalInvariant
  -- The attempt's identity is the primary key of its row.
  refuseIf (rows.models.any fun attempt => attempt.1 == attemptId) .conflict
  let updated ← rows.guardedUpdate expected next
  return { updated with models := (attemptId, .requesting) :: updated.models }

def markModelStreaming : Except StoreRefusal RunnerRows := do
  refuseIf (!(expected.state == .waitingOnModel || expected.state == .cancelRequested) ||
    expected.currentAttempt != .model attemptId) .internalInvariant
  refuseIf (!rows.models.contains (attemptId, .requesting)) .conflict
  return { rows with models := moveState attemptId .requesting .streaming rows.models }

def finishModelRows (modelState terminal : ModelInvocationState)
    (next : WorkLifecycleSnapshot) : Except StoreRefusal RunnerRows := do
  refuseIf (!(terminal.isTerminal && isLegalModelPair modelState terminal &&
    (expected.state == .waitingOnModel || expected.state == .cancelRequested) &&
    expected.currentAttempt == .model attemptId && next.currentAttempt == .none &&
    (expected.state != .cancelRequested || next.state == .cancelled || next.state == .interrupted)))
    .internalInvariant
  refuseIf (!rows.models.contains (attemptId, modelState)) .conflict
  let updated ← rows.guardedUpdate expected next
  return { updated with models := moveState attemptId modelState terminal updated.models }

def requestTool
    (sourceModel : ModelInvocationId) (toolId : ToolExecutionId) (next : WorkLifecycleSnapshot) :
    Except StoreRefusal RunnerRows := do
  refuseIf (expected.state != .running || expected.currentAttempt != .none ||
    next.state != .waitingOnTool || next.currentAttempt != .tool toolId) .internalInvariant
  refuseIf (!rows.models.contains (sourceModel, .completed)) .conflict
  refuseIf (rows.tools.any fun tool => tool.1 == toolId) .conflict
  let updated ← rows.guardedUpdate expected next
  return { updated with tools := (toolId, .requested) :: updated.tools }

variable (toolId : ToolExecutionId)

def dispatchTool :
    Except StoreRefusal RunnerRows := do
  refuseIf (expected.state != .waitingOnTool || expected.currentAttempt != .tool toolId)
    .internalInvariant
  refuseIf (!rows.tools.contains (toolId, .requested)) .conflict
  return { rows with tools := moveState toolId .requested .dispatching rows.tools }

def finishToolRows (toolState terminal : ToolExecutionState) (next : WorkLifecycleSnapshot) :
    Except StoreRefusal RunnerRows := do
  refuseIf (!(terminal.isTerminal && isLegalToolPair toolState terminal &&
    (expected.state == .waitingOnTool || expected.state == .cancelRequested) &&
    expected.currentAttempt == .tool toolId && next.currentAttempt == .none &&
    (expected.state != .waitingOnTool || next.state == .running || next.state == .interrupted) &&
    (expected.state != .cancelRequested || next.state == .cancelled || next.state == .interrupted) &&
    ((terminal != .interruptedBeforeDispatch && terminal != .outcomeUnknown) ||
      next.state == .interrupted))) .internalInvariant
  refuseIf (!rows.tools.contains (toolId, toolState)) .conflict
  let updated ← rows.guardedUpdate expected next
  return { updated with tools := moveState toolId toolState terminal updated.tools }

def terminalizeOwnedWork (expected next : WorkLifecycleSnapshot) :
    Except StoreRefusal RunnerRows := do
  refuseIf (!next.state.isTerminal || next.workId != expected.workId ||
    expected.runtimeOwner.isNone) .internalInvariant
  rows.guardedUpdate expected next

def commitAssistantCompletion (modelId : ModelInvocationId) (next : WorkLifecycleSnapshot) :
    Except StoreRefusal RunnerRows := do
  refuseIf (expected.state != .running || expected.currentAttempt != .none ||
    expected.cancellationReason.isSome || next.state != .completed ||
    next.workId != expected.workId) .internalInvariant
  refuseIf (!rows.models.contains (modelId, .completed)) .conflict
  rows.guardedUpdate expected next

def cancellationRequest (state : WorkState) (reason : WorkCancellationReason) :
    Option WorkTransitionRequest :=
  match state with
  | .queued => some (.cancel reason .notRequired)
  | .running | .waitingOnModel | .waitingOnTool => some (.requestCancellation reason)
  | _ => none

def applyCancellationDecision : Except StoreRefusal RunnerRows :=
  match cancellationRequest rows.work.state .userRequest with
  | none => .ok rows
  | some request => do
      let decision ← orRefuse
        (decideWorkTransition rows.work (.forSnapshot rows.work) request).toOption
        .inconsistentSchema
      rows.guardedUpdate rows.work decision.next

def terminalizeWork (request : WorkTransitionRequest) : Except StoreRefusal RunnerRows := do
  let lifecycle ← decodeActiveWorkRow rows.work
  refuseIf (lifecycle.runtimeOwner != some runtimeId) .conflict
  let decision ← orRefuse
    (decideWorkTransition lifecycle (.forSnapshot lifecycle) request).toOption .conflict
  rows.guardedUpdate lifecycle decision.next

def finishCancellation :
    Except StoreRefusal RunnerRows := do
  let lifecycle ← decodeActiveWorkRow rows.work
  refuseIf (lifecycle.runtimeOwner != some runtimeId || lifecycle.state != .cancelRequested ||
    lifecycle.currentAttempt != .none) .conflict
  let reason ← orRefuse lifecycle.cancellationReason .inconsistentSchema
  terminalizeWork rows runtimeId (.cancel reason .notRequired)

def interruptOwnedWork :
    Except StoreRefusal RunnerRows := do
  let lifecycle ← decodeActiveWorkRow rows.work
  if lifecycle.state.isTerminal then .ok rows
  else do
    refuseIf (lifecycle.runtimeOwner != some runtimeId || lifecycle.currentAttempt != .none)
      .inconsistentSchema
    terminalizeWork rows runtimeId (.interrupt .runtimeOwnershipLost)

end Craxii
