import Craxii.Domain.RecoveryCore
import Craxii.Lib.Tables
import Craxii.Store.RunnerRowsCore

/-!
Embedding of the recovery transactions of `stage10.rs` over the rows of a work, and of the
transactions that bring such rows about.
-/

namespace Craxii

open ExceptRules Tables

structure ModelAttemptRow where
  id : ModelInvocationId
  runtimeId : RuntimeInstanceId
  state : ModelInvocationState
  startedAt : UtcTimestamp
  draftExposed : Bool
deriving DecidableEq

structure ToolAttemptRow where
  id : ToolExecutionId
  runtimeId : RuntimeInstanceId
  state : ToolExecutionState
  requestedAt : UtcTimestamp
  cleanupConfirmed : Option Bool
deriving DecidableEq

structure WorkUnit where
  work : WorkLifecycleSnapshot
  startedAt : Option UtcTimestamp
  models : List ModelAttemptRow
  tools : List ToolAttemptRow
deriving DecidableEq

variable (unit : WorkUnit)

def WorkUnit.rows : RunnerRows where
  work := unit.work
  models := unit.models.map fun row => (row.id, row.state)
  tools := unit.tools.map fun row => (row.id, row.state)

structure RecoverStaleRuntimeRequest where
  (staleRuntimeId currentRuntimeId : RuntimeInstanceId)
  recoveredAt : UtcTimestamp
deriving DecidableEq

structure RecoveryCounters where
  interruptedWork : Nat := 0
  modelUnknown : Nat := 0
  modelTerminalPreserved : Nat := 0
  toolPredispatch : Nat := 0
  toolUnknown : Nat := 0
  toolTerminalPreserved : Nat := 0
  draftsAbandoned : Nat := 0
  cleanupChecks : Nat := 0
  cleanupUnconfirmed : Nat := 0
deriving DecidableEq

inductive UnitFact
  | recorded
  | modelInvocationInterrupted (id : ModelInvocationId) (state : ModelInvocationState)
  | toolExecutionInterruptedBeforeDispatch (id : ToolExecutionId)
  | toolExecutionOutcomeUnknown (id : ToolExecutionId)
  | workTransition (current next : WorkLifecycleSnapshot)
deriving DecidableEq

structure AttemptRecovery where
  unit : WorkUnit
  facts : List UnitFact
  counters : RecoveryCounters
  cancellationCanFinish : Bool
  interruptionReason : WorkInterruptionReason

def markModel (modelId : ModelInvocationId) : List ModelAttemptRow → List ModelAttemptRow :=
  update (fun row => row.id == modelId && (row.state == .requesting || row.state == .streaming))
    fun row => { row with state := .providerOutcomeUnknown }

variable (request : RecoverStaleRuntimeRequest)

def recoverModelAttempt (modelId : ModelInvocationId) : Except StoreRefusal AttemptRecovery := do
  let attempt ← orRefuse (unit.models.find? fun row => row.id == modelId) .inconsistentSchema
  refuseIf (attempt.runtimeId != request.staleRuntimeId) .inconsistentSchema
  match attempt.state with
  | .requesting | .streaming => do
      -- The table refuses a completion before the start of the attempt.
      refuseIf (decide (request.recoveredAt < attempt.startedAt)) .internalInvariant
      return {
        unit := { unit with models := markModel modelId unit.models }
        facts := [.modelInvocationInterrupted modelId .providerOutcomeUnknown]
        counters := { modelUnknown := 1, draftsAbandoned := attempt.draftExposed.toNat }
        cancellationCanFinish := false
        interruptionReason := .providerOutcomeUnknown }
  | .providerOutcomeUnknown =>
    return {
      unit
      facts := []
      counters := { modelTerminalPreserved := 1, draftsAbandoned := attempt.draftExposed.toNat }
      cancellationCanFinish := false
      interruptionReason := .providerOutcomeUnknown }
  | .completed | .failed | .cancelledLocally =>
    return {
      unit
      facts := []
      counters := { modelTerminalPreserved := 1 }
      cancellationCanFinish := unit.work.state == .cancelRequested
      interruptionReason := .runtimeOwnershipLost }

variable (toolId : ToolExecutionId)

def markToolInterrupted : List ToolAttemptRow → List ToolAttemptRow :=
  update (fun row => row.id == toolId && row.state == .requested)
    fun row => { row with state := .interruptedBeforeDispatch }

def markToolUnknown : List ToolAttemptRow → List ToolAttemptRow :=
  update (fun row => row.id == toolId && row.state == .dispatching)
    fun row => { row with state := .outcomeUnknown, cleanupConfirmed := some false }

def recoverToolAttempt : Except StoreRefusal AttemptRecovery := do
  let attempt ← orRefuse (unit.tools.find? fun row => row.id == toolId) .inconsistentSchema
  refuseIf (attempt.runtimeId != request.staleRuntimeId) .inconsistentSchema
  match attempt.state with
  | .requested => do
      -- The table refuses a completion before the request of the execution.
      refuseIf (decide (request.recoveredAt < attempt.requestedAt)) .internalInvariant
      return {
        unit := { unit with tools := markToolInterrupted toolId unit.tools }
        facts := [.toolExecutionInterruptedBeforeDispatch toolId]
        counters := { toolPredispatch := 1 }
        cancellationCanFinish := false
        interruptionReason := .toolInterruptedBeforeDispatch }
  | .dispatching => do
      refuseIf (decide (request.recoveredAt < attempt.requestedAt)) .internalInvariant
      return {
        unit := { unit with tools := markToolUnknown toolId unit.tools }
        facts := [.toolExecutionOutcomeUnknown toolId]
        counters := { cleanupChecks := 1, toolUnknown := 1, cleanupUnconfirmed := 1 }
        cancellationCanFinish := false
        interruptionReason := .toolOutcomeUnknown }
  | .interruptedBeforeDispatch =>
    return {
      unit
      facts := []
      counters := { toolTerminalPreserved := 1 }
      cancellationCanFinish := false
      interruptionReason := .toolInterruptedBeforeDispatch }
  | .outcomeUnknown =>
    return {
      unit
      facts := []
      counters := { cleanupChecks := 1, toolTerminalPreserved := 1, cleanupUnconfirmed := 1 }
      cancellationCanFinish := false
      interruptionReason := .toolOutcomeUnknown }
  | .completed =>
    if attempt.cleanupConfirmed = some false then
      return {
        unit
        facts := []
        counters := { cleanupChecks := 1, toolTerminalPreserved := 1, cleanupUnconfirmed := 1 }
        cancellationCanFinish := false
        interruptionReason := .cleanupUnconfirmed }
    else
      return {
        unit
        facts := []
        counters := { cleanupChecks := 1, toolTerminalPreserved := 1 }
        cancellationCanFinish := unit.work.state == .cancelRequested
        interruptionReason := .runtimeOwnershipLost }

def recoverAttempt : Except StoreRefusal AttemptRecovery :=
  match unit.work.currentAttempt with
  | .none =>
    .ok {
      unit
      facts := []
      counters := {}
      cancellationCanFinish := unit.work.state == .cancelRequested
      interruptionReason := .runtimeOwnershipLost }
  | .model modelId => recoverModelAttempt unit request modelId
  | .tool toolId => recoverToolAttempt unit request toolId

structure RecoveredUnit where
  unit : WorkUnit
  facts : List UnitFact
  counters : RecoveryCounters
deriving DecidableEq

def recoveryTransition (lifecycle : WorkLifecycleSnapshot) (recovered : AttemptRecovery) :
    Except StoreRefusal WorkTransitionRequest :=
  if recovered.cancellationCanFinish then do
    let reason ← orRefuse lifecycle.cancellationReason .inconsistentSchema
    return .cancel reason .notRequired
  else return .interrupt recovered.interruptionReason

/-- `recover_work_unit` on the rows of its work; `streamed` says that the work's stream
has an event. -/
def recoverUnit (streamed : Bool) :
    Except StoreRefusal RecoveredUnit := do
  let lifecycle ← decodeActiveWorkRow unit.work
  if lifecycle.state.isTerminal then return ⟨unit, [], {}⟩
  else do
    refuseIf (lifecycle.runtimeOwner != some request.staleRuntimeId) .inconsistentSchema
    refuseIf (!streamed) .inconsistentSchema
    let recovered ← recoverAttempt unit request
    let transition ← recoveryTransition lifecycle recovered
    let decision ← orRefuse
      (decideWorkTransition lifecycle (.forSnapshot lifecycle) transition).toOption .conflict
    refuseIf (!validTimeShape decision.next.state ⟨unit.startedAt, none, some request.recoveredAt⟩)
      .conflict
    let updated ← orRefuse (unit.rows.guardedUpdate lifecycle decision.next).toOption .conflict
    return {
      unit := { recovered.unit with work := updated.work }
      facts := recovered.facts ++ [.workTransition lifecycle updated.work]
      counters := { recovered.counters with
        interruptedWork := (updated.work.state == .interrupted).toNat } }

/-! The transactions that bring a unit into the state recovery finds it in. -/

inductive UnitOperation
  | claim (runtimeId : RuntimeInstanceId) (claimedAt : UtcTimestamp)
  | beginModel (expected : WorkLifecycleSnapshot) (attemptId : ModelInvocationId)
      (startedAt : UtcTimestamp)
  | markModelStreaming (expected : WorkLifecycleSnapshot) (attemptId : ModelInvocationId)
      (draftExposed : Bool)
  | finishModel (expected : WorkLifecycleSnapshot) (attemptId : ModelInvocationId)
      (modelState terminal : ModelInvocationState) (request : WorkTransitionRequest)
      (draftExposed : Bool)
  | requestTool (expected : WorkLifecycleSnapshot) (sourceModel : ModelInvocationId)
      (toolId : ToolExecutionId) (requestedAt : UtcTimestamp)
  | dispatchTool (expected : WorkLifecycleSnapshot) (toolId : ToolExecutionId)
  | finishTool (expected : WorkLifecycleSnapshot) (toolId : ToolExecutionId)
      (toolState terminal : ToolExecutionState) (request : WorkTransitionRequest)
      (cleanupConfirmed : Option Bool)
  | completeWork (expected : WorkLifecycleSnapshot) (modelId : ModelInvocationId)
      (reason : WorkCompletionReason)
  | terminalizeOwned (expected : WorkLifecycleSnapshot) (request : WorkTransitionRequest)
  | cancel
  | shutDown (runtimeId : RuntimeInstanceId)
  | finishCancellation (runtimeId : RuntimeInstanceId)
  | interruptOwned (runtimeId : RuntimeInstanceId)
  | recover (request : RecoverStaleRuntimeRequest)

def decidedNext (expected : WorkLifecycleSnapshot) (request : WorkTransitionRequest) :
    Except StoreRefusal WorkLifecycleSnapshot := do
  let decision ← orRefuse
    (decideWorkTransition expected (.forSnapshot expected) request).toOption .conflict
  return decision.next

def claimUnit (runtimeId : RuntimeInstanceId) (claimedAt : UtcTimestamp) :
    Except StoreRefusal WorkUnit := do
  let lifecycle ← decodeActiveWorkRow unit.work
  refuseIf (lifecycle.state != .queued || unit.startedAt.isSome) .inconsistentSchema
  let next ← decidedNext lifecycle (.start runtimeId)
  let updated ← unit.rows.guardedUpdate lifecycle next
  return { unit with work := updated.work, startedAt := some claimedAt }

def shutDownUnit (runtimeId : RuntimeInstanceId) : Except StoreRefusal WorkUnit := do
  refuseIf (unit.work.runtimeOwner != some runtimeId || unit.work.state == .cancelRequested) .conflict
  let lifecycle ← decodeActiveWorkRow unit.work
  let next ← decidedNext lifecycle (.requestCancellation .gracefulShutdown)
  let updated ← unit.rows.guardedUpdate lifecycle next
  return { unit with work := updated.work }

def unitStep : UnitOperation → Except StoreRefusal WorkUnit
  | .claim runtimeId claimedAt => claimUnit unit runtimeId claimedAt
  | .beginModel expected attemptId startedAt => do
      let next ← decidedNext expected (.waitForModel attemptId)
      let owner ← orRefuse expected.runtimeOwner .internalInvariant
      let updated ← Craxii.beginModel unit.rows expected attemptId next
      return { unit with
        work := updated.work
        models := ⟨attemptId, owner, .requesting, startedAt, false⟩ :: unit.models }
  | .markModelStreaming expected attemptId draftExposed => do
      let _ ← Craxii.markModelStreaming unit.rows expected attemptId
      return { unit with
        models := update (fun row => row.id == attemptId && row.state == .requesting)
          (fun row => { row with state := .streaming, draftExposed }) unit.models }
  | .finishModel expected attemptId modelState terminal request draftExposed => do
      let next ← decidedNext expected request
      let updated ← finishModelRows unit.rows expected attemptId modelState terminal next
      return { unit with
        work := updated.work
        models := update (fun row => row.id == attemptId && row.state == modelState)
          (fun row => { row with state := terminal, draftExposed }) unit.models }
  | .requestTool expected sourceModel toolId requestedAt => do
      let next ← decidedNext expected (.waitForTool toolId)
      let owner ← orRefuse expected.runtimeOwner .internalInvariant
      let updated ← Craxii.requestTool unit.rows expected sourceModel toolId next
      return { unit with
        work := updated.work
        tools := ⟨toolId, owner, .requested, requestedAt, none⟩ :: unit.tools }
  | .dispatchTool expected toolId => do
      let _ ← Craxii.dispatchTool unit.rows expected toolId
      return { unit with
        tools := update (fun row => row.id == toolId && row.state == .requested)
          (fun row => { row with state := .dispatching }) unit.tools }
  | .finishTool expected toolId toolState terminal request cleanupConfirmed => do
      let next ← decidedNext expected request
      let updated ← finishToolRows unit.rows expected toolId toolState terminal next
      return { unit with
        work := updated.work
        tools := update (fun row => row.id == toolId && row.state == toolState)
          (fun row => { row with state := terminal, cleanupConfirmed }) unit.tools }
  | .completeWork expected modelId reason => do
      let next ← decidedNext expected (.complete reason .satisfied)
      let updated ← commitAssistantCompletion unit.rows expected modelId next
      return { unit with work := updated.work }
  | .terminalizeOwned expected request => do
      let next ← decidedNext expected request
      let updated ← terminalizeOwnedWork unit.rows expected next
      return { unit with work := updated.work }
  | .cancel => do
      let updated ← applyCancellationDecision unit.rows
      return { unit with work := updated.work }
  | .shutDown runtimeId => shutDownUnit unit runtimeId
  | .finishCancellation runtimeId => do
      let updated ← Craxii.finishCancellation unit.rows runtimeId
      return { unit with work := updated.work }
  | .interruptOwned runtimeId => do
      let updated ← interruptOwnedWork unit.rows runtimeId
      return { unit with work := updated.work }
  | .recover request => do
      let recovered ← recoverUnit unit request true
      return recovered.unit

def WorkUnit.queued (workId : WorkId) : WorkUnit where
  work := .initial workId
  startedAt := none
  models := []
  tools := []

inductive RuntimeState
  | running | stopping | stopped
deriving DecidableEq

structure RuntimeRow where
  id : RuntimeInstanceId
  state : RuntimeState
  startedAt : UtcTimestamp
deriving DecidableEq

structure StreamEvent where
  workId : WorkId
  runtimeId : RuntimeInstanceId
  recordedAt : UtcTimestamp
  fact : UnitFact

structure RecoveryStore where
  runtimes : List RuntimeRow
  units : List WorkUnit
  journal : List StreamEvent

def WorkUnit.workId : WorkId := unit.work.workId

def recoverWorkUnit (store : RecoveryStore) (request : RecoverStaleRuntimeRequest) (workId : WorkId) :
    Except StoreRefusal (RecoveryStore × RecoveryCounters) := do
  let unit ← orRefuse (store.units.find? fun row => row.workId == workId) .conflict
  let recovered ← recoverUnit unit request (store.journal.any fun event => event.workId == workId)
  return ({ store with
    units := update (fun row => row.workId == workId) (fun _ => recovered.unit) store.units
    journal := store.journal ++
      recovered.facts.map fun fact => ⟨workId, request.currentRuntimeId, request.recoveredAt, fact⟩ },
    recovered.counters)

end Craxii
