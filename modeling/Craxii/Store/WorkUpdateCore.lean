import Craxii.Lib.GuardedRun
import Craxii.Lib.Tables
import Craxii.Store.ModelAttemptCore

/-!
Embedding of `guarded_work_update` of `projection.rs`, and of clients that load a row, decide on
it and apply the decision later.
-/

namespace Craxii

open ExceptRules Tables GuardedRun

structure WorkColumns where
  workId : WorkId
  state : WorkState
  stateVersion : Nat
  runtimeInstanceId : Option RuntimeInstanceId
  currentModelInvocationId : Option ModelInvocationId
  currentToolExecutionId : Option ToolExecutionId
  cancellationReason : Option WorkCancellationReason
  terminalReason : Option WorkTerminalReason
  (startedAt cancelRequestedAt terminalAt : Option UtcTimestamp)

inductive WorkGuardConflict
  | missing | staleState | staleVersion | staleOwner | wrongCurrentModel | wrongCurrentTool

inductive ProjectionMutationError
  | conflict (kind : WorkGuardConflict)
  | storage
  | invariant

def attemptColumns : CurrentWorkAttempt → Option ModelInvocationId × Option ToolExecutionId
  | .none => (none, none)
  | .model id => (some id, none)
  | .tool id => (none, some id)

def terminalColumns : Option WorkTerminalReason →
    Except ProjectionMutationError (Option WorkTerminalReason)
  | some (.failure (.definite error)) => do
      refuseIf (error.certainty != .definite) .storage
      return some (.failure (.definite error))
  | reason => .ok reason

def storedRow (snapshot : WorkLifecycleSnapshot) (times : WorkProjectionTimes) : WorkColumns where
  workId := snapshot.workId
  state := snapshot.state
  stateVersion := snapshot.projectionVersion.value
  runtimeInstanceId := snapshot.runtimeOwner
  currentModelInvocationId := (attemptColumns snapshot.currentAttempt).1
  currentToolExecutionId := (attemptColumns snapshot.currentAttempt).2
  cancellationReason := snapshot.cancellationReason
  terminalReason := snapshot.terminalReason
  startedAt := times.startedAt
  cancelRequestedAt := times.cancelRequestedAt
  terminalAt := times.terminalAt

variable (accepts : List WorkColumns → Bool) (row : WorkColumns)

namespace WorkColumns

def matchesGuard (expected : WorkLifecycleSnapshot) : Bool :=
  row.workId == expected.workId && row.state == expected.state &&
    row.stateVersion == expected.projectionVersion.value &&
    row.runtimeInstanceId == expected.runtimeOwner &&
    row.currentModelInvocationId == (attemptColumns expected.currentAttempt).1 &&
    row.currentToolExecutionId == (attemptColumns expected.currentAttempt).2

def currentAttempt : Except ProjectionMutationError CurrentWorkAttempt :=
  match row.currentModelInvocationId, row.currentToolExecutionId with
  | none, none => .ok .none
  | some id, none => .ok (.model id)
  | none, some id => .ok (.tool id)
  | some _, some _ => .error .storage

end WorkColumns

variable (rows : List WorkColumns)

def classifyWorkConflict (expected : WorkLifecycleSnapshot) : ProjectionMutationError :=
  match rows.find? fun row => row.workId == expected.workId with
  | none => .conflict .missing
  | some row =>
    if row.state ≠ expected.state then .conflict .staleState
    else if row.stateVersion ≠ expected.projectionVersion.value then .conflict .staleVersion
    else if row.runtimeInstanceId ≠ expected.runtimeOwner then .conflict .staleOwner
    else if row.currentModelInvocationId ≠ (attemptColumns expected.currentAttempt).1 then
      .conflict .wrongCurrentModel
    else if row.currentToolExecutionId ≠ (attemptColumns expected.currentAttempt).2 then
      .conflict .wrongCurrentTool
    else .invariant

/-- `guarded_work_update`. `accepts` stands for the checks, indexes and foreign keys of the
schema on the table the update would leave. -/
def guardedColumnsUpdate (expected next : WorkLifecycleSnapshot) (times : WorkProjectionTimes) :
    Except ProjectionMutationError (List WorkColumns) := do
  refuseIf (expected.workId != next.workId || expected.state.isTerminal ||
    next.projectionVersion.value != expected.projectionVersion.value + 1 ||
    !isLegalWorkPair expected.state next.state || !validTimeShape next.state times) .invariant
  let terminalReason ← terminalColumns next.terminalReason
  let updated := update (fun row => row.matchesGuard expected)
    (fun _ => { storedRow next times with terminalReason }) rows
  match rows.countP fun row => row.matchesGuard expected with
  | 0 => .error (classifyWorkConflict rows expected)
  | 1 => do
      refuseIf (!accepts updated) .storage
      return updated
  | _ => .error .invariant

structure LoadedWork where
  snapshot : WorkLifecycleSnapshot
  startedAt : Option UtcTimestamp
deriving DecidableEq

/-- The snapshot of a row, with the terminal reason the loader reads: none for
`decode_active_work_row`, a representative one for `decode_loaded_cancellation_work`. -/
def WorkColumns.load (terminalReason : Option WorkTerminalReason) :
    Except ProjectionMutationError LoadedWork := do
  let currentAttempt ← row.currentAttempt
  let version ← if valid : 0 < row.stateVersion ∧ row.stateVersion ≤ i64Max then
      .ok (PositiveInteger.mk row.stateVersion valid.1 valid.2)
    else .error .storage
  refuseIf (!workShapeOk row.state row.runtimeInstanceId currentAttempt row.cancellationReason
    terminalReason) .storage
  return {
    snapshot := ⟨row.workId, row.state, version, row.runtimeInstanceId, currentAttempt,
      row.cancellationReason, terminalReason⟩
    startedAt := row.startedAt }

def projectionTimes (loaded : LoadedWork) (request : WorkTransitionRequest) (now : UtcTimestamp) :
    WorkProjectionTimes where
  startedAt := match request with
    | .start _ => some now
    | _ => loaded.startedAt
  cancelRequestedAt := if request.targetState = .cancelRequested then some now else none
  terminalAt := if request.targetState.isTerminal then some now else none

inductive UpdateRefusal
  | undecided (error : LifecycleTransitionError)
  | update (error : ProjectionMutationError)

def applyDecision (loaded : LoadedWork)
    (guard : WorkTransitionGuard) (request : WorkTransitionRequest) (now : UtcTimestamp) :
    Except UpdateRefusal (List WorkColumns × WorkLifecycleSnapshot) := do
  let decision ← (decideWorkTransition loaded.snapshot guard request).mapError .undecided
  let rows ← (guardedColumnsUpdate accepts rows loaded.snapshot decision.next
    (projectionTimes loaded request now)).mapError .update
  return (rows, decision.next)

structure UpdateSystem (Client : Type) where
  rows : List WorkColumns
  held : Client → Option LoadedWork

def UpdateSystem.empty (Client : Type) : UpdateSystem Client where
  rows := []
  held := fun _ => none

inductive UpdateMove (Client : Type)
  | insert (workId : WorkId)
  | load (client : Client) (workId : WorkId) (terminalReason : Option WorkTerminalReason)
  | apply (client : Client) (guard : WorkTransitionGuard) (request : WorkTransitionRequest)
      (now : UtcTimestamp)

section Systems

variable {Client : Type} [DecidableEq Client]

def updateStep (system : UpdateSystem Client) :
    UpdateMove Client → Option (UpdateSystem Client)
  | .insert workId =>
    if system.rows.any fun row => row.workId == workId then none
    else some { system with
      rows := system.rows ++ [storedRow (.initial workId) ⟨none, none, none⟩] }
  | .load client workId terminalReason =>
    match system.rows.find? fun row => row.workId == workId with
    | none => none
    | some row => (row.load terminalReason).toOption.map fun loaded =>
      { system with held := Function.update system.held client (some loaded) }
  | .apply client guard request now =>
    match system.held client with
    | none => none
    | some loaded => (applyDecision accepts system.rows loaded guard request now).toOption.map
        fun applied => { system with rows := applied.1 }

def appliedUpdate (system : UpdateSystem Client) :
    UpdateMove Client → Option (WorkLifecycleSnapshot × WorkLifecycleSnapshot)
  | .apply client guard request now =>
    match system.held client with
    | none => none
    | some loaded => (applyDecision accepts system.rows loaded guard request now).toOption.map
        fun applied => (loaded.snapshot, applied.2)
  | _ => none

def appliedUpdates (accepts : List WorkColumns → Bool) :
    UpdateSystem Client → List (UpdateMove Client) →
      List (WorkLifecycleSnapshot × WorkLifecycleSnapshot)
  | _, [] => []
  | system, move :: rest => (appliedUpdate accepts system move).toList ++
      appliedUpdates accepts (offer (updateStep accepts) system move) rest

end Systems

def storedSnapshots (workId : WorkId)
    (applied : List (WorkLifecycleSnapshot × WorkLifecycleSnapshot)) : List WorkLifecycleSnapshot :=
  .initial workId :: (applied.filter fun update => update.1.workId == workId).map Prod.snd

end Craxii
