import Craxii.Store.RecoveryCore

/-!
Embedding of the startup of `application/runtime.rs` down to the transactions of `stage10.rs`.
-/

namespace Craxii

open ExceptRules Tables

def RuntimeState.isStopped : RuntimeState → Bool
  | .stopped => true
  | .running | .stopping => false

variable (store : RecoveryStore) (runtimeId : RuntimeInstanceId)

def createRuntime (startedAt : UtcTimestamp) : Option RecoveryStore :=
  if store.runtimes.any fun row => row.id == runtimeId then none
  else some { store with runtimes := store.runtimes ++ [⟨runtimeId, .running, startedAt⟩] }

def RuntimeRow.startedBefore (first second : RuntimeRow) : Prop :=
  first.startedAt < second.startedAt ∨
    first.startedAt = second.startedAt ∧ first.id.toText ≤ second.id.toText

instance (first second : RuntimeRow) : Decidable (first.startedBefore second) :=
  inferInstanceAs (Decidable (_ ∨ _))

def enumerateStale (currentRuntimeId : RuntimeInstanceId) : List RuntimeInstanceId :=
  ((store.runtimes.filter fun row =>
    !row.state.isStopped && row.id != currentRuntimeId).insertionSort RuntimeRow.startedBefore).map
      RuntimeRow.id

def WorkUnit.isActiveOf (unit : WorkUnit) : Bool :=
  unit.work.runtimeOwner == some runtimeId &&
    (unit.work.state == .running || unit.work.state == .waitingOnModel ||
      unit.work.state == .waitingOnTool || unit.work.state == .cancelRequested)

def activeWorkIds : List WorkId :=
  (store.units.filter (·.isActiveOf runtimeId)).map WorkUnit.workId

/-- `verify_nonterminal_attempt_ownership`: an open attempt of the runtime belongs to one of
its active works. -/
def attemptsOwned (works : List WorkId) : Bool :=
  store.units.all fun unit =>
    works.contains unit.workId ||
      (unit.models.all fun row => row.runtimeId != runtimeId || row.state.isTerminal) &&
        unit.tools.all fun row => row.runtimeId != runtimeId || row.state.isTerminal

def RuntimeRow.mayStop (stoppedAt : UtcTimestamp) (row : RuntimeRow) : Bool :=
  row.id == runtimeId && !row.state.isStopped && decide (row.startedAt ≤ stoppedAt)

def stopRuntime (stoppedAt : UtcTimestamp) :
    Except StoreRefusal RecoveryStore := do
  refuseIf (store.runtimes.countP (·.mayStop runtimeId stoppedAt) != 1) .conflict
  return { store with
    runtimes := update (·.mayStop runtimeId stoppedAt) (fun row => { row with state := .stopped })
      store.runtimes }

def closeStaleRuntime (staleRuntimeId : RuntimeInstanceId)
    (recoveredAt : UtcTimestamp) : Except StoreRefusal RecoveryStore := do
  refuseIf (!(activeWorkIds store staleRuntimeId).isEmpty) .inconsistentSchema
  stopRuntime store staleRuntimeId recoveredAt

inductive StartupPoint
  | down
  | enumerating (current : RuntimeInstanceId)
  | recovering (current : RuntimeInstanceId) (stale : List RuntimeInstanceId)
  | recoveringWorks (request : RecoverStaleRuntimeRequest) (works : List WorkId)
      (rest : List RuntimeInstanceId)
  | completed (current : RuntimeInstanceId)
  | failing (current : RuntimeInstanceId)
deriving DecidableEq

structure StartupSystem where
  store : RecoveryStore
  point : StartupPoint

inductive StartupMove
  | start (runtimeId : RuntimeInstanceId) (startedAt : UtcTimestamp)
  | advance (clock : Option UtcTimestamp)
  | fail
  | crash

def beginStaleRuntime (request : RecoverStaleRuntimeRequest)
    (rest : List RuntimeInstanceId) : StartupPoint :=
  if request.staleRuntimeId = request.currentRuntimeId then .failing request.currentRuntimeId
  else match (store.runtimes.find? fun row => row.id == request.staleRuntimeId).map RuntimeRow.state with
    | some .stopped => .recovering request.currentRuntimeId rest
    | some .running | some .stopping =>
      let works := activeWorkIds store request.staleRuntimeId
      if attemptsOwned store request.staleRuntimeId works then .recoveringWorks request works rest
      else .failing request.currentRuntimeId
    | none => .failing request.currentRuntimeId

def summaryPoint (current : RuntimeInstanceId) : StartupPoint :=
  if (store.runtimes.find? fun row => row.id == current).map RuntimeRow.state = some .running then
    .completed current
  else .failing current

def advanceStep (system : StartupSystem) (clock : Option UtcTimestamp) : Option StartupSystem :=
  match system.point, clock with
  | .down, _ | .completed _, _ => none
  | .enumerating current, none | .recovering current _, none =>
    some { system with point := .failing current }
  | .enumerating current, some _ =>
    some { system with point := .recovering current (enumerateStale system.store current) }
  | .recovering current [], some _ => some { system with point := summaryPoint system.store current }
  | .recovering current (stale :: rest), some recoveredAt =>
    some { system with point := beginStaleRuntime system.store ⟨stale, current, recoveredAt⟩ rest }
  | .recoveringWorks request (workId :: works) rest, _ =>
    match recoverWorkUnit system.store request workId with
    | .ok (store, _) => some ⟨store, .recoveringWorks request works rest⟩
    | .error _ => some { system with point := .failing request.currentRuntimeId }
  | .recoveringWorks request [] rest, _ =>
    match closeStaleRuntime system.store request.staleRuntimeId request.recoveredAt with
    | .ok store => some ⟨store, .recovering request.currentRuntimeId rest⟩
    | .error _ => some { system with point := .failing request.currentRuntimeId }
  | .failing current, _ =>
    -- `mark_runtime_startup_failure`, whose own failure is ignored.
    match stopRuntime system.store current (clock.getD 0) with
    | .ok store => some ⟨store, .down⟩
    | .error _ => some { system with point := .down }

def StartupPoint.current : StartupPoint → Option RuntimeInstanceId
  | .down => none
  | .enumerating current | .recovering current _ | .completed current | .failing current =>
    some current
  | .recoveringWorks request _ _ => some request.currentRuntimeId

def failStep (system : StartupSystem) : Option StartupSystem :=
  match system.point with
  | .failing _ => some { system with point := .down }
  | point => point.current.map fun current => { system with point := .failing current }

def startupStep (system : StartupSystem) : StartupMove → Option StartupSystem
  | .start runtimeId startedAt =>
    if system.point = .down then
      (createRuntime system.store runtimeId startedAt).map fun store =>
        ⟨store, .enumerating runtimeId⟩
    else none
  | .advance clock => advanceStep system clock
  | .fail => failStep system
  | .crash => some { system with point := .down }

end Craxii
