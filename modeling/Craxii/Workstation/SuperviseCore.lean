import Craxii.Workstation.ExecutionCore

/-!
Embedding of `ExecutionRuntime::execute` and `supervise_inner` on Linux: the two budgets of a
command, the clean-up of its process tree and the draining of its streams.
-/

namespace Craxii

inductive WorkstationErrorKind
  | workstationUnavailable | generationMismatch | workspaceNotFound | invalidPath | notFound
  | permissionDenied | binaryContent | fileTooLarge | changedDuringRead | unsupportedCapability
  | spawnFailed | signalTerminated | inspectionNotFound | cleanupFailed | timeout | cancelled
  | ioError | internalWorkstationError

def WorkstationErrorKind.retryability : WorkstationErrorKind → Retryability
  | .timeout | .changedDuringRead | .spawnFailed => .bounded
  | .workstationUnavailable | .permissionDenied => .operatorAction
  | _ => .never

structure WorkstationError where
  kind : WorkstationErrorKind
  certainty : Certainty

def WorkstationError.new (kind : WorkstationErrorKind) : WorkstationError :=
  ⟨kind, .definite⟩

def WorkstationError.normalized (error : WorkstationError) : NormalizedError :=
  ⟨.workstationError, error.kind.retryability, error.certainty, none⟩

def hardExecutionCommandMaxBytes : Nat := 65536
def hardExecutionTimeoutMs : Nat := 900000
def hardExecutionStreamCaptureBytes : Nat := 8388608

/-! Times are nanoseconds of the monotonic clock. -/

def nanosPerMilli : Nat := 1000000

def executionTermGrace : Nat := 5000 * nanosPerMilli

def groupPollInterval : Nat := 10 * nanosPerMilli

def remainingTime (deadline now : Nat) : Option Nat :=
  if now < deadline then some (deadline - now) else none

def effectiveCleanupRemaining (deadline : Nat) (shutdown : Option Nat) (now : Nat) : Option Nat :=
  match remainingTime deadline now with
  | none => none
  | some request =>
    let effective := match shutdown with
      | some shutdown => min request (shutdown - now)
      | none => request
    if effective = 0 then none else some effective

structure SupervisedRequest extends ExecutionRequest where
  (commandBytes timeoutMs deadline stdoutMaxBytes stderrMaxBytes : Nat)

inductive LeaderObservation
  | pending | interrupted | terminal | failed
deriving DecidableEq

inductive Wakeup
  | slept | runtimeBudget | absoluteBudget | causeChanged

structure ObservationTurn where
  leader : LeaderObservation
  woken : Wakeup
  now : Nat

structure Budgets where
  (runtimeDue absoluteDue : Nat)

structure Observed where
  (terminal stable : Bool)
  latched : Option TerminalCause

def observeLeader (budgets : Budgets) : List ObservationTurn → Option Observed
  | [] => none
  | turn :: rest =>
    match turn.leader with
    | .terminal => some ⟨true, true, some .natural⟩
    | .failed => some ⟨false, false, none⟩
    | .pending | .interrupted =>
      match turn.woken with
      | .slept => observeLeader budgets rest
      | .runtimeBudget =>
        if budgets.runtimeDue ≤ turn.now then some ⟨false, true, some .timeout⟩ else none
      | .absoluteBudget =>
        if budgets.absoluteDue ≤ turn.now then some ⟨false, true, some .timeout⟩ else none
      | .causeChanged => some ⟨false, true, none⟩

structure TreeState where
  (terminal stable quiescent : Bool)

def TreeState.lives (state : TreeState) : Bool :=
  state.stable && (!state.terminal || !state.quiescent)

structure CleanupTurn where
  (now phaseNow : Nat)
  leader : LeaderObservation
  cgroupEmpty : Bool

def TreeState.refresh (state : TreeState) (leader : LeaderObservation) (cgroupEmpty : Bool) : TreeState :=
  let looks := !state.terminal && state.stable
  let terminal := state.terminal || (looks && leader == .terminal)
  let stable := state.stable && !(looks && leader == .failed)
  ⟨terminal, stable, stable && terminal && cgroupEmpty⟩

def waitForCleanupTick (deadline : Nat) (shutdown phase : Option Nat) (turn : CleanupTurn) : Bool :=
  match effectiveCleanupRemaining deadline shutdown turn.now with
  | none => false
  | some effective =>
    let phaseRemaining := match phase with
      | some phase => phase - turn.phaseNow
      | none => effective
    min (min effective phaseRemaining) groupPollInterval != 0

def cleanupLoop (deadline : Nat) (shutdown phase : Option Nat) :
    List CleanupTurn → TreeState → Option TreeState
  | [], state => if state.lives then none else some state
  | turn :: rest, state =>
    if state.lives then
      if waitForCleanupTick deadline shutdown phase turn then
        cleanupLoop deadline shutdown phase rest (state.refresh turn.leader turn.cgroupEmpty)
      else some state
    else some state

structure CgroupTurn where
  empty : Bool
  now : Nat

def cgroupLoop (deadline : Nat) (shutdown : Option Nat) : List CgroupTurn → Option Unit
  | [] => none
  | turn :: rest =>
    if turn.empty then some ()
    else
      match effectiveCleanupRemaining deadline shutdown turn.now with
      | none => some ()
      | some _ => cgroupLoop deadline shutdown rest

inductive ReapAnswer
  | reaped (status : ExitStatus)
  | unreaped (now : Nat) (waited : Option ExitStatus)
  | failed

inductive StreamName
  | stdout
  | stderr

inductive DrainEnd
  | joined (stream : StreamName) (result : Option ExecutionStreamResult)
  | elapsed

structure DrainTurn where
  now : Nat
  ending : DrainEnd

structure Drains where
  (stdoutRuns stderrRuns : Bool)
  (stdout stderr : Option ExecutionStreamResult)

def Drains.join (drains : Drains) (result : Option ExecutionStreamResult) : StreamName → Drains
  | .stdout => { drains with stdoutRuns := false, stdout := result }
  | .stderr => { drains with stderrRuns := false, stderr := result }

def drainLoop (deadline : Nat) (shutdown : Option Nat) : List DrainTurn → Drains → Option Drains
  | [], drains => if drains.stdoutRuns || drains.stderrRuns then none else some drains
  | turn :: rest, drains =>
    if drains.stdoutRuns || drains.stderrRuns then
      match effectiveCleanupRemaining deadline shutdown turn.now with
      | none => some drains
      | some _ =>
        match turn.ending with
        | .elapsed => some drains
        | .joined stream result => drainLoop deadline shutdown rest (drains.join result stream)
    else some drains

inductive SpawnAnswer
  | captureFailed
  | cgroupFailed (kind : WorkstationErrorKind)
  | failed (cgroupEmpty cgroupRemoved : Bool) (stdout stderr : Option ExecutionStreamResult)
  | unidentified
  | running

structure Supervision where
  access : Option WorkstationErrorKind
  validatedAt : Nat
  (foregroundCapable administrativeCapable : Bool)
  reservation : Option WorkstationErrorKind
  shutdown : Option Nat
  (otherCause causeBeforeSpawn : Option TerminalCause)
  spawn : SpawnAnswer
  (runtimeStart absoluteStart : Nat)
  observations : List ObservationTurn
  cgroupEmpty : Bool
  (graceAt graceStart : Nat)
  (graceTurns killTurns : List CleanupTurn)
  cgroupTurns : List CgroupTurn
  (cgroupFinallyEmpty cgroupRemoved : Bool)
  reap : ReapAnswer
  drains : List DrainTurn
  duration : DurationMillis

def Supervision.budgets (request : SupervisedRequest) (supervision : Supervision) : Budgets where
  runtimeDue := supervision.runtimeStart + request.timeoutMs * nanosPerMilli
  absoluteDue := supervision.absoluteStart +
    (remainingTime request.deadline supervision.absoluteStart).getD 0

structure OwnedProcessCleanup where
  status : Option ExitStatus
  (processGroupEmpty cgroupEmpty cgroupRemoved : Bool)

def finishOwnedProcessTree (deadline : Nat) (supervision : Supervision) (observed : Observed) :
    Option OwnedProcessCleanup := do
  let shutdown := supervision.shutdown
  let quiescent := observed.stable && observed.terminal && supervision.cgroupEmpty
  let grace := min ((effectiveCleanupRemaining deadline shutdown supervision.graceAt).getD 0)
    executionTermGrace
  let asked ← cleanupLoop deadline shutdown (some (supervision.graceStart + grace))
    supervision.graceTurns ⟨observed.terminal, observed.stable, quiescent⟩
  -- What still lives is killed.
  let killed ← if asked.lives then cleanupLoop deadline shutdown none supervision.killTurns asked
    else some asked
  cgroupLoop deadline shutdown supervision.cgroupTurns
  let cgroupEmpty := supervision.cgroupFinallyEmpty
  let status := match supervision.reap with
    | .reaped status => some status
    | .unreaped now waited =>
      if killed.terminal && (effectiveCleanupRemaining deadline shutdown now).isSome then waited
      else none
    | .failed => none
  return {
    status
    processGroupEmpty := killed.stable && cgroupEmpty
    cgroupEmpty
    cgroupRemoved := cgroupEmpty && supervision.cgroupRemoved }

def unstartedResult (request : ExecutionRequest) (kind : ExecutionResultKind) (timedOut cancelled : Bool)
    (duration : DurationMillis) (error : Option NormalizedError) : ExecutionResult where
  executionId := request.executionId
  startObserved := false
  requestedCwd := request.requestedCwd
  resolvedCwd := request.resolvedCwd
  effectivePrivilege := request.effectivePrivilege
  commandSha256 := request.commandSha256
  resultKind := kind
  exitCode := none
  terminatingSignal := none
  timedOut := timedOut
  cancelled := cancelled
  duration := duration
  stdout := none
  stderr := none
  cleanup := ⟨true, true, true, true, none, none⟩
  error := error
  certainty := .definite

def spawnFailureResult (request : ExecutionRequest) (kind : WorkstationErrorKind) : ExecutionResult :=
  unstartedResult request .spawnFailed false false ⟨0, by decide⟩ (some (WorkstationError.new kind).normalized)

def preSpawnTerminalResult (request : ExecutionRequest) (cause : TerminalCause)
    (duration : DurationMillis) : ExecutionResult :=
  let timedOut := cause == .timeout
  unstartedResult request (if timedOut then .timedOut else .cancelled) timedOut (!timedOut) duration none

def failedSpawnResult (request : ExecutionRequest) (cgroupEmpty cgroupRemoved : Bool)
    (stdout stderr : Option ExecutionStreamResult) (duration : DurationMillis) : ExecutionResult :=
  let removed := cgroupEmpty && cgroupRemoved
  { unstartedResult request (if removed then .spawnFailed else .cleanupFailed) false false duration
      (some (if removed then (WorkstationError.new .spawnFailed).normalized
        else (WorkstationError.mk .cleanupFailed .outcomeUnknown).normalized)) with
    stdout
    stderr
    cleanup := ⟨true, true, true, true, some cgroupEmpty, some removed⟩
    certainty := if removed then .definite else .outcomeUnknown }

def superviseRunning (request : SupervisedRequest) (supervision : Supervision) :
    Option ExecutionResult := do
  let observed ← observeLeader (supervision.budgets request) supervision.observations
  let owned ← finishOwnedProcessTree request.deadline supervision observed
  let drains ← drainLoop request.deadline supervision.shutdown supervision.drains
    ⟨true, true, none, none⟩
  let cause := (supervision.otherCause.or observed.latched).getD .natural
  return supervisedResult request.toExecutionRequest cause owned.status owned.processGroupEmpty
    (some owned.cgroupEmpty) (some owned.cgroupRemoved) drains.stdout drains.stderr
    supervision.duration

def superviseInner (request : SupervisedRequest) (supervision : Supervision) : Option ExecutionResult :=
  match supervision.causeBeforeSpawn with
  | some cause => some (preSpawnTerminalResult request.toExecutionRequest cause supervision.duration)
  | none =>
    match supervision.spawn with
    | .captureFailed =>
      some (spawnFailureResult request.toExecutionRequest .internalWorkstationError)
    | .cgroupFailed kind => some (spawnFailureResult request.toExecutionRequest kind)
    | .failed cgroupEmpty cgroupRemoved stdout stderr =>
      some (failedSpawnResult request.toExecutionRequest cgroupEmpty cgroupRemoved stdout stderr
        supervision.duration)
    | .unidentified => some (spawnFailureResult request.toExecutionRequest .spawnFailed)
    | .running => superviseRunning request supervision

def validateRequest (request : SupervisedRequest) (supervision : Supervision) :
    Option WorkstationErrorKind :=
  if request.commandBytes = 0 ∨ hardExecutionCommandMaxBytes < request.commandBytes ∨
      request.timeoutMs = 0 ∨ hardExecutionTimeoutMs < request.timeoutMs ∨
      request.stdoutMaxBytes = 0 ∨ request.stderrMaxBytes = 0 ∨
      hardExecutionStreamCaptureBytes < request.stdoutMaxBytes ∨
      hardExecutionStreamCaptureBytes < request.stderrMaxBytes then
    some .spawnFailed
  else if (remainingTime request.deadline supervision.validatedAt).isNone then some .timeout
  else if !supervision.foregroundCapable ||
      (request.effectivePrivilege == .administrative && !supervision.administrativeCapable) then
    some .unsupportedCapability
  else none

def executeCommand (request : SupervisedRequest) (supervision : Supervision) :
    Option (Except WorkstationError ExecutionResult) :=
  match (supervision.access.or (validateRequest request supervision)).or supervision.reservation with
  | some kind => some (.error (.new kind))
  | none => (superviseInner request supervision).map .ok

end Craxii
