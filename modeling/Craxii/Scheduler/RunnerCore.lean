import Craxii.Gateway.InvokeCore
import Craxii.Store.RunnerRowsCore
import Craxii.Tools.ExecutionCore

/-!
Embedding of the runner that owns a claimed work, cut where another task can be seen:
`AgentLoop::run`, the retry loop and physical attempt of the gateway, and `execute_call_inner`.
-/

namespace Craxii

open ExceptRules

structure AgentLoopLimits where
  (modelStepsPerWork providerAttemptsPerWork toolCallsPerWork : Nat)

def maxModelStepsPerWork : Nat := 16
def maxToolCallsPerWork : Nat := 32

def AgentLoopLimits.isValid (limits : AgentLoopLimits) : Bool :=
  limits.modelStepsPerWork != 0 && decide (limits.modelStepsPerWork ≤ maxModelStepsPerWork) &&
    limits.providerAttemptsPerWork != 0 &&
    decide (limits.providerAttemptsPerWork ≤ maxProviderAttemptsPerWork) &&
    decide (limits.modelStepsPerWork ≤ limits.providerAttemptsPerWork) &&
    limits.toolCallsPerWork != 0 && decide (limits.toolCallsPerWork ≤ maxToolCallsPerWork)

inductive WorkRunnerExit
  | terminalCommitted | cancellationConfirmed | abnormal
deriving DecidableEq

/-- How the exchange with the provider ended; each tool call says whether its arguments are valid. -/
inductive AttemptEnding
  | failed (error : ProviderError)
  | completed (stop : ModelStopReason) (toolCalls : List Bool)
deriving DecidableEq

structure RetryPosition where
  agentStep : Nat
  work : WorkLifecycleSnapshot
  (attemptsBefore attemptNo : Nat)
deriving DecidableEq

structure OpenAttempt extends RetryPosition where
  attemptId : ModelInvocationId
  modelState : ModelInvocationState
deriving DecidableEq

inductive AttemptPhase
  | begun
  | exchanging
  | settling (ending : AttemptEnding)
  | committing (ending : AttemptEnding)
deriving DecidableEq

structure ToolBatch where
  agentStep : Nat
  sourceModel : ModelInvocationId
  remaining : Nat
  work : WorkLifecycleSnapshot
deriving DecidableEq

structure ToolRun where
  batch : ToolBatch
  notice : Option WorkLifecycleSnapshot
deriving DecidableEq

structure OpenTool where
  toolId : ToolExecutionId
  waiting : WorkLifecycleSnapshot
  toolState : ToolExecutionState
deriving DecidableEq

inductive DispatchCheck
  | afterIntent | afterAuthority | afterPreparation
deriving DecidableEq

inductive ToolEnding
  | completed
  | unknown (failure : ToolExecutionServiceErrorKind)
deriving DecidableEq

inductive ToolPhase
  | calling
  | requesting (toolId : ToolExecutionId)
  | undispatched (tool : OpenTool) (check : DispatchCheck)
  | intending (tool : OpenTool)
  | dispatched (tool : OpenTool)
  | handling (tool : OpenTool)
  | recording (tool : OpenTool) (expected : WorkLifecycleSnapshot) (ending : ToolEnding)
  | returned (failure : Option ToolExecutionServiceErrorKind)
deriving DecidableEq

inductive RunnerPoint
  | starting
  | loading (agentStep : Nat)
  | checking (agentStep : Nat) (owned : OwnedWorkState)
  | enteringGateway (agentStep : Nat) (owned : OwnedWorkState)
  | startingTurn (position : RetryPosition)
  | beginning (position : RetryPosition) (attemptId : ModelInvocationId)
  | attempt (opened : OpenAttempt) (phase : AttemptPhase)
  | judging (position : RetryPosition)
  | backingOff (position : RetryPosition)
  | completing (work : WorkLifecycleSnapshot) (modelId : ModelInvocationId)
      (reason : WorkCompletionReason)
  | failing (work : WorkLifecycleSnapshot) (reason : WorkFailureReason)
  | terminalizing (work next : WorkLifecycleSnapshot)
  | batchLoading (batch : ToolBatch)
  | nextCall (batch : ToolBatch)
  | tool (run : ToolRun) (phase : ToolPhase)
  | reloading (batch : ToolBatch)
  | exited (exit : WorkRunnerExit)
deriving DecidableEq

/-! What a step hears from outside the modelled tasks. -/

inductive ExchangeAnswer
  | event
  | ended (ending : AttemptEnding)

inductive LocalToolFailure
  | invalidComposition | invalidCallContext | clock
deriving DecidableEq

def LocalToolFailure.kind : LocalToolFailure → ToolExecutionServiceErrorKind
  | .invalidComposition => .invalidComposition
  | .invalidCallContext => .invalidCallContext
  | .clock => .clock

inductive ToolAnswer
  | proceeds
  | ends
  | endsUnknown (failure : ToolExecutionServiceErrorKind)
  | breaks (failure : LocalToolFailure)
deriving DecidableEq

structure Answers where
  (clock deadlinePassed refused : Bool)
  assemblyFailure : Option WorkFailureReason
  attemptId : ModelInvocationId
  exchange : ExchangeAnswer
  (captureFails retries : Bool)
  failureReason : WorkFailureReason
  (woken contentFails : Bool)
  toolId : ToolExecutionId
  tool : ToolAnswer
  forwards : Bool

def afterCommit (rows : RunnerRows) (result : Except StoreRefusal RunnerRows)
    (committed refused : RunnerPoint) : RunnerRows × RunnerPoint :=
  match result with
  | .ok updated => (updated, committed)
  | .error _ => (rows, refused)

def cancelledExit (work : WorkLifecycleSnapshot) : RunnerPoint :=
  .exited (if work.state.isTerminal then .terminalCommitted else .cancellationConfirmed)

section

variable (limits : AgentLoopLimits) (gateway : ModelGatewayLimits) (runtimeId : RuntimeInstanceId)
  (answers : Answers) (flag : Bool) (rows : RunnerRows)

def startingStep : RunnerPoint :=
  if answers.refused then .exited .abnormal else .loading 1

def loadingStep (agentStep : Nat) : RunnerPoint :=
  match loadOwnedWorkState rows runtimeId with
  | .error _ => .exited .abnormal
  | .ok owned =>
    if owned.lifecycle.state = .cancelRequested then
      .exited (if owned.lifecycle.currentAttempt = .none then .cancellationConfirmed else .abnormal)
    else if owned.lifecycle.state ≠ .running ∨ owned.lifecycle.runtimeOwner ≠ some runtimeId ∨
        owned.lifecycle.currentAttempt ≠ .none then .exited .abnormal
    else .checking agentStep owned

def checkingStep (agentStep : Nat) (owned : OwnedWorkState) : RunnerPoint :=
  if flag then .exited .cancellationConfirmed
  else if answers.deadlinePassed then .failing owned.lifecycle (.limit .totalWorkTime)
  else if limits.modelStepsPerWork < agentStep then .failing owned.lifecycle (.limit .agentLoopSteps)
  else if limits.providerAttemptsPerWork ≤ owned.modelAttemptCount then
    .failing owned.lifecycle (.limit .modelAttempts)
  else if limits.toolCallsPerWork < owned.toolCallCount then
    .failing owned.lifecycle (.limit .toolCalls)
  else match answers.assemblyFailure with
    | some reason => .failing owned.lifecycle reason
    | none => .enteringGateway agentStep owned

def enteringGatewayStep (agentStep : Nat) (owned : OwnedWorkState) : RunnerPoint :=
  if answers.refused ∨ gateway.maximumAttemptsPerWork ≤ owned.modelAttemptCount then
    .exited .abnormal
  else if flag then cancelledExit owned.lifecycle
  else .startingTurn ⟨agentStep, owned.lifecycle, owned.modelAttemptCount, 1⟩

def startingTurnStep (position : RetryPosition) : RunnerPoint :=
  if gateway.maximumAttemptsPerWork < saturatingAdd32 position.attemptsBefore position.attemptNo then
    .exited .abnormal
  else if flag then cancelledExit position.work
  else if answers.deadlinePassed then .failing position.work (.limit .totalWorkTime)
  else if !answers.clock then .exited .abnormal
  else .beginning position answers.attemptId

def beginningStep (position : RetryPosition) (attemptId : ModelInvocationId) :
    RunnerRows × RunnerPoint :=
  match decideNext position.work (.waitForModel attemptId) with
  | .error _ => (rows, .exited .abnormal)
  | .ok waiting =>
    afterCommit rows (beginModel rows position.work attemptId waiting)
      (.attempt { position with work := waiting, attemptId, modelState := .requesting } .begun)
      (.exited .abnormal)

def refreshedWork (opened : OpenAttempt) : WorkLifecycleSnapshot :=
  match opened.work.runtimeOwner with
  | none => opened.work
  | some owner =>
    match loadOwnedWorkState rows owner with
    | .error _ => opened.work
    | .ok owned =>
      if owned.lifecycle.state = .cancelRequested ∧
          owned.lifecycle.currentAttempt = .model opened.attemptId then owned.lifecycle
      else opened.work

def failurePoint (opened : OpenAttempt) (error : ProviderError) (next : WorkLifecycleSnapshot) :
    RunnerPoint :=
  if error.isAmbiguous then .exited .terminalCommitted
  else if error.isLocalCancellation then cancelledExit next
  else .judging { opened.toRetryPosition with work := next }

def completionPoint (opened : OpenAttempt) (stop : ModelStopReason) (toolCalls : List Bool)
    (next : WorkLifecycleSnapshot) : RunnerPoint :=
  if next.state.isTerminal then .exited .terminalCommitted
  else match stop with
    | .completed => .completing next opened.attemptId .answered
    | .refusal => .completing next opened.attemptId .refused
    | .toolContinuation =>
      if toolCalls.isEmpty || !toolCalls.all id then
        .failing next (.invalidModelOutput .providerFailed)
      else .batchLoading ⟨opened.agentStep, opened.attemptId, toolCalls.length, next⟩
    | .incompleteProviderLimit => .failing next (.invalidModelOutput .incomplete)
    | .cancelled | .providerFailure => .failing next (.invalidModelOutput .providerFailed)

def committingStep (opened : OpenAttempt) (ending : AttemptEnding) : RunnerRows × RunnerPoint :=
  if !answers.clock then (rows, .exited .abnormal)
  else match ending with
    | .failed error =>
      match failedWorkNext opened.work opened.attemptId error with
      | .error _ => (rows, .exited .abnormal)
      | .ok next =>
        afterCommit rows
          (finishModelRows rows opened.work opened.attemptId opened.modelState
            (failedTerminalState error) next)
          (failurePoint opened error next) (.exited .abnormal)
    | .completed stop toolCalls =>
      if answers.captureFails then
        (rows, .attempt opened
          (.settling (.failed (.new .providerOutcomeUnknown .providerOutcomeUnknown))))
      else match completedWorkNext opened.work opened.attemptId with
        | .error _ => (rows, .exited .abnormal)
        | .ok next =>
          afterCommit rows
            (finishModelRows rows opened.work opened.attemptId opened.modelState .completed next)
            (completionPoint opened stop toolCalls next) (.exited .abnormal)

def attemptStep (opened : OpenAttempt) : AttemptPhase → RunnerRows × RunnerPoint
  | .begun => (rows,
      if answers.refused then .exited .abnormal
      else if answers.deadlinePassed then
        .attempt opened (.settling (.failed (.new .timeoutBeforeOutput .definitelyNotSent)))
      else if flag then
        .attempt opened (.settling (.failed (.new .cancelled .definitelyNotSent)))
      else .attempt opened .exchanging)
  | .exchanging =>
    match answers.exchange with
    | .ended ending => (rows, .attempt opened (.settling ending))
    | .event =>
      if !answers.clock then (rows, .exited .abnormal)
      else if opened.modelState = .requesting then
        afterCommit rows (markModelStreaming rows opened.work opened.attemptId)
          (.attempt { opened with modelState := .streaming } .exchanging) (.exited .abnormal)
      else (rows, .attempt opened .exchanging)
  | .settling ending =>
    (rows, .attempt
      { opened with work := if flag then refreshedWork rows opened else opened.work }
      (.committing ending))
  | .committing ending => committingStep answers rows opened ending

def judgingStep (position : RetryPosition) : RunnerPoint :=
  if !answers.retries ||
      decide (gateway.maximumAttemptsPerLogicalInvocation ≤ position.attemptNo) ||
      decide (gateway.maximumAttemptsPerWork ≤
        saturatingAdd32 position.attemptsBefore position.attemptNo) then
    .failing position.work answers.failureReason
  else if answers.refused then .exited .abnormal
  else .backingOff position

def backingOffStep (position : RetryPosition) : RunnerPoint :=
  if answers.woken then
    if flag then cancelledExit position.work else .failing position.work (.limit .totalWorkTime)
  else .startingTurn { position with attemptNo := position.attemptNo + 1 }

def completingStep (work : WorkLifecycleSnapshot) (modelId : ModelInvocationId)
    (reason : WorkCompletionReason) : RunnerRows × RunnerPoint :=
  if answers.contentFails then (rows, .failing work (.invalidModelOutput .providerFailed))
  else if !answers.clock || answers.refused then (rows, .exited .abnormal)
  else match decideNext work (.complete reason .satisfied) with
    | .error _ => (rows, .exited .abnormal)
    | .ok next =>
      afterCommit rows (commitAssistantCompletion rows work modelId next)
        (.exited .terminalCommitted) (.exited .abnormal)

def failingStep (work : WorkLifecycleSnapshot) (reason : WorkFailureReason) : RunnerPoint :=
  if work.state ≠ .running then .exited .abnormal
  else match decideNext work (.fail reason .notRequired), work.runtimeOwner with
    | .ok next, some owner =>
      match loadOwnedWorkState rows owner with
      | .error _ => .exited .abnormal
      | .ok current =>
        if current.lifecycle.state ≠ work.state ∨
            current.lifecycle.projectionVersion ≠ work.projectionVersion ∨
            current.lifecycle.currentAttempt ≠ work.currentAttempt then .exited .abnormal
        else .terminalizing work next
    | _, _ => .exited .abnormal

def terminalizingStep (work next : WorkLifecycleSnapshot) : RunnerRows × RunnerPoint :=
  if !answers.clock then (rows, .exited .abnormal)
  else afterCommit rows (terminalizeOwnedWork rows work next) (.exited .terminalCommitted)
    (.exited .abnormal)

def batchLoadingStep (batch : ToolBatch) : RunnerPoint :=
  match loadOwnedWorkState rows runtimeId with
  | .error _ => .exited .abnormal
  | .ok owned =>
    if limits.toolCallsPerWork < owned.toolCallCount + batch.remaining then
      .failing owned.lifecycle (.limit .toolCalls)
    else .nextCall batch

def nextCallStep (batch : ToolBatch) : RunnerPoint :=
  match batch.remaining with
  | 0 =>
    if i64Max ≤ batch.agentStep then .exited .abnormal else .loading (batch.agentStep + 1)
  | remaining + 1 =>
    if flag then .exited .cancellationConfirmed
    else if answers.deadlinePassed then .failing batch.work (.limit .totalWorkTime)
    else .tool ⟨{ batch with remaining }, none⟩ .calling

def reloadingStep (batch : ToolBatch) : RunnerPoint :=
  match loadOwnedWorkState rows runtimeId with
  | .error _ => .exited .abnormal
  | .ok owned => .nextCall { batch with work := owned.lifecycle }

def forwardStep (run : ToolRun) (phase : ToolPhase) : RunnerPoint :=
  match loadOwnedWorkState rows runtimeId with
  | .error _ => .exited .abnormal
  | .ok owned =>
    if owned.lifecycle.state ≠ .cancelRequested ∨ owned.lifecycle.cancellationReason.isNone then
      .exited .abnormal
    else .tool { run with notice := some owned.lifecycle } phase

def cancellationSnapshot (notice : WorkLifecycleSnapshot) (toolId : ToolExecutionId) :
    Except ToolExecutionServiceErrorKind WorkLifecycleSnapshot := do
  refuseIf (notice.state != .cancelRequested || notice.currentAttempt != .tool toolId ||
    notice.runtimeOwner.isNone) .invalidCallContext
  return notice

def expectedToolWork (run : ToolRun) (tool : OpenTool) :
    Except ToolExecutionServiceErrorKind WorkLifecycleSnapshot :=
  match run.notice with
  | some notice => cancellationSnapshot notice tool.toolId
  | none => .ok tool.waiting

def recordPhase (run : ToolRun) (tool : OpenTool) (ending : ToolEnding) : ToolPhase :=
  match expectedToolWork run tool with
  | .error failure => .returned (some failure)
  | .ok expected => .recording tool expected ending

def callingPhase (run : ToolRun) : ToolPhase :=
  if run.batch.work.state ≠ .running ∨ run.batch.work.runtimeOwner ≠ some runtimeId ∨
      run.batch.work.currentAttempt ≠ .none then .returned (some .invalidCallContext)
  else if run.notice.isSome || answers.deadlinePassed then .returned (some .cancelledBeforeIntent)
  else match answers.tool with
    | .breaks failure => .returned (some failure.kind)
    | _ => .requesting answers.toolId

def requestingStep (run : ToolRun) (toolId : ToolExecutionId) : RunnerRows × RunnerPoint :=
  match decideNext run.batch.work (.waitForTool toolId) with
  | .error _ => (rows, .tool run (.returned (some .invalidCallContext)))
  | .ok waiting =>
    afterCommit rows (requestTool rows run.batch.work run.batch.sourceModel toolId waiting)
      (.tool run (.undispatched ⟨toolId, waiting, .requested⟩ .afterIntent))
      (.tool run (.returned (some .stateStore)))

def DispatchCheck.next (tool : OpenTool) : DispatchCheck → ToolPhase
  | .afterIntent => .undispatched tool .afterAuthority
  | .afterAuthority => .undispatched tool .afterPreparation
  | .afterPreparation => .intending tool

def undispatchedPhase (run : ToolRun) (tool : OpenTool) (check : DispatchCheck) : ToolPhase :=
  match answers.tool with
  | .breaks failure => .returned (some failure.kind)
  -- These finishes expect the waiting snapshot whether or not a notice has arrived.
  | .ends => .recording tool tool.waiting .completed
  | .proceeds | .endsUnknown _ =>
    if run.notice.isSome then recordPhase run tool .completed
    else if answers.deadlinePassed then .recording tool tool.waiting .completed
    else check.next tool

def intendingStep (run : ToolRun) (tool : OpenTool) : RunnerRows × RunnerPoint :=
  match answers.clock, answers.tool with
  | false, _ => (rows, .tool run (.returned (some .clock)))
  | true, .breaks failure => (rows, .tool run (.returned (some failure.kind)))
  | true, _ =>
    afterCommit rows (dispatchTool rows tool.waiting tool.toolId)
      (.tool run (.dispatched { tool with toolState := .dispatching }))
      (.tool run (.returned (some .stateStore)))

def dispatchedPhase (run : ToolRun) (tool : OpenTool) : ToolPhase :=
  if run.notice.isSome then recordPhase run tool .completed
  else if answers.deadlinePassed || answers.tool == .ends then
    .recording tool tool.waiting .completed
  else .handling tool

def handlingPhase (run : ToolRun) (tool : OpenTool) : ToolPhase :=
  match answers.tool with
  | .proceeds => .handling tool
  | .ends => recordPhase run tool .completed
  | .endsUnknown failure => recordPhase run tool (.unknown failure)
  | .breaks failure => .returned (some failure.kind)

def ToolEnding.interruption : ToolEnding → Option WorkInterruptionReason
  | .completed => none
  | .unknown _ => some .toolOutcomeUnknown

def ToolEnding.terminalState : ToolEnding → ToolExecutionState
  | .completed => .completed
  | .unknown _ => .outcomeUnknown

def ToolEnding.failure : ToolEnding → Option ToolExecutionServiceErrorKind
  | .completed => none
  | .unknown failure => some failure

def recordingStep (run : ToolRun) (tool : OpenTool) (expected : WorkLifecycleSnapshot)
    (ending : ToolEnding) : RunnerRows × RunnerPoint :=
  if !answers.clock then (rows, .tool run (.returned (some .clock)))
  else match terminalWorkNext expected tool.toolId ending.interruption with
    | .error failure => (rows, .tool run (.returned (some failure)))
    | .ok next =>
      afterCommit rows
        (finishToolRows rows expected tool.toolId tool.toolState ending.terminalState next)
        (.tool run (.returned ending.failure)) (.tool run (.returned (some .stateStore)))

def returnedPoint (run : ToolRun) : Option ToolExecutionServiceErrorKind → RunnerPoint
  | none => if run.notice.isSome then .exited .terminalCommitted else .reloading run.batch
  | some .outcomeUnknown => .exited .terminalCommitted
  | some .cancelledBeforeIntent =>
    .exited (if run.notice.isSome then .cancellationConfirmed else .abnormal)
  | some _ => .exited .abnormal

def toolStep (run : ToolRun) (phase : ToolPhase) : RunnerRows × RunnerPoint :=
  if answers.forwards && flag && run.notice.isNone then (rows, forwardStep runtimeId rows run phase)
  else match phase with
    | .calling => (rows, .tool run (callingPhase runtimeId answers run))
    | .requesting toolId => requestingStep rows run toolId
    | .undispatched tool check => (rows, .tool run (undispatchedPhase answers run tool check))
    | .intending tool => intendingStep answers rows run tool
    | .dispatched tool => (rows, .tool run (dispatchedPhase answers run tool))
    | .handling tool => (rows, .tool run (handlingPhase answers run tool))
    | .recording tool expected ending => recordingStep answers rows run tool expected ending
    | .returned failure => (rows, returnedPoint run failure)

def runnerStep : RunnerPoint → Option (RunnerRows × RunnerPoint)
  | .starting => some (rows, startingStep answers)
  | .loading agentStep => some (rows, loadingStep runtimeId rows agentStep)
  | .checking agentStep owned => some (rows, checkingStep limits answers flag agentStep owned)
  | .enteringGateway agentStep owned =>
    some (rows, enteringGatewayStep gateway answers flag agentStep owned)
  | .startingTurn position => some (rows, startingTurnStep gateway answers flag position)
  | .beginning position attemptId => some (beginningStep rows position attemptId)
  | .attempt opened phase => some (attemptStep answers flag rows opened phase)
  | .judging position => some (rows, judgingStep gateway answers position)
  | .backingOff position => some (rows, backingOffStep answers flag position)
  | .completing work modelId reason => some (completingStep answers rows work modelId reason)
  | .failing work reason => some (rows, failingStep rows work reason)
  | .terminalizing work next => some (terminalizingStep answers rows work next)
  | .batchLoading batch => some (rows, batchLoadingStep limits runtimeId rows batch)
  | .nextCall batch => some (rows, nextCallStep answers flag batch)
  | .tool run phase => some (toolStep runtimeId answers flag rows run phase)
  | .reloading batch => some (rows, reloadingStep runtimeId rows batch)
  | .exited _ => none

end

structure RunnerComposition where
  limits : AgentLoopLimits
  gateway : ModelGatewayLimits
  limitsValid : limits.isValid = true
  gatewayValid : gateway.isValid = true
  workId : WorkId
  runtimeId : RuntimeInstanceId

inductive SchedulerView
  | tracking | joined | failed
deriving DecidableEq

structure RunnerSystem where
  rows : RunnerRows
  flag : Bool
  runner : RunnerPoint
  scheduler : SchedulerView

inductive RunnerMove
  | cancel
  | scan (clock : Bool)
  | run (answers : Answers)
  | join (clock : Bool)

section

variable (composition : RunnerComposition)

def RunnerSystem.claimed : RunnerSystem where
  rows := {
    work := {
      workId := composition.workId
      state := .running
      projectionVersion := ⟨2, by decide, by decide⟩
      runtimeOwner := some composition.runtimeId
      currentAttempt := .none
      cancellationReason := none
      terminalReason := none }
    models := []
    tools := [] }
  flag := false
  runner := .starting
  scheduler := .tracking

def cancelMove (system : RunnerSystem) : Option RunnerSystem :=
  match applyCancellationDecision system.rows with
  | .error _ => none
  | .ok rows => some { system with rows }

def RunnerSystem.closedBy (system : RunnerSystem) (clock : Bool)
    (result : Except StoreRefusal RunnerRows) : RunnerSystem :=
  match clock, result with
  | true, .ok rows => { system with rows, scheduler := .joined }
  | _, _ => { system with scheduler := .failed }

def scanMove (system : RunnerSystem) (clock : Bool) : Option RunnerSystem :=
  if system.rows.work.state = .cancelRequested ∧
      system.rows.work.runtimeOwner = some composition.runtimeId then
    if system.scheduler = .tracking then some { system with flag := true }
    else if system.rows.work.currentAttempt = .none then
      some (system.closedBy clock (interruptOwnedWork system.rows composition.runtimeId))
    else none
  else none

def joinMove (system : RunnerSystem) (clock : Bool) : Option RunnerSystem :=
  match system.runner with
  | .exited .terminalCommitted => some { system with scheduler := .joined }
  | .exited .cancellationConfirmed =>
    some (system.closedBy clock (finishCancellation system.rows composition.runtimeId))
  | .exited .abnormal =>
    some (system.closedBy clock (interruptOwnedWork system.rows composition.runtimeId))
  | _ => none

def runMove (system : RunnerSystem) (answers : Answers) : Option RunnerSystem :=
  (runnerStep composition.limits composition.gateway composition.runtimeId answers system.flag
    system.rows system.runner).map fun (rows, runner) => { system with rows, runner }

def systemMove (system : RunnerSystem) (move : RunnerMove) : Option RunnerSystem :=
  match system.scheduler, move with
  | .failed, _ => none
  | _, .cancel => cancelMove system
  | _, .scan clock => scanMove composition system clock
  | .joined, .run _ | .joined, .join _ => none
  | .tracking, .run answers => runMove composition system answers
  | .tracking, .join clock => joinMove composition system clock

end

end Craxii
