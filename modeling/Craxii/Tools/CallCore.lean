import Craxii.Tools.ExecutionCore
import Craxii.Workstation.SuperviseCore

/-!
Embedding of `execute_call_inner` against every answer of the clock, the store, the workstation
and the cancellation channel.
-/

namespace Craxii

open Utf8Text ExceptRules

structure OperationId where
  uuid : Uuid
deriving DecidableEq

def NormalizedError.toolValidation : NormalizedError :=
  ⟨.toolValidationError, .never, .definite, none⟩

def NormalizedError.authority : NormalizedError :=
  ⟨.authorityError, .never, .definite, none⟩

def maxRawToolArgumentBytes : Nat := 524288

structure ServiceLimits extends ToolRuntimeLimits where
  (readFileDefaultBytes readFileMaxBytes runShellCommandMaxBytes runShellDefaultTimeoutMs : Nat)
  (runShellMaxTimeoutMs stdoutCaptureBytes stderrCaptureBytes : Nat)

variable (limits : ServiceLimits)

def ServiceLimits.isValid : Bool :=
  !(limits.readFileDefaultBytes == 0 ||
    decide (limits.readFileMaxBytes < limits.readFileDefaultBytes) ||
    decide (hardFileReadMaxBytes < limits.readFileMaxBytes) ||
    limits.runShellCommandMaxBytes == 0 ||
    decide (hardExecutionCommandMaxBytes < limits.runShellCommandMaxBytes) ||
    limits.runShellDefaultTimeoutMs == 0 ||
    decide (limits.runShellMaxTimeoutMs < limits.runShellDefaultTimeoutMs) ||
    decide (hardExecutionTimeoutMs < limits.runShellMaxTimeoutMs) ||
    decide (hardExecutionStreamCaptureBytes < limits.stdoutCaptureBytes) ||
    decide (hardExecutionStreamCaptureBytes < limits.stderrCaptureBytes) ||
    limits.inlineModelResultBytes == 0 || limits.perStreamProjectionBytes == 0 ||
    decide (limits.inlineModelResultBytes < limits.perStreamProjectionBytes))

structure ToolService where
  limits : ServiceLimits
  valid : limits.isValid = true
  inlineCanonical : limits.inlineModelResultBytes ≤ i64Max

inductive RegisteredTool
  | readFile
  | runShell
deriving DecidableEq

def RegisteredTool.hardTimeoutMs : RegisteredTool → Option Nat
  | .readFile => none
  | .runShell => some limits.runShellMaxTimeoutMs

inductive ValidatedToolInput
  | readFile (path : LogicalPathReference) (maxBytes : Nat)
  | runShell (commandBytes : Nat) (commandSha256 : Sha256Digest)
      (requestedCwd : Option LogicalPathReference) (privilege : PrivilegeMode) (timeoutMs : Nat)

namespace ValidatedToolInput

def tool : ValidatedToolInput → RegisteredTool
  | .readFile _ _ => .readFile
  | .runShell _ _ _ _ _ => .runShell

def requestedPrivilege : ValidatedToolInput → PrivilegeMode
  | .readFile _ _ => .user
  | .runShell _ _ _ privilege _ => privilege

def requestedTimeoutMs : ValidatedToolInput → Option Nat
  | .readFile _ _ => none
  | .runShell _ _ _ _ timeoutMs => some timeoutMs

def withinRuntimeLimits : ValidatedToolInput → Bool
  | .readFile _ maxBytes => decide (maxBytes ≤ limits.readFileMaxBytes)
  | .runShell commandBytes _ _ _ timeoutMs =>
    decide (commandBytes ≤ limits.runShellCommandMaxBytes) &&
      decide (timeoutMs ≤ limits.runShellMaxTimeoutMs)

def requestedCwd (workspaceDefault : LogicalPathReference) : ValidatedToolInput → LogicalPathReference
  | .readFile _ _ => workspaceDefault
  | .runShell _ _ requestedCwd _ _ => requestedCwd.getD workspaceDefault

end ValidatedToolInput

structure ValidatedToolArguments where
  input : ValidatedToolInput
  canonicalBytes : Nat

inductive RequestedTool
  | unknown
  | invalid (tool : RegisteredTool)
  | valid (arguments : ValidatedToolArguments)

namespace RequestedTool

def definition : RequestedTool → Option RegisteredTool
  | .unknown => none
  | .invalid tool => some tool
  | .valid arguments => some arguments.input.tool

def input : RequestedTool → Option ValidatedToolInput
  | .valid arguments => some arguments.input
  | _ => none

def screen : RequestedTool → Except ToolResultClass ValidatedToolArguments
  | .unknown => .error .unknownTool
  | .invalid _ => .error .validationRejection
  | .valid arguments =>
    if arguments.input.withinRuntimeLimits limits then .ok arguments
    else .error .validationRejection

end RequestedTool

/-! Deadlines, in nanoseconds of the monotonic clock. -/

def durationMaxNanos : Nat := u64Max * 1000000000 + 999999999

def effectiveOuterDeadline (work : Nat) (shutdown : Option Nat) : Nat :=
  match shutdown with
  | some shutdown => min work shutdown
  | none => work

def monotonicDeadline (now timeoutMs : Nat) : Except ToolExecutionServiceErrorKind Nat := do
  refuseIf (decide (durationMaxNanos < now + timeoutMs * nanosPerMilli)) .clock
  return now + timeoutMs * nanosPerMilli

def remainingMillis (start deadline : Nat) : Nat :=
  if (deadline - start) / nanosPerMilli ≤ u64Max then (deadline - start) / nanosPerMilli else 0

def freezeToolDeadline (requested : Nat) (hardTimeout : Option Nat) (configMax start outer : Nat) :
    Except ToolExecutionServiceErrorKind (Nat × Nat) := do
  let bounded := min (min requested (hardTimeout.getD hardExecutionTimeoutMs)) configMax
  let timeoutDeadline ← monotonicDeadline start bounded
  let effective := min (remainingMillis start outer) bounded
  refuseIf (effective == 0) .cancelledBeforeIntent
  return (effective, min timeoutDeadline outer)

def capabilityBoundedTimeout (policyTimeoutMs : Nat) (hardTimeout : Option Nat)
    (workstationMax : Nat) : Nat :=
  if hardTimeout.isSome then min policyTimeoutMs workstationMax else policyTimeoutMs

/-! `V0AuthorityEvaluator`. -/

structure V0AuthorityConstraints where
  (toolAllowed administrativeAllowed : Bool)

structure WorkstationCapabilities where
  workstationId : WorkstationId
  generation : WorkstationGeneration
  workspaces : List WorkspaceId
  (filesystemRead foregroundExecute privilegeUser privilegeAdministrative : Bool)
  (maxExecutionTimeoutMs maxStdoutBytes maxStderrBytes : Nat)

structure AuthorityEvaluationInput where
  expectedWorkstationId : WorkstationId
  expectedGeneration : WorkstationGeneration
  workspaceId : WorkspaceId
  tool : RegisteredTool
  hardTimeout : Option Nat
  canonicalArgumentBytes : Nat
  requestedPrivilege : PrivilegeMode
  (requestedTimeoutMs requestedStdoutBytes requestedStderrBytes : Nat)
  workCancelled : Bool
  constraints : V0AuthorityConstraints
  capabilities : WorkstationCapabilities

/-- `denial_reason` for a registered tool with well-formed arguments that widen nothing, in
the workspace of the call. -/
def denialReason (input : AuthorityEvaluationInput) : Text :=
  let capabilities := input.capabilities
  let administrative := input.requestedPrivilege == .administrative
  if input.workCancelled then "cancelled_work".toList
  else if !input.constraints.toolAllowed ||
      (administrative && !input.constraints.administrativeAllowed) then
    "explicit_constraint_denial".toList
  else if capabilities.workstationId ≠ input.expectedWorkstationId then "wrong_workstation".toList
  else if capabilities.generation ≠ input.expectedGeneration then "stale_generation".toList
  else if !capabilities.workspaces.contains input.workspaceId then "wrong_workspace".toList
  else if !(match input.tool with
      | .readFile => capabilities.filesystemRead
      | .runShell => capabilities.foregroundExecute) || !capabilities.privilegeUser then
    "unsupported_capability".toList
  else if administrative && (input.tool == .readFile || !capabilities.privilegeAdministrative) then
    "administrative_unavailable".toList
  else if decide (maxRawToolArgumentBytes < input.canonicalArgumentBytes) ||
      input.requestedTimeoutMs == 0 ||
      input.hardTimeout.any (fun hard => decide (hard < input.requestedTimeoutMs)) ||
      decide (capabilities.maxExecutionTimeoutMs < input.requestedTimeoutMs) ||
      decide (capabilities.maxStdoutBytes < input.requestedStdoutBytes) ||
      decide (capabilities.maxStderrBytes < input.requestedStderrBytes) then
    "limit_exceeded".toList
  else "allowed".toList

def evaluateAuthority (input : AuthorityEvaluationInput) : AuthorityDecisionSnapshot :=
  let reason := denialReason input
  if reason = "allowed".toList then ⟨.allow, input.requestedPrivilege, reason⟩
  else ⟨.deny, .user, reason⟩

structure CallContext where
  craxiiId : CraxiiId
  work : WorkLifecycleSnapshot
  runtimeInstanceId : RuntimeInstanceId
  named : Bool
  requested : RequestedTool
  correlationId : CorrelationId
  workstationId : WorkstationId
  workstationGeneration : WorkstationGeneration
  workspaceId : WorkspaceId
  workspaceCraxiiId : CraxiiId
  workspaceWorkstationId : WorkstationId
  logicalRoot : LogicalPathReference
  workDeadline : Nat
  shutdownDeadline : Option Nat
  authorityConstraints : V0AuthorityConstraints

namespace CallContext

def isValid (context : CallContext) : Bool :=
  context.work.state == .running && context.work.runtimeOwner == some context.runtimeInstanceId &&
    context.work.currentAttempt == .none && context.workspaceCraxiiId == context.craxiiId &&
    context.workspaceWorkstationId == context.workstationId

def call (context : CallContext) : ToolExecutionCall where
  craxiiId := context.craxiiId
  workId := context.work.workId
  correlationId := context.correlationId
  workstationId := context.workstationId
  workstationGeneration := context.workstationGeneration
  workspaceId := context.workspaceId

def outerDeadline (context : CallContext) : Nat :=
  effectiveOuterDeadline context.workDeadline context.shutdownDeadline

def requestedCwd (context : CallContext) : LogicalPathReference :=
  match context.requested.input with
  | some input => input.requestedCwd context.logicalRoot
  | none => context.logicalRoot

def requestedTimeoutMs (context : CallContext) (limits : ServiceLimits) : Nat :=
  min ((context.requested.input.bind ValidatedToolInput.requestedTimeoutMs).getD
    limits.runShellDefaultTimeoutMs) limits.runShellMaxTimeoutMs

end CallContext

structure ToolCancellationNotice where
  expectedWork : WorkExpectation
  reason : WorkCancellationReason

def ToolCancellationNotice.isFor (toolId : ToolExecutionId) (notice : ToolCancellationNotice) : Bool :=
  notice.expectedWork.state == .cancelRequested &&
    notice.expectedWork.currentAttempt == .tool toolId && notice.expectedWork.runtimeOwner.isSome

abbrev NoticeFor (toolId : ToolExecutionId) :=
  { notice : ToolCancellationNotice // notice.isFor toolId = true }

inductive StoreAnswer
  | commits
  | fails (kept : Bool)

inductive PortAnswer (Value : Type)
  | answers (value : Value)
  | fails (error : WorkstationError)
  | never

inductive HandlerAnswer (Value : Type)
  | answers (value : Value)
  | fails (error : WorkstationError)
  | panics
  | never

structure CapabilitiesResult where
  sameOperation : Bool
  capabilities : WorkstationCapabilities

structure PreparationResult where
  sameOperation : Bool
  resolvedCwd : ResolvedPathEvidence

structure ReadObservation where
  operationId : OperationId
  result : FileReadResult
  canonical : result.byteLength ≤ i64Max

structure ShellObservation where
  operationId : OperationId
  result : ExecutionResult
  exitCode : ∀ code ∈ result.exitCode, IsI64 code
  signal : ∀ code ∈ result.terminatingSignal, IsI64 code

inductive CancelAnswer
  | settled | cleanupUnconfirmed | fails | never

/-- What the `select!` hears besides the handler; `polled` tells whether the handler was
polled before. -/
inductive SelectTurn (toolId : ToolExecutionId)
  | changed (polled : Bool) (notice : Option (NoticeFor toolId))
  | senderDropped (polled : Bool)

structure HandlerAnswers (toolId : ToolExecutionId) where
  receiver : Bool
  notice : Option (NoticeFor toolId)
  turns : List (SelectTurn toolId)
  cancel : CancelAnswer
  readFile : HandlerAnswer ReadObservation
  runShell : HandlerAnswer ShellObservation

structure FinishAnswers where
  stamp : OutcomeStamp
  (clock evidenceClock artifacts : Bool)
  store : StoreAnswer

structure CallAnswers where
  toolId : ToolExecutionId
  executionId : ExecutionId
  (requestEventId dispatchEventId : JournalEventId)
  handlerOperationId : OperationId
  (start afterRequest afterCapabilities beforeDispatch afterDispatch : Nat)
  operationDuration : DurationMillis
  noticeAtStart : Option (NoticeFor toolId)
  noticeAfterRequest : Option (NoticeFor toolId)
  noticeAtAuthority : Option (NoticeFor toolId)
  noticeAfterAuthority : Option (NoticeFor toolId)
  noticeAfterPreparation : Option (NoticeFor toolId)
  noticeAfterDispatch : Option (NoticeFor toolId)
  requestClock : Bool
  request : StoreAnswer
  capabilities : PortAnswer CapabilitiesResult
  preparation : PortAnswer PreparationResult
  dispatchAt : Option UtcTimestamp
  dispatch : StoreAnswer
  handler : HandlerAnswers toolId
  finish : FinishAnswers

inductive CallAction
  | requestCommit (committed : Bool)
  | noticeCheck (seen : Bool)
  | deadlineCheck (passed : Bool)
  | authorityCheck (cancelled : Bool)
  | dispatchCommit (committed : Bool)
  | handOff
  | cancelExecution
  | finishing (expected : WorkLifecycleSnapshot)
  | operationFailed
deriving DecidableEq

structure StoredCall where
  state : ToolExecutionState
  work : WorkLifecycleSnapshot
  outcome : Option ToolTerminalOutcome

structure CallWorld where
  trace : List CallAction
  stored : Option StoredCall

inductive CallEnding
  | returned (failure : Option ToolExecutionServiceErrorKind)
  | pending
deriving DecidableEq

structure CallRun where
  world : CallWorld
  ending : CallEnding

variable (stamp : OutcomeStamp) (world : CallWorld) (error : WorkstationError) (kind : ToolExecutionServiceErrorKind)

namespace CallWorld

def log (action : CallAction) : CallWorld :=
  { world with trace := action :: world.trace }

def fails : CallRun :=
  ⟨world, .returned (some kind)⟩

def breaks : CallRun :=
  (world.log .operationFailed).fails kind

def waits : CallRun :=
  ⟨world, .pending⟩

def record (request : FinishToolExecutionRequest) : CallWorld :=
  { world with stored := some ⟨request.outcome.state, request.workNext, some request.outcome⟩ }

def checkNotice {Notice : Type} (notice : Option Notice)
    (stop : CallWorld → Notice → CallRun) (go : CallWorld → CallRun) : CallRun :=
  match notice with
  | some notice => stop (world.log (.noticeCheck true)) notice
  | none => go (world.log (.noticeCheck false))

def checkDeadline (now deadline : Nat) (stop go : CallWorld → CallRun) : CallRun :=
  if deadline ≤ now then stop (world.log (.deadlineCheck true))
  else go (world.log (.deadlineCheck false))

end CallWorld

def concludeCall (answers : FinishAnswers) (expected : WorkLifecycleSnapshot)
    (planned : Except ToolExecutionServiceErrorKind FinishPlan) (world : CallWorld) : CallRun :=
  let world := world.log (.finishing expected)
  if answers.clock then
    match planned with
    | .error kind => world.fails kind
    | .ok plan =>
      match answers.store with
      | .commits => ⟨world.record plan.request, .returned plan.failure⟩
      | .fails kept => (if kept then world.record plan.request else world).breaks .stateStore
  else world.breaks .clock

def plainOutcome (result : ToolResultEvidence) (error : NormalizedError) :
    ToolTerminalOutcome where
  state := .completed
  predispatchAuthority := none
  startedAt := none
  completedAt := stamp.completedAt
  exitCode := none
  signal := none
  timedOut := none
  cancelled := none
  cleanupConfirmed := none
  result := some result
  evidenceArtifactIds := []
  stdoutArtifactId := none
  stderrArtifactId := none
  stdoutCounts := none
  stderrCounts := none
  truncated := false
  normalizedError := some error

def planOutcome (call : ToolExecutionCall) (expectedTool : ToolExpectation) (causation : JournalEventId)
    (stamp : OutcomeStamp) (expectedWork : WorkLifecycleSnapshot) (outcome : ToolTerminalOutcome) :
    Except ToolExecutionServiceErrorKind FinishPlan := do
  let workNext ← terminalWorkNext expectedWork expectedTool.toolExecutionId none
  return {
    request := {
      expectedWork := .forSnapshot expectedWork
      expectedTool
      outcome
      artifacts := []
      workNext
      toolEvent := ⟨stamp.toolEventId, call.correlationId, some causation⟩
      workEvent := ⟨stamp.workEventId, call.correlationId, some stamp.toolEventId⟩ }
    failure := none }

def predispatchSummary : ToolResultClass → Text
  | .unknownTool => "Unknown tool.".toList
  | .validationRejection => "Tool arguments were rejected.".toList
  | .authorityDenial => "Tool authority was denied.".toList
  | _ => "Tool request was rejected before dispatch.".toList

def predispatchOutcome (result : ToolResultClass)
    (authority : Option AuthorityDecisionSnapshot) : ToolTerminalOutcome :=
  { plainOutcome stamp ⟨result, predispatchSummary result, []⟩
      (if result = .authorityDenial then .authority else .toolValidation) with
    predispatchAuthority := authority }

def predispatchErrorOutcome : ToolTerminalOutcome :=
  plainOutcome stamp ⟨.fileError, "Workstation preparation failed before dispatch.".toList, []⟩
    error.normalized

def cancellationOutcome (dispatched : Bool) : ToolTerminalOutcome :=
  { plainOutcome stamp
      ⟨.cancellation, "Tool execution was cancelled before machine handoff.".toList, []⟩
      (.cancellation .definite) with
    timedOut := if dispatched then some false else none
    cancelled := if dispatched then some true else none
    cleanupConfirmed := if dispatched then some true else none }

def workstationErrorClass : ToolResultClass :=
  match error.kind with
  | .timeout => .timeout
  | .cancelled => .cancellation
  | .spawnFailed => .spawnFailure
  | _ => .fileError

def dispatchedErrorOutcome : ToolTerminalOutcome :=
  let result := workstationErrorClass error
  { plainOutcome stamp ⟨result, "The workstation returned a definite error.".toList, []⟩
      error.normalized with
    timedOut := some (result == .timeout)
    cancelled := some (result == .cancellation)
    cleanupConfirmed := if result == .timeout || result == .cancellation then some true else none }

def waitingSnapshot (workId : WorkId) (runtimeId : RuntimeInstanceId) (previous : ProjectionVersion)
    (toolId : ToolExecutionId) : Except ToolExecutionServiceErrorKind WorkLifecycleSnapshot := do
  let projectionVersion ← orRefuse previous.checkedIncrement .invalidCallContext
  let snapshot : WorkLifecycleSnapshot := {
    workId
    state := .waitingOnTool
    projectionVersion
    runtimeOwner := some runtimeId
    currentAttempt := .tool toolId
    cancellationReason := none
    terminalReason := none }
  refuseIf (!workShapeOk snapshot.state snapshot.runtimeOwner snapshot.currentAttempt
    snapshot.cancellationReason snapshot.terminalReason) .invalidCallContext
  return snapshot

def noticeSnapshot (notice : ToolCancellationNotice) (toolId : ToolExecutionId) :
    Except ToolExecutionServiceErrorKind WorkLifecycleSnapshot := do
  refuseIf (!notice.isFor toolId) .invalidCallContext
  let snapshot : WorkLifecycleSnapshot := {
    workId := notice.expectedWork.workId
    state := .cancelRequested
    projectionVersion := notice.expectedWork.version
    runtimeOwner := notice.expectedWork.runtimeOwner
    currentAttempt := notice.expectedWork.currentAttempt
    cancellationReason := some notice.reason
    terminalReason := none }
  refuseIf (!workShapeOk snapshot.state snapshot.runtimeOwner snapshot.currentAttempt
    snapshot.cancellationReason snapshot.terminalReason) .invalidCallContext
  return snapshot

inductive HandlerPoll
  | cancelledBeforeHandoff
  | panicked
  | failed (error : WorkstationError)
  | readFile (observation : ReadObservation)
  | runShell (observation : ShellObservation)

def HandlerAnswer.poll {Value : Type} (observed : Value → HandlerPoll) :
    HandlerAnswer Value → Option HandlerPoll
  | .answers value => some (observed value)
  | .fails error => some (.failed error)
  | .panics => some .panicked
  | .never => none

def handlerPoll {toolId : ToolExecutionId} (answers : HandlerAnswers toolId) (tool : RegisteredTool) :
    Option HandlerPoll :=
  match tool with
  | .readFile => answers.readFile.poll .readFile
  | .runShell => answers.runShell.poll .runShell

structure AwaitState (toolId : ToolExecutionId) where
  notice : Option (NoticeFor toolId)
  (handoffStarted cancellationSent cancellationUnconfirmed : Bool)

structure Polled (toolId : ToolExecutionId) where
  poll : HandlerPoll
  notice : Option (NoticeFor toolId)
  cancellationUnconfirmed : Bool

section

variable {toolId : ToolExecutionId} (answers : HandlerAnswers toolId) (tool : RegisteredTool)

def AwaitState.handOver (state : AwaitState toolId) (polled : Bool) (world : CallWorld) :
    AwaitState toolId × CallWorld :=
  if polled && !state.handoffStarted then
    ({ state with handoffStarted := true }, world.log .handOff)
  else (state, world)

def AwaitState.resolve (state : AwaitState toolId) (world : CallWorld) :
    CallWorld × Option (Polled toolId) :=
  let (state, world) := state.handOver true world
  (world, (handlerPoll answers tool).map fun poll =>
    ⟨poll, state.notice, state.cancellationUnconfirmed⟩)

def AwaitState.requestCancellation (state : AwaitState toolId) (world : CallWorld) :
    CallWorld × Option (AwaitState toolId) :=
  if state.notice.isSome && tool == .runShell && !state.cancellationSent then
    let world := world.log .cancelExecution
    match answers.cancel with
    | .settled =>
      (world, some { state with cancellationSent := true, cancellationUnconfirmed := false })
    | .cleanupUnconfirmed | .fails =>
      (world, some { state with cancellationSent := true, cancellationUnconfirmed := true })
    | .never => (world, none)
  else (world, some state)

def awaitTurn (listen : AwaitState toolId → CallWorld → CallWorld × Option (Polled toolId))
    (state : AwaitState toolId) (world : CallWorld) : CallWorld × Option (Polled toolId) :=
  if state.notice.isSome && !state.handoffStarted then
    (world, some ⟨.cancelledBeforeHandoff, state.notice, false⟩)
  else
    match state.requestCancellation answers tool world with
    | (world, none) => (world, none)
    | (world, some state) =>
      if !answers.receiver || state.notice.isSome then state.resolve answers tool world
      else listen state world

def awaitLoop : List (SelectTurn toolId) → AwaitState toolId → CallWorld →
    CallWorld × Option (Polled toolId)
  | [] => awaitTurn answers tool fun state world => state.resolve answers tool world
  | .senderDropped polled :: _ => awaitTurn answers tool fun state world =>
    let (state, world) := state.handOver polled world
    state.resolve answers tool world
  | .changed polled notice :: rest => awaitTurn answers tool fun state world =>
    let (state, world) := state.handOver polled world
    awaitLoop rest { state with notice } (world.log (.noticeCheck notice.isSome))

def awaitHandler (world : CallWorld) : CallWorld × Option (Polled toolId) :=
  awaitLoop answers tool answers.turns ⟨answers.notice, false, false, false⟩
    (world.log (.noticeCheck answers.notice.isSome))

end

/-! `execute_call_inner`, from its last stage to its first. -/

section

variable (digest : List UInt8 → Sha256Digest) (service : ToolService) (context : CallContext)
  (answers : CallAnswers)

structure Handover where
  waiting : WorkLifecycleSnapshot
  resolvedCwd : ResolvedPathEvidence
  privilege : PrivilegeMode
  dispatchAt : UtcTimestamp

def dispatchedTool (handover : Handover) : DispatchedTool where
  toolExecutionId := answers.toolId
  executionId := answers.executionId
  causation := answers.dispatchEventId
  dispatchAt := handover.dispatchAt

def concludePredispatch (waiting : WorkLifecycleSnapshot) (outcome : ToolTerminalOutcome)
    (world : CallWorld) : CallRun :=
  concludeCall answers.finish waiting
    (planOutcome context.call ⟨answers.toolId, .requested⟩ answers.requestEventId answers.finish.stamp
      waiting outcome) world

def concludeDispatched (expected : WorkLifecycleSnapshot) (outcome : ToolTerminalOutcome)
    (world : CallWorld) : CallRun :=
  concludeCall answers.finish expected
    (planOutcome context.call ⟨answers.toolId, .dispatching⟩ answers.dispatchEventId
      answers.finish.stamp expected outcome) world

def concludeUnknown (handover : Handover) (expected : WorkLifecycleSnapshot)
    (failure : ToolExecutionServiceErrorKind) (world : CallWorld) : CallRun :=
  concludeCall answers.finish expected
    (persistOutcomeUnknown context.call (dispatchedTool answers handover) answers.finish.stamp expected
      (.workstation .outcomeUnknown none) failure) world

def settleReadFile (handover : Handover) (expected : WorkLifecycleSnapshot)
    (path : LogicalPathReference) (observation : ReadObservation) (world : CallWorld) : CallRun :=
  let result := observation.result
  let omitted := utf8Len result.text - utf8Len (readProjection service.limits.toToolRuntimeLimits result.text)
  if !readUntrusted digest context.call path result && decide (0 < omitted) &&
      !(answers.finish.artifacts && answers.finish.evidenceClock) then
    concludeUnknown context answers handover expected
      (if answers.finish.artifacts then .clock else .artifact) (world.log .operationFailed)
  else
    concludeCall answers.finish expected
      (finishReadFile digest service.limits.toToolRuntimeLimits context.call
        (dispatchedTool answers handover) answers.finish.stamp expected path result
        answers.operationDuration) world

def expectedExecution (handover : Handover) (commandSha256 : Sha256Digest) : ExpectedExecution :=
  ⟨context.requestedCwd, handover.resolvedCwd, handover.privilege, commandSha256⟩

def settleRunShell (handover : Handover) (expected : WorkLifecycleSnapshot)
    (commandSha256 : Sha256Digest) (observation : ShellObservation) (world : CallWorld) : CallRun :=
  let execution := expectedExecution context handover commandSha256
  if !executionUntrusted context.call execution observation.result &&
      observation.result.executionId == answers.executionId && !answers.finish.evidenceClock then
    world.breaks .clock
  else
    concludeCall answers.finish expected
      (finishRunShell service.limits.toToolRuntimeLimits context.call (dispatchedTool answers handover)
        answers.finish.stamp expected execution observation.result) world

def expectedWorkOf (waiting : WorkLifecycleSnapshot) :
    Option (NoticeFor answers.toolId) → Except ToolExecutionServiceErrorKind WorkLifecycleSnapshot
  | some notice => noticeSnapshot notice.val answers.toolId
  | none => .ok waiting

def settleHandler (handover : Handover) (input : ValidatedToolInput) (polled : Polled answers.toolId)
    (world : CallWorld) : CallRun :=
  match expectedWorkOf answers handover.waiting polled.notice with
  | .error kind => world.fails kind
  | .ok expected =>
    match polled.poll, input with
    | .cancelledBeforeHandoff, _ =>
      concludeDispatched context answers expected
        (cancellationOutcome answers.finish.stamp true) world
    | .panicked, _ =>
      concludeUnknown context answers handover expected .handlerPanickedAfterPossibleHandoff world
    | .failed error, _ =>
      if error.certainty == .outcomeUnknown || polled.cancellationUnconfirmed then
        concludeUnknown context answers handover expected .outcomeUnknown world
      else
        concludeDispatched context answers expected
          (dispatchedErrorOutcome answers.finish.stamp error) world
    | .readFile observation, .readFile path _ =>
      if observation.operationId ≠ answers.handlerOperationId then
        concludeUnknown context answers handover expected .outcomeUnknown world
      else settleReadFile digest service context answers handover expected path observation world
    | .runShell observation, .runShell _ commandSha256 _ _ _ =>
      if observation.operationId ≠ answers.handlerOperationId ∨
          observation.result.executionId ≠ answers.executionId then
        concludeUnknown context answers handover expected .outcomeUnknown world
      else
        settleRunShell service context answers handover expected commandSha256 observation world
    -- A handler answers with the observation of its own tool.
    | .readFile _, .runShell _ _ _ _ _ | .runShell _, .readFile _ _ => world.waits

def runHandler (handover : Handover) (input : ValidatedToolInput) (world : CallWorld) : CallRun :=
  match awaitHandler answers.handler input.tool world with
  | (world, none) => world.waits
  | (world, some polled) => settleHandler digest service context answers handover input polled world

def cancelBeforeDispatch (world : CallWorld) (notice : NoticeFor answers.toolId) : CallRun :=
  match noticeSnapshot notice.val answers.toolId with
  | .error kind => world.fails kind
  | .ok expected =>
    concludePredispatch context answers expected (cancellationOutcome answers.finish.stamp false) world

def cancelBeforeHandoff (world : CallWorld) (notice : NoticeFor answers.toolId) : CallRun :=
  match noticeSnapshot notice.val answers.toolId with
  | .error kind => world.fails kind
  | .ok expected =>
    concludeDispatched context answers expected (cancellationOutcome answers.finish.stamp true) world

def afterDispatch (deadline : Nat) (handover : Handover) (input : ValidatedToolInput)
    (world : CallWorld) : CallRun :=
  world.checkNotice answers.noticeAfterDispatch (cancelBeforeHandoff context answers) fun world =>
    world.checkDeadline answers.afterDispatch deadline
      (concludeDispatched context answers handover.waiting
        (dispatchedErrorOutcome answers.finish.stamp (.new .timeout)))
      (runHandler digest service context answers handover input)

def commitDispatch (deadline : Nat) (waiting : WorkLifecycleSnapshot) (resolvedCwd : ResolvedPathEvidence)
    (privilege : PrivilegeMode) (input : ValidatedToolInput) (world : CallWorld) : CallRun :=
  match answers.dispatchAt with
  | none => world.breaks .clock
  | some dispatchAt =>
    let dispatched := { world with stored := some ⟨.dispatching, waiting, none⟩ }
    match answers.dispatch with
    | .fails kept =>
      ((if kept then dispatched else world).log (.dispatchCommit false)).breaks .stateStore
    | .commits =>
      afterDispatch digest service context answers deadline
        ⟨waiting, resolvedCwd, privilege, dispatchAt⟩ input
        (dispatched.log (.dispatchCommit true))

def PreparationResult.isFor (prepared : PreparationResult) : Bool :=
  prepared.sameOperation && prepared.resolvedCwd.workstationId == context.workstationId &&
    prepared.resolvedCwd.workstationGeneration == context.workstationGeneration &&
    prepared.resolvedCwd.workspaceId == context.workspaceId &&
    prepared.resolvedCwd.requestedPath == context.requestedCwd

def prepareWorkstation (deadline : Nat) (waiting : WorkLifecycleSnapshot) (privilege : PrivilegeMode)
    (input : ValidatedToolInput) (world : CallWorld) : CallRun :=
  let refuse error :=
    concludePredispatch context answers waiting (predispatchErrorOutcome answers.finish.stamp error)
  match answers.preparation with
  | .never => world.waits
  | .fails error => refuse error world
  | .answers prepared =>
    if prepared.isFor context then
      world.checkNotice answers.noticeAfterPreparation (cancelBeforeDispatch context answers)
        fun world => world.checkDeadline answers.beforeDispatch deadline (refuse (.new .timeout))
          (commitDispatch digest service context answers deadline waiting prepared.resolvedCwd
            privilege input)
    else refuse (.new .internalWorkstationError) world

def authorityInput (arguments : ValidatedToolArguments) (timeoutMs : Nat)
    (capabilities : WorkstationCapabilities) : AuthorityEvaluationInput where
  expectedWorkstationId := context.workstationId
  expectedGeneration := context.workstationGeneration
  workspaceId := context.workspaceId
  tool := arguments.input.tool
  hardTimeout := arguments.input.tool.hardTimeoutMs service.limits
  canonicalArgumentBytes := arguments.canonicalBytes
  requestedPrivilege := arguments.input.requestedPrivilege
  requestedTimeoutMs := timeoutMs
  requestedStdoutBytes := min service.limits.stdoutCaptureBytes capabilities.maxStdoutBytes
  requestedStderrBytes := min service.limits.stderrCaptureBytes capabilities.maxStderrBytes
  workCancelled := answers.noticeAtAuthority.isSome
  constraints := context.authorityConstraints
  capabilities := capabilities

def evaluateCall (deadline timeoutMs : Nat) (waiting : WorkLifecycleSnapshot)
    (arguments : ValidatedToolArguments) (capabilities : WorkstationCapabilities) (world : CallWorld) :
    CallRun :=
  let authority :=
    evaluateAuthority (authorityInput service context answers arguments timeoutMs capabilities)
  let world := world.log (.authorityCheck answers.noticeAtAuthority.isSome)
  if authority.decision = .allow then
    world.checkNotice answers.noticeAfterAuthority (cancelBeforeDispatch context answers)
      (prepareWorkstation digest service context answers deadline waiting authority.effectivePrivilege
        arguments.input)
  else
    concludePredispatch context answers waiting
      (predispatchOutcome answers.finish.stamp .authorityDenial (some authority)) world

def queryCapabilities (deadline policyTimeoutMs : Nat) (waiting : WorkLifecycleSnapshot)
    (arguments : ValidatedToolArguments) (world : CallWorld) : CallRun :=
  let refuse error :=
    concludePredispatch context answers waiting (predispatchErrorOutcome answers.finish.stamp error)
  match answers.capabilities with
  | .never => world.waits
  | .fails error => refuse error world
  | .answers result =>
    if result.sameOperation then
      let timeoutMs := capabilityBoundedTimeout policyTimeoutMs
        (arguments.input.tool.hardTimeoutMs service.limits) result.capabilities.maxExecutionTimeoutMs
      if timeoutMs = 0 then refuse (.new .timeout) world
      else
        world.checkDeadline answers.afterCapabilities deadline (refuse (.new .timeout))
          (evaluateCall digest service context answers deadline timeoutMs waiting arguments
            result.capabilities)
    else refuse (.new .internalWorkstationError) world

def afterRequest (deadline policyTimeoutMs : Nat) (waiting : WorkLifecycleSnapshot) (world : CallWorld) :
    CallRun :=
  match context.requested.screen service.limits with
  | .error result =>
    concludePredispatch context answers waiting
      (predispatchOutcome answers.finish.stamp result none) world
  | .ok arguments =>
    world.checkDeadline answers.afterRequest deadline
      (concludePredispatch context answers waiting
        (predispatchErrorOutcome answers.finish.stamp (.new .timeout)))
      fun world =>
        world.checkNotice answers.noticeAfterRequest (cancelBeforeDispatch context answers)
          (queryCapabilities digest service context answers deadline policyTimeoutMs waiting arguments)

def commitRequest (deadline policyTimeoutMs : Nat) (world : CallWorld) : CallRun :=
  match decideWorkTransition context.work (.forSnapshot context.work) (.waitForTool answers.toolId) with
  | .error _ => world.fails .invalidCallContext
  | .ok decision =>
    let requested := { world with stored := some ⟨.requested, decision.next, none⟩ }
    match answers.request with
    | .fails kept =>
      ((if kept then requested else world).log (.requestCommit false)).breaks .stateStore
    | .commits =>
      let world := requested.log (.requestCommit true)
      match waitingSnapshot context.work.workId context.runtimeInstanceId
          context.work.projectionVersion answers.toolId with
      | .error kind => world.fails kind
      | .ok waiting =>
        afterRequest digest service context answers deadline policyTimeoutMs waiting world

def refuseCall (refused : Bool) (kind : ToolExecutionServiceErrorKind) (go : CallWorld → CallRun)
    (world : CallWorld) : CallRun :=
  if refused then world.fails kind else go world

def executeCall : CallRun :=
  let start := refuseCall (!context.isValid) .invalidCallContext <|
    refuseCall answers.noticeAtStart.isSome .cancelledBeforeIntent <|
    refuseCall (decide (context.outerDeadline ≤ answers.start)) .cancelledBeforeIntent <|
    refuseCall (!context.named) .invalidCallContext fun world =>
      match freezeToolDeadline (context.requestedTimeoutMs service.limits)
          (context.requested.definition.bind (RegisteredTool.hardTimeoutMs service.limits))
          service.limits.runShellMaxTimeoutMs answers.start context.outerDeadline with
      | .error kind => world.fails kind
      | .ok (policyTimeoutMs, deadline) =>
        if answers.requestClock then
          commitRequest digest service context answers deadline policyTimeoutMs world
        else world.breaks .clock
  start ⟨[], none⟩

end

end Craxii
