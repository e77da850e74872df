import Craxii.Tools.Call
import Craxii.Workstation.Supervise

/-!
A shell command that times out.
-/

namespace Craxii

open ExceptRules

def TimedOutcome (outcome : ToolTerminalOutcome) : Prop :=
  outcome.state = .completed ∧ outcome.result.map (·.resultKind) = some .timeout ∧
    outcome.cleanupConfirmed = some true

def EndsTimedOut (run : CallRun) : Prop :=
  run.ending ≠ .pending ∧ ∃ stored outcome, run.world.stored = some stored ∧
    stored.outcome = some outcome ∧ stored.state = .completed ∧ TimedOutcome outcome ∧
    stored.work.state = .running

def CallWorld.Opened (world : CallWorld) : Prop :=
  ∀ stored ∈ world.stored, stored.state ≠ .completed

theorem CallWorld.Opened.log {world : CallWorld} (opened : world.Opened) {action : CallAction} :
    (world.log action).Opened := opened

theorem CallWorld.Opened.not_ends {world : CallWorld} (opened : world.Opened) (ending : CallEnding) :
    ¬EndsTimedOut ⟨world, ending⟩ := by
  rintro ⟨_, stored, outcome, found, _, completed, _⟩
  exact opened stored found completed

theorem concludeCall_endsTimedOut_iff {answers : CallAnswers} {waiting : WorkLifecycleSnapshot}
    {planned : Except ToolExecutionServiceErrorKind FinishPlan}
    {interruption : Option WorkInterruptionReason} {Recorded : ToolTerminalOutcome → Prop}
    {world : CallWorld} {timed : Prop} (clock : answers.finish.clock = true)
    (commits : answers.finish.store = .commits) (waits : WaitsOnTool waiting answers.toolId)
    (opened : world.Opened)
    (plans : Plans planned (terminalWorkNext waiting answers.toolId interruption) Recorded)
    (agrees : ∀ outcome, Recorded outcome → (TimedOutcome outcome ↔ timed))
    (resumes : timed → interruption = none) :
    EndsTimedOut (concludeCall answers.finish waiting planned world) ↔
      waiting.projectionVersion.value < i64Max ∧ timed := by
  by_cases room : waiting.projectionVersion.value < i64Max
  · obtain ⟨outcome, work, failure, recorded, state, concluded⟩ :=
      @concludeCall_commits answers world _ _ _ _ clock commits waits.awaits plans room
    rw [concluded]
    constructor
    · rintro ⟨_, stored, found, isStored, isOutcome, _, timedOut, _⟩
      obtain rfl := Option.some.inj isStored
      obtain rfl := Option.some.inj isOutcome
      exact ⟨room, (agrees _ recorded).mp timedOut⟩
    · rintro ⟨_, isTimed⟩
      have timedOut := (agrees _ recorded).mpr isTimed
      refine ⟨CallEnding.noConfusion, _, outcome, rfl, rfl, timedOut.1, timedOut, ?_⟩
      rw [state, resumes isTimed]
      simp [outcomeWorkState, waits.state]
  · rw [concludeCall_full clock waits.awaits plans room]
    exact iff_of_false (opened.log.not_ends _) fun ends => room ends.1

structure ShellCommand where
  commandBytes : Nat
  commandSha256 : Sha256Digest
  cwd : Option LogicalPathReference
  privilege : PrivilegeMode
  timeoutMs : Nat

def ShellCommand.input (command : ShellCommand) : ValidatedToolInput :=
  .runShell command.commandBytes command.commandSha256 command.cwd command.privilege command.timeoutMs

def shellRequest (service : ToolService) (context : CallContext) (answers : CallAnswers)
    (command : ShellCommand) (capabilities : WorkstationCapabilities) (prepared : PreparationResult) :
    SupervisedRequest where
  executionId := answers.executionId
  requestedCwd := context.requestedCwd
  resolvedCwd := prepared.resolvedCwd
  effectivePrivilege := command.privilege
  commandSha256 := command.commandSha256
  commandBytes := command.commandBytes
  timeoutMs := min command.timeoutMs capabilities.maxExecutionTimeoutMs
  deadline := answers.start + command.timeoutMs * nanosPerMilli
  stdoutMaxBytes := min service.limits.stdoutCaptureBytes capabilities.maxStdoutBytes
  stderrMaxBytes := min service.limits.stderrCaptureBytes capabilities.maxStderrBytes

def AnswersWith (operationId : OperationId) :
    Option (Except WorkstationError ExecutionResult) → HandlerAnswer ShellObservation → Prop
  | none, .never => True
  | some (.error error), .fails answered => answered = error
  | some (.ok result), .answers observation =>
    observation.operationId = operationId ∧ observation.result = result
  | _, _ => False

def SelectTurn.isSilent {toolId : ToolExecutionId} : SelectTurn toolId → Bool
  | .changed _ notice => notice.isNone
  | .senderDropped _ => true

structure Silent (answers : CallAnswers) : Prop where
  atStart : answers.noticeAtStart = none
  afterRequest : answers.noticeAfterRequest = none
  atAuthority : answers.noticeAtAuthority = none
  afterAuthority : answers.noticeAfterAuthority = none
  afterPreparation : answers.noticeAfterPreparation = none
  afterDispatch : answers.noticeAfterDispatch = none
  atHandler : answers.handler.notice = none
  turns : ∀ turn ∈ answers.handler.turns, turn.isSilent = true

structure Operational (answers : CallAnswers) (dispatchAt : UtcTimestamp) : Prop where
  requestClock : answers.requestClock = true
  request : answers.request = .commits
  dispatchClock : answers.dispatchAt = some dispatchAt
  dispatch : answers.dispatch = .commits
  clock : answers.finish.clock = true
  evidenceClock : answers.finish.evidenceClock = true
  artifacts : answers.finish.artifacts = true
  store : answers.finish.store = .commits

def clockReadings (answers : CallAnswers) (supervision : Supervision)
    (elapsedAt joinedAt lastJoinedAt : Nat) : List Nat :=
  [answers.start, answers.afterRequest, answers.afterCapabilities, answers.beforeDispatch,
    answers.afterDispatch, supervision.validatedAt, supervision.runtimeStart,
    supervision.absoluteStart, elapsedAt, supervision.graceAt, supervision.graceStart] ++
  (supervision.graceTurns ++ supervision.killTurns).flatMap (fun turn => [turn.now, turn.phaseNow]) ++
  [joinedAt, lastJoinedAt]

def busyTime (answers : CallAnswers) (supervision : Supervision) (budgets : Budgets)
    (lastJoinedAt : Nat) : Nat :=
  (supervision.absoluteStart - answers.start) +
    (lastJoinedAt - min budgets.runtimeDue budgets.absoluteDue)

/-- A call of `run_shell` that is allowed and prepared, with enough time left for its work,
whose command outlives its budget and is gone once it is signalled. -/
structure TimedShellCall (digest : List UInt8 → Sha256Digest) where
  service : ToolService
  context : CallContext
  answers : CallAnswers
  command : ShellCommand
  canonicalBytes : Nat
  capabilities : WorkstationCapabilities
  prepared : PreparationResult
  dispatchAt : UtcTimestamp
  supervision : Supervision
  valid : context.isValid = true
  shaped : context.work.shapeOk = true
  named : context.named = true
  requested : context.requested = .valid ⟨command.input, canonicalBytes⟩
  withinLimits : command.input.withinRuntimeLimits service.limits = true
  positive : 0 < command.timeoutMs
  unshut : context.shutdownDeadline = none
  late : answers.start + command.timeoutMs * nanosPerMilli + executionTermGrace < context.workDeadline
  bounded : context.workDeadline ≤ durationMaxNanos
  silent : Silent answers
  operational : Operational answers dispatchAt
  able : answers.capabilities = .answers ⟨true, capabilities⟩
  allowed : (evaluateAuthority (authorityInput service context answers ⟨command.input, canonicalBytes⟩
    (min command.timeoutMs capabilities.maxExecutionTimeoutMs) capabilities)).decision = .allow
  prepares : answers.preparation = .answers prepared
  preparedFor : prepared.isFor context = true
  timesOut : TimesOut (shellRequest service context answers command capabilities prepared) supervision
  answered : AnswersWith answers.handlerOperationId
    (executeCommand (shellRequest service context answers command capabilities prepared) supervision)
    answers.handler.runShell
  drained : ∀ name, ∃ artifactId hardLimit chunks,
    drainStream digest (beginCapture artifactId hardLimit) chunks = some (timesOut.streams name)
  ticks : (clockReadings answers supervision timesOut.elapsedAt timesOut.joinedAt
    timesOut.lastJoinedAt).Pairwise (· < ·)
  brief : busyTime answers supervision
    (supervision.budgets (shellRequest service context answers command capabilities prepared))
    timesOut.lastJoinedAt < executionTermGrace

theorem freezeToolDeadline_requested {requested hard start outer : Nat} (within : requested ≤ hard)
    (positive : 0 < requested) (late : start + requested * nanosPerMilli ≤ outer)
    (bounded : outer ≤ durationMaxNanos) :
    freezeToolDeadline requested (some hard) hard start outer =
      if (outer - start) / nanosPerMilli ≤ u64Max then
        .ok (requested, start + requested * nanosPerMilli)
      else .error .cancelledBeforeIntent := by
  have representable : decide (durationMaxNanos < start + requested * nanosPerMilli) = false :=
    decide_eq_false (Nat.not_lt.mpr (Nat.le_trans late bounded))
  have enough : requested ≤ (outer - start) / nanosPerMilli := by
    rw [Nat.le_div_iff_mul_le (by decide)]
    omega
  have nonzero : (requested == 0) = false := beq_eq_false_iff_ne.mpr (Nat.pos_iff_ne_zero.mp positive)
  simp only [freezeToolDeadline, Option.getD_some, Nat.min_eq_left within, monotonicDeadline,
    representable, refuseIf_false, ok_bind, pure_bind, remainingMillis, Nat.min_eq_left late]
  by_cases horizon : (outer - start) / nanosPerMilli ≤ u64Max
  · simp only [horizon, ↓reduceIte, Nat.min_eq_right enough, nonzero, refuseIf_false, ok_bind]
    rfl
  · simp only [horizon, ↓reduceIte, Nat.zero_min, beq_self_eq_true, refuseIf_true, error_bind]

section Await

variable {answers : CallAnswers} {tool : RegisteredTool} {state : AwaitState answers.toolId}
  {world : CallWorld}

theorem AwaitState.handOver_kept (polled : Bool) :
    (state.handOver polled world).1.notice = state.notice ∧
      (state.handOver polled world).1.cancellationUnconfirmed = state.cancellationUnconfirmed ∧
      (state.handOver polled world).2.stored = world.stored := by
  unfold AwaitState.handOver
  split
  · exact ⟨rfl, rfl, rfl⟩
  · exact ⟨rfl, rfl, rfl⟩

def EndsWithHandler (answers : CallAnswers) (tool : RegisteredTool) (unconfirmed : Bool)
    (stored : Option StoredCall) (ended : CallWorld × Option (Polled answers.toolId)) : Prop :=
  ended.2 = (handlerPoll answers.handler tool).map (⟨·, none, unconfirmed⟩) ∧ ended.1.stored = stored

theorem AwaitState.resolve_silent (silent : state.notice = none) :
    EndsWithHandler answers tool state.cancellationUnconfirmed world.stored
      (state.resolve answers.handler tool world) := by
  obtain ⟨notice, unconfirmed, stored⟩ := @AwaitState.handOver_kept answers state world true
  unfold AwaitState.resolve
  refine ⟨?_, stored⟩
  dsimp only
  rw [notice, unconfirmed, silent]

theorem awaitTurn_silent (silent : state.notice = none)
    {listen : AwaitState answers.toolId → CallWorld → CallWorld × Option (Polled answers.toolId)}
    (listens : EndsWithHandler answers tool state.cancellationUnconfirmed world.stored
      (listen state world)) :
    EndsWithHandler answers tool state.cancellationUnconfirmed world.stored
      (awaitTurn answers.handler tool listen state world) := by
  have uncancelled : state.requestCancellation answers.handler tool world = (world, some state) := by
    simp [AwaitState.requestCancellation, silent]
  simp only [awaitTurn, silent, Option.isSome_none, Bool.false_and, Bool.false_eq_true, ↓reduceIte,
    uncancelled, Bool.or_false]
  split
  · exact AwaitState.resolve_silent silent
  · exact listens

theorem awaitLoop_silent {turns : List (SelectTurn answers.toolId)}
    (quiet : ∀ turn ∈ turns, turn.isSilent = true) :
    ∀ {state : AwaitState answers.toolId} {world : CallWorld}, state.notice = none →
      EndsWithHandler answers tool state.cancellationUnconfirmed world.stored
        (awaitLoop answers.handler tool turns state world) := by
  induction turns with
  | nil => exact fun silent => awaitTurn_silent silent (AwaitState.resolve_silent silent)
  | cons turn rest ih =>
    intro state world silent
    cases turn with
    | senderDropped polled =>
      obtain ⟨notice, unconfirmed, stored⟩ := @AwaitState.handOver_kept answers state world polled
      refine awaitTurn_silent silent ?_
      dsimp only
      rw [← unconfirmed, ← stored]
      exact AwaitState.resolve_silent (notice.trans silent)
    | changed polled found =>
      obtain ⟨_, unconfirmed, stored⟩ := @AwaitState.handOver_kept answers state world polled
      obtain rfl : found = none := by
        simpa [SelectTurn.isSilent] using quiet _ List.mem_cons_self
      refine awaitTurn_silent silent ?_
      dsimp only
      rw [← unconfirmed, ← stored]
      exact ih (fun turn inRest => quiet turn (List.mem_cons_of_mem _ inRest)) rfl

theorem Silent.awaitHandler (silent : Silent answers) :
    EndsWithHandler answers tool false world.stored (awaitHandler answers.handler tool world) := by
  unfold Craxii.awaitHandler
  exact awaitLoop_silent silent.turns silent.atHandler

end Await

namespace TimedShellCall

section

variable {digest : List UInt8 → Sha256Digest} (call : TimedShellCall digest)

def request : SupervisedRequest :=
  shellRequest call.service call.context call.answers call.command call.capabilities call.prepared

def deadline : Nat :=
  call.answers.start + call.command.timeoutMs * nanosPerMilli

def run : CallRun :=
  executeCall digest call.service call.context call.answers

/-- The command was not started, or its streams are joined before the deadline. -/
def Settles : Prop :=
  call.deadline ≤ call.supervision.validatedAt ∨ call.timesOut.lastJoinedAt < call.deadline

def handover (waiting : WorkLifecycleSnapshot) : Handover :=
  ⟨waiting, call.prepared.resolvedCwd, call.command.privilege, call.dispatchAt⟩

def execution : ExpectedExecution :=
  ⟨call.context.requestedCwd, call.prepared.resolvedCwd, call.command.privilege,
    call.command.commandSha256⟩

theorem ordered :
    call.answers.start < call.answers.afterRequest ∧
      call.answers.afterRequest < call.answers.afterCapabilities ∧
      call.answers.afterCapabilities < call.answers.beforeDispatch ∧
      call.answers.start < call.supervision.runtimeStart ∧
      call.timesOut.elapsedAt < call.timesOut.lastJoinedAt := by
  obtain ⟨started, _, ended⟩ := List.pairwise_append.mp call.ticks
  have joined := ended call.timesOut.elapsedAt (by simp) call.timesOut.lastJoinedAt (by simp)
  have checks := (List.pairwise_append.mp started).1
  simp only [List.pairwise_cons, List.mem_cons, List.not_mem_nil, or_false, forall_eq_or_imp,
    forall_eq] at checks
  omega

theorem trusted_iff (stdout stderr : Option ExecutionStreamResult) :
    executionUntrusted call.context.call call.execution
        (supervisedResult call.request.toExecutionRequest .timeout (some call.timesOut.status) true
          (some true) (some true) stdout stderr call.supervision.duration) = false ↔
      stdout.isSome = true ∧ stderr.isSome = true := by
  have same := call.preparedFor
  simp only [PreparationResult.isFor, Bool.and_eq_true, beq_iff_eq] at same
  obtain ⟨⟨⟨⟨_, workstation⟩, generation⟩, workspace⟩, path⟩ := same
  cases stdout <;> cases stderr <;>
    simp [executionUntrusted, supervisedResult, ExecutionCleanupEvidence.confirmed, resultKindOf,
      execution, request, shellRequest, CallContext.call, workstation, generation, workspace, path]

variable {waiting : WorkLifecycleSnapshot} {world : CallWorld}
  (waits : WaitsOnTool waiting call.answers.toolId) (opened : world.Opened)

include waits opened

theorem refused_not_ends (error : WorkstationError) :
    ¬EndsTimedOut (concludePredispatch call.context call.answers waiting
      (predispatchErrorOutcome call.answers.finish.stamp error) world) := by
  have plans := @planOutcome_plans call.context.call call.answers.finish.stamp waiting
    ⟨call.answers.toolId, .requested⟩ call.answers.requestEventId
    (predispatchErrorOutcome call.answers.finish.stamp error)
  have untimed : ∀ outcome, outcome = predispatchErrorOutcome call.answers.finish.stamp error →
      (TimedOutcome outcome ↔ False) := by
    rintro outcome rfl
    simp [TimedOutcome, predispatchErrorOutcome, plainOutcome]
  intro ends
  exact ((concludeCall_endsTimedOut_iff call.operational.clock call.operational.store waits opened plans
    untimed False.elim).mp ends).2

theorem expired_ends_iff :
    EndsTimedOut (concludeDispatched call.context call.answers waiting
        (dispatchedErrorOutcome call.answers.finish.stamp (.new .timeout)) world) ↔
      waiting.projectionVersion.value < i64Max := by
  have plans := @planOutcome_plans call.context.call call.answers.finish.stamp waiting
    ⟨call.answers.toolId, .dispatching⟩ call.answers.dispatchEventId
    (dispatchedErrorOutcome call.answers.finish.stamp (.new .timeout))
  have timed : ∀ outcome, outcome = dispatchedErrorOutcome call.answers.finish.stamp (.new .timeout) →
      (TimedOutcome outcome ↔ True) := by
    rintro outcome rfl
    exact iff_of_true ⟨rfl, rfl, rfl⟩ trivial
  have ends := concludeCall_endsTimedOut_iff call.operational.clock call.operational.store waits opened
    plans timed fun _ => rfl
  rwa [and_true] at ends

theorem settleRunShell_ends_iff {observation : ShellObservation}
    {stdout stderr : Option ExecutionStreamResult}
    (isResult : observation.result = supervisedResult call.request.toExecutionRequest .timeout
      (some call.timesOut.status) true (some true) (some true) stdout stderr call.supervision.duration)
    (inTime : call.timesOut.lastJoinedAt < call.deadline →
      stdout = some (call.timesOut.streams .stdout) ∧ stderr = some (call.timesOut.streams .stderr))
    (late : ¬call.timesOut.lastJoinedAt < call.deadline → stdout = none ∨ stderr = none) :
    EndsTimedOut (settleRunShell call.service call.context call.answers (call.handover waiting) waiting
        call.command.commandSha256 observation world) ↔
      waiting.projectionVersion.value < i64Max ∧ call.timesOut.lastJoinedAt < call.deadline := by
  have clocked : (!executionUntrusted call.context.call call.execution observation.result &&
      observation.result.executionId == call.answers.executionId &&
      !call.answers.finish.evidenceClock) = false := by
    rw [call.operational.evidenceClock]
    simp
  simp only [settleRunShell, show expectedExecution call.context (call.handover waiting)
    call.command.commandSha256 = call.execution from rfl, clocked, Bool.false_eq_true, ↓reduceIte]
  by_cases joined : call.timesOut.lastJoinedAt < call.deadline
  · obtain ⟨isStdout, isStderr⟩ := inTime joined
    have trusted : executionUntrusted call.context.call call.execution observation.result = false := by
      rw [isResult]
      exact (call.trusted_iff stdout stderr).mpr ⟨by rw [isStdout]; rfl, by rw [isStderr]; rfl⟩
    have sameId : observation.result.executionId = (dispatchedTool call.answers
        (call.handover waiting)).executionId := by
      rw [isResult]
      rfl
    have counts (name : StreamName) : CanonicalCounts (some (call.timesOut.streams name)) := by
      obtain ⟨_, _, _, drained⟩ := call.drained name
      rintro found ⟨⟩
      exact drainStream_counts drained
    have plans := @finishRunShell_plans call.context.call _ call.answers.finish.stamp waiting _ _ _
      call.service.inlineCanonical trusted sameId observation.exitCode observation.signal
      (by rw [isResult]; simpa [supervisedResult, isStdout] using counts .stdout)
      (by rw [isResult]; simpa [supervisedResult, isStderr] using counts .stderr)
    refine concludeCall_endsTimedOut_iff call.operational.clock call.operational.store waits opened plans
      ?_ fun _ => rfl
    rintro outcome ⟨completed, confirmed, isClass⟩
    refine iff_of_true ⟨completed, ?_, confirmed⟩ joined
    rw [isClass, isResult, isStdout, isStderr]
    rfl
  · have untrusted : executionUntrusted call.context.call call.execution observation.result = true := by
      rw [← Bool.not_eq_false, isResult, call.trusted_iff]
      rintro ⟨hasStdout, hasStderr⟩
      rcases late joined with rfl | rfl
      · cases hasStdout
      · cases hasStderr
    have unknown := @persistOutcomeUnknown_plans call.context.call
      (dispatchedTool call.answers (call.handover waiting)) call.answers.finish.stamp waiting
      (.workstation .outcomeUnknown none) .outcomeUnknown
    have planned : finishRunShell call.service.limits.toToolRuntimeLimits call.context.call
        (dispatchedTool call.answers (call.handover waiting)) call.answers.finish.stamp waiting
        call.execution observation.result = persistOutcomeUnknown call.context.call
          (dispatchedTool call.answers (call.handover waiting)) call.answers.finish.stamp waiting
          (.workstation .outcomeUnknown none) .outcomeUnknown := by
      simp only [finishRunShell, untrusted, ↓reduceIte]
    rw [planned]
    refine concludeCall_endsTimedOut_iff call.operational.clock call.operational.store waits opened unknown
      ?_ fun inside => absurd inside joined
    intro outcome isUnknown
    refine iff_of_false (fun timed => ?_) joined
    rw [timed.1] at isUnknown
    cases isUnknown

theorem runHandler_ends_iff :
    EndsTimedOut (runHandler digest call.service call.context call.answers (call.handover waiting)
        call.command.input world) ↔
      waiting.projectionVersion.value < i64Max ∧ call.Settles := by
  obtain ⟨polled, stored⟩ := @Silent.awaitHandler call.answers .runShell world call.silent
  have reached : CallWorld.Opened (awaitHandler call.answers.handler .runShell world).1 := by
    rw [CallWorld.Opened, stored]
    exact opened
  have answered := call.answered
  unfold runHandler
  rw [show call.command.input.tool = .runShell from rfl]
  by_cases early : call.supervision.validatedAt < call.deadline
  · obtain ⟨stdout, stderr, executed, inTime, late⟩ := executeCommand_timesOut call.timesOut early
    rw [executed] at answered
    cases runShell : call.answers.handler.runShell with
    | answers observation =>
      rw [runShell] at answered
      obtain ⟨sameOperation, isResult⟩ := answered
      have isPoll : handlerPoll call.answers.handler .runShell = some (.runShell observation) := by
        simp [handlerPoll, runShell, HandlerAnswer.poll]
      rw [isPoll] at polled
      have sameId : observation.result.executionId = call.answers.executionId := by
        rw [isResult]
        rfl
      have settled := call.settleRunShell_ends_iff waits reached isResult inTime late
      generalize ended : awaitHandler call.answers.handler .runShell world = result at polled settled ⊢
      obtain ⟨reachedWorld, found⟩ := result
      obtain rfl := polled
      simp only [Option.map_some, settleHandler, expectedWorkOf, ShellCommand.input, sameOperation,
        sameId, ne_eq, not_true_eq_false, or_self, ↓reduceIte]
      refine settled.trans (and_congr_right fun _ => ⟨.inr, ?_⟩)
      rintro (started | joined)
      · omega
      · exact joined
    | fails | panics | never =>
      rw [runShell] at answered
      exact answered.elim
  · rw [executeCommand_expired call.timesOut.runnable early] at answered
    cases runShell : call.answers.handler.runShell with
    | fails error =>
      rw [runShell] at answered
      obtain rfl := answered
      have isPoll : handlerPoll call.answers.handler .runShell =
          some (.failed (.new .timeout)) := by
        simp [handlerPoll, runShell, HandlerAnswer.poll]
      rw [isPoll] at polled
      have expired := call.expired_ends_iff waits reached
      generalize ended : awaitHandler call.answers.handler .runShell world = result at polled expired ⊢
      obtain ⟨reachedWorld, found⟩ := result
      obtain rfl := polled
      simp only [Option.map_some, settleHandler, expectedWorkOf, WorkstationError.new, Bool.or_false,
        beq_iff_eq, reduceCtorEq, ↓reduceIte]
      exact expired.trans (iff_self_and.mpr fun _ => .inl (Nat.le_of_not_lt early))
    | answers | panics | never =>
      rw [runShell] at answered
      exact answered.elim

theorem afterDispatch_ends_iff :
    EndsTimedOut (afterDispatch digest call.service call.context call.answers call.deadline
        (call.handover waiting) call.command.input world) ↔
      waiting.projectionVersion.value < i64Max ∧
        (call.deadline ≤ call.answers.afterDispatch ∨ call.Settles) := by
  simp only [afterDispatch, CallWorld.checkNotice, call.silent.afterDispatch, CallWorld.checkDeadline]
  by_cases passed : call.deadline ≤ call.answers.afterDispatch
  · rw [if_pos passed]
    exact (call.expired_ends_iff waits opened.log.log).trans (iff_self_and.mpr fun _ => .inl passed)
  · rw [if_neg passed]
    refine (call.runHandler_ends_iff waits opened.log.log).trans (and_congr_right fun _ => ⟨.inr, ?_⟩)
    rintro (isPassed | settles)
    · exact absurd isPassed passed
    · exact settles

theorem prepareWorkstation_ends_iff :
    EndsTimedOut (prepareWorkstation digest call.service call.context call.answers call.deadline waiting
        call.command.privilege call.command.input world) ↔
      waiting.projectionVersion.value < i64Max ∧ call.answers.beforeDispatch < call.deadline ∧
        (call.deadline ≤ call.answers.afterDispatch ∨ call.Settles) := by
  simp only [prepareWorkstation, call.prepares, call.preparedFor, ↓reduceIte, CallWorld.checkNotice,
    call.silent.afterPreparation, CallWorld.checkDeadline]
  by_cases passed : call.deadline ≤ call.answers.beforeDispatch
  · rw [if_pos passed]
    exact iff_of_false (call.refused_not_ends waits opened.log.log _) fun holds => by omega
  · rw [if_neg passed]
    simp only [commitDispatch, call.operational.dispatchClock, call.operational.dispatch]
    have dispatching : CallWorld.Opened ({ (world.log (.noticeCheck false)).log (.deadlineCheck false) with
        stored := some ⟨.dispatching, waiting, none⟩ }.log (.dispatchCommit true)) := by
      rintro stored ⟨⟩
      exact ToolExecutionState.noConfusion
    refine (call.afterDispatch_ends_iff waits dispatching).trans ?_
    have inTime : call.answers.beforeDispatch < call.deadline := by omega
    simp only [inTime, true_and]

theorem queryCapabilities_ends_iff :
    EndsTimedOut (queryCapabilities digest call.service call.context call.answers call.deadline
        call.command.timeoutMs waiting ⟨call.command.input, call.canonicalBytes⟩ world) ↔
      waiting.projectionVersion.value < i64Max ∧ call.answers.beforeDispatch < call.deadline ∧
        (call.deadline ≤ call.answers.afterDispatch ∨ call.Settles) := by
  have positive : min call.command.timeoutMs call.capabilities.maxExecutionTimeoutMs ≠ 0 :=
    Nat.pos_iff_ne_zero.mp call.timesOut.runnable.timeout.1
  have effective : capabilityBoundedTimeout call.command.timeoutMs
      (call.command.input.tool.hardTimeoutMs call.service.limits)
      call.capabilities.maxExecutionTimeoutMs =
        min call.command.timeoutMs call.capabilities.maxExecutionTimeoutMs := rfl
  obtain ⟨_, privilege⟩ := evaluateAuthority_allow call.allowed
  have ordered := call.ordered
  simp only [queryCapabilities, call.able, effective, positive, ↓reduceIte, CallWorld.checkDeadline]
  by_cases passed : call.deadline ≤ call.answers.afterCapabilities
  · rw [if_pos passed]
    exact iff_of_false (call.refused_not_ends waits opened.log _) fun holds => by omega
  · rw [if_neg passed]
    simp only [evaluateCall, call.allowed, ↓reduceIte, CallWorld.checkNotice, call.silent.afterAuthority,
      privilege]
    exact call.prepareWorkstation_ends_iff waits opened.log.log.log

theorem afterRequest_ends_iff :
    EndsTimedOut (afterRequest digest call.service call.context call.answers call.deadline
        call.command.timeoutMs waiting world) ↔
      waiting.projectionVersion.value < i64Max ∧ call.answers.beforeDispatch < call.deadline ∧
        (call.deadline ≤ call.answers.afterDispatch ∨ call.Settles) := by
  have ordered := call.ordered
  have screened : call.context.requested.screen call.service.limits =
      .ok ⟨call.command.input, call.canonicalBytes⟩ := by
    simp only [call.requested, RequestedTool.screen, call.withinLimits, ↓reduceIte]
  simp only [afterRequest, screened, CallWorld.checkDeadline, CallWorld.checkNotice,
    call.silent.afterRequest]
  by_cases passed : call.deadline ≤ call.answers.afterRequest
  · rw [if_pos passed]
    exact iff_of_false (call.refused_not_ends waits opened.log _) fun holds => by omega
  · rw [if_neg passed]
    exact call.queryCapabilities_ends_iff waits opened.log.log

end

section

variable {digest : List UInt8 → Sha256Digest} (call : TimedShellCall digest)

theorem request_decided :
    (∀ decision, decideWorkTransition call.context.work (.forSnapshot call.context.work)
        (.waitForTool call.answers.toolId) = .ok decision →
      call.context.work.projectionVersion.value < i64Max) ∧
    (call.context.work.projectionVersion.value < i64Max →
      ∃ decision, decideWorkTransition call.context.work (.forSnapshot call.context.work)
        (.waitForTool call.answers.toolId) = .ok decision) := by
  have valid := call.valid
  simp only [CallContext.isValid, Bool.and_eq_true, beq_iff_eq] at valid
  obtain ⟨⟨⟨⟨running, owned⟩, _⟩, _⟩, _⟩ := valid
  constructor
  · intro decision decided
    have stepped : stepWork call.context.work (.forSnapshot call.context.work,
        .waitForTool call.answers.toolId) = some decision.next := by
      simp [stepWork, decided, Except.toOption]
    have version := ((stepWork_eq_some_iff _ _ _ _).mp stepped).version
    exact (PositiveInteger.checkedIncrement_isSome_iff _).mp
      (Option.isSome_iff_exists.mpr ⟨_, version⟩)
  · intro room
    obtain ⟨version, incremented⟩ := Option.isSome_iff_exists.mp
      ((PositiveInteger.checkedIncrement_isSome_iff _).mpr room)
    have accepted : AcceptedWork call.context.work (.forSnapshot call.context.work)
        (.waitForTool call.answers.toolId)
        ⟨call.context.work.workId, .waitingOnTool, version, some call.context.runtimeInstanceId,
          .tool call.answers.toolId, none, none⟩ := by
      refine ⟨call.shaped, checkGuard_forSnapshot _, by rw [running]; rfl, by rw [running]; rfl,
        incremented, ⟨.workWaitingOnTool, .commitToolRequestOrDispatchIntent, ?_⟩, rfl, rfl, rfl⟩
      simp [transitionFields, owned]
    have stepped := (stepWork_eq_some_iff _ _ _ _).mpr accepted
    simp only [stepWork, Option.map_eq_some_iff] at stepped
    obtain ⟨decision, decided, _⟩ := stepped
    exact ⟨decision, toOption_eq_some.mp decided⟩

theorem commitRequest_ends_iff :
    EndsTimedOut (commitRequest digest call.service call.context call.answers call.deadline
        call.command.timeoutMs ⟨[], none⟩) ↔
      call.context.work.projectionVersion.value + 1 < i64Max ∧
        call.answers.beforeDispatch < call.deadline ∧
        (call.deadline ≤ call.answers.afterDispatch ∨ call.Settles) := by
  obtain ⟨onlyRoom, decides⟩ := call.request_decided
  by_cases room : call.context.work.projectionVersion.value < i64Max
  · obtain ⟨decision, decided⟩ := decides room
    obtain ⟨waiting, snapshot, waits, version⟩ :=
      waitingSnapshot_ok call.context.runtimeInstanceId decided
    simp only [commitRequest, decided, call.operational.request, snapshot, ← version]
    refine call.afterRequest_ends_iff waits (CallWorld.Opened.log ?_)
    rintro stored ⟨⟩
    exact ToolExecutionState.noConfusion
  · refine iff_of_false ?_ fun holds => by omega
    cases decided : decideWorkTransition call.context.work (.forSnapshot call.context.work)
        (.waitForTool call.answers.toolId) with
    | ok decision => exact absurd (onlyRoom decision decided) room
    | error =>
      simp only [commitRequest, decided]
      refine CallWorld.Opened.not_ends ?_ _
      rintro stored ⟨⟩

theorem freezeToolDeadline_eq :
    freezeToolDeadline (call.context.requestedTimeoutMs call.service.limits)
        (call.context.requested.definition.bind (RegisteredTool.hardTimeoutMs call.service.limits))
        call.service.limits.runShellMaxTimeoutMs call.answers.start call.context.outerDeadline =
      if (call.context.workDeadline - call.answers.start) / nanosPerMilli ≤ u64Max then
        .ok (call.command.timeoutMs, call.deadline)
      else .error .cancelledBeforeIntent := by
  have within := call.withinLimits
  simp only [ShellCommand.input, ValidatedToolInput.withinRuntimeLimits, Bool.and_eq_true,
    decide_eq_true_eq] at within
  have timeout : call.context.requestedTimeoutMs call.service.limits = call.command.timeoutMs := by
    simp only [CallContext.requestedTimeoutMs, call.requested, RequestedTool.input, ShellCommand.input,
      ValidatedToolInput.requestedTimeoutMs, Option.bind_some, Option.getD_some,
      Nat.min_eq_left within.2]
  have hard : call.context.requested.definition.bind
      (RegisteredTool.hardTimeoutMs call.service.limits) =
        some call.service.limits.runShellMaxTimeoutMs := by
    rw [call.requested]
    rfl
  have outer : call.context.outerDeadline = call.context.workDeadline := by
    simp [CallContext.outerDeadline, effectiveOuterDeadline, call.unshut]
  have late : call.deadline ≤ call.context.workDeadline :=
    Nat.le_trans (Nat.le_add_right _ _) (Nat.le_of_lt call.late)
  rw [timeout, hard, outer]
  exact freezeToolDeadline_requested within.2 call.positive late call.bounded

/-- When a timed-out call ends definitely: before the command is started, or with the streams
joined before the deadline. -/
structure InTime : Prop where
  horizon : (call.context.workDeadline - call.answers.start) / nanosPerMilli ≤ u64Max
  room : call.context.work.projectionVersion.value + 1 < i64Max
  dispatched : call.answers.beforeDispatch < call.deadline
  ended : call.deadline ≤ call.answers.afterDispatch ∨
    call.deadline ≤ call.supervision.validatedAt ∨ call.timesOut.lastJoinedAt < call.deadline

end

end TimedShellCall

theorem timed_out_call_definite_iff (digest : List UInt8 → Sha256Digest) (call : TimedShellCall digest) :
    EndsTimedOut (executeCall digest call.service call.context call.answers) ↔ call.InTime := by
  have open_ : ¬call.context.outerDeadline ≤ call.answers.start := by
    have late := call.late
    simp only [CallContext.outerDeadline, effectiveOuterDeadline, call.unshut]
    omega
  simp only [executeCall, refuseCall, call.valid, call.silent.atStart, open_, call.named,
    Option.isSome_none, Bool.not_true, Bool.false_eq_true, decide_false, ↓reduceIte,
    call.freezeToolDeadline_eq]
  by_cases horizon : (call.context.workDeadline - call.answers.start) / nanosPerMilli ≤ u64Max
  · simp only [horizon, ↓reduceIte, call.operational.requestClock]
    rw [call.commitRequest_ends_iff]
    exact ⟨fun ⟨room, dispatched, ended⟩ => ⟨horizon, room, dispatched, ended⟩,
      fun inTime => ⟨inTime.room, inTime.dispatched, inTime.ended⟩⟩
  · simp only [horizon, ↓reduceIte]
    refine iff_of_false (CallWorld.Opened.not_ends ?_ _) fun inTime => horizon inTime.horizon
    rintro stored ⟨⟩

theorem TimedShellCall.started_not_inTime {digest : List UInt8 → Sha256Digest}
    (call : TimedShellCall digest)
    (wholeTimeout : call.command.timeoutMs ≤ call.capabilities.maxExecutionTimeoutMs)
    (handed : call.answers.afterDispatch < call.deadline)
    (started : call.supervision.validatedAt < call.deadline) : ¬call.InTime := by
  have ordered := call.ordered
  have elapsed : call.deadline ≤ call.timesOut.elapsedAt := by
    refine call.timesOut.deadline_le ?_
    simp only [shellRequest, Nat.min_eq_left wholeTimeout]
    omega
  intro inTime
  rcases inTime.ended with late | late | early
  · omega
  · omega
  · omega

/-! A command with a timeout of one second that ends at the first signal. -/

def sampleCommand : ShellCommand :=
  ⟨4, zeroDigest, none, .user, 1000⟩

def lateSupervision : Supervision where
  access := none
  validatedAt := 5
  foregroundCapable := true
  administrativeCapable := false
  reservation := none
  shutdown := none
  otherCause := none
  causeBeforeSpawn := none
  spawn := .running
  runtimeStart := 6
  absoluteStart := 7
  observations := [⟨.pending, .slept, 10000007⟩, ⟨.pending, .absoluteBudget, 1000000000⟩]
  cgroupEmpty := false
  graceAt := 1000000001
  graceStart := 1000000002
  graceTurns := [⟨1000000003, 1000000004, .terminal, true⟩]
  killTurns := [⟨1000000005, 1000000006, .terminal, true⟩]
  cgroupTurns := [⟨true, 1000000007⟩]
  cgroupFinallyEmpty := true
  cgroupRemoved := true
  reap := .reaped (.signaled 15)
  drains := [
    ⟨1000000008, .joined .stdout (some (drainedStream (fun _ => zeroDigest) ⟨sampleUuid 4⟩ 1 []))⟩,
    ⟨1000000009, .joined .stderr (some (drainedStream (fun _ => zeroDigest) ⟨sampleUuid 4⟩ 1 []))⟩]
  duration := ⟨1000, by decide⟩

def lateResult (executionId : ExecutionId) : ExecutionResult :=
  supervisedResult ⟨executionId, samplePath, sampleResolvedPath, .user, zeroDigest⟩ .timeout
    (some (.signaled 15)) true (some true) (some true) none none ⟨1000, by decide⟩

def lateAnswers : CallAnswers :=
  { cancelledAnswers with
    operationDuration := ⟨1000, by decide⟩
    noticeAtAuthority := none
    noticeAfterAuthority := none
    noticeAfterPreparation := none
    noticeAfterDispatch := none
    handler := ⟨true, none, [], .settled, .never,
      .answers ⟨⟨sampleUuid 0⟩, lateResult sampleTool.executionId,
        (ExitStatus.code_small (.signaled 15)).isI64, (ExitStatus.signal_small (.signaled 15)).isI64⟩⟩ }

theorem lateAnswers_answered : AnswersWith lateAnswers.handlerOperationId
    (executeCommand (shellRequest sampleService sampleContext lateAnswers sampleCommand sampleCapabilities
      ⟨true, sampleResolvedPath⟩) lateSupervision) lateAnswers.handler.runShell :=
  ⟨rfl, by decide +kernel⟩

def lateCall : TimedShellCall fun _ => zeroDigest where
  service := sampleService
  context := sampleContext
  answers := lateAnswers
  command := sampleCommand
  canonicalBytes := 40
  capabilities := sampleCapabilities
  prepared := ⟨true, sampleResolvedPath⟩
  dispatchAt := 2
  supervision := lateSupervision
  valid := by decide
  shaped := by decide
  named := rfl
  requested := rfl
  withinLimits := by decide
  positive := by decide
  unshut := rfl
  late := by decide
  bounded := by decide
  silent := ⟨rfl, rfl, rfl, rfl, rfl, rfl, rfl, fun _ found => nomatch found⟩
  operational := ⟨rfl, rfl, rfl, rfl, rfl, rfl, rfl, rfl⟩
  able := rfl
  allowed := by decide +kernel
  prepares := rfl
  preparedFor := by decide +kernel
  timesOut := {
    runnable := ⟨by decide, by decide, by decide, by decide, rfl, rfl, by decide, rfl⟩
    unshut := rfl
    uncaused := ⟨rfl, rfl⟩
    started := rfl
    elapsedAt := 1000000000
    elapses := ⟨.inl rfl, .inl rfl, by decide, rfl⟩
    status := .signaled 15
    gone := ⟨by simp [lateSupervision], by simp [lateSupervision, CleanupTurn.Gone],
      by simp [lateSupervision], by simp [lateSupervision, CleanupTurn.Gone], by simp [lateSupervision],
      by simp [lateSupervision], rfl, rfl, rfl⟩
    streams := fun _ => drainedStream (fun _ => zeroDigest) ⟨sampleUuid 4⟩ 1 []
    joinedAt := 1000000008
    lastJoinedAt := 1000000009
    closed := ⟨⟨.stdout, [], rfl⟩, by decide⟩ }
  answered := lateAnswers_answered
  drained := fun _ => ⟨_, _, [], by rw [drainStream_bytes]; rfl⟩
  ticks := by decide
  brief := by decide

theorem timed_out_command_unknown :
    ¬EndsTimedOut (executeCall (fun _ => zeroDigest) lateCall.service lateCall.context
        lateCall.answers) ∧
      (executeCall (fun _ => zeroDigest) lateCall.service lateCall.context
        lateCall.answers).world.stored.map (fun stored => (stored.state, stored.work.state)) =
        some (.outcomeUnknown, .interrupted) := by
  have stored : (executeCall (fun _ => zeroDigest) lateCall.service lateCall.context
      lateCall.answers).world.stored.map (fun stored => (stored.state, stored.work.state)) =
      some (.outcomeUnknown, .interrupted) := by decide +kernel
  refine ⟨?_, stored⟩
  rintro ⟨_, found, _, isFound, _, completed, _⟩
  rw [isFound, Option.map_some, completed] at stored
  cases stored

end Craxii
