import Craxii.Gateway.Attempt
import Craxii.Scheduler.RunnerCore
import Craxii.Store.RunnerRows

/-!
What each step of a runner leaves behind: between attempts a work that the scheduler can still
close; an attempt that is held has to be finished on the work as it is stored.
-/

namespace Craxii

open ExceptRules KeyedStates

def heldAttempts : CurrentWorkAttempt → Nat
  | .none => 0
  | _ => 1

def requestedCancellations : WorkState → Nat
  | .cancelRequested => 1
  | _ => 0

section Invariant

variable (composition : RunnerComposition)

/-- The rows of a claimed work that is not terminal; every attempt accounts for two
versions, and the limits bound the attempts. -/
structure OwnedRows (attempt : CurrentWorkAttempt) (rows : RunnerRows) : Prop where
  live : LiveWork composition.workId composition.runtimeId attempt rows.work
  budget : rows.work.projectionVersion.value + heldAttempts attempt ≤
    2 * (rows.models.length + rows.tools.length) + 2 + requestedCancellations rows.work.state
  modelCount : rows.models.length ≤ composition.gateway.maximumAttemptsPerWork
  toolCount : rows.tools.length ≤ composition.limits.toolCallsPerWork

structure AttemptsClosed (rows : RunnerRows) : Prop where
  models : AllClosed ModelInvocationState.isTerminal rows.models
  tools : AllClosed ToolExecutionState.isTerminal rows.tools

structure Idle (rows : RunnerRows) : Prop extends AttemptsClosed rows where
  owned : OwnedRows composition .none rows

structure Ended (rows : RunnerRows) : Prop extends AttemptsClosed rows where
  terminal : rows.work.state.isTerminal = true

structure IdleAt (work : WorkLifecycleSnapshot) (rows : RunnerRows) : Prop extends
    Idle composition rows where
  follows : Follows composition.workId composition.runtimeId .none work rows.work

structure OwnsModel (opened : OpenAttempt) (rows : RunnerRows) : Prop where
  owned : OwnedRows composition (.model opened.attemptId) rows
  held : Holds ModelInvocationState.isTerminal rows.models opened.attemptId opened.modelState
  tools : AllClosed ToolExecutionState.isTerminal rows.tools
  follows : Follows composition.workId composition.runtimeId (.model opened.attemptId) opened.work
    rows.work
  counted : opened.attemptsBefore + opened.attemptNo = rows.models.length

structure OwnsTool (run : ToolRun) (tool : OpenTool) (snapshot : WorkLifecycleSnapshot)
    (rows : RunnerRows) : Prop where
  owned : OwnedRows composition (.tool tool.toolId) rows
  models : AllClosed ModelInvocationState.isTerminal rows.models
  held : Holds ToolExecutionState.isTerminal rows.tools tool.toolId tool.toolState
  follows : Follows composition.workId composition.runtimeId (.tool tool.toolId) snapshot rows.work
  notified : ∀ notice, run.notice = some notice → rows.work = notice ∧ notice.state = .cancelRequested
  counted : rows.tools.length + run.batch.remaining ≤ composition.limits.toolCallsPerWork

structure ReadyBatch (batch : ToolBatch) (rows : RunnerRows) : Prop extends
    IdleAt composition batch.work rows where
  counted : rows.tools.length + batch.remaining ≤ composition.limits.toolCallsPerWork

def ToolPhaseOk (flag : Bool) (rows : RunnerRows) (run : ToolRun) : ToolPhase → Prop
  | .calling | .requesting _ =>
    ReadyBatch composition { run.batch with remaining := run.batch.remaining + 1 } rows ∧
      (run.notice.isSome = true → rows.work.state = .cancelRequested)
  | .undispatched tool _ | .intending tool =>
    OwnsTool composition run tool tool.waiting rows ∧ tool.toolState = .requested ∧
      tool.waiting.state = .waitingOnTool
  | .dispatched tool | .handling tool =>
    OwnsTool composition run tool tool.waiting rows ∧ tool.toolState = .dispatching ∧
      tool.waiting.state = .waitingOnTool
  | .recording tool expected ending =>
    OwnsTool composition run tool expected rows ∧
      isLegalToolPair tool.toolState ending.terminalState = true ∧
      (expected.state = .cancelRequested → run.notice.isSome = true)
  | .returned none =>
    (run.notice = none ∧ Idle composition rows ∧
        rows.tools.length + run.batch.remaining ≤ composition.limits.toolCallsPerWork) ∨
      (run.notice.isSome = true ∧ Ended rows)
  | .returned (some .outcomeUnknown) => Ended rows ∧ (flag = true → run.notice.isSome = true)
  | .returned (some _) => Idle composition rows

def PointOk (flag : Bool) (rows : RunnerRows) : RunnerPoint → Prop
  | .starting | .loading _ | .completing .. | .failing .. | .terminalizing .. =>
    Idle composition rows
  | .checking _ owned | .enteringGateway _ owned =>
    IdleAt composition owned.lifecycle rows ∧ owned.modelAttemptCount = rows.models.length
  | .startingTurn position =>
    IdleAt composition position.work rows ∧
      position.attemptsBefore + position.attemptNo = rows.models.length + 1
  | .beginning position _ =>
    IdleAt composition position.work rows ∧
      position.attemptsBefore + position.attemptNo = rows.models.length + 1 ∧
      rows.models.length + 1 ≤ composition.gateway.maximumAttemptsPerWork
  | .judging position | .backingOff position =>
    IdleAt composition position.work rows ∧
      position.attemptsBefore + position.attemptNo = rows.models.length
  | .attempt opened _ => OwnsModel composition opened rows
  | .batchLoading batch => IdleAt composition batch.work rows
  | .nextCall batch => ReadyBatch composition batch rows
  | .reloading batch =>
    Idle composition rows ∧
      rows.tools.length + batch.remaining ≤ composition.limits.toolCallsPerWork
  | .tool run phase => ToolPhaseOk composition flag rows run phase
  | .exited .terminalCommitted => Ended rows
  | .exited _ => Idle composition rows

def FlagOk (flag : Bool) (rows : RunnerRows) : Prop :=
  flag = true → rows.work.state = .cancelRequested ∨ rows.work.state.isTerminal = true

structure StepOk (flag : Bool) (reached : RunnerRows × RunnerPoint) : Prop where
  flagOk : FlagOk flag reached.1
  pointOk : PointOk composition flag reached.1 reached.2

end Invariant

variable {composition : RunnerComposition} {attempt : CurrentWorkAttempt} {rows : RunnerRows}
  {answers : Answers} {flag : Bool} {work : WorkLifecycleSnapshot}

theorem RunnerComposition.bounds (composition : RunnerComposition) :
    composition.gateway.maximumAttemptsPerWork ≤ 32 ∧ composition.limits.toolCallsPerWork ≤ 32 := by
  have gatewayValid := composition.gatewayValid
  have limitsValid := composition.limitsValid
  simp only [ModelGatewayLimits.isValid, AgentLoopLimits.isValid, Bool.and_eq_true,
    decide_eq_true_eq] at gatewayValid limitsValid
  simp only [maxProviderAttemptsPerWork, maxToolCallsPerWork] at gatewayValid limitsValid
  omega

theorem OwnedRows.increment (owned : OwnedRows composition attempt rows) :
    ∃ next, rows.work.projectionVersion.checkedIncrement = some next := by
  have bounds := composition.bounds
  have budget := owned.budget
  have modelCount := owned.modelCount
  have toolCount := owned.toolCount
  have cancellations : requestedCancellations rows.work.state ≤ 1 := by
    cases rows.work.state <;> simp [requestedCancellations]
  have below : rows.work.projectionVersion.value < i64Max := by
    have room : (200 : Nat) < i64Max := by decide
    omega
  have incremented := (PositiveInteger.checkedIncrement_isSome_iff _).mpr below
  exact Option.isSome_iff_exists.mp incremented

theorem IdleAt.increment (idle : IdleAt composition work rows) :
    ∃ next, work.projectionVersion.checkedIncrement = some next := by
  have follows := idle.follows
  generalize storedWork : rows.work = stored at follows
  cases follows with
  | current =>
    rw [← storedWork]
    exact idle.owned.increment
  | overtaken incremented => exact ⟨_, incremented⟩

theorem Idle.at_stored (idle : Idle composition rows) : IdleAt composition rows.work rows :=
  ⟨idle, .current idle.owned.live⟩

theorem IdleAt.cancelledExit (idle : IdleAt composition work rows) :
    PointOk composition flag rows (cancelledExit work) := by
  have live := idle.follows.memory_live.not_terminal
  simp only [Craxii.cancelledExit, live, Bool.false_eq_true, ↓reduceIte]
  exact idle.toIdle

section Reads

variable {agentStep : Nat} {position : RetryPosition} {batch : ToolBatch}

theorem startingStep_ok (idle : Idle composition rows) :
    PointOk composition flag rows (startingStep answers) := by
  unfold startingStep
  split
  · exact idle
  · exact idle

theorem loadingStep_ok (idle : Idle composition rows) :
    PointOk composition flag rows (loadingStep composition.runtimeId rows agentStep) := by
  have live := idle.owned.live
  obtain ⟨_, ownedBy, unheld, _⟩ := live.fields
  rw [loadingStep, live.load]
  dsimp only
  by_cases cancelRequested : rows.work.state = .cancelRequested
  · rw [if_pos cancelRequested, if_pos unheld]
    exact idle
  · obtain ⟨version, stored⟩ := live.active_of_state cancelRequested
    have running : rows.work.state = .running := by
      rw [stored]
      rfl
    rw [if_neg cancelRequested, if_neg (by simp [running, ownedBy, unheld])]
    exact ⟨idle.at_stored, rfl⟩

theorem checkingStep_ok {owned : OwnedWorkState} (idle : IdleAt composition owned.lifecycle rows)
    (counted : owned.modelAttemptCount = rows.models.length) :
    PointOk composition flag rows
      (checkingStep composition.limits answers flag agentStep owned) := by
  unfold checkingStep
  repeat' split
  all_goals first | exact idle.toIdle | exact ⟨idle, counted⟩

theorem enteringGatewayStep_ok {owned : OwnedWorkState}
    (idle : IdleAt composition owned.lifecycle rows)
    (counted : owned.modelAttemptCount = rows.models.length) :
    PointOk composition flag rows
      (enteringGatewayStep composition.gateway answers flag agentStep owned) := by
  unfold enteringGatewayStep
  split
  · exact idle.toIdle
  · split
    · exact idle.cancelledExit
    · exact ⟨idle, by rw [← counted]⟩

theorem startingTurnStep_ok (idle : IdleAt composition position.work rows)
    (counted : position.attemptsBefore + position.attemptNo = rows.models.length + 1) :
    PointOk composition flag rows
      (startingTurnStep composition.gateway answers flag position) := by
  unfold startingTurnStep
  split
  · exact idle.toIdle
  · rename_i allowed
    have below : rows.models.length + 1 ≤ composition.gateway.maximumAttemptsPerWork := by
      have bounds := composition.bounds
      have room : (64 : Nat) < u32Max := by decide
      simp only [saturatingAdd32, Nat.not_lt] at allowed
      omega
    repeat' split
    · exact idle.cancelledExit
    · exact idle.toIdle
    · exact idle.toIdle
    · exact ⟨idle, counted, below⟩

section

variable (idle : IdleAt composition position.work rows) (counted : position.attemptsBefore + position.attemptNo = rows.models.length)
include idle counted

theorem judgingStep_ok :
    PointOk composition flag rows (judgingStep composition.gateway answers position) := by
  unfold judgingStep
  repeat' split
  · exact idle.toIdle
  · exact idle.toIdle
  · exact ⟨idle, counted⟩

theorem backingOffStep_ok :
    PointOk composition flag rows (backingOffStep answers flag position) := by
  unfold backingOffStep
  repeat' split
  · exact idle.cancelledExit
  · exact idle.toIdle
  · refine ⟨idle, ?_⟩
    dsimp only
    omega

end

theorem failingStep_ok {reason : WorkFailureReason} (idle : Idle composition rows) :
    PointOk composition flag rows (failingStep rows work reason) := by
  unfold failingStep
  repeat' split
  all_goals exact idle

theorem batchLoadingStep_ok (idle : IdleAt composition batch.work rows) :
    PointOk composition flag rows
      (batchLoadingStep composition.limits composition.runtimeId rows batch) := by
  rw [batchLoadingStep, idle.owned.live.load]
  dsimp only
  split
  · exact idle.toIdle
  · exact ⟨idle, by omega⟩

theorem nextCallStep_ok (ready : ReadyBatch composition batch rows) :
    PointOk composition flag rows (nextCallStep answers flag batch) := by
  unfold nextCallStep
  split
  · split
    · exact ready.toIdle
    · exact ready.toIdle
  · rename_i remaining remains
    have counted := ready.counted
    rw [remains] at counted
    repeat' split
    · exact ready.toIdle
    · exact ready.toIdle
    · exact ⟨⟨ready.toIdleAt, counted⟩, fun notified => absurd notified Bool.false_ne_true⟩

theorem reloadingStep_ok (idle : Idle composition rows)
    (counted : rows.tools.length + batch.remaining ≤ composition.limits.toolCallsPerWork) :
    PointOk composition flag rows (reloadingStep composition.runtimeId rows batch) := by
  rw [reloadingStep, idle.owned.live.load]
  exact ⟨idle.at_stored, counted⟩

end Reads

theorem afterCommit_ok {result : Except StoreRefusal RunnerRows} {committed refused : RunnerPoint}
    (flagOk : FlagOk flag rows)
    (commits : ∀ updated, result = .ok updated → StepOk composition flag (updated, committed))
    (refuses : PointOk composition flag rows refused) :
    StepOk composition flag (afterCommit rows result committed refused) := by
  cases outcome : result with
  | error failure => exact ⟨flagOk, refuses⟩
  | ok updated => exact commits updated outcome

theorem Ended.flagOk (ended : Ended rows) : FlagOk flag rows :=
  fun _ => .inr ended.terminal

theorem Idle.ended {next : WorkLifecycleSnapshot} (idle : Idle composition rows)
    (terminal : next.state.isTerminal = true) : Ended { rows with work := next } :=
  ⟨⟨idle.models, idle.tools⟩, terminal⟩

theorem completingStep_ok {modelId : ModelInvocationId} {reason : WorkCompletionReason}
    (idle : Idle composition rows) (flagOk : FlagOk flag rows) :
    StepOk composition flag (completingStep answers rows work modelId reason) := by
  unfold completingStep
  split
  · exact ⟨flagOk, idle⟩
  · split
    · exact ⟨flagOk, idle⟩
    · split
      · exact ⟨flagOk, idle⟩
      · refine afterCommit_ok flagOk ?_ idle
        intro updated committed
        obtain ⟨rfl, terminal⟩ := commitAssistantCompletion_eq_ok committed
        have ended := idle.ended terminal
        exact ⟨ended.flagOk, ended⟩

theorem terminalizingStep_ok {next : WorkLifecycleSnapshot} (idle : Idle composition rows)
    (flagOk : FlagOk flag rows) :
    StepOk composition flag (terminalizingStep answers rows work next) := by
  unfold terminalizingStep
  split
  · exact ⟨flagOk, idle⟩
  · refine afterCommit_ok flagOk ?_ idle
    intro updated committed
    obtain ⟨rfl, terminal⟩ := terminalizeOwnedWork_eq_ok committed
    have ended := idle.ended terminal
    exact ⟨ended.flagOk, ended⟩

theorem FlagOk.unset (flagOk : FlagOk flag rows) {version : ProjectionVersion}
    (stored : rows.work = activeWork composition.workId composition.runtimeId version attempt) :
    flag = false := by
  cases set : flag with
  | false => rfl
  | true =>
    have state : rows.work.state = activeState attempt := by
      rw [stored]
      rfl
    rcases flagOk set with cancelRequested | terminal
    · rw [state] at cancelRequested
      cases attempt <;> cases cancelRequested
    · rw [state, activeState_live] at terminal
      cases terminal

theorem FlagOk.cancelRequested (flagOk : FlagOk flag rows)
    (live : LiveWork composition.workId composition.runtimeId attempt rows.work) (set : flag = true) :
    rows.work.state = .cancelRequested := by
  rcases flagOk set with cancelRequested | terminal
  · exact cancelRequested
  · rw [live.not_terminal] at terminal
    cases terminal

theorem flagOk_of_unset (unset : flag = false) : FlagOk flag rows :=
  fun set => absurd (unset.symm.trans set) Bool.false_ne_true

theorem IdleAt.waits (idle : IdleAt composition work rows) {request : WorkTransitionRequest}
    {waiting : WorkLifecycleSnapshot} (accepted : Accepts work request waiting)
    (blocked : isLegalWorkPair .cancelRequested request.targetState = false)
    (matching : rows.work.matchesGuard work = true) :
    ∃ version next, rows.work = activeWork composition.workId composition.runtimeId version .none ∧
      work = activeWork composition.workId composition.runtimeId version .none ∧
      version.checkedIncrement = some next := by
  have stored := idle.follows.matchesGuard_iff.mp matching
  have notCancelled : work.state ≠ .cancelRequested := by
    intro cancelRequested
    have legal := accepted.legal
    rw [cancelRequested, blocked] at legal
    cases legal
  obtain ⟨version, active⟩ := idle.follows.memory_live.active_of_state notCancelled
  obtain ⟨next, incremented⟩ := idle.increment
  rw [active] at incremented
  exact ⟨version, next, stored.trans active, active, incremented⟩

theorem beginningStep_ok {position : RetryPosition} {attemptId : ModelInvocationId}
    (idle : IdleAt composition position.work rows) (flagOk : FlagOk flag rows)
    (counted : position.attemptsBefore + position.attemptNo = rows.models.length + 1)
    (below : rows.models.length + 1 ≤ composition.gateway.maximumAttemptsPerWork) :
    StepOk composition flag (beginningStep rows position attemptId) := by
  unfold beginningStep
  split
  · exact ⟨flagOk, idle.toIdle⟩
  · rename_i waiting decided
    refine afterCommit_ok flagOk ?_ idle.toIdle
    intro updated committed
    obtain ⟨rfl, matching⟩ := beginModel_eq_ok committed
    have accepted := (decideNext_eq_ok_iff _ _ _).mp decided
    obtain ⟨version, next, stored, active, incremented⟩ := idle.waits accepted rfl matching
    have increased := PositiveInteger.checkedIncrement_some incremented
    have budget := idle.owned.budget
    rw [stored] at budget
    rw [active] at accepted
    obtain rfl := accepted.unique (accepts_waitForModel incremented attemptId)
    refine ⟨flagOk_of_unset (flagOk.unset stored), ⟨.active next, ?_, below, idle.owned.toolCount⟩,
      idle.models.opens rfl, idle.tools, .current (.active next), counted⟩
    simp only [activeWork, activeState, heldAttempts, requestedCancellations, List.length_cons]
      at budget ⊢
    omega

/-! How an attempt may be finished on the stored work. -/

section Finishes

variable (owned : OwnedRows composition attempt rows)
include owned

theorem OwnedRows.interrupts (reason : WorkInterruptionReason) :
    ∃ next, Accepts rows.work (.interrupt reason) next ∧ next.state = .interrupted ∧
      next.currentAttempt = .none := by
  obtain ⟨version, incremented⟩ := owned.increment
  exact ⟨_, owned.live.accepts_interrupt incremented reason, rfl, rfl⟩

theorem OwnedRows.cancels (cancelRequested : rows.work.state = .cancelRequested) :
    ∃ next, Accepts rows.work (.cancel .userRequest .confirmed) next ∧ next.state = .cancelled ∧
      next.currentAttempt = .none ∧ rows.work.cancellationReason = some .userRequest := by
  obtain ⟨next, incremented⟩ := owned.increment
  obtain ⟨version, stored⟩ := owned.live.cancelling_of_state cancelRequested
  rw [stored] at incremented ⊢
  have confirmed : CleanupStatus.confirmed ≠ .unconfirmed := by decide
  exact ⟨_, accepts_cancel incremented attempt confirmed, rfl, rfl, rfl⟩

theorem OwnedRows.resumes (active : rows.work.state ≠ .cancelRequested) :
    ∃ version next, rows.work = activeWork composition.workId composition.runtimeId version attempt ∧
      version.checkedIncrement = some next := by
  obtain ⟨next, incremented⟩ := owned.increment
  obtain ⟨version, stored⟩ := owned.live.active_of_state active
  rw [stored] at incremented
  exact ⟨version, next, stored, incremented⟩

end Finishes

end Craxii
