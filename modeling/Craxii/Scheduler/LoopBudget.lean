import Craxii.Scheduler.Cancellation
import Craxii.Scheduler.LoopBudgetCore

/-!
The limits of one `AgentLoop::run`, whatever its surroundings do.
-/

namespace Craxii

open ExceptRules GuardedRun KeyedStates

/-! The weight of a point. -/

@[simp] def settledEnding : AttemptEnding → Nat
  | .failed _ => 0
  | .completed _ _ => 2

@[simp] def AttemptPhase.stage : AttemptPhase → Nat
  | .begun => 73
  | .exchanging => 72
  | .settling ending => 69 + settledEnding ending
  | .committing ending => 68 + settledEnding ending

@[simp] def DispatchCheck.stage : DispatchCheck → Nat
  | .afterIntent => 99
  | .afterAuthority => 98
  | .afterPreparation => 97

@[simp] def ToolPhase.stage : ToolPhase → Nat
  | .calling => 62
  | .requesting _ => 61
  | .undispatched _ check => check.stage
  | .intending _ => 96
  | .dispatched _ => 95
  | .handling _ => 94
  | .recording _ _ _ => 93
  | .returned none => 92
  | .returned (some _) => 1

def ToolRun.stage (run : ToolRun) : Nat :=
  if run.notice.isNone then 1 else 0

@[simp] def RunnerPoint.stage : RunnerPoint → Nat
  | .starting => 39
  | .loading _ => 38
  | .checking _ _ => 37
  | .enteringGateway _ _ => 36
  | .startingTurn _ => 35
  | .beginning _ _ => 34
  | .attempt _ phase => phase.stage
  | .judging _ => 67
  | .backingOff _ => 66
  | .completing _ _ _ => 3
  | .failing _ _ => 2
  | .terminalizing _ _ => 1
  | .batchLoading _ => 65
  | .nextCall _ => 64
  | .tool run phase => phase.stage + run.stage
  | .reloading _ => 65
  | .exited _ => 0

def AgentLoopLimits.weight (limits : AgentLoopLimits) (rows : RunnerRows) (point : RunnerPoint) : Nat :=
  40 * (limits.providerAttemptsPerWork - rows.models.length) +
    40 * (limits.toolCallsPerWork - rows.tools.length) + point.stage

def AgentLoopLimits.stepBound (limits : AgentLoopLimits) : Nat :=
  40 * limits.providerAttemptsPerWork + 40 * limits.toolCallsPerWork + 39

/-! What holds at a point. -/

section Invariant

variable (limits : AgentLoopLimits) (rows : RunnerRows) (ledger : LoopLedger)

def LoopLedger.places : List ToolCallPlace :=
  ledger.responses.flatMap ToolResponse.places

def LoopLedger.requested : List ToolCallPlace :=
  ledger.requests.map RequestedCall.place

def ToolsClosed : Prop :=
  AllClosed ToolExecutionState.isTerminal rows.tools

/-- Every call so far was requested and is over, and every response is older than the step. -/
structure Settled (agentStep : Nat) : Prop where
  closed : ToolsClosed rows
  complete : ledger.requested = ledger.places
  earlier : ∀ response ∈ ledger.responses, response.agentStep < agentStep

structure InTurn (agentStep : Nat) : Prop extends Settled rows ledger agentStep where
  counted : ledger.invocations = agentStep
  allowed : agentStep ≤ limits.modelStepsPerWork

/-- The loop is inside a batch, with `pending` calls of its response not yet requested. -/
structure InBatch (batch : ToolBatch) (pending : Nat) : Prop where
  made : ∃ older total, ledger.responses = older ++ [⟨batch.agentStep, total⟩] ∧ pending ≤ total ∧
    ledger.requested = older.flatMap ToolResponse.places ++
      (List.range (total - pending)).map (ToolCallPlace.mk batch.agentStep)
  counted : ledger.invocations = batch.agentStep
  allowed : batch.agentStep ≤ limits.modelStepsPerWork

structure Funded (batch : ToolBatch) (pending : Nat) : Prop extends
    InBatch limits ledger batch pending where
  funded : rows.tools.length + pending ≤ limits.toolCallsPerWork

def ToolPhaseFunded (run : ToolRun) : ToolPhase → Prop
  | .calling | .requesting _ =>
    Funded limits rows ledger run.batch (run.batch.remaining + 1) ∧ ToolsClosed rows
  | .undispatched tool _ | .intending tool =>
    Funded limits rows ledger run.batch run.batch.remaining ∧
      Holds ToolExecutionState.isTerminal rows.tools tool.toolId tool.toolState ∧
      tool.toolState = .requested
  | .dispatched tool | .handling tool | .recording tool _ _ =>
    Funded limits rows ledger run.batch run.batch.remaining ∧
      Holds ToolExecutionState.isTerminal rows.tools tool.toolId tool.toolState
  | .returned none => Funded limits rows ledger run.batch run.batch.remaining ∧ ToolsClosed rows
  | .returned (some _) => True

def PointFunded : RunnerPoint → Prop
  | .starting => Settled rows ledger 1 ∧ ledger.invocations = 0
  | .loading agentStep =>
    Settled rows ledger agentStep ∧ ledger.invocations + 1 = agentStep ∧
      agentStep ≤ limits.modelStepsPerWork + 1
  | .checking agentStep owned =>
    Settled rows ledger agentStep ∧ ledger.invocations + 1 = agentStep ∧
      owned.modelAttemptCount = rows.models.length
  | .enteringGateway agentStep owned =>
    InTurn limits rows ledger agentStep ∧ owned.modelAttemptCount = rows.models.length
  | .startingTurn position =>
    InTurn limits rows ledger position.agentStep ∧
      position.attemptsBefore + position.attemptNo = rows.models.length + 1
  | .beginning position _ =>
    InTurn limits rows ledger position.agentStep ∧
      position.attemptsBefore + position.attemptNo = rows.models.length + 1 ∧
      rows.models.length + 1 ≤ limits.providerAttemptsPerWork
  | .attempt opened _ =>
    InTurn limits rows ledger opened.agentStep ∧
      opened.attemptsBefore + opened.attemptNo = rows.models.length
  | .judging position | .backingOff position =>
    InTurn limits rows ledger position.agentStep ∧
      position.attemptsBefore + position.attemptNo = rows.models.length
  | .batchLoading batch =>
    InBatch limits ledger batch batch.remaining ∧ ToolsClosed rows
  | .nextCall batch | .reloading batch =>
    Funded limits rows ledger batch batch.remaining ∧ ToolsClosed rows
  | .tool run phase => ToolPhaseFunded limits rows ledger run phase
  | .completing _ _ _ | .failing _ _ | .terminalizing _ _ | .exited _ => True

structure WithinLimits (run : AgentRun) : Prop where
  attempts : run.rows.models.length ≤ limits.providerAttemptsPerWork
  tools : run.rows.tools.length ≤ limits.toolCallsPerWork
  invocations : run.ledger.invocations ≤ limits.modelStepsPerWork
  rowed : run.rows.tools.map Prod.fst = (run.ledger.requests.map RequestedCall.toolId).reverse
  ordered : run.ledger.responses.Pairwise fun earlier later => earlier.agentStep < later.agentStep
  inOrder : run.ledger.requested <+: run.ledger.places
  spent : run.steps + limits.weight run.rows run.point ≤ limits.stepBound + run.waits
  funded : PointFunded limits run.rows run.ledger run.point

end Invariant

variable {limits : AgentLoopLimits} {run : AgentRun} {rows : RunnerRows} {point : RunnerPoint}

/-! Steps that neither begin an attempt nor request a tool. -/

def RunnerPoint.isQuiet : RunnerPoint → Bool
  | .enteringGateway _ _ | .batchLoading _ => false
  | _ => true

theorem observe_quiet {ledger : LoopLedger} {before after : RunnerPoint} {updated : RunnerRows}
    (quiet : after.isQuiet = true) (sameTools : updated.tools.length = rows.tools.length) :
    ledger.observe rows updated before after = ledger := by
  unfold LoopLedger.observe
  split
  · cases quiet
  · cases quiet
  · exact if_pos sameTools
  · rfl

theorem tools_length (sameTools : rows.tools.map Prod.fst = run.rows.tools.map Prod.fst) :
    rows.tools.length = run.rows.tools.length := by
  simpa using congrArg List.length sameTools

theorem WithinLimits.stepped (within : WithinLimits limits run)
    (attempts : rows.models.length ≤ limits.providerAttemptsPerWork)
    (sameTools : rows.tools.map Prod.fst = run.rows.tools.map Prod.fst)
    (quiet : point.isQuiet = true) (lighter : limits.weight rows point <
      limits.weight run.rows run.point + if stillWaits run.point point then 1 else 0)
    (funded : PointFunded limits rows run.ledger point) : WithinLimits limits (run.reach rows point) := by
  have toolCount := tools_length sameTools
  have unchanged : (run.reach rows point).ledger = run.ledger := observe_quiet quiet toolCount
  have spent := within.spent
  refine ⟨attempts, toolCount.trans_le within.tools, ?_, ?_, ?_, ?_, ?_, ?_⟩
  · rw [unchanged]
    exact within.invocations
  · rw [unchanged]
    exact sameTools.trans within.rowed
  · rw [unchanged]
    exact within.ordered
  · rw [unchanged]
    exact within.inOrder
  · simp only [AgentRun.reach] at spent ⊢
    omega
  · rw [unchanged]
    exact funded

theorem WithinLimits.fundedAt (within : WithinLimits limits run) (here : run.point = point) :
    PointFunded limits run.rows run.ledger point := by
  rw [← here]
  exact within.funded

structure DeadEnd (limits : AgentLoopLimits) (run : AgentRun) (final : RunnerPoint) : Prop where
  quiet : final.isQuiet = true
  lower : final.stage < run.point.stage
  funded : ∀ rows ledger, PointFunded limits rows ledger final

/-- A step stays within the limits, also where it is cut short after its transaction. -/
structure LeadsWithin (limits : AgentLoopLimits) (run : AgentRun) (next : RunnerRows × RunnerPoint) :
    Prop where
  reached : WithinLimits limits (run.reach next.1 next.2)
  cut : ∀ final, DeadEnd limits run final → WithinLimits limits (run.reach next.1 final)

theorem WithinLimits.cutShort (within : WithinLimits limits run)
    (attempts : rows.models.length ≤ limits.providerAttemptsPerWork)
    (grown : run.rows.models.length ≤ rows.models.length)
    (sameTools : rows.tools.map Prod.fst = run.rows.tools.map Prod.fst) (final : RunnerPoint)
    (dead : DeadEnd limits run final) : WithinLimits limits (run.reach rows final) := by
  have lower := dead.lower
  refine within.stepped attempts sameTools dead.quiet ?_ (dead.funded _ _)
  simp only [AgentLoopLimits.weight, tools_length sameTools]
  omega

structure KeepsAttempts (rows updated : RunnerRows) : Prop where
  models : updated.models.length = rows.models.length
  tools : updated.tools.map Prod.fst = rows.tools.map Prod.fst

theorem KeepsAttempts.refl (rows : RunnerRows) : KeepsAttempts rows rows :=
  ⟨rfl, rfl⟩

theorem WithinLimits.cutKept (within : WithinLimits limits run) (kept : KeepsAttempts run.rows rows) :
    ∀ final, DeadEnd limits run final → WithinLimits limits (run.reach rows final) :=
  within.cutShort (kept.models.trans_le within.attempts) kept.models.ge kept.tools

theorem WithinLimits.keeps (within : WithinLimits limits run) (kept : KeepsAttempts run.rows rows)
    (quiet : point.isQuiet = true)
    (lower : point.stage < run.point.stage + if stillWaits run.point point then 1 else 0)
    (funded : PointFunded limits rows run.ledger point) : LeadsWithin limits run (rows, point) := by
  refine ⟨within.stepped (kept.models.trans_le within.attempts) kept.tools quiet ?_ funded,
    within.cutKept kept⟩
  simp only [AgentLoopLimits.weight, kept.models, tools_length kept.tools]
  omega

theorem WithinLimits.reads (within : WithinLimits limits run) (quiet : point.isQuiet = true)
    (lower : point.stage < run.point.stage) (funded : PointFunded limits run.rows run.ledger point) :
    LeadsWithin limits run (run.rows, point) :=
  within.keeps (.refl _) quiet (Nat.lt_add_right _ lower) funded

theorem AttemptPhase.stage_pos (phase : AttemptPhase) : 0 < phase.stage := by
  cases phase with
  | begun | exchanging => decide
  | settling ending | committing ending => exact Nat.add_pos_left (by decide) _

theorem ToolPhase.stage_pos (phase : ToolPhase) : 0 < phase.stage := by
  cases phase with
  | undispatched tool check => cases check <;> simp
  | returned failure => cases failure <;> exact Nat.succ_pos _
  | _ => exact Nat.succ_pos _

theorem RunnerPoint.stage_pos (running : ∀ exit, point ≠ .exited exit) : 0 < point.stage := by
  cases point with
  | exited exit => exact absurd rfl (running exit)
  | attempt opened phase => exact phase.stage_pos
  | tool run phase => exact Nat.add_pos_left phase.stage_pos _
  | _ => exact Nat.succ_pos _

theorem WithinLimits.exitsWith (within : WithinLimits limits run) (kept : KeepsAttempts run.rows rows)
    (running : ∀ exit, run.point ≠ .exited exit) (exit : WorkRunnerExit) :
    LeadsWithin limits run (rows, .exited exit) :=
  within.keeps kept rfl (Nat.lt_add_right _ (RunnerPoint.stage_pos running)) trivial

theorem WithinLimits.exits (within : WithinLimits limits run)
    (running : ∀ exit, run.point ≠ .exited exit) (exit : WorkRunnerExit) :
    LeadsWithin limits run (run.rows, .exited exit) :=
  within.exitsWith (.refl _) running exit

theorem afterCommit_within {result : Except StoreRefusal RunnerRows} {committed refused : RunnerPoint}
    (stays : LeadsWithin limits run (run.rows, refused))
    (commits : ∀ updated, result = .ok updated → LeadsWithin limits run (updated, committed)) :
    LeadsWithin limits run (afterCommit run.rows result committed refused) := by
  cases outcome : result with
  | error failure => exact stays
  | ok updated => exact commits updated outcome

theorem loadOwnedWorkState_counts {owned : OwnedWorkState} {owner : RuntimeInstanceId}
    (loaded : loadOwnedWorkState rows owner = .ok owned) :
    owned.modelAttemptCount = rows.models.length ∧ owned.toolCallCount = rows.tools.length := by
  simp only [loadOwnedWorkState, bind_eq_ok, pure_eq_ok] at loaded
  obtain ⟨_, _, _, _, rfl⟩ := loaded
  exact ⟨rfl, rfl⟩

variable {ledger : LoopLedger} {agentStep : Nat} {updated : RunnerRows}

theorem Settled.keepsTools
    (settled : Settled rows ledger agentStep) (sameTools : updated.tools = rows.tools) :
    Settled updated ledger agentStep :=
  ⟨by rw [ToolsClosed, sameTools]; exact settled.closed, settled.complete, settled.earlier⟩

theorem InTurn.keepsTools
    (turn : InTurn limits rows ledger agentStep) (sameTools : updated.tools = rows.tools) :
    InTurn limits updated ledger agentStep :=
  ⟨turn.toSettled.keepsTools sameTools, turn.counted, turn.allowed⟩

/-! The agent loop up to the gateway. -/

section Loop

variable {answers : Answers} {flag : Bool} {runtimeId : RuntimeInstanceId}
  {gateway : ModelGatewayLimits} {agentStep : Nat} {owned : OwnedWorkState} {position : RetryPosition}
  (within : WithinLimits limits run)
include within

theorem startingStep_within (here : run.point = .starting) :
    LeadsWithin limits run (run.rows, startingStep answers) := by
  have funded := within.fundedAt here
  unfold startingStep
  split
  · exact within.exits (by simp [here]) _
  · refine within.reads rfl (by simp [here]) ⟨funded.1, by rw [funded.2], ?_⟩
    omega

theorem loadingStep_within (here : run.point = .loading agentStep) :
    LeadsWithin limits run (run.rows, loadingStep runtimeId run.rows agentStep) := by
  have funded := within.fundedAt here
  unfold loadingStep
  split
  · exact within.exits (by simp [here]) _
  · rename_i owned loaded
    split
    · exact within.exits (by simp [here]) _
    · split
      · exact within.exits (by simp [here]) _
      · refine within.reads rfl (by simp [here]) ⟨funded.1, funded.2.1, ?_⟩
        exact (loadOwnedWorkState_counts loaded).1

theorem failing_within (lower : 2 < run.point.stage) (work : WorkLifecycleSnapshot)
    (reason : WorkFailureReason) : LeadsWithin limits run (run.rows, .failing work reason) :=
  within.reads rfl lower trivial

theorem invoking_within (here : run.point = .checking agentStep owned)
    (allowed : agentStep ≤ limits.modelStepsPerWork) :
    LeadsWithin limits run (run.rows, .enteringGateway agentStep owned) := by
  obtain ⟨settled, counted, sameAttempts⟩ := within.fundedAt here
  have entered : (run.reach run.rows (.enteringGateway agentStep owned)).ledger =
      { run.ledger with invocations := run.ledger.invocations + 1 } := by
    simp only [AgentRun.reach, here, LoopLedger.observe]
  have spent := within.spent
  refine ⟨⟨within.attempts, within.tools, ?_, ?_, ?_, ?_, ?_, ?_⟩, within.cutKept (.refl _)⟩
  · rw [entered]
    exact counted.trans_le allowed
  · rw [entered]
    exact within.rowed
  · rw [entered]
    exact within.ordered
  · rw [entered]
    exact within.inOrder
  · simp only [AgentRun.reach, AgentLoopLimits.weight, here, RunnerPoint.stage] at spent ⊢
    omega
  · rw [entered]
    exact ⟨⟨⟨settled.closed, settled.complete, settled.earlier⟩, counted, allowed⟩, sameAttempts⟩

theorem checkingStep_within (here : run.point = .checking agentStep owned) :
    LeadsWithin limits run (run.rows, checkingStep limits answers flag agentStep owned) := by
  have lower : 2 < run.point.stage := by
    simp [here]
  unfold checkingStep
  split
  · exact within.exits (by simp [here]) _
  split
  · exact failing_within within lower _ _
  split
  · exact failing_within within lower _ _
  split
  · exact failing_within within lower _ _
  split
  · exact failing_within within lower _ _
  split
  · exact failing_within within lower _ _
  · exact invoking_within within here (by omega)

theorem cancelledExit_within (running : ∀ exit, run.point ≠ .exited exit)
    (work : WorkLifecycleSnapshot) : LeadsWithin limits run (run.rows, cancelledExit work) := by
  unfold cancelledExit
  exact within.exits running _

theorem enteringGatewayStep_within (here : run.point = .enteringGateway agentStep owned) :
    LeadsWithin limits run (run.rows, enteringGatewayStep gateway answers flag agentStep owned) := by
  have funded := within.fundedAt here
  unfold enteringGatewayStep
  split
  · exact within.exits (by simp [here]) _
  split
  · exact cancelledExit_within within (by simp [here]) _
  · exact within.reads rfl (by simp [here]) ⟨funded.1, by rw [funded.2]⟩

/-! The retry loop and one physical attempt. -/

theorem startingTurnStep_within (here : run.point = .startingTurn position)
    (bounded : gateway.maximumAttemptsPerWork ≤ limits.providerAttemptsPerWork)
    (small : gateway.maximumAttemptsPerWork < u32Max) :
    LeadsWithin limits run (run.rows, startingTurnStep gateway answers flag position) := by
  obtain ⟨turn, counted⟩ := within.fundedAt here
  unfold startingTurnStep
  split
  · exact within.exits (by simp [here]) _
  · rename_i allowed
    have below : run.rows.models.length + 1 ≤ limits.providerAttemptsPerWork := by
      simp only [saturatingAdd32, Nat.not_lt] at allowed
      omega
    split
    · exact cancelledExit_within within (by simp [here]) _
    split
    · exact failing_within within (by simp [here]) _ _
    split
    · exact within.exits (by simp [here]) _
    · exact within.reads rfl (by simp [here]) ⟨turn, counted, below⟩

theorem judgingStep_within (here : run.point = .judging position) :
    LeadsWithin limits run (run.rows, judgingStep gateway answers position) := by
  have funded := within.fundedAt here
  unfold judgingStep
  split
  · exact failing_within within (by simp [here]) _ _
  split
  · exact within.exits (by simp [here]) _
  · exact within.reads rfl (by simp [here]) funded

theorem backingOffStep_within (here : run.point = .backingOff position) :
    LeadsWithin limits run (run.rows, backingOffStep answers flag position) := by
  obtain ⟨turn, counted⟩ := within.fundedAt here
  unfold backingOffStep
  split
  · split
    · exact cancelledExit_within within (by simp [here]) _
    · exact failing_within within (by simp [here]) _ _
  · refine within.reads rfl (by simp [here]) ⟨turn, ?_⟩
    dsimp only
    omega

theorem beginningStep_within {attemptId : ModelInvocationId}
    (here : run.point = .beginning position attemptId) :
    LeadsWithin limits run (beginningStep run.rows position attemptId) := by
  obtain ⟨turn, counted, below⟩ := within.fundedAt here
  unfold beginningStep
  split
  · exact within.exits (by simp [here]) _
  · refine afterCommit_within (within.exits (by simp [here]) _) fun updated committed => ?_
    obtain ⟨rfl, _⟩ := beginModel_eq_ok committed
    refine ⟨within.stepped below rfl rfl ?_ ⟨turn.keepsTools rfl, counted⟩,
      within.cutShort below (Nat.le_succ _) rfl⟩
    -- The attempt that was begun pays for the higher stage.
    simp only [AgentLoopLimits.weight, here, RunnerPoint.stage, AttemptPhase.stage, List.length_cons]
    omega

theorem responding_within {opened : OpenAttempt} {phase : AttemptPhase} {batch : ToolBatch}
    (here : run.point = .attempt opened phase) (higher : 65 < phase.stage)
    (models : rows.models.length = run.rows.models.length) (sameTools : rows.tools = run.rows.tools)
    (sameStep : batch.agentStep = opened.agentStep) :
    LeadsWithin limits run (rows, .batchLoading batch) := by
  obtain ⟨turn, _⟩ := within.fundedAt here
  have responded : (run.reach rows (.batchLoading batch)).ledger =
      { run.ledger with
        responses := run.ledger.responses ++ [⟨batch.agentStep, batch.remaining⟩] } := by
    simp only [AgentRun.reach, here, LoopLedger.observe]
  have spent := within.spent
  refine ⟨⟨models.trans_le within.attempts, ?_, ?_, ?_, ?_, ?_, ?_, ?_⟩,
    within.cutKept ⟨models, congrArg _ sameTools⟩⟩
  · exact (congrArg List.length sameTools).trans_le within.tools
  · rw [responded]
    exact within.invocations
  · rw [responded]
    exact (congrArg (List.map Prod.fst) sameTools).trans within.rowed
  · rw [responded, List.pairwise_append]
    refine ⟨within.ordered, List.pairwise_singleton _ _, ?_⟩
    intro earlier found later single
    rw [List.mem_singleton.mp single, sameStep]
    exact turn.earlier earlier found
  · rw [responded]
    refine within.inOrder.trans ?_
    simp only [LoopLedger.places, List.flatMap_append]
    exact List.prefix_append _ _
  · simp only [AgentRun.reach, AgentLoopLimits.weight, here, RunnerPoint.stage, models,
      sameTools] at spent ⊢
    omega
  · rw [responded]
    refine ⟨⟨⟨run.ledger.responses, batch.remaining, rfl, Nat.le_refl _, ?_⟩, ?_, ?_⟩, ?_⟩
    · simpa [LoopLedger.requested, LoopLedger.places] using turn.complete
    · exact turn.counted.trans sameStep.symm
    · exact sameStep.trans_le turn.allowed
    · change ToolsClosed rows
      rw [ToolsClosed, sameTools]
      exact turn.closed

variable {opened : OpenAttempt} {phase : AttemptPhase} {next : WorkLifecycleSnapshot}

theorem completionPoint_within {stop : ModelStopReason} {toolCalls : List Bool}
    (here : run.point = .attempt opened phase) (higher : 65 < phase.stage)
    (models : rows.models.length = run.rows.models.length) (sameTools : rows.tools = run.rows.tools) :
    LeadsWithin limits run (rows, completionPoint opened stop toolCalls next) := by
  have kept : KeepsAttempts run.rows rows := ⟨models, congrArg _ sameTools⟩
  have stage : run.point.stage = phase.stage := by
    rw [here]
    rfl
  have ends {target : RunnerPoint} (quiet : target.isQuiet = true) (low : target.stage ≤ 3)
      (trivially : PointFunded limits rows run.ledger target) :
      LeadsWithin limits run (rows, target) :=
    within.keeps kept quiet (by omega) trivially
  unfold completionPoint
  split
  · exact ends rfl (by simp) trivial
  split
  · exact ends rfl (by simp) trivial
  · exact ends rfl (by simp) trivial
  · split
    · exact ends rfl (by simp) trivial
    · exact responding_within within here higher models sameTools rfl
  · exact ends rfl (by simp) trivial
  · exact ends rfl (by simp) trivial
  · exact ends rfl (by simp) trivial

theorem failurePoint_within {error : ProviderError} (here : run.point = .attempt opened phase)
    (higher : 67 < phase.stage) (models : rows.models.length = run.rows.models.length)
    (sameTools : rows.tools = run.rows.tools) :
    LeadsWithin limits run (rows, failurePoint opened error next) := by
  obtain ⟨turn, counted⟩ := within.fundedAt here
  have kept : KeepsAttempts run.rows rows := ⟨models, congrArg _ sameTools⟩
  unfold failurePoint
  split
  · exact within.exitsWith kept (by simp [here]) _
  split
  · exact within.exitsWith kept (by simp [here]) _
  · refine within.keeps kept rfl ?_ ⟨turn.keepsTools sameTools, counted.trans models.symm⟩
    rw [here]
    exact Nat.lt_add_right _ higher

theorem committingStep_within {ending : AttemptEnding}
    (here : run.point = .attempt opened (.committing ending)) :
    LeadsWithin limits run (committingStep answers run.rows opened ending) := by
  have funded := within.fundedAt here
  unfold committingStep
  split
  · exact within.exits (by simp [here]) _
  split
  · split
    · exact within.exits (by simp [here]) _
    · refine afterCommit_within (within.exits (by simp [here]) _) fun updated committed => ?_
      obtain ⟨rfl, _⟩ := finishModelRows_eq_ok committed
      exact failurePoint_within within here (by simp) (length_moveState _ _ _ _) rfl
  · split
    · exact within.reads rfl (by simp [here])
        funded
    · split
      · exact within.exits (by simp [here]) _
      · refine afterCommit_within (within.exits (by simp [here]) _) fun updated committed => ?_
        obtain ⟨rfl, _⟩ := finishModelRows_eq_ok committed
        exact completionPoint_within within here (by simp) (length_moveState _ _ _ _) rfl

theorem exchangingStep_within (here : run.point = .attempt opened .exchanging) :
    LeadsWithin limits run (attemptStep answers flag run.rows opened .exchanging) := by
  have funded := within.fundedAt here
  have waiting {target : OpenAttempt} :
      (RunnerPoint.attempt target .exchanging).stage < run.point.stage +
        if stillWaits run.point (.attempt target .exchanging) then 1 else 0 := by
    simp [here, stillWaits]
  unfold attemptStep
  dsimp only
  split
  · rename_i ending _
    refine within.reads rfl ?_ funded
    cases ending <;> simp [here]
  · split
    · exact within.exits (by simp [here]) _
    split
    · refine afterCommit_within (within.exits (by simp [here]) _) fun updated committed => ?_
      obtain rfl := markModelStreaming_eq_ok committed
      have models := length_moveState opened.attemptId .requesting .streaming run.rows.models
      exact within.keeps ⟨models, rfl⟩ rfl waiting ⟨funded.1.keepsTools rfl, funded.2.trans models.symm⟩
    · exact within.keeps (.refl _) rfl waiting funded

theorem attemptStep_within (here : run.point = .attempt opened phase) :
    LeadsWithin limits run (attemptStep answers flag run.rows opened phase) := by
  have funded := within.fundedAt here
  cases phase with
  | begun =>
    unfold attemptStep
    dsimp only
    split
    · exact within.exits (by simp [here]) _
    split
    · exact within.reads rfl (by simp [here]) funded
    split
    · exact within.reads rfl (by simp [here]) funded
    · exact within.reads rfl (by simp [here]) funded
  | exchanging => exact exchangingStep_within within here
  | settling ending =>
    refine within.reads rfl ?_ funded
    rw [here]
    exact Nat.add_lt_add_right (by decide) _
  | committing ending => exact committingStep_within within here

/-! The ends of the work. -/

variable {work : WorkLifecycleSnapshot}

theorem completingStep_within {modelId : ModelInvocationId}
    {reason : WorkCompletionReason} (here : run.point = .completing work modelId reason) :
    LeadsWithin limits run (completingStep answers run.rows work modelId reason) := by
  unfold completingStep
  split
  · exact failing_within within (by simp [here]) _ _
  split
  · exact within.exits (by simp [here]) _
  split
  · exact within.exits (by simp [here]) _
  · refine afterCommit_within (within.exits (by simp [here]) _) fun updated committed => ?_
    obtain ⟨written, _⟩ := commitAssistantCompletion_eq_ok committed
    exact within.exitsWith (by rw [written]; exact ⟨rfl, rfl⟩) (by simp [here]) _

theorem failingStep_within {reason : WorkFailureReason} (here : run.point = .failing work reason) :
    LeadsWithin limits run (run.rows, failingStep run.rows work reason) := by
  unfold failingStep
  split
  · exact within.exits (by simp [here]) _
  split
  · split
    · exact within.exits (by simp [here]) _
    split
    · exact within.exits (by simp [here]) _
    · exact within.reads rfl (by simp [here]) trivial
  · exact within.exits (by simp [here]) _

theorem terminalizingStep_within (here : run.point = .terminalizing work next) :
    LeadsWithin limits run (terminalizingStep answers run.rows work next) := by
  unfold terminalizingStep
  split
  · exact within.exits (by simp [here]) _
  · refine afterCommit_within (within.exits (by simp [here]) _) fun updated committed => ?_
    obtain ⟨written, _⟩ := terminalizeOwnedWork_eq_ok committed
    exact within.exitsWith (by rw [written]; exact ⟨rfl, rfl⟩) (by simp [here]) _

end Loop

/-! The tool batch. -/

section Batch

variable {ledger : LoopLedger} {batch : ToolBatch} {pending : Nat}

theorem InBatch.inOrder (inBatch : InBatch limits ledger batch pending) :
    ledger.requested <+: ledger.places := by
  obtain ⟨older, total, responses, enough, requested⟩ := inBatch.made
  have split : List.range total =
      List.range (total - pending) ++ (List.range pending).map (total - pending + ·) := by
    rw [← List.range_add]
    congr 1
    omega
  rw [requested, LoopLedger.places, responses, List.flatMap_append, List.flatMap_singleton,
    ToolResponse.places, split, List.map_append, ← List.append_assoc]
  exact List.prefix_append _ _

theorem InBatch.complete (inBatch : InBatch limits ledger batch 0) :
    ledger.requested = ledger.places := by
  obtain ⟨older, total, responses, _, requested⟩ := inBatch.made
  rw [requested, LoopLedger.places, responses, List.flatMap_append, List.flatMap_singleton,
    Nat.sub_zero, ToolResponse.places]

theorem InBatch.earlier (inBatch : InBatch limits ledger batch pending)
    (ordered : ledger.responses.Pairwise fun earlier later => earlier.agentStep < later.agentStep) :
    ∀ response ∈ ledger.responses, response.agentStep < batch.agentStep + 1 := by
  obtain ⟨older, total, responses, _, _⟩ := inBatch.made
  rw [responses] at ordered ⊢
  intro response found
  rcases List.mem_append.mp found with old | last
  · exact Nat.lt_succ_of_lt ((List.pairwise_append.mp ordered).2.2 response old _ List.mem_cons_self)
  · rw [List.mem_singleton.mp last]
    exact Nat.lt_succ_self _

theorem InBatch.request {remaining : Nat} (toolId : ToolExecutionId)
    (inBatch : InBatch limits ledger { batch with remaining } (remaining + 1)) :
    InBatch limits
      { ledger with requests := ledger.requests ++ [⟨ledger.place { batch with remaining }, toolId⟩] }
      { batch with remaining } remaining := by
  obtain ⟨older, total, responses, enough, requested⟩ := inBatch.made
  have place : ledger.place { batch with remaining } = ⟨batch.agentStep, total - (remaining + 1)⟩ := by
    simp [LoopLedger.place, responses]
  have one : total - remaining = total - (remaining + 1) + 1 := by omega
  refine ⟨⟨older, total, responses, by omega, ?_⟩, inBatch.counted, inBatch.allowed⟩
  have before : ledger.requests.map RequestedCall.place = _ := requested
  simp only [LoopLedger.requested, List.map_append, List.map_cons, List.map_nil, before, place, one,
    List.range_succ, List.append_assoc]

variable {answers : Answers} {flag : Bool} {runtimeId : RuntimeInstanceId} {toolRun : ToolRun}
  (within : WithinLimits limits run)
include within

theorem batchLoadingStep_within (here : run.point = .batchLoading batch) :
    LeadsWithin limits run (run.rows, batchLoadingStep limits runtimeId run.rows batch) := by
  obtain ⟨inBatch, closed⟩ := within.fundedAt here
  unfold batchLoadingStep
  split
  · exact within.exits (by simp [here]) _
  · rename_i owned loaded
    have counts := (loadOwnedWorkState_counts loaded).2
    split
    · exact failing_within within (by simp [here]) _ _
    · exact within.reads rfl (by simp [here]) ⟨⟨inBatch, by omega⟩, closed⟩

theorem nextCallStep_within (here : run.point = .nextCall batch) :
    LeadsWithin limits run (run.rows, nextCallStep answers flag batch) := by
  obtain ⟨funded, closed⟩ := within.fundedAt here
  unfold nextCallStep
  split
  · rename_i none
    rw [none] at funded
    split
    · exact within.exits (by simp [here]) _
    · refine within.reads rfl (by simp [here]) ⟨⟨closed, funded.complete, ?_⟩, ?_, ?_⟩
      · exact funded.earlier within.ordered
      · rw [funded.counted]
      · exact Nat.succ_le_succ funded.allowed
  · rename_i remaining some
    rw [some] at funded
    split
    · exact within.exits (by simp [here]) _
    split
    · exact failing_within within (by simp [here]) _ _
    · exact within.reads rfl (by simp [here, ToolRun.stage])
        ⟨⟨⟨funded.made, funded.counted, funded.allowed⟩, funded.funded⟩, closed⟩

theorem reloadingStep_within (here : run.point = .reloading batch) :
    LeadsWithin limits run (run.rows, reloadingStep runtimeId run.rows batch) := by
  obtain ⟨funded, closed⟩ := within.fundedAt here
  unfold reloadingStep
  split
  · exact within.exits (by simp [here]) _
  · exact within.reads rfl (by simp [here])
      ⟨⟨⟨funded.made, funded.counted, funded.allowed⟩, funded.funded⟩, closed⟩

theorem requested_within {toolId : ToolExecutionId}
    (here : run.point = .tool toolRun (.requesting toolId)) (models : rows.models = run.rows.models)
    (tools : rows.tools = (toolId, .requested) :: run.rows.tools)
    (lower : point.stage < run.point.stage + 40)
    (reached : ∀ ledger, Funded limits rows ledger toolRun.batch toolRun.batch.remaining →
      Holds ToolExecutionState.isTerminal rows.tools toolId .requested →
      PointFunded limits rows ledger point) : WithinLimits limits (run.reach rows point) := by
  obtain ⟨funded, closed⟩ := within.fundedAt here
  have requested : (run.reach rows point).ledger =
      { run.ledger with
        requests := run.ledger.requests ++ [⟨run.ledger.place toolRun.batch, toolId⟩] } := by
    simp [AgentRun.reach, here, LoopLedger.observe, tools]
  have inBatch := funded.toInBatch.request toolId
  have room := funded.funded
  have spent := within.spent
  refine ⟨(congrArg List.length models).trans_le within.attempts, ?_, ?_, ?_, ?_, ?_, ?_, ?_⟩
  · change rows.tools.length ≤ _
    rw [tools, List.length_cons]
    omega
  · rw [requested]
    exact within.invocations
  · have rowed := within.rowed
    rw [requested]
    simp [AgentRun.reach, tools, rowed]
  · rw [requested]
    exact within.ordered
  · rw [requested]
    exact inBatch.inOrder
  · simp only [AgentRun.reach, AgentLoopLimits.weight, models, tools, List.length_cons] at spent ⊢
    omega
  · rw [requested]
    refine reached _ ⟨inBatch, ?_⟩ ?_
    · rw [tools, List.length_cons]
      omega
    · rw [tools]
      exact closed.opens rfl

/-! One tool execution. -/

variable {phase : ToolPhase}

theorem toolPhase_within {reached : ToolPhase} (here : run.point = .tool toolRun phase)
    (kept : KeepsAttempts run.rows rows) (lower : reached.stage < phase.stage)
    (funded : ToolPhaseFunded limits rows run.ledger toolRun reached) :
    LeadsWithin limits run (rows, .tool toolRun reached) := by
  refine within.keeps kept rfl (Nat.lt_add_right _ ?_) funded
  rw [here]
  exact Nat.add_lt_add_right lower _

theorem returnsFailure_within (here : run.point = .tool toolRun phase)
    (kept : KeepsAttempts run.rows rows) (higher : 1 < phase.stage)
    (failure : ToolExecutionServiceErrorKind) :
    LeadsWithin limits run (rows, .tool toolRun (.returned (some failure))) :=
  toolPhase_within within here kept higher trivial

theorem forwardStep_within (here : run.point = .tool toolRun phase)
    (unnoticed : toolRun.notice.isNone = true) :
    LeadsWithin limits run (run.rows, forwardStep runtimeId run.rows toolRun phase) := by
  have funded := within.fundedAt here
  unfold forwardStep
  split
  · exact within.exits (by simp [here]) _
  split
  · exact within.exits (by simp [here]) _
  · refine within.reads rfl (by simp [here, ToolRun.stage, unnoticed]) ?_
    -- The notice is no part of what funds a phase.
    cases phase with
    | returned failure => cases failure <;> exact funded
    | _ => exact funded

theorem callingPhase_within (here : run.point = .tool toolRun .calling) :
    LeadsWithin limits run (run.rows, .tool toolRun (callingPhase runtimeId answers toolRun)) := by
  have fails := returnsFailure_within within here (.refl _) (by simp)
  unfold callingPhase
  split
  · exact fails _
  split
  · exact fails _
  split
  · exact fails _
  · exact toolPhase_within within here (.refl _) (by simp) (within.fundedAt here)

theorem requestingStep_within {toolId : ToolExecutionId}
    (here : run.point = .tool toolRun (.requesting toolId)) :
    LeadsWithin limits run (requestingStep run.rows toolRun toolId) := by
  have fails := returnsFailure_within within here (.refl _) (by simp)
  unfold requestingStep
  split
  · exact fails _
  · refine afterCommit_within (fails _) fun updated committed => ?_
    obtain ⟨written, _⟩ := requestTool_eq_ok committed
    have leads {target : RunnerPoint} (lower : target.stage < run.point.stage + 40) :=
      @requested_within _ _ updated target _ within _ here (by rw [written]) (by rw [written]) lower
    refine ⟨leads (by simp [here]; omega) fun ledger funded held => ⟨funded, held, rfl⟩, ?_⟩
    intro final dead
    exact leads (Nat.lt_add_right _ dead.lower) fun _ _ _ => dead.funded _ _

variable {tool : OpenTool}

theorem recordPhase_within (here : run.point = .tool toolRun phase) (higher : 93 < phase.stage)
    (funded : Funded limits run.rows run.ledger toolRun.batch toolRun.batch.remaining)
    (held : Holds ToolExecutionState.isTerminal run.rows.tools tool.toolId tool.toolState)
    (ending : ToolEnding) :
    LeadsWithin limits run (run.rows, .tool toolRun (recordPhase toolRun tool ending)) := by
  unfold recordPhase
  split
  · exact returnsFailure_within within here (.refl _) (by omega) _
  · exact toolPhase_within within here (.refl _) higher ⟨funded, held⟩

theorem undispatchedPhase_within {check : DispatchCheck}
    (here : run.point = .tool toolRun (.undispatched tool check)) :
    LeadsWithin limits run (run.rows, .tool toolRun (undispatchedPhase answers toolRun tool check)) := by
  have funded := within.fundedAt here
  have higher : 96 < (ToolPhase.undispatched tool check).stage := by cases check <;> simp
  have recording : (ToolPhase.recording tool tool.waiting .completed).stage <
      (ToolPhase.undispatched tool check).stage := Nat.lt_trans (by simp) higher
  have proceeds : LeadsWithin limits run (run.rows, .tool toolRun
      (if toolRun.notice.isSome then recordPhase toolRun tool .completed
        else if answers.deadlinePassed then .recording tool tool.waiting .completed
        else check.next tool)) := by
    split
    · exact recordPhase_within within here (by omega) funded.1 funded.2.1 _
    split
    · exact toolPhase_within within here (.refl _) recording ⟨funded.1, funded.2.1⟩
    · refine toolPhase_within within here (.refl _) ?_ ?_
      · cases check <;> simp [DispatchCheck.next]
      · cases check <;> exact funded
  unfold undispatchedPhase
  split
  · exact returnsFailure_within within here (.refl _) (by omega) _
  · exact toolPhase_within within here (.refl _) recording ⟨funded.1, funded.2.1⟩
  · exact proceeds
  · exact proceeds

theorem intendingStep_within (here : run.point = .tool toolRun (.intending tool)) :
    LeadsWithin limits run (intendingStep answers run.rows toolRun tool) := by
  obtain ⟨funded, held, requested⟩ := within.fundedAt here
  have fails := returnsFailure_within within here (.refl _) (by simp)
  unfold intendingStep
  split
  · exact fails _
  · exact fails _
  · refine afterCommit_within (fails _) fun updated committed => ?_
    obtain rfl := dispatchTool_eq_ok committed
    rw [requested] at held
    refine toolPhase_within within here ⟨by rfl, map_fst_moveState _ _ _ _⟩ (by simp)
      ⟨⟨funded.toInBatch, ?_⟩, held.moved rfl⟩
    rw [length_moveState]
    exact funded.funded

theorem dispatchedPhase_within (here : run.point = .tool toolRun (.dispatched tool)) :
    LeadsWithin limits run (run.rows, .tool toolRun (dispatchedPhase answers toolRun tool)) := by
  have funded := within.fundedAt here
  unfold dispatchedPhase
  split
  · exact recordPhase_within within here (by simp) funded.1 funded.2 _
  split
  · exact toolPhase_within within here (.refl _) (by simp) funded
  · exact toolPhase_within within here (.refl _) (by simp) funded

theorem handlingPhase_within (here : run.point = .tool toolRun (.handling tool)) :
    LeadsWithin limits run (run.rows, .tool toolRun (handlingPhase answers toolRun tool)) := by
  have funded := within.fundedAt here
  unfold handlingPhase
  split
  · exact within.keeps (.refl _) rfl (by simp [here, stillWaits]) funded
  · exact recordPhase_within within here (by simp) funded.1 funded.2 _
  · exact recordPhase_within within here (by simp) funded.1 funded.2 _
  · exact returnsFailure_within within here (.refl _) (by simp) _

theorem recordingStep_within {expected : WorkLifecycleSnapshot} {ending : ToolEnding}
    (here : run.point = .tool toolRun (.recording tool expected ending)) :
    LeadsWithin limits run (recordingStep answers run.rows toolRun tool expected ending) := by
  obtain ⟨funded, held⟩ := within.fundedAt here
  have fails {rows : RunnerRows} (kept : KeepsAttempts run.rows rows) :=
    returnsFailure_within within here kept (by simp)
  unfold recordingStep
  split
  · exact fails (.refl _) _
  split
  · exact fails (.refl _) _
  · refine afterCommit_within (fails (.refl _) _) fun updated committed => ?_
    obtain ⟨rfl, _, _, _, isTerminal⟩ := finishToolRows_eq_ok committed
    cases ending with
    | unknown failure => exact fails ⟨by rfl, map_fst_moveState _ _ _ _⟩ _
    | completed =>
      refine toolPhase_within within here ⟨by rfl, map_fst_moveState _ _ _ _⟩
        (by simp [ToolEnding.failure]) ⟨⟨funded.toInBatch, ?_⟩, held.allClosed isTerminal⟩
      rw [length_moveState]
      exact funded.funded

theorem returnedPoint_within {failure : Option ToolExecutionServiceErrorKind}
    (here : run.point = .tool toolRun (.returned failure)) :
    LeadsWithin limits run (run.rows, returnedPoint toolRun failure) := by
  have funded := within.fundedAt here
  unfold returnedPoint
  split
  · split
    · exact within.exits (by simp [here]) _
    · exact within.reads rfl (by simp [here]; omega) funded
  · exact within.exits (by simp [here]) _
  · exact within.exits (by simp [here]) _
  · exact within.exits (by simp [here]) _

theorem toolStep_within (here : run.point = .tool toolRun phase) :
    LeadsWithin limits run (toolStep runtimeId answers flag run.rows toolRun phase) := by
  unfold toolStep
  split
  · rename_i forwarded
    simp only [Bool.and_eq_true] at forwarded
    exact forwardStep_within within here forwarded.2
  · cases phase with
    | calling => exact callingPhase_within within here
    | requesting toolId => exact requestingStep_within within here
    | undispatched tool check => exact undispatchedPhase_within within here
    | intending tool => exact intendingStep_within within here
    | dispatched tool => exact dispatchedPhase_within within here
    | handling tool => exact handlingPhase_within within here
    | recording tool expected ending => exact recordingStep_within within here
    | returned failure => exact returnedPoint_within within here

end Batch

/-! Every step, and every run. -/

section Runs

variable {composition : RunnerComposition} {answers : Answers} {flag : Bool}

def SharedAttemptLimit (composition : RunnerComposition) : Prop :=
  composition.gateway.maximumAttemptsPerWork = composition.limits.providerAttemptsPerWork

variable {reached : RunnerRows × RunnerPoint} {toolRun : ToolRun} {work : WorkLifecycleSnapshot}

theorem runnerStep_within (shared : SharedAttemptLimit composition)
    (within : WithinLimits composition.limits run)
    (stepped : runnerStep composition.limits composition.gateway composition.runtimeId answers flag
      run.rows run.point = some reached) : LeadsWithin composition.limits run reached := by
  have small : composition.gateway.maximumAttemptsPerWork < u32Max :=
    Nat.lt_of_le_of_lt composition.bounds.1 (by decide)
  cases here : run.point
  all_goals
    rw [here] at stepped
    simp only [runnerStep, reduceCtorEq, Option.some.injEq] at stepped
  all_goals subst stepped
  case starting => exact startingStep_within within here
  case loading => exact loadingStep_within within here
  case checking => exact checkingStep_within within here
  case enteringGateway => exact enteringGatewayStep_within within here
  case startingTurn => exact startingTurnStep_within within here shared.le small
  case beginning => exact beginningStep_within within here
  case attempt => exact attemptStep_within within here
  case judging => exact judgingStep_within within here
  case backingOff => exact backingOffStep_within within here
  case completing => exact completingStep_within within here
  case failing => exact failingStep_within within here
  case terminalizing => exact terminalizingStep_within within here
  case batchLoading => exact batchLoadingStep_within within here
  case nextCall => exact nextCallStep_within within here
  case tool => exact toolStep_within within here
  case reloading => exact reloadingStep_within within here

/-! A store operation that reports a failure. -/

theorem settles_within {opened : OpenAttempt} {ending : AttemptEnding}
    (within : WithinLimits limits run) (here : run.point = .attempt opened (.settling ending)) :
    WithinLimits limits (run.reach run.rows (.attempt opened (.committing ending))) := by
  have funded := within.fundedAt here
  have leads : LeadsWithin limits run (run.rows, .attempt opened (.committing ending)) :=
    within.reads rfl (by simp [here]) funded
  exact leads.reached

theorem deadEnd_exit (running : ∀ exit, run.point ≠ .exited exit) :
    DeadEnd limits run (.exited .abnormal) :=
  ⟨rfl, RunnerPoint.stage_pos running, fun _ _ => trivial⟩

theorem deadEnd_tool {phase : ToolPhase} (here : run.point = .tool toolRun phase)
    (failed : storeFailurePoint answers flag (.tool toolRun phase) = some point) :
    DeadEnd limits run point := by
  simp only [storeFailurePoint] at failed
  split at failed
  · obtain rfl := Option.some.inj failed
    exact deadEnd_exit (by simp [here])
  · cases phase with
    | requesting | intending | recording =>
      obtain rfl := Option.some.inj failed
      exact ⟨rfl, by simp [here], fun _ _ => trivial⟩
    | calling | undispatched | dispatched | handling | returned => cases failed

theorem storeFails_within (within : WithinLimits composition.limits run)
    (leads : LeadsWithin composition.limits run reached)
    (stepped : runnerStep composition.limits composition.gateway composition.runtimeId answers flag
      run.rows run.point = some reached)
    (failed : storeFailurePoint answers flag run.point = some point) (kept : Bool) :
    WithinLimits composition.limits (run.reach (if kept then reached.1 else run.rows) point) := by
  have cuts (dead : DeadEnd composition.limits run point) :
      WithinLimits composition.limits (run.reach (if kept then reached.1 else run.rows) point) := by
    cases kept with
    | false => exact within.cutKept (.refl _) point dead
    | true => exact leads.cut point dead
  have exits (running : ∀ exit, run.point ≠ .exited exit) (isExit : .exited .abnormal = point) :
      WithinLimits composition.limits (run.reach (if kept then reached.1 else run.rows) point) :=
    cuts (isExit ▸ deadEnd_exit running)
  cases here : run.point
  all_goals rw [here] at stepped failed
  case tool => exact cuts (deadEnd_tool here failed)
  case attempt opened phase =>
    cases phase with
    | begun => cases failed
    | exchanging | committing ending => exact exits (by simp [here]) (Option.some.inj failed)
    | settling ending =>
      obtain rfl := Option.some.inj failed
      obtain rfl := Option.some.inj stepped
      rw [show (attemptStep answers flag run.rows opened (.settling ending)).1 = run.rows from rfl,
        ite_self]
      exact settles_within within here
  case loading => exact exits (by simp [here]) (Option.some.inj failed)
  case failing => exact exits (by simp [here]) (Option.some.inj failed)
  case batchLoading => exact exits (by simp [here]) (Option.some.inj failed)
  case reloading => exact exits (by simp [here]) (Option.some.inj failed)
  case beginning => exact exits (by simp [here]) (Option.some.inj failed)
  case completing => exact exits (by simp [here]) (Option.some.inj failed)
  case terminalizing => exact exits (by simp [here]) (Option.some.inj failed)
  all_goals cases failed

theorem funded_of_world {ledger : LoopLedger} (funded : PointFunded limits rows ledger point) :
    PointFunded limits { rows with work } ledger point := by
  have settled {agentStep : Nat} (kept : Settled rows ledger agentStep) :
      Settled { rows with work } ledger agentStep :=
    ⟨kept.closed, kept.complete, kept.earlier⟩
  have turns {agentStep : Nat} (kept : InTurn limits rows ledger agentStep) :
      InTurn limits { rows with work } ledger agentStep :=
    ⟨settled kept.toSettled, kept.counted, kept.allowed⟩
  have funds {batch : ToolBatch} {pending : Nat} (kept : Funded limits rows ledger batch pending) :
      Funded limits { rows with work } ledger batch pending :=
    ⟨kept.toInBatch, kept.funded⟩
  cases point with
  | starting | loading | checking => exact ⟨settled funded.1, funded.2⟩
  | enteringGateway | startingTurn | beginning | attempt | judging | backingOff =>
    exact ⟨turns funded.1, funded.2⟩
  | batchLoading => exact funded
  | nextCall | reloading => exact ⟨funds funded.1, funded.2⟩
  | tool toolRun phase =>
    cases phase with
    | returned failure =>
      cases failure with
      | none => exact ⟨funds funded.1, funded.2⟩
      | some => trivial
    | _ => exact ⟨funds funded.1, funded.2⟩
  | completing | failing | terminalizing | exited => trivial

theorem loopMove_within (shared : SharedAttemptLimit composition)
    (within : WithinLimits composition.limits run) {move : LoopMove} {reached : AgentRun}
    (moved : loopMove composition run move = some reached) :
    WithinLimits composition.limits reached := by
  cases move with
  | world work flag =>
    obtain rfl := Option.some.inj moved
    exact ⟨within.attempts, within.tools, within.invocations, within.rowed, within.ordered,
      within.inOrder, within.spent, funded_of_world within.funded⟩
  | run answers =>
    simp only [loopMove, Option.map_eq_some_iff] at moved
    obtain ⟨result, stepped, rfl⟩ := moved
    exact (runnerStep_within shared within stepped).reached
  | storeFails answers kept =>
    simp only [loopMove] at moved
    split at moved
    · rename_i updated next point stepped failed
      obtain rfl := Option.some.inj moved
      exact storeFails_within within (runnerStep_within shared within stepped) stepped failed kept
    · cases moved

theorem claimed_within : WithinLimits composition.limits (.claimed composition) := by
  have weight : composition.limits.weight (RunnerSystem.claimed composition).rows .starting =
      composition.limits.stepBound := by
    simp [AgentLoopLimits.weight, AgentLoopLimits.stepBound, RunnerSystem.claimed]
  refine ⟨Nat.zero_le _, Nat.zero_le _, Nat.zero_le _, rfl, List.Pairwise.nil, List.prefix_rfl, ?_, ?_⟩
  · change 0 + composition.limits.weight (RunnerSystem.claimed composition).rows .starting ≤ _
    rw [weight]
    simp [AgentRun.claimed]
  · refine ⟨⟨?_, rfl, ?_⟩, rfl⟩
    · intro tool found
      cases found
    · intro response found
      cases found

theorem run_within (shared : SharedAttemptLimit composition) (moves : List LoopMove) :
    WithinLimits composition.limits (replay (loopMove composition) (.claimed composition) moves) :=
  replay_invariant _ (fun _ _ _ within moved => loopMove_within shared within moved) claimed_within moves

end Runs

/-! The limits of whole runs. -/

theorem ToolResponse.places_nodup (response : ToolResponse) : response.places.Nodup := by
  refine List.Nodup.map (fun first second same => ?_) List.nodup_range
  exact congrArg ToolCallPlace.index same

theorem ToolResponse.agentStep_of_mem {response : ToolResponse} {place : ToolCallPlace}
    (found : place ∈ response.places) : place.agentStep = response.agentStep := by
  obtain ⟨_, _, rfl⟩ := List.mem_map.mp found
  rfl

theorem WithinLimits.requested_nodup (within : WithinLimits limits run) :
    run.ledger.requested.Nodup := by
  refine within.inOrder.sublist.nodup (List.nodup_flatMap.mpr ⟨fun response _ => response.places_nodup, ?_⟩)
  refine within.ordered.imp fun earlier place first second => ?_
  have firstStep := ToolResponse.agentStep_of_mem first
  have secondStep := ToolResponse.agentStep_of_mem second
  omega

theorem WithinLimits.requests_length (within : WithinLimits limits run) :
    run.ledger.requests.length = run.rows.tools.length := by
  simpa using (congrArg List.length within.rowed).symm

theorem WithinLimits.requests_closed (within : WithinLimits limits run) (closed : ToolsClosed run.rows)
    {request : RequestedCall} (asked : request ∈ run.ledger.requests) :
    ∃ state, (request.toolId, state) ∈ run.rows.tools ∧ state.isTerminal = true := by
  have named : request.toolId ∈ run.rows.tools.map Prod.fst := by
    rw [within.rowed, List.mem_reverse]
    exact List.mem_map_of_mem asked
  obtain ⟨⟨_, state⟩, found, rfl⟩ := List.mem_map.mp named
  exact ⟨state, found, closed _ found⟩

theorem loopMove_run_isSome (composition : RunnerComposition)
    (running : ∀ exit, run.point ≠ .exited exit)
    (answers : Answers) : (loopMove composition run (.run answers)).isSome = true := by
  simp only [loopMove, Option.isSome_map]
  cases here : run.point with
  | exited exit => exact absurd here (running exit)
  | _ => rfl

/-- One run keeps its three limits whatever its surroundings do; its steps are bounded apart from
those that only wait. -/
theorem agent_loop_within_limits (composition : RunnerComposition)
    (shared : SharedAttemptLimit composition) (moves : List LoopMove) :
    let run := replay (loopMove composition) (.claimed composition) moves
    (run.ledger.invocations ≤ composition.limits.modelStepsPerWork ∧
        run.rows.models.length ≤ composition.limits.providerAttemptsPerWork ∧
        run.ledger.requests.length ≤ composition.limits.toolCallsPerWork) ∧
      (run.steps ≤ composition.limits.stepBound + run.waits ∧
        ((∀ exit, run.point ≠ .exited exit) →
          ∀ answers, (loopMove composition run (.run answers)).isSome = true)) ∧
      (run.ledger.requested <+: run.ledger.places ∧ run.ledger.requested.Nodup ∧
        run.ledger.responses.Pairwise fun earlier later => earlier.agentStep < later.agentStep) ∧
      (∀ agentStep owned, run.point = .enteringGateway agentStep owned →
        run.ledger.requested = run.ledger.places ∧
          ∀ request ∈ run.ledger.requests,
            ∃ state, (request.toolId, state) ∈ run.rows.tools ∧ state.isTerminal = true) := by
  intro run
  have within : WithinLimits composition.limits run := run_within shared moves
  refine ⟨⟨within.invocations, within.attempts, within.requests_length.trans_le within.tools⟩,
    ⟨(Nat.le_add_right _ _).trans within.spent, loopMove_run_isSome composition⟩,
    ⟨within.inOrder, within.requested_nodup, within.ordered⟩, ?_⟩
  intro agentStep owned here
  have funded := within.fundedAt here
  exact ⟨funded.1.complete, fun request => within.requests_closed funded.1.closed⟩

theorem default_loop_within_limits :
    (replay (loopMove defaultRunner) (.claimed defaultRunner)
        (List.replicate 6 (.run (plainAnswers .event)))).rows.models.length = 1 ∧
      (replay (loopMove defaultRunner) (.claimed defaultRunner)
        (List.replicate 6 (.run (plainAnswers .event)))).ledger.invocations ≤ 16 :=
  ⟨by decide +kernel, (agent_loop_within_limits defaultRunner rfl _).1.1⟩

end Craxii
