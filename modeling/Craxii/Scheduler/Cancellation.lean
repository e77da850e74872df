import Craxii.Scheduler.ModelTurn
import Craxii.Scheduler.ToolCall

/-!
The runner, a user's cancellation and the scheduler together.
-/

namespace Craxii

open ExceptRules GuardedRun KeyedStates

variable {composition : RunnerComposition} {rows : RunnerRows} {flag : Bool}
  {attempt : CurrentWorkAttempt} {work : WorkLifecycleSnapshot}

/-- What a move needs of the state it is made in: a step on a held attempt settles it, and
an exit is joined with a clock, and a confirmed cancellation with the stored request. -/
def Settles (system : RunnerSystem) : RunnerMove → Prop
  | .cancel | .scan _ => True
  | .run answers =>
    match system.runner with
    | .attempt opened phase => AttemptSettles answers system.rows opened phase
    | .tool run phase => ToolSettles answers system.flag system.rows run phase
    | _ => True
  | .join clock =>
    match system.runner with
    | .exited .cancellationConfirmed =>
      clock = true ∧ system.rows.work.state = .cancelRequested
    | .exited .abnormal => clock = true
    | _ => True

/-- What holds while the scheduler tracks the runner, and once it has joined its exit. -/
def SystemOk (composition : RunnerComposition) (system : RunnerSystem) : Prop :=
  match system.scheduler with
  | .tracking => StepOk composition system.flag (system.rows, system.runner)
  | .joined => Ended system.rows
  | .failed => False

theorem claimed_ok : SystemOk composition (.claimed composition) := by
  refine ⟨flagOk_of_unset rfl, ⟨?_, ?_⟩, ?_⟩
  · intro attempt member
    cases member
  · intro tool member
    cases member
  · refine ⟨.active ⟨2, by decide, by decide⟩, ?_, Nat.zero_le _, Nat.zero_le _⟩
    simp [RunnerSystem.claimed, heldAttempts, requestedCancellations]

theorem runnerStep_ok {answers : Answers} {point : RunnerPoint} {reached : RunnerRows × RunnerPoint}
    (ok : StepOk composition flag (rows, point))
    (settles : ∀ scheduler, Settles ⟨rows, flag, point, scheduler⟩ (.run answers))
    (stepped : runnerStep composition.limits composition.gateway composition.runtimeId answers flag
      rows point = some reached) : StepOk composition flag reached := by
  obtain ⟨flagOk, pointOk⟩ := ok
  cases point with
  | exited => cases stepped
  | starting =>
    cases stepped
    exact ⟨flagOk, startingStep_ok pointOk⟩
  | loading =>
    cases stepped
    exact ⟨flagOk, loadingStep_ok pointOk⟩
  | checking =>
    cases stepped
    exact ⟨flagOk, checkingStep_ok pointOk.1 pointOk.2⟩
  | enteringGateway =>
    cases stepped
    exact ⟨flagOk, enteringGatewayStep_ok pointOk.1 pointOk.2⟩
  | startingTurn =>
    cases stepped
    exact ⟨flagOk, startingTurnStep_ok pointOk.1 pointOk.2⟩
  | beginning =>
    cases stepped
    exact beginningStep_ok pointOk.1 flagOk pointOk.2.1 pointOk.2.2
  | attempt =>
    cases stepped
    exact attemptStep_ok pointOk flagOk (settles .tracking)
  | judging =>
    cases stepped
    exact ⟨flagOk, judgingStep_ok pointOk.1 pointOk.2⟩
  | backingOff =>
    cases stepped
    exact ⟨flagOk, backingOffStep_ok pointOk.1 pointOk.2⟩
  | completing =>
    cases stepped
    exact completingStep_ok pointOk flagOk
  | failing =>
    cases stepped
    exact ⟨flagOk, failingStep_ok pointOk⟩
  | terminalizing =>
    cases stepped
    exact terminalizingStep_ok pointOk flagOk
  | batchLoading =>
    cases stepped
    exact ⟨flagOk, batchLoadingStep_ok pointOk⟩
  | nextCall =>
    cases stepped
    exact ⟨flagOk, nextCallStep_ok pointOk⟩
  | tool =>
    cases stepped
    exact toolStep_ok pointOk flagOk (settles .tracking)
  | reloading =>
    cases stepped
    exact ⟨flagOk, reloadingStep_ok pointOk.1 pointOk.2⟩

/-! A cancellation that commits while the runner is at any point. -/

section Overtaking

variable {version next : ProjectionVersion}
  (stored : rows.work = activeWork composition.workId composition.runtimeId version
    rows.work.currentAttempt)
  (incremented : version.checkedIncrement = some next)

def RunnerRows.overtaken (composition : RunnerComposition) (rows : RunnerRows)
    (next : ProjectionVersion) : RunnerRows :=
  { rows with
    work := cancellingWork composition.workId composition.runtimeId next rows.work.currentAttempt }

include stored in
theorem active_not_cancelRequested : rows.work.state ≠ .cancelRequested := by
  rw [stored]
  cases rows.work.currentAttempt <;> exact nofun

include stored in
theorem not_ended_of_active : ¬Ended rows := by
  intro ended
  have terminal := ended.terminal
  rw [stored] at terminal
  simp only [activeWork, activeState_live] at terminal
  cases terminal

include stored incremented

theorem OwnedRows.overtaken (owned : OwnedRows composition attempt rows) :
    OwnedRows composition attempt (rows.overtaken composition next) := by
  obtain ⟨_, _, holding, _⟩ := owned.live.fields
  have increased := PositiveInteger.checkedIncrement_some incremented
  have budget := owned.budget
  have uncounted : requestedCancellations rows.work.state = 0 := by
    rw [stored]
    cases rows.work.currentAttempt <;> rfl
  have sameVersion : rows.work.projectionVersion.value = version.value := by
    rw [stored]
    rfl
  refine ⟨?_, ?_, owned.modelCount, owned.toolCount⟩
  · simp only [RunnerRows.overtaken, holding]
    exact .cancelling next
  · rw [uncounted] at budget
    simp only [RunnerRows.overtaken, cancellingWork, requestedCancellations]
    omega

theorem Follows.overtake
    (follows : Follows composition.workId composition.runtimeId attempt work rows.work) :
    Follows composition.workId composition.runtimeId attempt work
      (rows.overtaken composition next).work := by
  obtain ⟨_, _, holding, _⟩ := follows.live.fields
  have notCancelled := active_not_cancelRequested stored
  have memory : work = activeWork composition.workId composition.runtimeId version attempt := by
    rw [holding] at stored
    rw [← stored]
    generalize rows.work = kept at follows notCancelled
    cases follows with
    | current => rfl
    | overtaken => exact absurd rfl notCancelled
  rw [memory]
  simp only [RunnerRows.overtaken, holding]
  exact .overtaken incremented

theorem Idle.overtaken (idle : Idle composition rows) :
    Idle composition (rows.overtaken composition next) :=
  ⟨⟨idle.models, idle.tools⟩, idle.owned.overtaken stored incremented⟩

theorem IdleAt.overtaken (idle : IdleAt composition work rows) :
    IdleAt composition work (rows.overtaken composition next) :=
  ⟨idle.toIdle.overtaken stored incremented, idle.follows.overtake stored incremented⟩

theorem OwnsModel.overtaken {opened : OpenAttempt} (holds : OwnsModel composition opened rows) :
    OwnsModel composition opened (rows.overtaken composition next) :=
  ⟨holds.owned.overtaken stored incremented, holds.held, holds.tools,
    holds.follows.overtake stored incremented, holds.counted⟩

theorem OwnsTool.overtaken {run : ToolRun} {tool : OpenTool}
    (holds : OwnsTool composition run tool work rows) :
    OwnsTool composition run tool work (rows.overtaken composition next) := by
  refine ⟨holds.owned.overtaken stored incremented, holds.models, holds.held,
    holds.follows.overtake stored incremented, ?_, holds.counted⟩
  intro notice notified
  -- A notice was read from a stored cancellation, and the work is still active.
  obtain ⟨same, cancelRequested⟩ := holds.notified notice notified
  rw [← same] at cancelRequested
  exact absurd cancelRequested (active_not_cancelRequested stored)

theorem ReadyBatch.overtaken {batch : ToolBatch} (ready : ReadyBatch composition batch rows) :
    ReadyBatch composition batch (rows.overtaken composition next) :=
  ⟨ready.toIdleAt.overtaken stored incremented, ready.counted⟩

theorem ToolPhaseOk.overtaken {run : ToolRun} {phase : ToolPhase}
    (phaseOk : ToolPhaseOk composition flag rows run phase) :
    ToolPhaseOk composition flag (rows.overtaken composition next) run phase := by
  cases phase with
  | calling | requesting => exact ⟨phaseOk.1.overtaken stored incremented, fun _ => rfl⟩
  | undispatched | intending | dispatched | handling | recording =>
    exact ⟨phaseOk.1.overtaken stored incremented, phaseOk.2⟩
  | returned failure =>
    cases failure with
    | none =>
      rcases phaseOk with ⟨unnotified, idle, counted⟩ | ⟨_, ended⟩
      · exact .inl ⟨unnotified, idle.overtaken stored incremented, counted⟩
      · exact absurd ended (not_ended_of_active stored)
    | some failure =>
      cases failure with
      | outcomeUnknown => exact absurd phaseOk.1 (not_ended_of_active stored)
      | _ => exact Idle.overtaken stored incremented phaseOk

theorem PointOk.overtaken {point : RunnerPoint} (pointOk : PointOk composition flag rows point) :
    PointOk composition flag (rows.overtaken composition next) point := by
  cases point with
  | starting | loading | completing | failing | terminalizing =>
    exact Idle.overtaken stored incremented pointOk
  | checking | enteringGateway | startingTurn | beginning | judging | backingOff =>
    exact ⟨pointOk.1.overtaken stored incremented, pointOk.2⟩
  | attempt => exact OwnsModel.overtaken stored incremented pointOk
  | batchLoading => exact IdleAt.overtaken stored incremented pointOk
  | nextCall => exact ReadyBatch.overtaken stored incremented pointOk
  | reloading => exact ⟨pointOk.1.overtaken stored incremented, pointOk.2⟩
  | tool => exact ToolPhaseOk.overtaken stored incremented pointOk
  | exited exit =>
    cases exit with
    | terminalCommitted => exact absurd pointOk (not_ended_of_active stored)
    | cancellationConfirmed | abnormal => exact Idle.overtaken stored incremented pointOk

end Overtaking

variable {point : RunnerPoint} {system : RunnerSystem}

theorem PointOk.live_or_ended (pointOk : PointOk composition flag rows point) :
    (∃ attempt, OwnedRows composition attempt rows) ∨ Ended rows := by
  cases point with
  | starting | loading | completing | failing | terminalizing =>
    exact .inl ⟨.none, Idle.owned pointOk⟩
  | checking _ _ | enteringGateway _ _ | startingTurn _ | beginning _ _ | judging _ | backingOff _
  | reloading => exact .inl ⟨.none, pointOk.1.owned⟩
  | attempt opened => exact .inl ⟨_, OwnsModel.owned pointOk⟩
  | batchLoading => exact .inl ⟨.none, (IdleAt.toIdle pointOk).owned⟩
  | nextCall => exact .inl ⟨.none, (ReadyBatch.toIdleAt pointOk).owned⟩
  | tool run phase =>
    cases phase with
    | calling | requesting => exact .inl ⟨_, pointOk.1.owned⟩
    | undispatched | intending | dispatched | handling | recording =>
      exact .inl ⟨_, pointOk.1.owned⟩
    | returned failure =>
      cases failure with
      | none =>
        rcases pointOk with ⟨_, idle, _⟩ | ⟨_, ended⟩
        · exact .inl ⟨_, idle.owned⟩
        · exact .inr ended
      | some failure =>
        cases failure with
        | outcomeUnknown => exact .inr pointOk.1
        | _ => exact .inl ⟨.none, Idle.owned pointOk⟩
  | exited exit =>
    cases exit with
    | terminalCommitted => exact .inr pointOk
    | cancellationConfirmed => exact .inl ⟨.none, Idle.owned pointOk⟩
    | abnormal => exact .inl ⟨.none, Idle.owned pointOk⟩

theorem cancellation_ok {updated : RunnerRows} (ok : StepOk composition flag (rows, point))
    (committed : applyCancellationDecision rows = .ok updated) :
    StepOk composition flag (updated, point) := by
  obtain ⟨flagOk, pointOk⟩ := ok
  have unchanged (decided : rows.work.state = .cancelRequested ∨ rows.work.state.isTerminal = true) :
      StepOk composition flag (updated, point) := by
    rw [applyCancellationDecision_decided decided] at committed
    cases committed
    exact ⟨flagOk, pointOk⟩
  rcases PointOk.live_or_ended pointOk with ⟨attempt, owned⟩ | ended
  · by_cases cancelRequested : rows.work.state = .cancelRequested
    · exact unchanged (.inl cancelRequested)
    · obtain ⟨version, next, stored, incremented⟩ := owned.resumes cancelRequested
      obtain ⟨_, _, holding, _⟩ := owned.live.fields
      rw [← holding] at stored
      rw [applyCancellationDecision_active stored incremented] at committed
      cases committed
      exact ⟨fun _ => .inl rfl, PointOk.overtaken stored incremented pointOk⟩
  · exact unchanged (.inr ended.terminal)

theorem Idle.interrupted_ended (idle : Idle composition rows) :
    ∃ updated, interruptOwnedWork rows composition.runtimeId = .ok updated ∧ Ended updated := by
  obtain ⟨next, incremented⟩ := idle.owned.increment
  exact ⟨_, interruptOwnedWork_idle idle.owned.live incremented, idle.ended rfl⟩

theorem Idle.cancelled_ended (idle : Idle composition rows)
    (cancelRequested : rows.work.state = .cancelRequested) :
    ∃ updated, finishCancellation rows composition.runtimeId = .ok updated ∧ Ended updated := by
  obtain ⟨next, incremented⟩ := idle.owned.increment
  obtain ⟨version, stored⟩ := idle.owned.live.cancelling_of_state cancelRequested
  have sameVersion : rows.work.projectionVersion = version := by
    rw [stored]
    rfl
  rw [sameVersion] at incremented
  exact ⟨_, finishCancellation_idle stored incremented, idle.ended rfl⟩

theorem joinMove_ok {joined : RunnerSystem} {clock : Bool}
    (ok : StepOk composition system.flag (system.rows, system.runner))
    (settles : Settles system (.join clock))
    (moved : joinMove composition system clock = some joined) : SystemOk composition joined := by
  have pointOk : PointOk composition system.flag system.rows system.runner := ok.pointOk
  unfold joinMove at moved
  simp only [Settles] at settles
  split at moved
  · rename_i exited
    cases moved
    rw [exited] at pointOk
    exact pointOk
  · rename_i exited
    rw [exited] at pointOk settles
    obtain ⟨updated, committed, ended⟩ := Idle.cancelled_ended pointOk settles.2
    rw [settles.1, committed] at moved
    cases moved
    exact ended
  · rename_i exited
    rw [exited] at pointOk settles
    obtain ⟨updated, committed, ended⟩ := Idle.interrupted_ended pointOk
    have timed : clock = true := settles
    rw [timed, committed] at moved
    cases moved
    exact ended
  · cases moved

theorem Ended.not_cancelRequested (ended : Ended rows) : rows.work.state ≠ .cancelRequested := by
  intro cancelRequested
  have terminal := ended.terminal
  rw [cancelRequested] at terminal
  cases terminal

theorem PointOk.flagged (pointOk : PointOk composition flag rows point)
    (cancelRequested : rows.work.state = .cancelRequested) : PointOk composition true rows point := by
  cases point with
  | tool run phase =>
    cases phase with
    | returned failure =>
      cases failure with
      | none => exact pointOk
      | some failure =>
        cases failure with
        | outcomeUnknown => exact absurd cancelRequested pointOk.1.not_cancelRequested
        | _ => exact pointOk
    | _ => exact pointOk
  | exited exit => cases exit <;> exact pointOk
  | _ => exact pointOk

theorem systemMove_ok {next : RunnerSystem} {move : RunnerMove}
    (ok : SystemOk composition system) (settles : Settles system move)
    (moved : systemMove composition system move = some next) : SystemOk composition next := by
  obtain ⟨rows, flag, point, scheduler⟩ := system
  cases scheduler with
  | failed => exact absurd ok id
  | joined =>
    have ended : Ended rows := ok
    cases move with
    | cancel =>
      simp only [systemMove, cancelMove,
        applyCancellationDecision_decided (.inr ended.terminal), Option.some.injEq] at moved
      subst moved
      exact ended
    | scan clock =>
      simp only [systemMove, scanMove, ended.not_cancelRequested, false_and, ↓reduceIte] at moved
      cases moved
    | run => cases moved
    | join => cases moved
  | tracking =>
    cases move with
    | cancel =>
      simp only [systemMove, cancelMove] at moved
      split at moved
      · cases moved
      · rename_i updated committed
        cases moved
        exact cancellation_ok ok committed
    | scan clock =>
      simp only [systemMove, scanMove, ↓reduceIte] at moved
      split at moved
      · rename_i requested
        cases moved
        exact ⟨fun _ => .inl requested.1, PointOk.flagged ok.pointOk requested.1⟩
      · cases moved
    | run answers =>
      simp only [systemMove, runMove, Option.map_eq_some_iff] at moved
      obtain ⟨reached, stepped, rfl⟩ := moved
      exact runnerStep_ok ok (fun _ => settles) stepped
    | join clock => exact joinMove_ok ok settles moved

/-- In every interleaving whose steps all settle. -/
theorem joined_exit_settled (composition : RunnerComposition) (moves : List RunnerMove)
    (settling : Admits (systemMove composition) Settles (.claimed composition) moves) :
    (replay (systemMove composition) (.claimed composition) moves).scheduler ≠ .failed ∧
      ((replay (systemMove composition) (.claimed composition) moves).scheduler = .joined →
        (replay (systemMove composition) (.claimed composition) moves).rows.work.state.isTerminal =
            true ∧
          (∀ attempt ∈ (replay (systemMove composition) (.claimed composition) moves).rows.models,
            attempt.2.isTerminal = true) ∧
          ∀ tool ∈ (replay (systemMove composition) (.claimed composition) moves).rows.tools,
            tool.2.isTerminal = true) := by
  have reachedOk := replay_invariant_admitted (SystemOk composition)
    (fun _ _ _ ok settles moved => systemMove_ok ok settles moved) claimed_ok settling
  generalize replay (systemMove composition) (.claimed composition) moves = reached at reachedOk ⊢
  unfold SystemOk at reachedOk
  constructor
  · intro failed
    rw [failed] at reachedOk
    exact reachedOk
  · intro joined
    rw [joined] at reachedOk
    exact ⟨reachedOk.terminal, reachedOk.models, reachedOk.tools⟩

def defaultRunner : RunnerComposition where
  limits := ⟨maxModelStepsPerWork, maxProviderAttemptsPerWork, maxToolCallsPerWork⟩
  gateway := ⟨maxProviderAttempts, 32, defaultProviderInvocationLimit, defaultProviderIdleTimeout,
    maxModelOutputItems, maxModelToolArgumentBytes⟩
  limitsValid := rfl
  gatewayValid := rfl
  workId := ⟨sampleUuid 1⟩
  runtimeId := ⟨sampleUuid 2⟩

def plainAnswers (exchange : ExchangeAnswer) : Answers where
  clock := true
  deadlinePassed := false
  refused := false
  assemblyFailure := none
  attemptId := ⟨sampleUuid 3⟩
  exchange := exchange
  captureFails := false
  retries := true
  failureReason := .limit .totalWorkTime
  woken := false
  contentFails := false
  toolId := ⟨sampleUuid 4⟩
  tool := .proceeds
  forwards := true

def cancelledExchange : List RunnerMove :=
  List.replicate 6 (.run (plainAnswers .event)) ++
    [.cancel, .run (plainAnswers .event), .run (plainAnswers .event),
      .run (plainAnswers (.ended (.completed .completed [])))]

theorem flagged_before_settling_joined :
    (replay (systemMove defaultRunner) (.claimed defaultRunner)
        (cancelledExchange ++ [.scan true, .run (plainAnswers .event), .run (plainAnswers .event),
          .join true])).scheduler ≠ .failed ∧
      (replay (systemMove defaultRunner) (.claimed defaultRunner)
        (cancelledExchange ++ [.scan true, .run (plainAnswers .event), .run (plainAnswers .event),
          .join true])).rows.work.state = .cancelled := by
  refine ⟨(joined_exit_settled defaultRunner _ ?_).1, by decide +kernel⟩
  simp only [cancelledExchange, List.replicate, List.cons_append, List.nil_append]
  refine ⟨trivial, trivial, trivial, trivial, trivial, trivial, trivial, rfl, fun _ => rfl,
    fun _ => rfl, trivial, trivial, ⟨rfl, .inr rfl⟩, trivial, trivial⟩

theorem unflagged_settling_fails_scheduler :
    (replay (systemMove defaultRunner) (.claimed defaultRunner)
        (cancelledExchange ++ [.run (plainAnswers .event), .scan true, .run (plainAnswers .event),
          .join true])).scheduler = .failed ∧
      (replay (systemMove defaultRunner) (.claimed defaultRunner)
        (cancelledExchange ++ [.run (plainAnswers .event), .scan true, .run (plainAnswers .event),
          .join true])).rows.work.state = .cancelRequested ∧
      (replay (systemMove defaultRunner) (.claimed defaultRunner)
        (cancelledExchange ++ [.run (plainAnswers .event), .scan true, .run (plainAnswers .event),
          .join true])).rows.models = [(⟨sampleUuid 3⟩, .streaming)] := by
  decide +kernel

end Craxii
