import Craxii.Scheduler.Runner

/-!
Steps of one call of the tool batch: the execution stays held until its ending is recorded.
-/

namespace Craxii

open ExceptRules KeyedStates

variable {composition : RunnerComposition} {rows : RunnerRows} {answers : Answers} {flag : Bool}
  {run : ToolRun} {tool : OpenTool} {phase : ToolPhase} {ending : ToolEnding}

/-- What a step of a call needs: answers while the execution is held, a finish on the
stored work, no failure but the unknown outcome after it, and no notice once it returned. -/
def ToolSettles (answers : Answers) (flag : Bool) (rows : RunnerRows) (run : ToolRun)
    (phase : ToolPhase) : Prop :=
  if answers.forwards && flag && run.notice.isNone then phase ≠ .returned none
  else match phase with
    | .undispatched _ _ | .handling _ => ∀ failure, answers.tool ≠ .breaks failure
    | .intending _ => answers.clock = true ∧ ∀ failure, answers.tool ≠ .breaks failure
    | .recording _ expected ending =>
      answers.clock = true ∧ expected = rows.work ∧
        ∀ failure, ending = .unknown failure → failure = .outcomeUnknown
    | _ => True

theorem ToolPhaseOk.owned (phaseOk : ToolPhaseOk composition flag rows run phase) (set : flag = true)
    (unnotified : run.notice = none) (unreturned : phase ≠ .returned none) :
    ∃ attempt, OwnedRows composition attempt rows := by
  cases phase with
  | calling | requesting _ | undispatched _ _ | intending _ | dispatched _ | handling _
  | recording => exact ⟨_, phaseOk.1.owned⟩
  | returned failure =>
    cases failure with
    | none => exact absurd rfl unreturned
    | some failure =>
      cases failure with
      | outcomeUnknown =>
        have notified := phaseOk.2 set
        rw [unnotified] at notified
        cases notified
      | _ => exact ⟨_, Idle.owned phaseOk⟩

theorem OwnsTool.notify {snapshot : WorkLifecycleSnapshot}
    (holds : OwnsTool composition run tool snapshot rows)
    (cancelRequested : rows.work.state = .cancelRequested) :
    OwnsTool composition { run with notice := some rows.work } tool snapshot rows := by
  refine ⟨holds.owned, holds.models, holds.held, holds.follows, ?_, holds.counted⟩
  intro notice notified
  cases notified
  exact ⟨rfl, cancelRequested⟩

theorem ToolPhaseOk.notify (phaseOk : ToolPhaseOk composition flag rows run phase)
    (cancelRequested : rows.work.state = .cancelRequested) (unreturned : phase ≠ .returned none) :
    ToolPhaseOk composition flag rows { run with notice := some rows.work } phase := by
  cases phase with
  | calling | requesting => exact ⟨phaseOk.1, fun _ => cancelRequested⟩
  | undispatched | intending | dispatched | handling =>
    exact ⟨phaseOk.1.notify cancelRequested, phaseOk.2⟩
  | recording => exact ⟨phaseOk.1.notify cancelRequested, phaseOk.2.1, fun _ => rfl⟩
  | returned failure =>
    cases failure with
    | none => exact absurd rfl unreturned
    | some failure =>
      cases failure with
      | outcomeUnknown => exact ⟨phaseOk.1, fun _ => rfl⟩
      | _ => exact phaseOk

theorem forwardStep_ok (phaseOk : ToolPhaseOk composition flag rows run phase)
    (flagOk : FlagOk flag rows) (set : flag = true) (unnotified : run.notice = none)
    (unreturned : phase ≠ .returned none) :
    PointOk composition flag rows (forwardStep composition.runtimeId rows run phase) := by
  obtain ⟨attempt, owned⟩ := phaseOk.owned set unnotified unreturned
  have live := owned.live
  have cancelRequested := flagOk.cancelRequested live set
  obtain ⟨version, stored⟩ := live.cancelling_of_state cancelRequested
  have reason : rows.work.cancellationReason.isNone = false := by
    rw [stored]
    rfl
  simp only [forwardStep, live.load, cancelRequested, reason, ne_eq, not_true_eq_false,
    Bool.false_eq_true, or_self, ↓reduceIte]
  exact phaseOk.notify cancelRequested unreturned

theorem LocalToolFailure.kind_ok (failure : LocalToolFailure) (idle : Idle composition rows) :
    ToolPhaseOk composition flag rows run (.returned (some failure.kind)) := by
  cases failure with
  | invalidComposition => exact idle
  | invalidCallContext => exact idle
  | clock => exact idle

theorem callingPhase_ok (phaseOk : ToolPhaseOk composition flag rows run .calling) :
    ToolPhaseOk composition flag rows run (callingPhase composition.runtimeId answers run) := by
  have idle : Idle composition rows := phaseOk.1.toIdle
  unfold callingPhase
  split
  · exact idle
  · split
    · exact idle
    · split
      · rename_i failure _
        exact failure.kind_ok idle
      · exact phaseOk

theorem requestingStep_ok {toolId : ToolExecutionId}
    (phaseOk : ToolPhaseOk composition flag rows run (.requesting toolId)) (flagOk : FlagOk flag rows) :
    StepOk composition flag (requestingStep rows run toolId) := by
  obtain ⟨ready, notified⟩ := phaseOk
  have idle : Idle composition rows := ready.toIdle
  have idleAt : IdleAt composition run.batch.work rows := ready.toIdleAt
  unfold requestingStep
  split
  · exact ⟨flagOk, idle⟩
  · rename_i waiting decided
    refine afterCommit_ok flagOk ?_ idle
    intro updated committed
    obtain ⟨rfl, matching⟩ := requestTool_eq_ok committed
    have accepted := (decideNext_eq_ok_iff _ _ _).mp decided
    obtain ⟨version, next, stored, active, incremented⟩ := idleAt.waits accepted rfl matching
    have increased : next.value = version.value + 1 :=
      PositiveInteger.checkedIncrement_some incremented
    have budget := idle.owned.budget
    have counted := ready.counted
    dsimp only at counted
    rw [stored] at budget
    rw [active] at accepted
    obtain rfl := accepted.unique (accepts_waitForTool incremented toolId)
    refine ⟨flagOk_of_unset (flagOk.unset stored), ⟨⟨.active next, ?_, idle.owned.modelCount, ?_⟩,
      idle.models, idle.tools.opens rfl, .current (.active next), ?_, ?_⟩, rfl, rfl⟩
    · simp only [activeWork, activeState, heldAttempts, requestedCancellations, List.length_cons]
        at budget ⊢
      omega
    · simp only [List.length_cons]
      omega
    · intro notice isNotice
      -- A notice would have come with a stored cancellation, which the guard refuses.
      have cancelRequested := notified (by simp [isNotice])
      rw [stored] at cancelRequested
      cases cancelRequested
    · simp only [List.length_cons]
      omega

section

variable (holds : OwnsTool composition run tool tool.waiting rows) (waits : tool.waiting.state = .waitingOnTool) (legal : isLegalToolPair tool.toolState ending.terminalState = true)
include holds waits legal

theorem recordPhase_ok : ToolPhaseOk composition flag rows run (recordPhase run tool ending) := by
  cases notified : run.notice with
  | none =>
    simp only [recordPhase, expectedToolWork, notified]
    refine ⟨holds, legal, ?_⟩
    intro cancelRequested
    rw [waits] at cancelRequested
    cases cancelRequested
  | some notice =>
    obtain ⟨stored, cancelRequested⟩ := holds.notified notice notified
    have live := holds.owned.live
    rw [stored] at live
    obtain ⟨_, ownedBy, holding, _⟩ := live.fields
    have accepted : cancellationSnapshot notice tool.toolId = .ok notice := by
      simp [cancellationSnapshot, cancelRequested, holding, ownedBy, pure, Except.pure]
    simp only [recordPhase, expectedToolWork, notified, accepted]
    refine ⟨⟨holds.owned, holds.models, holds.held, ?_, holds.notified, holds.counted⟩, legal, ?_⟩
    · rw [stored]
      exact .current live
    · intro _
      simp [notified]

theorem recordWaiting_ok :
    ToolPhaseOk composition flag rows run (.recording tool tool.waiting ending) := by
  refine ⟨holds, legal, ?_⟩
  intro cancelRequested
  rw [waits] at cancelRequested
  cases cancelRequested

end

theorem undispatchedPhase_ok {check : DispatchCheck}
    (phaseOk : ToolPhaseOk composition flag rows run (.undispatched tool check))
    (answered : ∀ failure, answers.tool ≠ .breaks failure) :
    ToolPhaseOk composition flag rows run (undispatchedPhase answers run tool check) := by
  obtain ⟨holds, requested, waits⟩ := phaseOk
  have legal : isLegalToolPair tool.toolState ToolEnding.completed.terminalState = true := by
    rw [requested]
    rfl
  have proceeds : ToolPhaseOk composition flag rows run
      (if run.notice.isSome then recordPhase run tool .completed
        else if answers.deadlinePassed then .recording tool tool.waiting .completed
        else check.next tool) := by
    repeat' split
    · exact recordPhase_ok holds waits legal
    · exact recordWaiting_ok holds waits legal
    · cases check with
      | afterIntent | afterAuthority | afterPreparation => exact ⟨holds, requested, waits⟩
  unfold undispatchedPhase
  split
  · rename_i failure breaks
    exact absurd breaks (answered failure)
  · exact recordWaiting_ok holds waits legal
  · exact proceeds
  · exact proceeds

theorem intendingStep_ok (phaseOk : ToolPhaseOk composition flag rows run (.intending tool))
    (flagOk : FlagOk flag rows) (clock : answers.clock = true)
    (answered : ∀ failure, answers.tool ≠ .breaks failure) :
    StepOk composition flag (intendingStep answers rows run tool) := by
  obtain ⟨holds, requested, waits⟩ := phaseOk
  have held := holds.held
  rw [requested] at held
  have notCancelled : tool.waiting.state ≠ .cancelRequested := by
    rw [waits]
    decide
  obtain ⟨version, active⟩ := holds.follows.memory_live.active_of_state notCancelled
  have dispatched : dispatchTool rows tool.waiting tool.toolId =
      .ok { rows with tools := moveState tool.toolId .requested .dispatching rows.tools } := by
    rw [active]
    exact dispatchTool_held version held
  unfold intendingStep
  split
  · rename_i stopped
    rw [clock] at stopped
    cases stopped
  · rename_i failure _ breaks
    exact absurd breaks (answered failure)
  · rw [dispatched]
    dsimp only [afterCommit]
    refine ⟨flagOk, ⟨⟨holds.owned.live, ?_, holds.owned.modelCount, ?_⟩, holds.models,
      held.moved rfl, holds.follows, holds.notified, ?_⟩, rfl, waits⟩
    · simpa only [length_moveState] using holds.owned.budget
    · simpa only [length_moveState] using holds.owned.toolCount
    · simpa only [length_moveState] using holds.counted

theorem dispatchedPhase_ok (phaseOk : ToolPhaseOk composition flag rows run (.dispatched tool)) :
    ToolPhaseOk composition flag rows run (dispatchedPhase answers run tool) := by
  obtain ⟨holds, dispatching, waits⟩ := phaseOk
  have legal : isLegalToolPair tool.toolState ToolEnding.completed.terminalState = true := by
    rw [dispatching]
    rfl
  unfold dispatchedPhase
  repeat' split
  · exact recordPhase_ok holds waits legal
  · exact recordWaiting_ok holds waits legal
  · exact ⟨holds, dispatching, waits⟩

theorem handlingPhase_ok (phaseOk : ToolPhaseOk composition flag rows run (.handling tool))
    (answered : ∀ failure, answers.tool ≠ .breaks failure) :
    ToolPhaseOk composition flag rows run (handlingPhase answers run tool) := by
  obtain ⟨holds, dispatching, waits⟩ := phaseOk
  unfold handlingPhase
  split
  · exact ⟨holds, dispatching, waits⟩
  · exact recordPhase_ok holds waits (by rw [dispatching]; rfl)
  · exact recordPhase_ok holds waits (by rw [dispatching]; rfl)
  · rename_i failure breaks
    exact absurd breaks (answered failure)

def RunnerRows.toolFinished (rows : RunnerRows) (tool : OpenTool) (terminal : ToolExecutionState)
    (next : WorkLifecycleSnapshot) : RunnerRows :=
  { rows with work := next, tools := moveState tool.toolId tool.toolState terminal rows.tools }

theorem ToolEnding.terminalState_isTerminal (ending : ToolEnding) :
    ending.terminalState.isTerminal = true := by
  cases ending <;> rfl

section Recording

variable {expected : WorkLifecycleSnapshot} (holds : OwnsTool composition run tool expected rows)
include holds

theorem OwnsTool.ends {next : WorkLifecycleSnapshot} (ended : next.state.isTerminal = true) :
    Ended (rows.toolFinished tool ending.terminalState next) :=
  ⟨⟨holds.models, holds.held.allClosed ending.terminalState_isTerminal⟩, ended⟩

theorem OwnsTool.resumes {version next : ProjectionVersion}
    (stored : rows.work = activeWork composition.workId composition.runtimeId version
      (.tool tool.toolId)) (incremented : version.checkedIncrement = some next) :
    Idle composition (rows.toolFinished tool ending.terminalState
      (activeWork composition.workId composition.runtimeId next .none)) := by
  have increased := PositiveInteger.checkedIncrement_some incremented
  have budget := holds.owned.budget
  have toolCount := holds.owned.toolCount
  rw [stored] at budget
  refine ⟨⟨holds.models, holds.held.allClosed ending.terminalState_isTerminal⟩,
    ⟨.active next, ?_, holds.owned.modelCount, ?_⟩⟩
  · simp only [RunnerRows.toolFinished, activeWork, activeState, heldAttempts,
      requestedCancellations, length_moveState] at budget ⊢
    omega
  · simpa only [RunnerRows.toolFinished, length_moveState] using toolCount

theorem recordUnknown_ok (current : expected = rows.work) (flagOk : FlagOk flag rows)
    (legal : isLegalToolPair tool.toolState (ToolEnding.unknown .outcomeUnknown).terminalState = true)
    (notified : expected.state = .cancelRequested → run.notice.isSome = true)
    (clock : answers.clock = true) :
    StepOk composition flag
      (recordingStep answers rows run tool expected (.unknown .outcomeUnknown)) := by
  subst current
  have live := holds.owned.live
  obtain ⟨next, accepted, interrupted, released⟩ := holds.owned.interrupts .toolOutcomeUnknown
  obtain ⟨decision, decided, nextIs⟩ := accepted.toOption_decide
  have recorded : terminalWorkNext rows.work tool.toolId (some .toolOutcomeUnknown) = .ok next := by
    simp [terminalWorkNext, decided, nextIs, pure, Except.pure]
  have finished := finishToolRows_held live holds.held legal
    (ToolEnding.terminalState_isTerminal _) accepted released (fun _ => .inr interrupted)
    (fun _ => .inr interrupted) (.inr interrupted)
  have ended : Ended (rows.toolFinished tool (ToolEnding.unknown .outcomeUnknown).terminalState
      next) := holds.ends (by rw [interrupted]; rfl)
  simp only [recordingStep, clock, Bool.not_true, Bool.false_eq_true, ↓reduceIte,
    ToolEnding.interruption, recorded, finished, afterCommit]
  refine ⟨ended.flagOk, ended, ?_⟩
  intro set
  exact notified (flagOk.cancelRequested live set)

theorem recordCompleted_ok (current : expected = rows.work) (flagOk : FlagOk flag rows)
    (legal : isLegalToolPair tool.toolState ToolEnding.completed.terminalState = true)
    (notified : expected.state = .cancelRequested → run.notice.isSome = true)
    (clock : answers.clock = true) :
    StepOk composition flag (recordingStep answers rows run tool expected .completed) := by
  subst current
  have live := holds.owned.live
  have isTerminal := ToolEnding.completed.terminalState_isTerminal
  by_cases cancelRequested : rows.work.state = .cancelRequested
  · obtain ⟨next, accepted, cancelled, released, reason⟩ := holds.owned.cancels cancelRequested
    obtain ⟨decision, decided, nextIs⟩ := accepted.toOption_decide
    have recorded : terminalWorkNext rows.work tool.toolId none = .ok next := by
      simp [terminalWorkNext, cancelRequested, reason, decided, nextIs, pure, Except.pure]
    have finished := finishToolRows_held live holds.held legal isTerminal accepted released
      (fun waitingOnTool => by rw [cancelRequested] at waitingOnTool; cases waitingOnTool)
      (fun _ => .inl cancelled) (.inl rfl)
    have ended : Ended (rows.toolFinished tool ToolEnding.completed.terminalState next) :=
      holds.ends (by rw [cancelled]; rfl)
    simp only [recordingStep, clock, Bool.not_true, Bool.false_eq_true, ↓reduceIte,
      ToolEnding.interruption, recorded, finished, afterCommit]
    exact ⟨ended.flagOk, .inr ⟨notified cancelRequested, ended⟩⟩
  · obtain ⟨version, resumed, stored, incremented⟩ := holds.owned.resumes cancelRequested
    have accepted : Accepts rows.work (.resumeFromTool tool.toolId)
        (activeWork composition.workId composition.runtimeId resumed .none) := by
      rw [stored]
      exact accepts_resumeFromTool incremented tool.toolId
    obtain ⟨decision, decided, nextIs⟩ := accepted.toOption_decide
    have recorded : terminalWorkNext rows.work tool.toolId none =
        .ok (activeWork composition.workId composition.runtimeId resumed .none) := by
      simp [terminalWorkNext, cancelRequested, decided, nextIs, pure, Except.pure]
    have finished := finishToolRows_held live holds.held legal isTerminal accepted rfl
      (fun _ => .inl rfl) (fun requested => absurd requested cancelRequested)
      (.inl rfl)
    have unnotified : run.notice = none := by
      cases noticed : run.notice with
      | none => rfl
      | some notice =>
        obtain ⟨same, requested⟩ := holds.notified notice noticed
        rw [← same] at requested
        exact absurd requested cancelRequested
    simp only [recordingStep, clock, Bool.not_true, Bool.false_eq_true, ↓reduceIte,
      ToolEnding.interruption, recorded, finished, afterCommit]
    refine ⟨flagOk_of_unset (flagOk.unset stored),
      .inl ⟨unnotified, holds.resumes stored incremented, ?_⟩⟩
    simpa only [length_moveState] using holds.counted

end Recording

theorem returnedPoint_ok {failure : Option ToolExecutionServiceErrorKind}
    (phaseOk : ToolPhaseOk composition flag rows run (.returned failure)) :
    PointOk composition flag rows (returnedPoint run failure) := by
  cases failure with
  | none =>
    rcases phaseOk with ⟨unnotified, idle, counted⟩ | ⟨notified, ended⟩
    · simp only [returnedPoint, unnotified, Option.isSome_none, Bool.false_eq_true, ↓reduceIte]
      exact ⟨idle, counted⟩
    · simp only [returnedPoint, notified, ↓reduceIte]
      exact ended
  | some failure =>
    cases failure with
    | outcomeUnknown => exact phaseOk.1
    | cancelledBeforeIntent =>
      simp only [returnedPoint]
      split
      · exact phaseOk
      · exact phaseOk
    | _ => exact phaseOk

theorem toolStep_ok (phaseOk : ToolPhaseOk composition flag rows run phase)
    (flagOk : FlagOk flag rows) (settles : ToolSettles answers flag rows run phase) :
    StepOk composition flag (toolStep composition.runtimeId answers flag rows run phase) := by
  unfold toolStep
  unfold ToolSettles at settles
  split
  · rename_i forwards
    rw [if_pos forwards] at settles
    simp only [Bool.and_eq_true, Option.isNone_iff_eq_none] at forwards
    exact ⟨flagOk, forwardStep_ok phaseOk flagOk forwards.1.2 forwards.2 settles⟩
  · rename_i stays
    rw [if_neg stays] at settles
    cases phase with
    | calling => exact ⟨flagOk, callingPhase_ok phaseOk⟩
    | requesting toolId => exact requestingStep_ok phaseOk flagOk
    | undispatched tool check => exact ⟨flagOk, undispatchedPhase_ok phaseOk settles⟩
    | intending tool => exact intendingStep_ok phaseOk flagOk settles.1 settles.2
    | dispatched tool => exact ⟨flagOk, dispatchedPhase_ok phaseOk⟩
    | handling tool => exact ⟨flagOk, handlingPhase_ok phaseOk settles⟩
    | recording tool expected ending =>
      obtain ⟨clock, current, known⟩ := settles
      obtain ⟨holds, legal, notified⟩ := phaseOk
      cases ending with
      | completed => exact recordCompleted_ok holds current flagOk legal notified clock
      | unknown failure =>
        obtain rfl := known failure rfl
        exact recordUnknown_ok holds current flagOk legal notified clock
    | returned failure => exact ⟨flagOk, returnedPoint_ok phaseOk⟩

end Craxii
