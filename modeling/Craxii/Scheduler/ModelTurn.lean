import Craxii.Scheduler.Runner

/-!
Steps of a runner that holds a model attempt: a finish that is decided on the stored work closes
it.
-/

namespace Craxii

open ExceptRules KeyedStates

variable {composition : RunnerComposition} {rows : RunnerRows} {answers : Answers} {flag : Bool}
  {opened : OpenAttempt} {terminal : ModelInvocationState} {next : WorkLifecycleSnapshot}
  {error : ProviderError}

/-- What a step on a held attempt needs: answers, and a finish on the stored work that a
cancelled work can end on. -/
def AttemptSettles (answers : Answers) (rows : RunnerRows) (opened : OpenAttempt) :
    AttemptPhase → Prop
  | .begun => answers.refused = false
  | .exchanging => answers.exchange = .event → answers.clock = true
  | .settling _ => True
  | .committing (.completed _ _) =>
    answers.clock = true ∧ (answers.captureFails = true ∨ opened.work = rows.work)
  | .committing (.failed error) =>
    answers.clock = true ∧ opened.work = rows.work ∧
      (rows.work.state = .cancelRequested →
        error.isAmbiguous = true ∨ error.isLocalCancellation = true)

def RunnerRows.modelFinished (rows : RunnerRows) (opened : OpenAttempt)
    (terminal : ModelInvocationState) (next : WorkLifecycleSnapshot) : RunnerRows :=
  { rows with
    work := next
    models := moveState opened.attemptId opened.modelState terminal rows.models }

theorem failedTerminalState_isTerminal (error : ProviderError) :
    (failedTerminalState error).isTerminal = true := by
  unfold failedTerminalState
  repeat' split
  all_goals rfl

section Held

variable (holds : OwnsModel composition opened rows)
include holds

theorem OwnsModel.refreshed :
    Follows composition.workId composition.runtimeId (.model opened.attemptId)
      (refreshedWork rows opened) rows.work := by
  obtain ⟨_, ownedBy, _, _⟩ := holds.follows.memory_live.fields
  have live := holds.owned.live
  simp only [refreshedWork, ownedBy, live.load]
  split
  · exact .current live
  · exact holds.follows

section

variable (isTerminal : terminal.isTerminal = true)
include isTerminal

theorem OwnsModel.closed (next : WorkLifecycleSnapshot) :
    AttemptsClosed (rows.modelFinished opened terminal next) :=
  ⟨holds.held.allClosed isTerminal, holds.tools⟩

theorem OwnsModel.ends
    (ended : next.state.isTerminal = true) : Ended (rows.modelFinished opened terminal next) :=
  ⟨holds.closed isTerminal next, ended⟩

theorem OwnsModel.resumes {version resumed : ProjectionVersion}
    (stored : rows.work = activeWork composition.workId composition.runtimeId version
      (.model opened.attemptId)) (incremented : version.checkedIncrement = some resumed) :
    IdleAt composition (activeWork composition.workId composition.runtimeId resumed .none)
      (rows.modelFinished opened terminal
        (activeWork composition.workId composition.runtimeId resumed .none)) := by
  have increased := PositiveInteger.checkedIncrement_some incremented
  have budget := holds.owned.budget
  have modelCount := holds.owned.modelCount
  rw [stored] at budget
  refine ⟨⟨holds.closed isTerminal _, ⟨.active resumed, ?_, ?_, holds.owned.toolCount⟩⟩,
    .current (.active resumed)⟩
  · simp only [RunnerRows.modelFinished, activeWork, activeState, heldAttempts,
      requestedCancellations, length_moveState] at budget ⊢
    omega
  · simpa only [RunnerRows.modelFinished, length_moveState] using modelCount

theorem OwnsModel.finish {request : WorkTransitionRequest}
    (accepted : Accepts rows.work request next) (released : next.currentAttempt = .none)
    (ends : rows.work.state = .cancelRequested → next.state = .cancelled ∨ next.state = .interrupted) :
    finishModelRows rows rows.work opened.attemptId opened.modelState terminal next =
      .ok (rows.modelFinished opened terminal next) :=
  finishModelRows_held holds.owned.live holds.held isTerminal accepted released ends

end

theorem commitAmbiguous_ok (current : opened.work = rows.work) (ambiguous : error.isAmbiguous = true)
    (clock : answers.clock = true) :
    StepOk composition flag (committingStep answers rows opened (.failed error)) := by
  obtain ⟨next, accepted, interrupted, released⟩ := holds.owned.interrupts .providerOutcomeUnknown
  have decided := (decideNext_eq_ok_iff _ _ _).mpr accepted
  have finished := holds.finish (failedTerminalState_isTerminal error) accepted released
    fun _ => .inr interrupted
  have ended : Ended (rows.modelFinished opened (failedTerminalState error) next) :=
    holds.ends (failedTerminalState_isTerminal error) (by rw [interrupted]; rfl)
  simp only [committingStep, clock, Bool.not_true, Bool.false_eq_true, ↓reduceIte, failedWorkNext,
    ambiguous, current, decided, finished, afterCommit, failurePoint]
  exact ⟨ended.flagOk, ended⟩

theorem commitCancelled_ok (current : opened.work = rows.work)
    (unambiguous : error.isAmbiguous = false) (isLocal : error.isLocalCancellation = true)
    (cancelRequested : rows.work.state = .cancelRequested) (clock : answers.clock = true) :
    StepOk composition flag (committingStep answers rows opened (.failed error)) := by
  obtain ⟨next, accepted, cancelled, released, reason⟩ := holds.owned.cancels cancelRequested
  have decided := (decideNext_eq_ok_iff _ _ _).mpr accepted
  have finished := holds.finish (failedTerminalState_isTerminal error) accepted released
    fun _ => .inl cancelled
  have isTerminal : next.state.isTerminal = true := by
    rw [cancelled]
    rfl
  have ended : Ended (rows.modelFinished opened (failedTerminalState error) next) :=
    holds.ends (failedTerminalState_isTerminal error) isTerminal
  simp only [committingStep, clock, Bool.not_true, Bool.false_eq_true, ↓reduceIte, failedWorkNext,
    unambiguous, isLocal, cancelRequested, current, confirmCancellation, reason, orRefuse_some,
    ok_bind, decided, finished, afterCommit, failurePoint, beq_self_eq_true, Bool.and_self,
    cancelledExit, isTerminal]
  exact ⟨ended.flagOk, ended⟩

theorem commitResumed_ok (current : opened.work = rows.work) (unambiguous : error.isAmbiguous = false)
    (active : rows.work.state ≠ .cancelRequested) (flagOk : FlagOk flag rows)
    (clock : answers.clock = true) :
    StepOk composition flag (committingStep answers rows opened (.failed error)) := by
  obtain ⟨version, resumed, stored, incremented⟩ := holds.owned.resumes active
  have accepted : Accepts rows.work (.resumeFromModel opened.attemptId)
      (activeWork composition.workId composition.runtimeId resumed .none) := by
    rw [stored]
    exact accepts_resumeFromModel incremented opened.attemptId
  have decided := (decideNext_eq_ok_iff _ _ _).mpr accepted
  have finished := holds.finish (failedTerminalState_isTerminal error) accepted rfl
    fun cancelRequested => absurd cancelRequested active
  have notCancelling : (rows.work.state == .cancelRequested) = false := by simpa using active
  have idle := holds.resumes (failedTerminalState_isTerminal error) stored incremented
  simp only [committingStep, clock, Bool.not_true, Bool.false_eq_true, ↓reduceIte, failedWorkNext,
    unambiguous, notCancelling, current, resumeFromModel, decided, finished, afterCommit,
    failurePoint, Bool.and_false]
  refine ⟨flagOk_of_unset (flagOk.unset stored), ?_⟩
  split
  · exact idle.cancelledExit
  · refine ⟨idle, ?_⟩
    simpa only [RunnerRows.modelFinished, length_moveState] using holds.counted

omit holds in
theorem completionPoint_ok {stop : ModelStopReason} {toolCalls : List Bool}
    (idle : IdleAt composition next rows) :
    PointOk composition flag rows (completionPoint opened stop toolCalls next) := by
  have live := idle.follows.memory_live.not_terminal
  simp only [completionPoint, live, Bool.false_eq_true, ↓reduceIte]
  cases stop with
  | toolContinuation =>
    dsimp only
    split
    · exact idle.toIdle
    · exact idle
  | completed | refusal | incompleteProviderLimit | cancelled | providerFailure => exact idle.toIdle

theorem commitCompleted_ok {stop : ModelStopReason} {toolCalls : List Bool}
    (current : opened.work = rows.work) (flagOk : FlagOk flag rows) (clock : answers.clock = true)
    (captured : answers.captureFails = false) :
    StepOk composition flag (committingStep answers rows opened (.completed stop toolCalls)) := by
  have isCompleted : ModelInvocationState.completed.isTerminal = true := rfl
  by_cases cancelRequested : rows.work.state = .cancelRequested
  · obtain ⟨next, accepted, cancelled, released, reason⟩ := holds.owned.cancels cancelRequested
    have decided := (decideNext_eq_ok_iff _ _ _).mpr accepted
    have finished := holds.finish isCompleted accepted released fun _ => .inl cancelled
    have isTerminal : next.state.isTerminal = true := by
      rw [cancelled]
      rfl
    have ended : Ended (rows.modelFinished opened .completed next) := holds.ends rfl isTerminal
    simp only [committingStep, clock, captured, Bool.not_true, Bool.false_eq_true, ↓reduceIte,
      completedWorkNext, cancelRequested, current, confirmCancellation, reason, orRefuse_some,
      ok_bind, decided, finished, afterCommit, completionPoint, beq_self_eq_true, isTerminal]
    exact ⟨ended.flagOk, ended⟩
  · obtain ⟨version, resumed, stored, incremented⟩ := holds.owned.resumes cancelRequested
    have accepted : Accepts rows.work (.resumeFromModel opened.attemptId)
        (activeWork composition.workId composition.runtimeId resumed .none) := by
      rw [stored]
      exact accepts_resumeFromModel incremented opened.attemptId
    have decided := (decideNext_eq_ok_iff _ _ _).mpr accepted
    have finished := holds.finish isCompleted accepted rfl
      fun requested => absurd requested cancelRequested
    have notCancelling : (rows.work.state == .cancelRequested) = false := by
      simpa using cancelRequested
    simp only [committingStep, clock, captured, Bool.not_true, Bool.false_eq_true, ↓reduceIte,
      completedWorkNext, notCancelling, current, resumeFromModel, decided, finished, afterCommit]
    exact ⟨flagOk_of_unset (flagOk.unset stored),
      completionPoint_ok (holds.resumes rfl stored incremented)⟩

theorem exchangingStep_ok (flagOk : FlagOk flag rows)
    (settles : AttemptSettles answers rows opened .exchanging) :
    StepOk composition flag (attemptStep answers flag rows opened .exchanging) := by
  simp only [attemptStep]
  cases exchanged : answers.exchange with
  | ended ending => exact ⟨flagOk, holds⟩
  | event =>
    have clock : answers.clock = true := settles exchanged
    simp only [clock, Bool.not_true, Bool.false_eq_true, ↓reduceIte]
    by_cases requesting : opened.modelState = .requesting
    · have held := holds.held
      rw [requesting] at held
      rw [if_pos requesting, markModelStreaming_held holds.follows.memory_live held]
      refine ⟨flagOk, ⟨holds.owned.live, ?_, ?_, holds.owned.toolCount⟩, held.moved rfl,
        holds.tools, holds.follows, ?_⟩
      · simpa only [afterCommit, length_moveState] using holds.owned.budget
      · simpa only [afterCommit, length_moveState] using holds.owned.modelCount
      · simpa only [afterCommit, length_moveState] using holds.counted
    · rw [if_neg requesting]
      exact ⟨flagOk, holds⟩

theorem committingStep_ok {ending : AttemptEnding} (flagOk : FlagOk flag rows)
    (settles : AttemptSettles answers rows opened (.committing ending)) :
    StepOk composition flag (committingStep answers rows opened ending) := by
  cases ending with
  | completed stop toolCalls =>
    obtain ⟨clock, capturedOrCurrent⟩ := settles
    cases captured : answers.captureFails with
    | true =>
      simp only [committingStep, clock, captured, Bool.not_true, Bool.false_eq_true, ↓reduceIte]
      exact ⟨flagOk, holds⟩
    | false =>
      rcases capturedOrCurrent with fails | current
      · rw [captured] at fails
        cases fails
      · exact commitCompleted_ok holds current flagOk clock captured
  | failed error =>
    obtain ⟨clock, current, ends⟩ := settles
    cases ambiguous : error.isAmbiguous with
    | true => exact commitAmbiguous_ok holds current ambiguous clock
    | false =>
      by_cases cancelRequested : rows.work.state = .cancelRequested
      · rcases ends cancelRequested with unclear | isLocal
        · rw [ambiguous] at unclear
          cases unclear
        · exact commitCancelled_ok holds current ambiguous isLocal cancelRequested clock
      · exact commitResumed_ok holds current ambiguous cancelRequested flagOk clock

theorem attemptStep_ok {phase : AttemptPhase} (flagOk : FlagOk flag rows)
    (settles : AttemptSettles answers rows opened phase) :
    StepOk composition flag (attemptStep answers flag rows opened phase) := by
  cases phase with
  | begun =>
    have answered : answers.refused = false := settles
    simp only [attemptStep, answered, Bool.false_eq_true, ↓reduceIte]
    refine ⟨flagOk, ?_⟩
    repeat' split
    all_goals exact holds
  | exchanging => exact exchangingStep_ok holds flagOk settles
  | settling ending =>
    refine ⟨flagOk, holds.owned, holds.held, holds.tools, ?_, holds.counted⟩
    dsimp only
    split
    · exact holds.refreshed
    · exact holds.follows
  | committing ending => exact committingStep_ok holds flagOk settles

end Held

end Craxii
