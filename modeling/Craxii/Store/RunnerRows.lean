import Craxii.Store.RunnerRowsCore
import Craxii.Store.WorkProjection

/-!
What the guarded transactions of one claimed work do to it.
-/

namespace Craxii

open ExceptRules KeyedStates

def activeState : CurrentWorkAttempt → WorkState
  | .none => .running
  | .model _ => .waitingOnModel
  | .tool _ => .waitingOnTool

section Forms

variable (workId : WorkId) (runtimeId : RuntimeInstanceId)

def activeWork (version : ProjectionVersion) (attempt : CurrentWorkAttempt) : WorkLifecycleSnapshot :=
  ⟨workId, activeState attempt, version, some runtimeId, attempt, none, none⟩

def cancellingWork (version : ProjectionVersion) (attempt : CurrentWorkAttempt) :
    WorkLifecycleSnapshot :=
  ⟨workId, .cancelRequested, version, some runtimeId, attempt, some .userRequest, none⟩

inductive LiveWork (attempt : CurrentWorkAttempt) : WorkLifecycleSnapshot → Prop
  | active (version : ProjectionVersion) : LiveWork attempt (activeWork workId runtimeId version attempt)
  | cancelling (version : ProjectionVersion) :
      LiveWork attempt (cancellingWork workId runtimeId version attempt)

inductive Follows (attempt : CurrentWorkAttempt) : WorkLifecycleSnapshot → WorkLifecycleSnapshot → Prop
  | current {work : WorkLifecycleSnapshot} (live : LiveWork workId runtimeId attempt work) :
      Follows attempt work work
  | overtaken {version next : ProjectionVersion} (incremented : version.checkedIncrement = some next) :
      Follows attempt (activeWork workId runtimeId version attempt)
        (cancellingWork workId runtimeId next attempt)

end Forms

variable {workId : WorkId} {runtimeId : RuntimeInstanceId} {attempt : CurrentWorkAttempt}
  {work next stored : WorkLifecycleSnapshot} {version nextVersion : ProjectionVersion}
  {rows updated : RunnerRows}

theorem Follows.live (follows : Follows workId runtimeId attempt work stored) :
    LiveWork workId runtimeId attempt stored := by
  cases follows with
  | current live => exact live
  | overtaken => exact .cancelling _

theorem Follows.memory_live (follows : Follows workId runtimeId attempt work stored) :
    LiveWork workId runtimeId attempt work := by
  cases follows with
  | current live => exact live
  | overtaken => exact .active _

theorem activeState_live (attempt : CurrentWorkAttempt) : (activeState attempt).isTerminal = false := by
  cases attempt <;> rfl

section

variable (live : LiveWork workId runtimeId attempt work)
include live

theorem LiveWork.shape : work.shapeOk = true := by
  cases live with
  | active => cases attempt <;> rfl
  | cancelling => rfl

theorem LiveWork.state : work.state = activeState attempt ∨ work.state = .cancelRequested := by
  cases live with
  | active => exact .inl rfl
  | cancelling => exact .inr rfl

theorem LiveWork.not_terminal : work.state.isTerminal = false := by
  rcases live.state with state | state
  · rw [state, activeState_live]
  · rw [state]
    rfl

theorem LiveWork.fields :
    work.workId = workId ∧ work.runtimeOwner = some runtimeId ∧ work.currentAttempt = attempt ∧
      work.terminalReason = none := by
  cases live with
  | active => exact ⟨rfl, rfl, rfl, rfl⟩
  | cancelling => exact ⟨rfl, rfl, rfl, rfl⟩

theorem LiveWork.cancelling_of_state (cancelRequested : work.state = .cancelRequested) :
    ∃ version, work = cancellingWork workId runtimeId version attempt := by
  cases live with
  | active version => cases attempt <;> cases cancelRequested
  | cancelling version => exact ⟨version, rfl⟩

theorem LiveWork.active_of_state (notCancelled : work.state ≠ .cancelRequested) :
    ∃ version, work = activeWork workId runtimeId version attempt := by
  cases live with
  | active version => exact ⟨version, rfl⟩
  | cancelling version => exact absurd rfl notCancelled

end

abbrev Accepts (work : WorkLifecycleSnapshot) (request : WorkTransitionRequest)
    (next : WorkLifecycleSnapshot) : Prop :=
  AcceptedWork work (.forSnapshot work) request next

section Accepted

variable (incremented : version.checkedIncrement = some nextVersion)

include incremented

theorem accepts_waitForModel (attemptId : ModelInvocationId) :
    Accepts (activeWork workId runtimeId version .none) (.waitForModel attemptId)
      (activeWork workId runtimeId nextVersion (.model attemptId)) :=
  ⟨rfl, checkGuard_forSnapshot _, rfl, rfl, incremented, ⟨_, _, rfl⟩, rfl, rfl, rfl⟩

theorem accepts_waitForTool (toolId : ToolExecutionId) :
    Accepts (activeWork workId runtimeId version .none) (.waitForTool toolId)
      (activeWork workId runtimeId nextVersion (.tool toolId)) :=
  ⟨rfl, checkGuard_forSnapshot _, rfl, rfl, incremented, ⟨_, _, rfl⟩, rfl, rfl, rfl⟩

theorem accepts_resumeFromModel (attemptId : ModelInvocationId) :
    Accepts (activeWork workId runtimeId version (.model attemptId))
      (.resumeFromModel attemptId) (activeWork workId runtimeId nextVersion .none) :=
  ⟨rfl, checkGuard_forSnapshot _, rfl, rfl, incremented,
    ⟨_, _, by simp [transitionFields, activeWork]; exact ⟨rfl, rfl⟩⟩, rfl, rfl, rfl⟩

theorem accepts_resumeFromTool (toolId : ToolExecutionId) :
    Accepts (activeWork workId runtimeId version (.tool toolId))
      (.resumeFromTool toolId) (activeWork workId runtimeId nextVersion .none) :=
  ⟨rfl, checkGuard_forSnapshot _, rfl, rfl, incremented,
    ⟨_, _, by simp [transitionFields, activeWork]; exact ⟨rfl, rfl⟩⟩, rfl, rfl, rfl⟩

theorem accepts_requestCancellation (attempt : CurrentWorkAttempt) :
    Accepts (activeWork workId runtimeId version attempt)
      (.requestCancellation .userRequest) (cancellingWork workId runtimeId nextVersion attempt) := by
  refine ⟨?_, checkGuard_forSnapshot _, activeState_live attempt, ?_, incremented, ⟨_, _, rfl⟩, rfl,
    rfl, rfl⟩
  · exact (LiveWork.active version).shape
  · cases attempt <;> rfl

end Accepted

def cancelledWork (work : WorkLifecycleSnapshot) (version : ProjectionVersion) : WorkLifecycleSnapshot :=
  ⟨work.workId, .cancelled, version, none, .none, none, some (.cancellation .userRequest)⟩

theorem accepts_cancel (incremented : version.checkedIncrement = some nextVersion)
    (attempt : CurrentWorkAttempt) {cleanup : CleanupStatus} (confirmed : cleanup ≠ .unconfirmed) :
    Accepts (cancellingWork workId runtimeId version attempt)
      (.cancel .userRequest cleanup)
      (cancelledWork (cancellingWork workId runtimeId version attempt) nextVersion) := by
  refine ⟨rfl, checkGuard_forSnapshot _, rfl, rfl, incremented,
    ⟨.workCancelled, .commitConfirmedCancellation, ?_⟩, rfl, rfl, rfl⟩
  cases cleanup with
  | unconfirmed => exact absurd rfl confirmed
  | notRequired => rfl
  | confirmed => rfl

theorem LiveWork.accepts_interrupt (live : LiveWork workId runtimeId attempt work)
    (incremented : work.projectionVersion.checkedIncrement = some nextVersion)
    (reason : WorkInterruptionReason) :
    Accepts work (.interrupt reason)
      (interruptedWork work nextVersion reason) := by
  refine ⟨live.shape, checkGuard_forSnapshot _, live.not_terminal, ?_, incremented, ⟨_, _, rfl⟩, rfl,
    rfl, rfl⟩
  rcases live.state with state | state
  · rw [state]
    cases attempt <;> rfl
  · rw [state]
    rfl

variable {attemptId : ModelInvocationId} {terminal : ModelInvocationState}
  {toolId : ToolExecutionId} {guard : WorkTransitionGuard} {request : WorkTransitionRequest}

theorem AcceptedWork.toOption_decide (accepted : AcceptedWork work guard request next) :
    ∃ decision, (decideWorkTransition work guard request).toOption = some decision ∧
      decision.next = next := by
  have stepped := (stepWork_eq_some_iff work guard request next).mpr accepted
  simpa only [stepWork, Option.map_eq_some_iff] using stepped

theorem AcceptedWork.unique
    {other : WorkLifecycleSnapshot} (accepted : AcceptedWork work guard request next)
    (alsoAccepted : AcceptedWork work guard request other) : next = other := by
  have stepped := (stepWork_eq_some_iff work guard request next).mpr accepted
  rw [(stepWork_eq_some_iff work guard request other).mpr alsoAccepted] at stepped
  exact (Option.some.inj stepped).symm

theorem guardedUpdate_accepted (accepted : Accepts work request next) (current : rows.work = work) :
    rows.guardedUpdate work next = .ok { rows with work := next } := by
  have legal : isLegalWorkPair work.state next.state = true := by
    rw [accepted.target]
    exact accepted.legal
  have version := PositiveInteger.checkedIncrement_some accepted.version
  simp [RunnerRows.guardedUpdate, accepted.sameWork, accepted.live, version, legal, current,
    WorkLifecycleSnapshot.matchesGuard, pure, Except.pure]

theorem guardedUpdate_eq_ok (succeeded : rows.guardedUpdate work next = .ok updated) :
    updated = { rows with work := next } ∧ rows.work.matchesGuard work = true := by
  simp only [RunnerRows.guardedUpdate, bind_eq_ok, refuseIf_eq_ok, pure_eq_ok] at succeeded
  obtain ⟨_, _, _, guarded, rfl⟩ := succeeded
  exact ⟨rfl, by simpa using guarded⟩

theorem Follows.matchesGuard_iff (follows : Follows workId runtimeId attempt work rows.work) :
    rows.work.matchesGuard work = true ↔ rows.work = work := by
  constructor
  · intro guarded
    simp only [WorkLifecycleSnapshot.matchesGuard, Bool.and_eq_true, beq_iff_eq] at guarded
    generalize storedWork : rows.work = stored at follows guarded
    cases follows with
    | current => rfl
    | overtaken =>
      have sameState := guarded.1.1.1.2
      cases attempt <;> cases sameState
  · intro current
    simp [WorkLifecycleSnapshot.matchesGuard, current]

theorem LiveWork.decode (live : LiveWork workId runtimeId attempt work) :
    decodeActiveWorkRow work = .ok work := by
  have shape := live.shape
  obtain ⟨_, _, _, open_⟩ := live.fields
  have readShape : workShapeOk work.state work.runtimeOwner work.currentAttempt
      work.cancellationReason none = true := by
    rw [← open_]
    exact shape
  simp only [decodeActiveWorkRow, readShape, Bool.not_true, refuseIf_false, ok_bind, pure, Except.pure]
  rw [← open_]

theorem LiveWork.load (live : LiveWork workId runtimeId attempt rows.work) :
    loadOwnedWorkState rows runtimeId = .ok ⟨rows.work, rows.models.length, rows.tools.length⟩ := by
  obtain ⟨_, owned, _, _⟩ := live.fields
  simp [loadOwnedWorkState, live.decode, owned, live.not_terminal, pure, Except.pure]

theorem decodeActiveWorkRow_terminal (terminal : work.state.isTerminal = true) :
    decodeActiveWorkRow work = .error .inconsistentSchema := by
  have unread : workShapeOk work.state work.runtimeOwner work.currentAttempt
      work.cancellationReason none = false := by
    cases state : work.state <;> simp [state, WorkState.isTerminal, workShapeOk] at terminal ⊢
  simp [decodeActiveWorkRow, unread]

theorem beginModel_eq_ok (committed : beginModel rows work attemptId next = .ok updated) :
    updated = { rows with work := next, models := (attemptId, .requesting) :: rows.models } ∧
      rows.work.matchesGuard work = true := by
  simp only [beginModel, bind_eq_ok, refuseIf_eq_ok, pure_eq_ok] at committed
  obtain ⟨_, _, _, _, projected, guarded, rfl⟩ := committed
  obtain ⟨rfl, matching⟩ := guardedUpdate_eq_ok guarded
  exact ⟨rfl, matching⟩

theorem requestTool_eq_ok {sourceModel : ModelInvocationId}
    (committed : requestTool rows work sourceModel toolId next = .ok updated) :
    updated = { rows with work := next, tools := (toolId, .requested) :: rows.tools } ∧
      rows.work.matchesGuard work = true := by
  simp only [requestTool, bind_eq_ok, refuseIf_eq_ok, pure_eq_ok] at committed
  obtain ⟨_, _, _, _, _, _, projected, guarded, rfl⟩ := committed
  obtain ⟨rfl, matching⟩ := guardedUpdate_eq_ok guarded
  exact ⟨rfl, matching⟩

theorem markModelStreaming_eq_ok (committed : markModelStreaming rows work attemptId = .ok updated) :
    updated = { rows with models := moveState attemptId .requesting .streaming rows.models } := by
  simp only [markModelStreaming, bind_eq_ok, refuseIf_eq_ok, pure_eq_ok] at committed
  obtain ⟨_, _, _, _, rfl⟩ := committed
  rfl

theorem dispatchTool_eq_ok (committed : dispatchTool rows work toolId = .ok updated) :
    updated = { rows with tools := moveState toolId .requested .dispatching rows.tools } := by
  simp only [dispatchTool, bind_eq_ok, refuseIf_eq_ok, pure_eq_ok] at committed
  obtain ⟨_, _, _, _, rfl⟩ := committed
  rfl

theorem finishModelRows_eq_ok {modelState : ModelInvocationState}
    (committed : finishModelRows rows work attemptId modelState terminal next = .ok updated) :
    updated = { rows with
        work := next
        models := moveState attemptId modelState terminal rows.models } ∧
      rows.work.matchesGuard work = true ∧ next.currentAttempt = .none ∧
      (work.state = .waitingOnModel ∨ work.state = .cancelRequested) := by
  simp only [finishModelRows, bind_eq_ok, refuseIf_eq_ok, pure_eq_ok,
    Bool.not_eq_false', Bool.and_eq_true, Bool.or_eq_true, beq_iff_eq] at committed
  obtain ⟨_, ⟨⟨⟨⟨_, waiting⟩, _⟩, free⟩, _⟩, _, _, projected, guarded, rfl⟩ := committed
  obtain ⟨rfl, matching⟩ := guardedUpdate_eq_ok guarded
  exact ⟨rfl, matching, free, waiting⟩

theorem finishToolRows_eq_ok {toolState terminal : ToolExecutionState}
    (committed : finishToolRows rows work toolId toolState terminal next = .ok updated) :
    updated = { rows with work := next, tools := moveState toolId toolState terminal rows.tools } ∧
      rows.work.matchesGuard work = true ∧ next.currentAttempt = .none ∧
      (work.state = .waitingOnTool ∨ work.state = .cancelRequested) ∧ terminal.isTerminal = true := by
  simp only [finishToolRows, bind_eq_ok, refuseIf_eq_ok, pure_eq_ok,
    Bool.not_eq_false', Bool.and_eq_true, Bool.or_eq_true, beq_iff_eq] at committed
  obtain ⟨_, ⟨⟨⟨⟨⟨⟨⟨isTerminal, _⟩, waiting⟩, _⟩, free⟩, _⟩, _⟩, _⟩, _, _, projected, guarded, rfl⟩ :=
    committed
  obtain ⟨rfl, matching⟩ := guardedUpdate_eq_ok guarded
  exact ⟨rfl, matching, free, waiting, isTerminal⟩

theorem terminalizeOwnedWork_eq_ok (committed : terminalizeOwnedWork rows work next = .ok updated) :
    updated = { rows with work := next } ∧ next.state.isTerminal = true := by
  simp only [terminalizeOwnedWork, bind_eq_ok, refuseIf_eq_ok] at committed
  obtain ⟨_, checked, guarded⟩ := committed
  simp only [Bool.or_eq_false_iff, Bool.not_eq_false'] at checked
  exact ⟨(guardedUpdate_eq_ok guarded).1, checked.1.1⟩

theorem commitAssistantCompletion_eq_ok {modelId : ModelInvocationId}
    (committed : commitAssistantCompletion rows work modelId next = .ok updated) :
    updated = { rows with work := next } ∧ next.state.isTerminal = true := by
  simp only [commitAssistantCompletion, bind_eq_ok, refuseIf_eq_ok] at committed
  obtain ⟨_, checked, _, _, guarded⟩ := committed
  simp only [Bool.or_eq_false_iff, bne_eq_false_iff_eq] at checked
  refine ⟨(guardedUpdate_eq_ok guarded).1, ?_⟩
  rw [checked.1.2]
  rfl

theorem markModelStreaming_held (live : LiveWork workId runtimeId (.model attemptId) work)
    (held : Holds ModelInvocationState.isTerminal rows.models attemptId .requesting) :
    markModelStreaming rows work attemptId =
      .ok { rows with models := moveState attemptId .requesting .streaming rows.models } := by
  obtain ⟨_, _, holding, _⟩ := live.fields
  have state : (work.state == .waitingOnModel || work.state == .cancelRequested) = true := by
    rcases live.state with active | cancelRequested
    · simp [active, activeState]
    · simp [cancelRequested]
  simp only [markModelStreaming, state, holding, held.contains, bne_self_eq_false, Bool.not_true,
    Bool.or_self, refuseIf_false, ok_bind, pure, Except.pure]

theorem dispatchTool_held (version : ProjectionVersion)
    (held : Holds ToolExecutionState.isTerminal rows.tools toolId .requested) :
    dispatchTool rows (activeWork workId runtimeId version (.tool toolId)) toolId =
      .ok { rows with tools := moveState toolId .requested .dispatching rows.tools } := by
  simp only [dispatchTool, activeWork, activeState, held.contains, bne_self_eq_false, Bool.not_true,
    Bool.or_self, refuseIf_false, ok_bind, pure, Except.pure]

theorem isLegalModelPair_open {opened : ModelInvocationState}
    (isOpen : opened.isTerminal = false) (isTerminal : terminal.isTerminal = true) :
    isLegalModelPair opened terminal = true := by
  cases opened <;> cases terminal <;> simp [ModelInvocationState.isTerminal] at isOpen isTerminal <;> rfl

theorem finishModelRows_held {modelState : ModelInvocationState}
    (live : LiveWork workId runtimeId (.model attemptId) rows.work)
    (held : Holds ModelInvocationState.isTerminal rows.models attemptId modelState)
    (isTerminal : terminal.isTerminal = true) (accepted : Accepts rows.work request next)
    (released : next.currentAttempt = .none)
    (ends : rows.work.state = .cancelRequested → next.state = .cancelled ∨ next.state = .interrupted) :
    finishModelRows rows rows.work attemptId modelState terminal next =
      .ok { rows with
        work := next
        models := moveState attemptId modelState terminal rows.models } := by
  obtain ⟨_, _, holding, _⟩ := live.fields
  obtain ⟨_, _, isOpen, _⟩ := id held
  have state : (rows.work.state == .waitingOnModel || rows.work.state == .cancelRequested) = true := by
    rcases live.state with active | cancelRequested
    · simp [active, activeState]
    · simp [cancelRequested]
  have ending : (rows.work.state != .cancelRequested || next.state == .cancelled ||
      next.state == .interrupted) = true := by
    by_cases cancelRequested : rows.work.state = .cancelRequested
    · rcases ends cancelRequested with ended | ended
      · simp [ended]
      · simp [ended]
    · simp [cancelRequested]
  simp only [finishModelRows, isTerminal, isLegalModelPair_open isOpen isTerminal, state, holding,
    released, ending, held.contains, guardedUpdate_accepted accepted rfl, beq_self_eq_true,
    Bool.and_self, Bool.not_true, refuseIf_false, ok_bind, pure, Except.pure]

theorem finishToolRows_held {toolState terminal : ToolExecutionState}
    (live : LiveWork workId runtimeId (.tool toolId) rows.work)
    (held : Holds ToolExecutionState.isTerminal rows.tools toolId toolState)
    (legal : isLegalToolPair toolState terminal = true) (isTerminal : terminal.isTerminal = true)
    (accepted : Accepts rows.work request next) (released : next.currentAttempt = .none)
    (waits : rows.work.state = .waitingOnTool → next.state = .running ∨ next.state = .interrupted)
    (ends : rows.work.state = .cancelRequested → next.state = .cancelled ∨ next.state = .interrupted)
    (unknown : terminal = .completed ∨ next.state = .interrupted) :
    finishToolRows rows rows.work toolId toolState terminal next =
      .ok { rows with work := next, tools := moveState toolId toolState terminal rows.tools } := by
  obtain ⟨_, _, holding, _⟩ := live.fields
  have state : (rows.work.state == .waitingOnTool || rows.work.state == .cancelRequested) = true := by
    rcases live.state with active | cancelRequested
    · simp [active, activeState]
    · simp [cancelRequested]
  have waiting : (rows.work.state != .waitingOnTool || next.state == .running ||
      next.state == .interrupted) = true := by
    by_cases waitingOnTool : rows.work.state = .waitingOnTool
    · rcases waits waitingOnTool with resumed | interrupted
      · simp [resumed]
      · simp [interrupted]
    · simp [waitingOnTool]
  have ending : (rows.work.state != .cancelRequested || next.state == .cancelled ||
      next.state == .interrupted) = true := by
    by_cases cancelRequested : rows.work.state = .cancelRequested
    · rcases ends cancelRequested with ended | ended
      · simp [ended]
      · simp [ended]
    · simp [cancelRequested]
  have unclear : ((terminal != .interruptedBeforeDispatch && terminal != .outcomeUnknown) ||
      next.state == .interrupted) = true := by
    rcases unknown with completed | interrupted
    · simp [completed]
    · simp [interrupted]
  simp only [finishToolRows, isTerminal, legal, state, holding, released, waiting, ending, unclear,
    held.contains, guardedUpdate_accepted accepted rfl, beq_self_eq_true, Bool.and_self,
    Bool.not_true, refuseIf_false, ok_bind, pure, Except.pure]

theorem terminalizeWork_accepted (live : LiveWork workId runtimeId attempt rows.work)
    (accepted : Accepts rows.work request next) :
    terminalizeWork rows runtimeId request = .ok { rows with work := next } := by
  obtain ⟨_, owned, _, _⟩ := live.fields
  obtain ⟨decision, decided, rfl⟩ := accepted.toOption_decide
  simp [terminalizeWork, live.decode, owned, decided, guardedUpdate_accepted accepted rfl]

theorem interruptOwnedWork_idle (live : LiveWork workId runtimeId .none rows.work)
    (incremented : rows.work.projectionVersion.checkedIncrement = some nextVersion) :
    interruptOwnedWork rows runtimeId =
      .ok { rows with work := interruptedWork rows.work nextVersion .runtimeOwnershipLost } := by
  obtain ⟨_, owned, unheld, _⟩ := live.fields
  simp [interruptOwnedWork, live.decode, live.not_terminal, owned, unheld,
    terminalizeWork_accepted live (live.accepts_interrupt incremented .runtimeOwnershipLost)]

theorem finishCancellation_idle (stored : rows.work = cancellingWork workId runtimeId version .none)
    (incremented : version.checkedIncrement = some nextVersion) :
    finishCancellation rows runtimeId =
      .ok { rows with work := cancelledWork rows.work nextVersion } := by
  have live : LiveWork workId runtimeId .none rows.work := stored ▸ .cancelling version
  have notRequired : CleanupStatus.notRequired ≠ .unconfirmed := by decide
  have accepted : Accepts rows.work (.cancel .userRequest .notRequired)
      (cancelledWork rows.work nextVersion) := by
    rw [stored]
    exact accepts_cancel incremented .none notRequired
  have columns : rows.work.runtimeOwner = some runtimeId ∧ rows.work.state = .cancelRequested ∧
      rows.work.currentAttempt = .none ∧ rows.work.cancellationReason = some .userRequest := by
    rw [stored]
    exact ⟨rfl, rfl, rfl, rfl⟩
  obtain ⟨owned, cancelRequested, unheld, reason⟩ := columns
  simp only [finishCancellation, live.decode, owned, cancelRequested, unheld, reason, ok_bind,
    bne_self_eq_false, Bool.or_self, refuseIf_false, orRefuse_some,
    terminalizeWork_accepted live accepted]

theorem applyCancellationDecision_active
    (stored : rows.work = activeWork workId runtimeId version attempt)
    (incremented : version.checkedIncrement = some nextVersion) :
    applyCancellationDecision rows =
      .ok { rows with work := cancellingWork workId runtimeId nextVersion attempt } := by
  have accepted : Accepts (activeWork workId runtimeId version attempt)
      (.requestCancellation .userRequest) (cancellingWork workId runtimeId nextVersion attempt) :=
    accepts_requestCancellation incremented attempt
  have requested : cancellationRequest rows.work.state .userRequest =
      some (.requestCancellation .userRequest) := by
    rw [stored]
    cases attempt <;> rfl
  rw [← stored] at accepted
  obtain ⟨decision, decided, nextIs⟩ := accepted.toOption_decide
  simp only [applyCancellationDecision, requested, decided, orRefuse_some, ok_bind, nextIs]
  exact guardedUpdate_accepted accepted rfl

theorem applyCancellationDecision_decided
    (decided : rows.work.state = .cancelRequested ∨ rows.work.state.isTerminal = true) :
    applyCancellationDecision rows = .ok rows := by
  have unasked : cancellationRequest rows.work.state .userRequest = none := by
    rcases decided with cancelRequested | terminal
    · rw [cancelRequested]
      rfl
    · cases state : rows.work.state <;> simp [state, WorkState.isTerminal] at terminal <;> rfl
  simp [applyCancellationDecision, unasked]

end Craxii
