import Craxii.Store.Recovery

/-!
Runs of the transactions on one work.
-/

namespace Craxii

open ExceptRules GuardedRun Tables

section Reached

variable {unit updated : WorkUnit} {expected next : WorkLifecycleSnapshot}
  {transition : WorkTransitionRequest} {rows : RunnerRows}

def WorkUnit.AttemptHeld (unit : WorkUnit) (runtimeId : RuntimeInstanceId) : Prop :=
  match unit.work.currentAttempt with
  | .none => True
  | .model modelId => ∃ row, unit.models.find? (fun row => row.id == modelId) = some row ∧
      row.runtimeId = runtimeId ∧ row.state.isTerminal = false
  | .tool toolId => ∃ row, unit.tools.find? (fun row => row.id == toolId) = some row ∧
      row.runtimeId = runtimeId ∧ row.state.isTerminal = false

structure UnitOk (unit : WorkUnit) : Prop where
  shape : unit.work.shapeOk = true
  started : unit.work.state.isActive = true → unit.startedAt.isSome = true
  held : ∀ runtimeId, unit.work.runtimeOwner = some runtimeId → unit.AttemptHeld runtimeId

theorem decidedNext_eq_ok (decided : decidedNext expected transition = .ok next) :
    Accepts expected transition next := by
  simp only [decidedNext, bind_eq_ok, orRefuse_eq_ok, pure_eq_ok] at decided
  obtain ⟨decision, found, rfl⟩ := decided
  refine (stepWork_eq_some_iff _ _ _ _).mp ?_
  simp [stepWork, found]

theorem active_of_legal {source target : WorkState} (legal : isLegalWorkPair source target = true)
    (active : target.isActive = true) (notRunning : target ≠ .running) : source.isActive = true := by
  cases source <;> cases target <;> simp_all [isLegalWorkPair, WorkState.isActive]

theorem active_of_waiting {state waiting : WorkState} (active : waiting.isActive = true)
    (either : state = waiting ∨ state = .cancelRequested) : state.isActive = true := by
  rcases either with rfl | rfl
  · exact active
  · rfl

theorem guard_columns {stored : WorkLifecycleSnapshot} (matching : stored.matchesGuard expected = true) :
    stored.state = expected.state ∧ stored.runtimeOwner = expected.runtimeOwner ∧
      stored.currentAttempt = expected.currentAttempt := by
  simp only [WorkLifecycleSnapshot.matchesGuard, Bool.and_eq_true, beq_iff_eq] at matching
  exact ⟨matching.1.1.1.2, matching.1.2, matching.2⟩

theorem guard_active (matching : unit.rows.work.matchesGuard expected = true)
    (active : expected.state.isActive = true) : unit.work.state.isActive = true := by
  have state : unit.work.state = expected.state := (guard_columns matching).1
  rw [state]
  exact active

variable {models : List ModelAttemptRow} {tools : List ToolAttemptRow}
  {attemptId : ModelInvocationId} {startedAt : Option UtcTimestamp} {before : RunnerRows}
  {owner runtimeId : RuntimeInstanceId} {toolId : ToolExecutionId}

theorem UnitOk.freed (shape : next.shapeOk = true) (free : next.currentAttempt = .none)
    (started : next.state.isActive = true → startedAt.isSome = true) :
    UnitOk ⟨next, startedAt, models, tools⟩ := by
  refine ⟨shape, started, fun runtimeId _ => ?_⟩
  simp [WorkUnit.AttemptHeld, free]

theorem UnitOk.ended (shape : next.shapeOk = true)
    (terminal : next.state.isTerminal = true) : UnitOk ⟨next, startedAt, models, tools⟩ := by
  have closed : next.currentAttempt = .none ∧ next.state.isActive = false := by
    cases state : next.state <;>
      simp_all [WorkLifecycleSnapshot.shapeOk, workShapeOk, WorkState.isTerminal, WorkState.isActive]
  refine .freed shape closed.1 fun active => ?_
  rw [closed.2] at active
  cases active

theorem UnitOk.cancelling (ok : UnitOk unit) {reason : WorkCancellationReason}
    (accepted : Accepts unit.work (.requestCancellation reason) next) :
    UnitOk { unit with work := next } := by
  have active := active_of_legal accepted.legal rfl (by intro running; cases running)
  refine ⟨accepted.nextShape, fun _ => ok.started active, fun runtimeId owned => ?_⟩
  have ownerKept := accepted.owner_kept (by intro owner; simp) (by rw [accepted.target]; rfl)
  have held := ok.held runtimeId (ownerKept.symm.trans owned)
  simp only [WorkUnit.AttemptHeld, accepted.cancellation_attempt] at held ⊢
  exact held

theorem decode_self {decoded : WorkLifecycleSnapshot} (ok : UnitOk unit)
    (read : decodeActiveWorkRow unit.work = .ok decoded) : decoded = unit.work := by
  obtain ⟨rfl, _, live⟩ := decodeActiveWorkRow_eq_ok read
  have shape := ok.shape
  have unended : unit.work.terminalReason = none := by
    cases state : unit.work.state <;>
      simp_all [WorkLifecycleSnapshot.shapeOk, workShapeOk, WorkState.isTerminal]
  rw [← unended]

theorem claimUnit_ok {claimedAt : UtcTimestamp}
    (claimed : claimUnit unit runtimeId claimedAt = .ok updated) : UnitOk updated := by
  simp only [claimUnit, bind_eq_ok, refuseIf_eq_ok, pure_eq_ok] at claimed
  obtain ⟨lifecycle, _, _, _, next, decided, rows, projected, rfl⟩ := claimed
  obtain ⟨rfl, _⟩ := guardedUpdate_eq_ok projected
  have accepted := decidedNext_eq_ok decided
  obtain ⟨_, _, fields⟩ := accepted.fields
  simp only [transitionFields, Except.ok.injEq, WorkTransitionFields.mk.injEq] at fields
  exact .freed accepted.nextShape fields.2.1.symm fun _ => rfl

theorem UnitOk.begun (ok : UnitOk unit) (accepted : Accepts expected transition next)
    (waits : transition.targetState.isActive = true) (notRunning : transition.targetState ≠ .running)
    (matching : unit.rows.work.matchesGuard expected = true) (owned : next.runtimeOwner = some owner)
    (held : WorkUnit.AttemptHeld ⟨next, unit.startedAt, models, tools⟩ owner) :
    UnitOk ⟨next, unit.startedAt, models, tools⟩ := by
  have active := guard_active matching (active_of_legal accepted.legal waits notRunning)
  refine ⟨accepted.nextShape, fun _ => ok.started active, fun runtimeId nextOwned => ?_⟩
  obtain rfl := Option.some.inj (owned.symm.trans nextOwned)
  exact held

theorem beginModel_unitOk (ok : UnitOk unit) {startedAt : UtcTimestamp}
    (accepted : Accepts expected (.waitForModel attemptId) next)
    (owned : expected.runtimeOwner = some owner)
    (committed : beginModel unit.rows expected attemptId next = .ok rows) :
    UnitOk { unit with
      work := rows.work
      models := ⟨attemptId, owner, .requesting, startedAt, false⟩ :: unit.models } := by
  obtain ⟨rfl, matching⟩ := beginModel_eq_ok committed
  obtain ⟨_, _, fields⟩ := accepted.fields
  simp only [transitionFields, Except.ok.injEq, WorkTransitionFields.mk.injEq] at fields
  refine ok.begun accepted rfl (by rintro ⟨⟩) matching (fields.1.symm.trans owned) ?_
  simp [WorkUnit.AttemptHeld, ← fields.2.1, ModelInvocationState.isTerminal]

theorem requestTool_unitOk (ok : UnitOk unit) {sourceModel : ModelInvocationId}
    {requestedAt : UtcTimestamp} (accepted : Accepts expected (.waitForTool toolId) next)
    (owned : expected.runtimeOwner = some owner)
    (committed : requestTool unit.rows expected sourceModel toolId next = .ok rows) :
    UnitOk { unit with
      work := rows.work
      tools := ⟨toolId, owner, .requested, requestedAt, none⟩ :: unit.tools } := by
  obtain ⟨rfl, matching⟩ := requestTool_eq_ok committed
  obtain ⟨_, _, fields⟩ := accepted.fields
  simp only [transitionFields, Except.ok.injEq, WorkTransitionFields.mk.injEq] at fields
  refine ok.begun accepted rfl (by rintro ⟨⟩) matching (fields.1.symm.trans owned) ?_
  simp [WorkUnit.AttemptHeld, ← fields.2.1, ToolExecutionState.isTerminal]

theorem UnitOk.models_updated (ok : UnitOk unit) {selects : ModelAttemptRow → Bool}
    {set : ModelAttemptRow → ModelAttemptRow}
    (keeps : ∀ row, (set row).id = row.id ∧ (set row).runtimeId = row.runtimeId ∧
      (set row).state.isTerminal = false) :
    UnitOk { unit with models := update selects set unit.models } := by
  refine ⟨ok.shape, ok.started, fun runtimeId owned => ?_⟩
  have held := ok.held runtimeId owned
  cases current : unit.work.currentAttempt with
  | none => simp [WorkUnit.AttemptHeld, current]
  | tool toolId =>
    simp only [WorkUnit.AttemptHeld, current] at held ⊢
    exact held
  | model modelId =>
    simp only [WorkUnit.AttemptHeld, current] at held ⊢
    exact exists_find?_update held fun row => ⟨by rw [(keeps row).1], fun opened =>
      ⟨(keeps row).2.1.trans opened.1, (keeps row).2.2⟩⟩

theorem UnitOk.tools_updated (ok : UnitOk unit) {selects : ToolAttemptRow → Bool}
    {set : ToolAttemptRow → ToolAttemptRow}
    (keeps : ∀ row, (set row).id = row.id ∧ (set row).runtimeId = row.runtimeId ∧
      (set row).state.isTerminal = false) :
    UnitOk { unit with tools := update selects set unit.tools } := by
  refine ⟨ok.shape, ok.started, fun runtimeId owned => ?_⟩
  have held := ok.held runtimeId owned
  cases current : unit.work.currentAttempt with
  | none => simp [WorkUnit.AttemptHeld, current]
  | model modelId =>
    simp only [WorkUnit.AttemptHeld, current] at held ⊢
    exact held
  | tool toolId =>
    simp only [WorkUnit.AttemptHeld, current] at held ⊢
    exact exists_find?_update held fun row => ⟨by rw [(keeps row).1], fun opened =>
      ⟨(keeps row).2.1.trans opened.1, (keeps row).2.2⟩⟩

theorem terminalizeWork_eq_ok (committed : terminalizeWork before runtimeId transition = .ok rows) :
    rows.work.shapeOk = true ∧ rows.work.state = transition.targetState := by
  simp only [terminalizeWork, bind_eq_ok, refuseIf_eq_ok, orRefuse_eq_ok] at committed
  obtain ⟨lifecycle, _, _, _, decision, decided, projected⟩ := committed
  obtain ⟨rfl, _⟩ := guardedUpdate_eq_ok projected
  have stepped : stepWork lifecycle (.forSnapshot lifecycle, transition) = some decision.next := by
    simp [stepWork, decided]
  have accepted := (stepWork_eq_some_iff _ _ _ _).mp stepped
  exact ⟨accepted.nextShape, accepted.target⟩

theorem UnitOk.of_terminalized (unit : WorkUnit)
    (terminal : transition.targetState.isTerminal = true)
    (committed : terminalizeWork before runtimeId transition = .ok rows) :
    UnitOk { unit with work := rows.work } := by
  obtain ⟨shape, target⟩ := terminalizeWork_eq_ok committed
  exact .ended shape (by rw [target]; exact terminal)

theorem cancelUnit_ok (ok : UnitOk unit) (committed : applyCancellationDecision unit.rows = .ok rows) :
    UnitOk { unit with work := rows.work } := by
  unfold applyCancellationDecision at committed
  cases asked : cancellationRequest unit.rows.work.state .userRequest with
  | none =>
    rw [asked] at committed
    cases committed
    exact ok
  | some request =>
    simp only [asked, bind_eq_ok, orRefuse_eq_ok, toOption_eq_some] at committed
    obtain ⟨decision, decided, projected⟩ := committed
    obtain ⟨rfl, _⟩ := guardedUpdate_eq_ok projected
    have accepted : Accepts unit.work request decision.next := by
      refine (stepWork_eq_some_iff _ _ _ _).mp ?_
      simpa [stepWork] using ⟨decision, decided, rfl⟩
    unfold cancellationRequest at asked
    split at asked
    · cases asked
      exact .ended accepted.nextShape (by rw [accepted.target]; rfl)
    all_goals
      cases asked <;> exact ok.cancelling accepted

theorem shutDownUnit_ok (ok : UnitOk unit)
    (committed : shutDownUnit unit runtimeId = .ok updated) : UnitOk updated := by
  simp only [shutDownUnit, bind_eq_ok, refuseIf_eq_ok, pure_eq_ok] at committed
  obtain ⟨_, _, lifecycle, read, next, decided, rows, projected, rfl⟩ := committed
  obtain ⟨rfl, _⟩ := guardedUpdate_eq_ok projected
  have accepted := decidedNext_eq_ok decided
  rw [decode_self ok read] at accepted
  exact ok.cancelling accepted

theorem interruptUnit_ok (ok : UnitOk unit)
    (committed : interruptOwnedWork unit.rows runtimeId = .ok rows) :
    UnitOk { unit with work := rows.work } := by
  simp only [interruptOwnedWork, bind_eq_ok] at committed
  obtain ⟨lifecycle, read, committed⟩ := committed
  split at committed
  · cases committed
    exact ok
  · simp only [bind_eq_ok] at committed
    obtain ⟨_, _, closed⟩ := committed
    exact .of_terminalized unit rfl closed

theorem unitStep_ok (ok : UnitOk unit) (operation : UnitOperation)
    (stepped : unitStep unit operation = .ok updated) : UnitOk updated := by
  cases operation with
  | claim runtimeId claimedAt => exact claimUnit_ok stepped
  | beginModel expected attemptId startedAt =>
    simp only [unitStep, bind_eq_ok, orRefuse_eq_ok, pure_eq_ok] at stepped
    obtain ⟨next, decided, owner, owned, rows, committed, rfl⟩ := stepped
    exact beginModel_unitOk ok (decidedNext_eq_ok decided) owned committed
  | markModelStreaming expected attemptId draftExposed =>
    simp only [unitStep, bind_eq_ok, pure_eq_ok] at stepped
    obtain ⟨_, _, rfl⟩ := stepped
    exact ok.models_updated fun row => ⟨rfl, rfl, rfl⟩
  | finishModel expected attemptId modelState terminal request draftExposed =>
    simp only [unitStep, bind_eq_ok, pure_eq_ok] at stepped
    obtain ⟨next, decided, rows, committed, rfl⟩ := stepped
    obtain ⟨rfl, matching, free, waiting⟩ := finishModelRows_eq_ok committed
    exact .freed (decidedNext_eq_ok decided).nextShape free fun _ =>
      ok.started (guard_active matching (active_of_waiting rfl waiting))
  | requestTool expected sourceModel toolId requestedAt =>
    simp only [unitStep, bind_eq_ok, orRefuse_eq_ok, pure_eq_ok] at stepped
    obtain ⟨next, decided, owner, owned, rows, committed, rfl⟩ := stepped
    exact requestTool_unitOk ok (decidedNext_eq_ok decided) owned committed
  | dispatchTool expected toolId =>
    simp only [unitStep, bind_eq_ok, pure_eq_ok] at stepped
    obtain ⟨_, _, rfl⟩ := stepped
    exact ok.tools_updated fun row => ⟨rfl, rfl, rfl⟩
  | finishTool expected toolId toolState terminal request cleanupConfirmed =>
    simp only [unitStep, bind_eq_ok, pure_eq_ok] at stepped
    obtain ⟨next, decided, rows, committed, rfl⟩ := stepped
    obtain ⟨rfl, matching, free, waiting, _⟩ := finishToolRows_eq_ok committed
    exact .freed (decidedNext_eq_ok decided).nextShape free fun _ =>
      ok.started (guard_active matching (active_of_waiting rfl waiting))
  | completeWork expected modelId reason =>
    simp only [unitStep, bind_eq_ok, pure_eq_ok] at stepped
    obtain ⟨next, decided, rows, committed, rfl⟩ := stepped
    obtain ⟨rfl, terminal⟩ := commitAssistantCompletion_eq_ok committed
    exact .ended (decidedNext_eq_ok decided).nextShape terminal
  | terminalizeOwned expected request =>
    simp only [unitStep, bind_eq_ok, pure_eq_ok] at stepped
    obtain ⟨next, decided, rows, committed, rfl⟩ := stepped
    obtain ⟨rfl, terminal⟩ := terminalizeOwnedWork_eq_ok committed
    exact .ended (decidedNext_eq_ok decided).nextShape terminal
  | cancel =>
    simp only [unitStep, bind_eq_ok, pure_eq_ok] at stepped
    obtain ⟨rows, committed, rfl⟩ := stepped
    exact cancelUnit_ok ok committed
  | shutDown runtimeId => exact shutDownUnit_ok ok stepped
  | finishCancellation runtimeId =>
    simp only [unitStep, finishCancellation, bind_eq_ok, pure_eq_ok] at stepped
    obtain ⟨rows, ⟨_, _, _, _, _, _, closed⟩, rfl⟩ := stepped
    exact .of_terminalized unit rfl closed
  | interruptOwned runtimeId =>
    simp only [unitStep, bind_eq_ok, pure_eq_ok] at stepped
    obtain ⟨rows, committed, rfl⟩ := stepped
    exact interruptUnit_ok ok committed
  | recover request =>
    simp only [unitStep, bind_eq_ok, pure_eq_ok] at stepped
    obtain ⟨recovered, committed, rfl⟩ := stepped
    have ended := recoverUnit_eq_ok committed
    refine .ended ended.shape ?_
    rcases ended.ended with cancelled | interrupted
    · rw [cancelled]
      rfl
    · rw [interrupted]
      rfl

def unitAfter (workId : WorkId) (operations : List UnitOperation) : WorkUnit :=
  replay (fun unit operation => (unitStep unit operation).toOption) (.queued workId) operations

theorem unitAfter_ok (workId : WorkId) (operations : List UnitOperation) :
    UnitOk (unitAfter workId operations) := by
  refine replay_invariant UnitOk ?_ ?_ operations
  · intro before operation after ok stepped
    exact unitStep_ok ok operation (toOption_eq_some.mp stepped)
  · exact .freed rfl rfl fun active => by cases active

theorem unitAfter_recoverable {workId : WorkId} {operations : List UnitOperation}
    (owned : (unitAfter workId operations).work.runtimeOwner = some runtimeId) :
    Recoverable (unitAfter workId operations) runtimeId ∧
      ¬ (unitAfter workId operations).WaitsUncleaned := by
  have ok := unitAfter_ok workId operations
  have held := ok.held runtimeId owned
  generalize unitAfter workId operations = unit at ok held owned ⊢
  refine ⟨⟨ok.shape, owned, ok.started (active_of_owned ok.shape owned), ?_⟩, ?_⟩
  · cases current : unit.work.currentAttempt with
    | none => simp [WorkUnit.AttemptOwned, current]
    | model modelId | tool toolId =>
      simp only [WorkUnit.AttemptHeld, WorkUnit.AttemptOwned, current] at held ⊢
      obtain ⟨row, found, sameRuntime, _⟩ := held
      exact ⟨row, found, sameRuntime⟩
  · rintro ⟨_, toolId, row, current, found, completed, _⟩
    simp only [WorkUnit.AttemptHeld, current] at held
    obtain ⟨other, otherFound, _, opened⟩ := held
    rw [found] at otherFound
    cases otherFound
    rw [completed] at opened
    cases opened

end Reached

theorem recoverUnit_uncleaned {unit : WorkUnit} {request : RecoverStaleRuntimeRequest}
    (recoverable : Recoverable unit request.staleRuntimeId)
    (notCurrent : request.staleRuntimeId ≠ request.currentRuntimeId) (unclean : unit.WaitsUncleaned) :
    classifyRecovery (unit.recoveryInput request.currentRuntimeId) =
        .ok ⟨.reconcileCommittedToolResultWithoutExecution, .none⟩ ∧
      (recoverUnit unit request true).map (fun result => (result.unit, result.facts)) =
        RecoveryOutcome.committed ⟨.interruption .cleanupUnconfirmed, .keep⟩ unit request.recoveredAt := by
  obtain ⟨waiting, toolId, row, current, found, completed, unconfirmed⟩ := unclean
  have attempt := recoverable.attempt
  simp only [WorkUnit.AttemptOwned, current, found] at attempt
  obtain ⟨_, same, owned⟩ := attempt
  cases same
  constructor
  · rw [classifyRecovery_held recoverable notCurrent (by simp [current])]
    simp [waiting, classifyToolRecovery, WorkUnit.recoveryInput, WorkUnit.recoveryAttempt, current,
      found, completed]
  · have attempted : recoverAttempt unit request = .ok ⟨unit, [],
        { cleanupChecks := 1, toolTerminalPreserved := 1, cleanupUnconfirmed := 1 }, false,
        .cleanupUnconfirmed⟩ := by
      simp [recoverAttempt, current, recoverToolAttempt, found, owned, completed, unconfirmed]
    have since : unit.openSince = 0 := by
      simp [WorkUnit.openSince, current, found, completed, ToolExecutionState.isTerminal]
    have follows : AttemptFollows unit ⟨.interruption .cleanupUnconfirmed, .keep⟩ ⟨unit, [],
        { cleanupChecks := 1, toolTerminalPreserved := 1, cleanupUnconfirmed := 1 }, false,
        .cleanupUnconfirmed⟩ := ⟨rfl, rfl, .inr ⟨rfl, rfl⟩⟩
    rw [recoverUnit_follows recoverable attempted follows]
    cases incremented : unit.work.projectionVersion.checkedIncrement <;>
      simp [RecoveryOutcome.committed, WorkUnit.recoveryRefusal, since, incremented]

/-- Recovery is the classifier's outcome unless one of two refusals applies; only an uncleaned
wait, which no run reaches, is ended otherwise. -/
theorem recovery_commits_classification :
    (∀ workId operations runtimeId,
      (unitAfter workId operations).work.runtimeOwner = some runtimeId →
        Recoverable (unitAfter workId operations) runtimeId ∧
          ¬ (unitAfter workId operations).WaitsUncleaned) ∧
      ∀ (unit : WorkUnit) (request : RecoverStaleRuntimeRequest),
        Recoverable unit request.staleRuntimeId →
        request.staleRuntimeId ≠ request.currentRuntimeId →
        (¬ unit.WaitsUncleaned → ∃ decision outcome,
          classifyRecovery (unit.recoveryInput request.currentRuntimeId) = .ok decision ∧
            decision.outcome unit.work.cancellationReason = some outcome ∧
            outcome.ending.state ≠ .completed ∧ decision.emitsDispatch = false ∧
            decision.emitsRetry = false ∧
            (recoverUnit unit request true).map (fun result => (result.unit, result.facts)) =
              outcome.committed unit request.recoveredAt) ∧
        (unit.WaitsUncleaned →
          classifyRecovery (unit.recoveryInput request.currentRuntimeId) =
              .ok ⟨.reconcileCommittedToolResultWithoutExecution, .none⟩ ∧
            (recoverUnit unit request true).map (fun result => (result.unit, result.facts)) =
              RecoveryOutcome.committed ⟨.interruption .cleanupUnconfirmed, .keep⟩ unit
                request.recoveredAt) := by
  refine ⟨fun workId operations runtimeId owned => unitAfter_recoverable owned,
    fun unit request recoverable notCurrent => ⟨fun cleaned => ?_,
      recoverUnit_uncleaned recoverable notCurrent⟩⟩
  obtain ⟨decision, outcome, classified, prescribed, recovered⟩ :=
    recoverUnit_classified recoverable notCurrent cleaned
  refine ⟨decision, outcome, classified, prescribed, ?_, rfl, rfl, recovered⟩
  unfold RecoveryDecision.outcome at prescribed
  split at prescribed <;> simp at prescribed
  all_goals first
    | (subst prescribed; simp [WorkTerminalReason.state])
    | (obtain ⟨_, _, rfl⟩ := prescribed; simp [WorkTerminalReason.state])

def sampleWork : WorkId := ⟨sampleUuid 1⟩

def modelStartedAt20 : List UnitOperation :=
  [.claim ⟨sampleUuid 2⟩ 10,
    .beginModel ⟨sampleWork, .running, sampleNumber 2, some ⟨sampleUuid 2⟩, .none, none,
      none⟩ ⟨sampleUuid 3⟩ 20]

theorem early_recovery_refused :
    classifyRecovery ((unitAfter sampleWork modelStartedAt20).recoveryInput ⟨sampleUuid 4⟩) =
        .ok ⟨.markModelProviderOutcomeUnknownAndInterrupt, .providerOutcomeUnknown⟩ ∧
      recoverUnit (unitAfter sampleWork modelStartedAt20)
        ⟨⟨sampleUuid 2⟩, ⟨sampleUuid 4⟩, 15⟩ true = .error .internalInvariant := by
  decide +kernel

theorem late_recovery_committed :
    ∃ outcome : RecoveryOutcome,
      (recoverUnit (unitAfter sampleWork modelStartedAt20)
          ⟨⟨sampleUuid 2⟩, ⟨sampleUuid 4⟩, 30⟩ true).map
            (fun result => (result.unit, result.facts)) =
        outcome.committed (unitAfter sampleWork modelStartedAt20) 30 := by
  obtain ⟨recoverable, cleaned⟩ := recovery_commits_classification.1 sampleWork modelStartedAt20
    ⟨sampleUuid 2⟩ (by decide +kernel)
  obtain ⟨_, outcome, _, _, _, _, _, committed⟩ := (recovery_commits_classification.2
    (unitAfter sampleWork modelStartedAt20) ⟨⟨sampleUuid 2⟩, ⟨sampleUuid 4⟩, 30⟩ recoverable
    (by decide)).1 cleaned
  exact ⟨outcome, committed⟩

end Craxii
