import Craxii.Store.RecoveryCore
import Craxii.Store.RunnerRows
import Craxii.Store.ToolAttemptCore

/-!
Recovery of one work against the pure classification.
-/

namespace Craxii

open ExceptRules GuardedRun Tables

section Active

variable {work : WorkLifecycleSnapshot} {runtimeId : RuntimeInstanceId}
  {version : ProjectionVersion}

theorem WorkState.isActive_live {state : WorkState} (active : state.isActive = true) :
    state.isTerminal = false := by
  cases state <;> first | rfl | cases active

theorem active_of_owned (shape : work.shapeOk = true) (owned : work.runtimeOwner = some runtimeId) :
    work.state.isActive = true := by
  cases state : work.state <;>
    simp [WorkLifecycleSnapshot.shapeOk, workShapeOk, state, owned, WorkState.isActive] at shape ⊢

section

variable (shape : work.shapeOk = true) (active : work.state.isActive = true)
include shape active

theorem owner_of_active : ∃ owner, work.runtimeOwner = some owner := by
  rw [← Option.isSome_iff_exists]
  cases state : work.state <;>
    simp_all [WorkLifecycleSnapshot.shapeOk, workShapeOk, WorkState.isActive]

theorem terminalReason_of_active : work.terminalReason = none := by
  cases state : work.state <;>
    simp_all [WorkLifecycleSnapshot.shapeOk, workShapeOk, WorkState.isActive]

theorem decodeActiveWorkRow_active : decodeActiveWorkRow work = .ok work := by
  have unended := terminalReason_of_active shape active
  have readShape : workShapeOk work.state work.runtimeOwner work.currentAttempt
      work.cancellationReason none = true := by
    rw [← unended]
    exact shape
  simp only [decodeActiveWorkRow, readShape, Bool.not_true, refuseIf_false, ok_bind, pure, Except.pure]
  rw [← unended]

theorem accepts_interrupt_active
    (incremented : work.projectionVersion.checkedIncrement = some version)
    (reason : WorkInterruptionReason) :
    Accepts work (.interrupt reason) (interruptedWork work version reason) := by
  refine ⟨shape, checkGuard_forSnapshot _, WorkState.isActive_live active, ?_, incremented,
    ⟨_, _, rfl⟩, rfl, rfl, rfl⟩
  cases state : work.state <;> first | rfl | (rw [state] at active; cases active)

end

end Active

/-! What the classifier is asked, and what it prescribes. -/

def WorkUnit.recoveryAttempt (unit : WorkUnit) : RecoveryAttempt × CleanupStatus :=
  match unit.work.currentAttempt with
  | .none => (.none, .notRequired)
  | .model modelId =>
    match unit.models.find? fun row => row.id == modelId with
    | some row => (.model modelId row.state (row.state == .completed), .notRequired)
    | none => (.none, .notRequired)
  | .tool toolId =>
    match unit.tools.find? fun row => row.id == toolId with
    | some row =>
      (.tool toolId row.state (row.state == .completed), cleanupStatusOf row.cleanupConfirmed)
    | none => (.none, .notRequired)

def WorkUnit.recoveryInput (unit : WorkUnit) (currentRuntimeId : RuntimeInstanceId) : RecoveryInput where
  work := unit.work
  currentRuntimeId := currentRuntimeId
  attempt := unit.recoveryAttempt.1
  cleanupStatus := unit.recoveryAttempt.2

inductive AttemptMark
  | keep | modelOutcomeUnknown | toolInterrupted | toolOutcomeUnknown

structure RecoveryOutcome where
  ending : WorkTerminalReason
  mark : AttemptMark

/-- A committed tool result to reconcile is an interruption for lost ownership. -/
def SyntheticStatusRequirement.interruption : SyntheticStatusRequirement → WorkInterruptionReason
  | .none | .runtimeOwnershipLost => .runtimeOwnershipLost
  | .providerOutcomeUnknown => .providerOutcomeUnknown
  | .toolInterruptedBeforeDispatch => .toolInterruptedBeforeDispatch
  | .toolOutcomeUnknown => .toolOutcomeUnknown
  | .cleanupUnconfirmed => .cleanupUnconfirmed

def RecoveryDecision.outcome (decision : RecoveryDecision)
    (cancellationReason : Option WorkCancellationReason) : Option RecoveryOutcome :=
  let interrupted := WorkTerminalReason.interruption decision.syntheticStatus.interruption
  match decision.classification with
  | .retainQueued | .alreadyTerminal => none
  | .interruptActiveWork | .reconcileCommittedToolResultWithoutExecution => some ⟨interrupted, .keep⟩
  | .markModelProviderOutcomeUnknownAndInterrupt => some ⟨interrupted, .modelOutcomeUnknown⟩
  | .markToolInterruptedBeforeDispatchAndInterrupt => some ⟨interrupted, .toolInterrupted⟩
  | .markToolOutcomeUnknownAndInterrupt => some ⟨interrupted, .toolOutcomeUnknown⟩
  | .finalizeCancellation => cancellationReason.map fun reason => ⟨.cancellation reason, .keep⟩

def WorkTerminalReason.state : WorkTerminalReason → WorkState
  | .completion _ => .completed
  | .failure _ => .failed
  | .cancellation _ => .cancelled
  | .interruption _ => .interrupted

def AttemptMark.apply (mark : AttemptMark) (unit : WorkUnit) : WorkUnit :=
  match mark, unit.work.currentAttempt with
  | .modelOutcomeUnknown, .model modelId => { unit with models := markModel modelId unit.models }
  | .toolInterrupted, .tool toolId => { unit with tools := markToolInterrupted toolId unit.tools }
  | .toolOutcomeUnknown, .tool toolId => { unit with tools := markToolUnknown toolId unit.tools }
  | _, _ => unit

def AttemptMark.facts (mark : AttemptMark) (unit : WorkUnit) : List UnitFact :=
  match mark, unit.work.currentAttempt with
  | .modelOutcomeUnknown, .model modelId =>
    [.modelInvocationInterrupted modelId .providerOutcomeUnknown]
  | .toolInterrupted, .tool toolId => [.toolExecutionInterruptedBeforeDispatch toolId]
  | .toolOutcomeUnknown, .tool toolId => [.toolExecutionOutcomeUnknown toolId]
  | _, _ => []

def endedWork (work : WorkLifecycleSnapshot) (version : ProjectionVersion)
    (ending : WorkTerminalReason) : WorkLifecycleSnapshot :=
  ⟨work.workId, ending.state, version, none, .none, none, some ending⟩

def RecoveryOutcome.rows (outcome : RecoveryOutcome) (unit : WorkUnit) (version : ProjectionVersion) :
    WorkUnit × List UnitFact :=
  ({ outcome.mark.apply unit with work := endedWork unit.work version outcome.ending },
    outcome.mark.facts unit ++ [.workTransition unit.work (endedWork unit.work version outcome.ending)])

def WorkUnit.openSince (unit : WorkUnit) : UtcTimestamp :=
  match unit.work.currentAttempt with
  | .none => 0
  | .model modelId =>
    match unit.models.find? fun row => row.id == modelId with
    | some row => if row.state.isTerminal then 0 else row.startedAt
    | none => 0
  | .tool toolId =>
    match unit.tools.find? fun row => row.id == toolId with
    | some row => if row.state.isTerminal then 0 else row.requestedAt
    | none => 0

/-- Why recovery is refused: the recovery time lies before the open attempt, or the work
has no next version. -/
def WorkUnit.recoveryRefusal (unit : WorkUnit) (recoveredAt : UtcTimestamp) : Option StoreRefusal :=
  if recoveredAt < unit.openSince then some .internalInvariant
  else if unit.work.projectionVersion.checkedIncrement.isNone then some .conflict
  else none

def RecoveryOutcome.committed (outcome : RecoveryOutcome) (unit : WorkUnit) (recoveredAt : UtcTimestamp) :
    Except StoreRefusal (WorkUnit × List UnitFact) :=
  match unit.recoveryRefusal recoveredAt, unit.work.projectionVersion.checkedIncrement with
  | none, some version => .ok (outcome.rows unit version)
  | some refusal, _ => .error refusal
  | none, none => .error .conflict

def WorkUnit.AttemptOwned (unit : WorkUnit) (runtimeId : RuntimeInstanceId) : Prop :=
  match unit.work.currentAttempt with
  | .none => True
  | .model modelId =>
    ∃ row, unit.models.find? (fun row => row.id == modelId) = some row ∧ row.runtimeId = runtimeId
  | .tool toolId =>
    ∃ row, unit.tools.find? (fun row => row.id == toolId) = some row ∧ row.runtimeId = runtimeId

structure Recoverable (unit : WorkUnit) (runtimeId : RuntimeInstanceId) : Prop where
  shape : unit.work.shapeOk = true
  owned : unit.work.runtimeOwner = some runtimeId
  started : unit.startedAt.isSome = true
  attempt : unit.AttemptOwned runtimeId

/-- A work that waits on a tool execution already completed without its cleanup confirmed. -/
def WorkUnit.WaitsUncleaned (unit : WorkUnit) : Prop :=
  unit.work.state = .waitingOnTool ∧ ∃ toolId row, unit.work.currentAttempt = .tool toolId ∧
    unit.tools.find? (fun row => row.id == toolId) = some row ∧ row.state = .completed ∧
    row.cleanupConfirmed = some false

structure AttemptFollows (unit : WorkUnit) (outcome : RecoveryOutcome) (recovered : AttemptRecovery) :
    Prop where
  unit_eq : recovered.unit = outcome.mark.apply unit
  facts_eq : recovered.facts = outcome.mark.facts unit
  ending : (∃ reason, unit.work.state = .cancelRequested ∧
      unit.work.cancellationReason = some reason ∧ recovered.cancellationCanFinish = true ∧
      outcome.ending = .cancellation reason) ∨
    (recovered.cancellationCanFinish = false ∧
      outcome.ending = .interruption recovered.interruptionReason)

section Agreement

variable {unit : WorkUnit} {request : RecoverStaleRuntimeRequest}

@[simp] theorem AttemptMark.keep_apply (unit : WorkUnit) : AttemptMark.keep.apply unit = unit := rfl

@[simp] theorem AttemptMark.keep_facts (unit : WorkUnit) : AttemptMark.keep.facts unit = [] := rfl

def AttemptAgrees (unit : WorkUnit) (request : RecoverStaleRuntimeRequest) : Prop :=
  ∃ decision outcome, classifyRecovery (unit.recoveryInput request.currentRuntimeId) = .ok decision ∧
    decision.outcome unit.work.cancellationReason = some outcome ∧
    ((request.recoveredAt < unit.openSince ∧
        recoverAttempt unit request = .error .internalInvariant) ∨
      (unit.openSince ≤ request.recoveredAt ∧
        ∃ recovered, recoverAttempt unit request = .ok recovered ∧
          AttemptFollows unit outcome recovered))

theorem reason_of_cancelRequested (shape : unit.work.shapeOk = true)
    (cancelRequested : unit.work.state = .cancelRequested) :
    ∃ reason, unit.work.cancellationReason = some reason := by
  simp only [WorkLifecycleSnapshot.shapeOk, workShapeOk, cancelRequested, Bool.and_eq_true] at shape
  exact Option.isSome_iff_exists.mp shape.1.2

theorem agrees_interrupted {decision : RecoveryDecision} {reason : WorkInterruptionReason}
    {mark : AttemptMark}
    (classified : classifyRecovery (unit.recoveryInput request.currentRuntimeId) = .ok decision)
    (prescribed : decision.outcome unit.work.cancellationReason = some ⟨.interruption reason, mark⟩)
    (timely : unit.openSince ≤ request.recoveredAt)
    (branch : ∃ counters, recoverAttempt unit request =
      .ok ⟨mark.apply unit, mark.facts unit, counters, false, reason⟩) :
    AttemptAgrees unit request := by
  obtain ⟨counters, branch⟩ := branch
  exact ⟨decision, _, classified, prescribed, .inr ⟨timely, _, branch, rfl, rfl, .inr ⟨rfl, rfl⟩⟩⟩

theorem agrees_marked {decision : RecoveryDecision} {reason : WorkInterruptionReason} {mark : AttemptMark}
    {since : UtcTimestamp} (opened : unit.openSince = since)
    (classified : classifyRecovery (unit.recoveryInput request.currentRuntimeId) = .ok decision)
    (prescribed : decision.outcome unit.work.cancellationReason = some ⟨.interruption reason, mark⟩)
    (branch : ∃ counters, recoverAttempt unit request = do
      refuseIf (decide (request.recoveredAt < since)) .internalInvariant
      return ⟨mark.apply unit, mark.facts unit, counters, false, reason⟩) : AttemptAgrees unit request := by
  obtain ⟨counters, branch⟩ := branch
  by_cases early : request.recoveredAt < since
  · refine ⟨_, _, classified, prescribed, .inl ⟨opened ▸ early, ?_⟩⟩
    simp [branch, early]
  · refine agrees_interrupted classified prescribed (opened ▸ Nat.le_of_not_lt early) ⟨counters, ?_⟩
    simp [branch, early]

theorem agrees_released (shape : unit.work.shapeOk = true)
    (timely : unit.openSince ≤ request.recoveredAt)
    (branch : ∃ counters, recoverAttempt unit request =
      .ok ⟨unit, [], counters, unit.work.state == .cancelRequested, .runtimeOwnershipLost⟩)
    (interrupts : unit.work.state ≠ .cancelRequested →
      ∃ decision, classifyRecovery (unit.recoveryInput request.currentRuntimeId) = .ok decision ∧
        decision.outcome unit.work.cancellationReason =
          some ⟨.interruption .runtimeOwnershipLost, .keep⟩)
    (finishes : unit.work.state = .cancelRequested →
      classifyRecovery (unit.recoveryInput request.currentRuntimeId) =
        .ok ⟨.finalizeCancellation, .none⟩) : AttemptAgrees unit request := by
  obtain ⟨counters, branch⟩ := branch
  by_cases cancelRequested : unit.work.state = .cancelRequested
  · obtain ⟨reason, cancelled⟩ := reason_of_cancelRequested shape cancelRequested
    refine ⟨_, ⟨.cancellation reason, .keep⟩, finishes cancelRequested,
      by simp [RecoveryDecision.outcome, cancelled], .inr ⟨timely, _, branch, rfl, rfl, .inl ?_⟩⟩
    exact ⟨reason, cancelRequested, cancelled, by simp [cancelRequested], rfl⟩
  · obtain ⟨decision, classified, prescribed⟩ := interrupts cancelRequested
    refine ⟨decision, _, classified, prescribed, .inr ⟨timely, _, branch, rfl, rfl, .inr ⟨?_, rfl⟩⟩⟩
    simp [cancelRequested]

variable (recoverable : Recoverable unit request.staleRuntimeId)
  (notCurrent : request.staleRuntimeId ≠ request.currentRuntimeId)

include recoverable notCurrent

theorem recoverAttempt_none (current : unit.work.currentAttempt = .none) :
    AttemptAgrees unit request := by
  have shaped := (validateShape_ok_iff unit.work).mpr recoverable.shape
  have active := active_of_owned recoverable.shape recoverable.owned
  refine agrees_released recoverable.shape ?_ ⟨{}, by simp [recoverAttempt, current]⟩ ?_ ?_
  · simp [WorkUnit.openSince, current]
  · intro notCancelled
    have running : unit.work.state = .running := by
      have shape := recoverable.shape
      cases state : unit.work.state <;>
        simp_all [WorkLifecycleSnapshot.shapeOk, workShapeOk, WorkState.isActive]
    refine ⟨⟨.interruptActiveWork, .runtimeOwnershipLost⟩, ?_, rfl⟩
    simp [classifyRecovery, WorkUnit.recoveryInput, WorkUnit.recoveryAttempt, shaped, running,
      recoverable.owned, notCurrent, current]
  · intro cancelRequested
    simp [classifyRecovery, WorkUnit.recoveryInput, WorkUnit.recoveryAttempt, shaped, cancelRequested,
      recoverable.owned, notCurrent, current, classifyCancelRecovery, cleanupDecision]

theorem classifyRecovery_held (held : unit.work.currentAttempt ≠ .none) :
    classifyRecovery (unit.recoveryInput request.currentRuntimeId) =
      if unit.work.state = .cancelRequested then
        classifyCancelRecovery (unit.recoveryInput request.currentRuntimeId)
      else match unit.work.currentAttempt with
        | .model _ => classifyModelRecovery (unit.recoveryInput request.currentRuntimeId)
        | _ => classifyToolRecovery (unit.recoveryInput request.currentRuntimeId) := by
  have shaped := (validateShape_ok_iff unit.work).mpr recoverable.shape
  have shape := recoverable.shape
  have owned := recoverable.owned
  cases state : unit.work.state <;> cases current : unit.work.currentAttempt <;>
    simp_all [WorkLifecycleSnapshot.shapeOk, workShapeOk, classifyRecovery, WorkUnit.recoveryInput]

theorem recoverAttempt_model {modelId : ModelInvocationId}
    (current : unit.work.currentAttempt = .model modelId) : AttemptAgrees unit request := by
  have attempt := recoverable.attempt
  simp only [WorkUnit.AttemptOwned, current] at attempt
  obtain ⟨row, found, owned⟩ := attempt
  have since : unit.openSince = if row.state.isTerminal then 0 else row.startedAt := by
    simp [WorkUnit.openSince, current, found]
  have classified := classifyRecovery_held recoverable notCurrent (by simp [current])
  have recovers : recoverAttempt unit request = recoverModelAttempt unit request modelId := by
    simp [recoverAttempt, current]
  simp only [recoverModelAttempt, found, orRefuse_some, ok_bind, owned, bne_self_eq_false,
    refuseIf_false] at recovers
  -- The input with the row's state, whatever branch reads it.
  obtain ⟨inputCurrent, inputAttempt, inputCleanup⟩ :
      (unit.recoveryInput request.currentRuntimeId).work.currentAttempt = .model modelId ∧
      (unit.recoveryInput request.currentRuntimeId).attempt =
        .model modelId row.state (row.state == .completed) ∧
      (unit.recoveryInput request.currentRuntimeId).cleanupStatus = .notRequired := by
    simp [WorkUnit.recoveryInput, WorkUnit.recoveryAttempt, current, found]
  cases state : row.state with
  | requesting | streaming =>
    simp only [state, ModelInvocationState.isTerminal, Bool.false_eq_true, ↓reduceIte] at since
    refine @agrees_marked _ _ ⟨.markModelProviderOutcomeUnknownAndInterrupt, .providerOutcomeUnknown⟩ _ _
      _ since ?_ rfl ⟨{ modelUnknown := 1, draftsAbandoned := row.draftExposed.toNat }, ?_⟩
    · simp [classified, current, classifyCancelRecovery, classifyModelRecovery, inputCurrent,
        inputAttempt, state]
    · simp [recovers, state, current, AttemptMark.apply, AttemptMark.facts,
        SyntheticStatusRequirement.interruption]
  | providerOutcomeUnknown =>
    refine @agrees_interrupted _ _ ⟨.interruptActiveWork, .providerOutcomeUnknown⟩ _ _ ?_ rfl ?_
      ⟨{ modelTerminalPreserved := 1, draftsAbandoned := row.draftExposed.toNat }, ?_⟩
    · simp [classified, current, classifyCancelRecovery, classifyModelRecovery, inputCurrent,
        inputAttempt, state]
    · simp [since, state, ModelInvocationState.isTerminal]
    · simp [recovers, state, SyntheticStatusRequirement.interruption]
  | completed | failed | cancelledLocally =>
    refine agrees_released recoverable.shape ?_ ⟨{ modelTerminalPreserved := 1 }, ?_⟩
      (fun notCancelled => ?_) fun cancelRequested => ?_
    · simp [since, state, ModelInvocationState.isTerminal]
    · simp [recovers, state]
    · refine ⟨⟨.interruptActiveWork, .runtimeOwnershipLost⟩, ?_, rfl⟩
      simp [classified, current, notCancelled, classifyModelRecovery, inputCurrent, inputAttempt, state]
    · simp [classified, cancelRequested, classifyCancelRecovery, inputCurrent, inputAttempt,
        inputCleanup, state, cleanupDecision]

theorem recoverAttempt_tool (cleaned : ¬ unit.WaitsUncleaned) {toolId : ToolExecutionId}
    (current : unit.work.currentAttempt = .tool toolId) : AttemptAgrees unit request := by
  have attempt := recoverable.attempt
  simp only [WorkUnit.AttemptOwned, current] at attempt
  obtain ⟨row, found, owned⟩ := attempt
  have since : unit.openSince = if row.state.isTerminal then 0 else row.requestedAt := by
    simp [WorkUnit.openSince, current, found]
  have classified := classifyRecovery_held recoverable notCurrent (by simp [current])
  have recovers : recoverAttempt unit request = recoverToolAttempt unit request toolId := by
    simp [recoverAttempt, current]
  simp only [recoverToolAttempt, found, orRefuse_some, ok_bind, owned, bne_self_eq_false,
    refuseIf_false] at recovers
  obtain ⟨inputCurrent, inputAttempt, inputCleanup⟩ :
      (unit.recoveryInput request.currentRuntimeId).work.currentAttempt = .tool toolId ∧
      (unit.recoveryInput request.currentRuntimeId).attempt =
        .tool toolId row.state (row.state == .completed) ∧
      (unit.recoveryInput request.currentRuntimeId).cleanupStatus =
        cleanupStatusOf row.cleanupConfirmed := by
    simp [WorkUnit.recoveryInput, WorkUnit.recoveryAttempt, current, found]
  cases state : row.state with
  | requested =>
    simp only [state, ToolExecutionState.isTerminal, Bool.false_eq_true, ↓reduceIte] at since
    refine @agrees_marked _ _ ⟨.markToolInterruptedBeforeDispatchAndInterrupt,
      .toolInterruptedBeforeDispatch⟩ _ _ _ since ?_ rfl ⟨{ toolPredispatch := 1 }, ?_⟩
    · simp [classified, current, classifyCancelRecovery, classifyToolRecovery, inputCurrent,
        inputAttempt, state]
    · simp [recovers, state, current, AttemptMark.apply, AttemptMark.facts,
        SyntheticStatusRequirement.interruption]
  | dispatching =>
    simp only [state, ToolExecutionState.isTerminal, Bool.false_eq_true, ↓reduceIte] at since
    refine @agrees_marked _ _ ⟨.markToolOutcomeUnknownAndInterrupt, .toolOutcomeUnknown⟩ _ _ _ since ?_
      rfl ⟨{ cleanupChecks := 1, toolUnknown := 1, cleanupUnconfirmed := 1 }, ?_⟩
    · simp [classified, current, classifyCancelRecovery, classifyToolRecovery, inputCurrent,
        inputAttempt, state]
    · simp [recovers, state, current, AttemptMark.apply, AttemptMark.facts,
        SyntheticStatusRequirement.interruption]
  | interruptedBeforeDispatch =>
    refine @agrees_interrupted _ _ ⟨.interruptActiveWork, .toolInterruptedBeforeDispatch⟩ _ _ ?_ rfl ?_
      ⟨{ toolTerminalPreserved := 1 }, ?_⟩
    · simp [classified, current, classifyCancelRecovery, classifyToolRecovery, inputCurrent,
        inputAttempt, state]
    · simp [since, state, ToolExecutionState.isTerminal]
    · simp [recovers, state, SyntheticStatusRequirement.interruption]
  | outcomeUnknown =>
    refine @agrees_interrupted _ _ ⟨.interruptActiveWork, .toolOutcomeUnknown⟩ _ _ ?_ rfl ?_
      ⟨{ cleanupChecks := 1, toolTerminalPreserved := 1, cleanupUnconfirmed := 1 }, ?_⟩
    · simp [classified, current, classifyCancelRecovery, classifyToolRecovery, inputCurrent,
        inputAttempt, state]
    · simp [since, state, ToolExecutionState.isTerminal]
    · simp [recovers, state, SyntheticStatusRequirement.interruption]
  | completed =>
    have timely : unit.openSince ≤ request.recoveredAt := by
      simp [since, state, ToolExecutionState.isTerminal]
    by_cases unclean : row.cleanupConfirmed = some false
    · -- Only a cancellation may be found here, since an uncleaned wait is excluded.
      have cancelRequested : unit.work.state = .cancelRequested := by
        have shape := recoverable.shape
        cases workState : unit.work.state <;>
          simp_all [WorkLifecycleSnapshot.shapeOk, workShapeOk, WorkUnit.WaitsUncleaned]
      refine @agrees_interrupted _ _ ⟨.interruptActiveWork, .cleanupUnconfirmed⟩ _ _ ?_ rfl timely
        ⟨{ cleanupChecks := 1, toolTerminalPreserved := 1, cleanupUnconfirmed := 1 }, ?_⟩
      · simp [classified, cancelRequested, classifyCancelRecovery, inputCurrent, inputAttempt,
          inputCleanup, state, unclean, cleanupStatusOf, cleanupDecision]
      · simp [recovers, state, unclean, SyntheticStatusRequirement.interruption]
    · have confirmed : cleanupStatusOf row.cleanupConfirmed ≠ .unconfirmed := by
        cases evidence : row.cleanupConfirmed with
        | none => simp [cleanupStatusOf]
        | some value => cases value <;> simp_all [cleanupStatusOf]
      refine agrees_released recoverable.shape timely
        ⟨{ cleanupChecks := 1, toolTerminalPreserved := 1 }, ?_⟩
        (fun notCancelled => ?_) fun cancelRequested => ?_
      · simp [recovers, state, unclean]
      · refine ⟨⟨.reconcileCommittedToolResultWithoutExecution, .none⟩, ?_, rfl⟩
        simp [classified, current, notCancelled, classifyToolRecovery, inputCurrent, inputAttempt, state]
      · simp [classified, cancelRequested, classifyCancelRecovery, inputCurrent, inputAttempt,
          inputCleanup, state, cleanupDecision, confirmed]

theorem recoverAttempt_agrees (cleaned : ¬ unit.WaitsUncleaned) : AttemptAgrees unit request := by
  cases current : unit.work.currentAttempt with
  | none => exact recoverAttempt_none recoverable notCurrent current
  | model modelId => exact recoverAttempt_model recoverable notCurrent current
  | tool toolId => exact recoverAttempt_tool recoverable notCurrent cleaned current

end Agreement

section Unit

variable {unit : WorkUnit} {request : RecoverStaleRuntimeRequest} {outcome : RecoveryOutcome}
  {recovered : AttemptRecovery} {version : ProjectionVersion}

theorem accepts_cancel_requested {work : WorkLifecycleSnapshot} {reason : WorkCancellationReason}
    (shape : work.shapeOk = true) (cancelRequested : work.state = .cancelRequested)
    (cancelled : work.cancellationReason = some reason)
    (incremented : work.projectionVersion.checkedIncrement = some version) :
    Accepts work (.cancel reason .notRequired) (endedWork work version (.cancellation reason)) := by
  refine ⟨shape, checkGuard_forSnapshot _, by rw [cancelRequested]; rfl, by rw [cancelRequested]; rfl,
    incremented, ⟨.workCancelled, .commitConfirmedCancellation, ?_⟩, rfl, rfl, rfl⟩
  simp [transitionFields, cancelRequested, cancelled, endedWork]

theorem decide_unversioned {work : WorkLifecycleSnapshot} (transition : WorkTransitionRequest)
    (last : work.projectionVersion.checkedIncrement = none) :
    (decideWorkTransition work (.forSnapshot work) transition).toOption = none := by
  cases decided : (decideWorkTransition work (.forSnapshot work) transition).toOption with
  | none => rfl
  | some decision =>
    have stepped : stepWork work (.forSnapshot work, transition) = some decision.next := by
      simp [stepWork, decided]
    have accepted := (stepWork_eq_some_iff _ _ _ _).mp stepped
    rw [accepted.version] at last
    cases last

theorem AttemptFollows.transition (follows : AttemptFollows unit outcome recovered)
    (shape : unit.work.shapeOk = true) (active : unit.work.state.isActive = true) :
    ∃ transition, recoveryTransition unit.work recovered = .ok transition ∧
      ∀ version, unit.work.projectionVersion.checkedIncrement = some version →
        Accepts unit.work transition (endedWork unit.work version outcome.ending) := by
  rcases follows.ending with ⟨reason, cancelRequested, cancelled, canFinish, ending⟩ |
    ⟨cannotFinish, ending⟩
  · refine ⟨.cancel reason .notRequired, ?_, fun version incremented => ?_⟩
    · simp [recoveryTransition, canFinish, cancelled, pure, Except.pure]
    · rw [ending]
      exact accepts_cancel_requested shape cancelRequested cancelled incremented
  · refine ⟨.interrupt recovered.interruptionReason, ?_, fun version incremented => ?_⟩
    · simp [recoveryTransition, cannotFinish, pure, Except.pure]
    · rw [ending]
      exact accepts_interrupt_active shape active incremented _

theorem endedWork_timeShape {startedAt : Option UtcTimestamp} (started : startedAt.isSome = true)
    (work : WorkLifecycleSnapshot) (ending : WorkTerminalReason) (recoveredAt : UtcTimestamp) :
    validTimeShape (endedWork work version ending).state ⟨startedAt, none, some recoveredAt⟩ = true := by
  cases ending <;> simp [endedWork, WorkTerminalReason.state, validTimeShape, started]

theorem recoverUnit_follows (recoverable : Recoverable unit request.staleRuntimeId)
    (attempted : recoverAttempt unit request = .ok recovered)
    (follows : AttemptFollows unit outcome recovered) :
    (recoverUnit unit request true).map (fun result => (result.unit, result.facts)) =
      match unit.work.projectionVersion.checkedIncrement with
      | some version => .ok (outcome.rows unit version)
      | none => .error .conflict := by
  have active := active_of_owned recoverable.shape recoverable.owned
  obtain ⟨transition, asked, accepted⟩ := follows.transition recoverable.shape active
  simp only [recoverUnit, decodeActiveWorkRow_active recoverable.shape active,
    WorkState.isActive_live active, recoverable.owned, attempted, asked, ok_bind, bne_self_eq_false,
    Bool.not_true, refuseIf_false, Bool.false_eq_true, ↓reduceIte]
  cases incremented : unit.work.projectionVersion.checkedIncrement with
  | none =>
    simp only [decide_unversioned transition incremented, orRefuse_none, error_bind]
    rfl
  | some version =>
    obtain ⟨decision, decided, nextIs⟩ := (accepted version incremented).toOption_decide
    have updated : (unit.rows.guardedUpdate unit.work (endedWork unit.work version outcome.ending)).toOption =
        some { unit.rows with work := endedWork unit.work version outcome.ending } := by
      rw [guardedUpdate_accepted (accepted version incremented) rfl]
      rfl
    simp only [decided, orRefuse_some, ok_bind, nextIs,
      endedWork_timeShape recoverable.started, Bool.not_true, refuseIf_false, updated,
      follows.unit_eq, follows.facts_eq]
    rfl

theorem recoverUnit_classified (recoverable : Recoverable unit request.staleRuntimeId)
    (notCurrent : request.staleRuntimeId ≠ request.currentRuntimeId)
    (cleaned : ¬ unit.WaitsUncleaned) :
    ∃ decision outcome, classifyRecovery (unit.recoveryInput request.currentRuntimeId) = .ok decision ∧
      decision.outcome unit.work.cancellationReason = some outcome ∧
      (recoverUnit unit request true).map (fun result => (result.unit, result.facts)) =
        outcome.committed unit request.recoveredAt := by
  obtain ⟨decision, outcome, classified, prescribed, early | timely⟩ :=
    recoverAttempt_agrees recoverable notCurrent cleaned
  · refine ⟨decision, outcome, classified, prescribed, ?_⟩
    have active := active_of_owned recoverable.shape recoverable.owned
    simp [recoverUnit, decodeActiveWorkRow_active recoverable.shape active,
      WorkState.isActive_live active, recoverable.owned, early.2, RecoveryOutcome.committed,
      WorkUnit.recoveryRefusal, early.1, Except.map]
  · obtain ⟨notEarly, recovered, attempted, follows⟩ := timely
    refine ⟨decision, outcome, classified, prescribed, ?_⟩
    rw [recoverUnit_follows recoverable attempted follows]
    cases incremented : unit.work.projectionVersion.checkedIncrement <;>
      simp [RecoveryOutcome.committed, WorkUnit.recoveryRefusal, Nat.not_lt.mpr notEarly, incremented]

end Unit

/-! What a committed recovery did, whatever the rows were. -/

section Committed

variable {unit : WorkUnit} {request : RecoverStaleRuntimeRequest} {recovered : AttemptRecovery}
  {result : RecoveredUnit} {streamed : Bool}

def UnitFact.isWorkTransition : UnitFact → Bool
  | .workTransition _ _ => true
  | _ => false

theorem decodeActiveWorkRow_eq_ok {work decoded : WorkLifecycleSnapshot}
    (read : decodeActiveWorkRow work = .ok decoded) :
    decoded = { work with terminalReason := none } ∧ decoded.shapeOk = true ∧
      work.state.isTerminal = false := by
  have live : work.state.isTerminal = false := by
    by_contra terminal
    rw [decodeActiveWorkRow_terminal (by simpa using terminal)] at read
    cases read
  simp only [decodeActiveWorkRow, bind_eq_ok, refuseIf_eq_ok, pure_eq_ok] at read
  obtain ⟨_, shape, rfl⟩ := read
  exact ⟨rfl, by simpa [WorkLifecycleSnapshot.shapeOk] using shape, live⟩

theorem recoverAttempt_eq_ok (attempted : recoverAttempt unit request = .ok recovered) :
    recovered.unit.work = unit.work ∧ ∀ fact ∈ recovered.facts, fact.isWorkTransition = false := by
  unfold recoverAttempt at attempted
  split at attempted
  · cases attempted
    simp
  · simp only [recoverModelAttempt, bind_eq_ok, orRefuse_eq_ok, refuseIf_eq_ok] at attempted
    obtain ⟨row, _, _, _, branch⟩ := attempted
    split at branch
    · simp only [bind_eq_ok, refuseIf_eq_ok, pure_eq_ok] at branch
      obtain ⟨_, _, rfl⟩ := branch
      simp [UnitFact.isWorkTransition]
    · simp only [bind_eq_ok, refuseIf_eq_ok, pure_eq_ok] at branch
      obtain ⟨_, _, rfl⟩ := branch
      simp [UnitFact.isWorkTransition]
    all_goals
      cases branch
      simp
  · simp only [recoverToolAttempt, bind_eq_ok, orRefuse_eq_ok, refuseIf_eq_ok] at attempted
    obtain ⟨row, _, _, _, branch⟩ := attempted
    split at branch
    · simp only [bind_eq_ok, refuseIf_eq_ok, pure_eq_ok] at branch
      obtain ⟨_, _, rfl⟩ := branch
      simp [UnitFact.isWorkTransition]
    · simp only [bind_eq_ok, refuseIf_eq_ok, pure_eq_ok] at branch
      obtain ⟨_, _, rfl⟩ := branch
      simp [UnitFact.isWorkTransition]
    · cases branch
      simp
    · cases branch
      simp
    · split at branch <;>
      · cases branch
        simp

theorem recoveryTransition_terminal {work : WorkLifecycleSnapshot} {transition : WorkTransitionRequest}
    (asked : recoveryTransition work recovered = .ok transition) :
    transition.targetState = .cancelled ∨ transition.targetState = .interrupted := by
  unfold recoveryTransition at asked
  split at asked
  · simp only [bind_eq_ok, orRefuse_eq_ok, pure_eq_ok] at asked
    obtain ⟨reason, _, rfl⟩ := asked
    exact .inl rfl
  · cases asked
    exact .inr rfl

structure UnitEnded (unit : WorkUnit) (staleRuntimeId : RuntimeInstanceId) (result : RecoveredUnit) :
    Prop where
  owned : unit.work.runtimeOwner = some staleRuntimeId
  active : unit.work.state.isActive = true
  sameWork : result.unit.work.workId = unit.work.workId
  ended : result.unit.work.state = .cancelled ∨ result.unit.work.state = .interrupted
  shape : result.unit.work.shapeOk = true
  facts : ∃ attemptFacts current, result.facts = attemptFacts ++ [.workTransition current result.unit.work] ∧
    ∀ fact ∈ attemptFacts, fact.isWorkTransition = false

theorem recoverUnit_eq_ok (committed : recoverUnit unit request streamed = .ok result) :
    UnitEnded unit request.staleRuntimeId result := by
  simp only [recoverUnit, bind_eq_ok] at committed
  obtain ⟨lifecycle, read, committed⟩ := committed
  obtain ⟨rfl, shape, live⟩ := decodeActiveWorkRow_eq_ok read
  simp only [live, Bool.false_eq_true, ↓reduceIte, bind_eq_ok, refuseIf_eq_ok, orRefuse_eq_ok, pure_eq_ok, bne_eq_false_iff_eq] at committed
  obtain ⟨_, owned, _, _, recovered, attempted, transition, asked, decision, decided, _, _, updated,
    projected, rfl⟩ := committed
  obtain ⟨_, noTransition⟩ := recoverAttempt_eq_ok attempted
  have stepped : stepWork { unit.work with terminalReason := none }
      (.forSnapshot { unit.work with terminalReason := none }, transition) = some decision.next := by
    simp [stepWork, decided]
  have accepted := (stepWork_eq_some_iff _ _ _ _).mp stepped
  obtain ⟨rfl, _⟩ := guardedUpdate_eq_ok (toOption_eq_some.mp projected)
  have active : ({ unit.work with terminalReason := none } : WorkLifecycleSnapshot).state.isActive =
      true := active_of_owned shape owned
  refine ⟨owned, active, accepted.sameWork, ?_, accepted.nextShape,
    ⟨recovered.facts, _, rfl, noTransition⟩⟩
  have target := accepted.target
  rcases recoveryTransition_terminal asked with cancelled | interrupted
  · exact .inl (target.trans cancelled)
  · exact .inr (target.trans interrupted)

end Committed

end Craxii
