import Craxii.Tools.CallCore
import Craxii.Tools.RunShell

/-!
What each finish of `execute_call` plans: all ask `terminal_work_next` for the next work, so a
plan is known once that is.
-/

namespace Craxii

open Utf8Text ExceptRules

structure AwaitsOutcome (work : WorkLifecycleSnapshot) (toolId : ToolExecutionId) : Prop where
  state : work.state = .waitingOnTool ∨ work.state = .cancelRequested
  attempt : work.currentAttempt = .tool toolId
  shape : work.shapeOk = true

def outcomeWorkState (work : WorkLifecycleSnapshot) (interruption : Option WorkInterruptionReason) :
    WorkState :=
  if interruption.isSome then .interrupted
  else if work.state = .cancelRequested then .cancelled
  else .running

theorem orRefuse_decision (work : WorkLifecycleSnapshot) (request : WorkTransitionRequest)
    (kind : ToolExecutionServiceErrorKind) :
    (do
      let decision ← orRefuse (decideWorkTransition work (.forSnapshot work) request).toOption kind
      return decision.next) = orRefuse (stepWork work (.forSnapshot work, request)) kind := by
  unfold stepWork
  cases decideWorkTransition work (.forSnapshot work) request with
  | error => rfl
  | ok => rfl

section

variable {work : WorkLifecycleSnapshot} {toolId : ToolExecutionId} (awaits : AwaitsOutcome work toolId)

include awaits

theorem AwaitsOutcome.owned : work.runtimeOwner.isSome = true := by
  have shape := awaits.shape
  rcases awaits.state with state | state
  all_goals
    simp only [WorkLifecycleSnapshot.shapeOk, workShapeOk, state, Bool.and_eq_true] at shape
  · exact shape.1.1.1
  · exact shape.1.1

theorem AwaitsOutcome.requests (interruption : Option WorkInterruptionReason) :
    ∃ request, terminalWorkNext work toolId interruption =
        orRefuse (stepWork work (.forSnapshot work, request)) .invalidCallContext ∧
      request.targetState = outcomeWorkState work interruption ∧
      ∀ version, work.projectionVersion.checkedIncrement = some version →
        ∃ next, AcceptedWork work (.forSnapshot work) request next := by
  have owned := awaits.owned
  cases interruption with
  | some reason =>
    refine ⟨.interrupt reason, ?_, rfl, fun version incremented => ?_⟩
    · exact orRefuse_decision work _ _
    · refine ⟨interruptedWork work version reason, awaits.shape, checkGuard_forSnapshot work, ?_, ?_,
        incremented, ⟨_, _, rfl⟩, rfl, rfl, rfl⟩
      all_goals
        rcases awaits.state with state | state
        all_goals
          rw [state]
          rfl
  | none =>
    rcases awaits.state with state | state
    · have waits : WaitsOnTool work toolId := ⟨state, awaits.attempt, awaits.shape⟩
      refine ⟨.resumeFromTool toolId, terminalWorkNext_waiting waits, ?_, fun version incremented => ?_⟩
      · simp [outcomeWorkState, state, WorkTransitionRequest.targetState]
      · have resumed := waits.resume incremented
        rw [terminalWorkNext_waiting waits, orRefuse_eq_ok] at resumed
        exact ⟨_, (stepWork_eq_some_iff _ _ _ _).mp resumed⟩
    · have shape := awaits.shape
      simp only [WorkLifecycleSnapshot.shapeOk, workShapeOk, state, Bool.and_eq_true] at shape
      obtain ⟨reason, isReason⟩ := Option.isSome_iff_exists.mp shape.1.2
      refine ⟨.cancel reason .confirmed, ?_, ?_, fun version incremented => ?_⟩
      · rw [← orRefuse_decision]
        simp [terminalWorkNext, state, isReason, pure, Except.pure]
      · simp [outcomeWorkState, state, WorkTransitionRequest.targetState]
      · refine ⟨⟨work.workId, .cancelled, version, none, .none, none, some (.cancellation reason)⟩,
          awaits.shape, checkGuard_forSnapshot work, ?_, ?_, incremented,
          ⟨.workCancelled, .commitConfirmedCancellation, ?_⟩, rfl, rfl, rfl⟩
        · rw [state]
          rfl
        · rw [state]
          rfl
        · simp [transitionFields, state, isReason]

theorem AwaitsOutcome.next (interruption : Option WorkInterruptionReason)
    (room : work.projectionVersion.value < i64Max) :
    ∃ next, terminalWorkNext work toolId interruption = .ok next ∧
      next.state = outcomeWorkState work interruption := by
  obtain ⟨version, incremented⟩ := Option.isSome_iff_exists.mp
    ((PositiveInteger.checkedIncrement_isSome_iff _).mpr room)
  obtain ⟨request, requested, target, accepts⟩ := awaits.requests interruption
  obtain ⟨next, accepted⟩ := accepts version incremented
  refine ⟨next, ?_, accepted.target.trans target⟩
  rw [requested, (stepWork_eq_some_iff _ _ _ _).mpr accepted, orRefuse_some]

theorem AwaitsOutcome.exhausted (interruption : Option WorkInterruptionReason)
    (full : ¬work.projectionVersion.value < i64Max) :
    terminalWorkNext work toolId interruption = .error .invalidCallContext := by
  obtain ⟨request, requested, _, _⟩ := awaits.requests interruption
  rw [requested]
  cases stepped : stepWork work (.forSnapshot work, request) with
  | none => rfl
  | some next =>
    have version := ((stepWork_eq_some_iff _ _ _ _).mp stepped).version
    have room := (PositiveInteger.checkedIncrement_isSome_iff _).mp
      (Option.isSome_iff_exists.mpr ⟨_, version⟩)
    exact absurd room full

end

def Plans (planned : Except ToolExecutionServiceErrorKind FinishPlan)
    (next : Except ToolExecutionServiceErrorKind WorkLifecycleSnapshot)
    (Recorded : ToolTerminalOutcome → Prop) : Prop :=
  (∀ kind, next = .error kind → planned = .error kind) ∧
    ∀ work, next = .ok work → ∃ plan, planned = .ok plan ∧ plan.request.workNext = work ∧
      Recorded plan.request.outcome

section

variable {call : ToolExecutionCall} {tool : DispatchedTool} {stamp : OutcomeStamp}
  {work : WorkLifecycleSnapshot}

theorem planOutcome_plans {expectedTool : ToolExpectation} {causation : JournalEventId}
    (outcome : ToolTerminalOutcome) :
    Plans (planOutcome call expectedTool causation stamp work outcome)
      (terminalWorkNext work expectedTool.toolExecutionId none) (· = outcome) := by
  unfold planOutcome
  constructor
  · intro kind failed
    rw [failed, error_bind]
  · intro next ready
    rw [ready, ok_bind]
    exact ⟨_, rfl, rfl, rfl⟩

theorem persistOutcomeUnknown_plans (error : NormalizedError)
    (failure : ToolExecutionServiceErrorKind) :
    Plans (persistOutcomeUnknown call tool stamp work error failure)
      (terminalWorkNext work tool.toolExecutionId (some .toolOutcomeUnknown))
      (·.state = .outcomeUnknown) := by
  unfold persistOutcomeUnknown
  constructor
  · intro kind failed
    rw [failed, error_bind]
  · intro next ready
    rw [ready, ok_bind]
    exact ⟨_, rfl, rfl, rfl⟩

variable {digest : List UInt8 → Sha256Digest} {result : FileReadResult}
  {stream : Option ExecutionStreamResult} {perStream remaining : Nat}

theorem readArtifacts_captured (sized : utf8Len result.text ≤ i64Max) (omitted : Nat) :
    ∃ artifacts, readArtifacts digest call tool stamp result omitted = some artifacts := by
  unfold readArtifacts
  split
  · have fits : (beginCapture stamp.fileArtifactId result.byteLength).observed +
        (toUtf8 result.text).length ≤ i64Max := by
      simpa [beginCapture, length_toUtf8] using sized
    simp [ArtifactCapture.writeChunk, fits]
  · exact ⟨[], rfl⟩

theorem finishReadFile_plans {limits : ToolRuntimeLimits} {path : LogicalPathReference}
    (trusted : readUntrusted digest call path result = false) (canonical : result.byteLength ≤ i64Max)
    (duration : DurationMillis) :
    Plans (finishReadFile digest limits call tool stamp work path result duration)
      (terminalWorkNext work tool.toolExecutionId none) (·.state = .completed) := by
  have sized : utf8Len result.text ≤ i64Max := by
    have agree := trusted
    simp only [readUntrusted, Bool.or_eq_false_iff, bne_eq_false_iff_eq] at agree
    omega
  obtain ⟨artifacts, captured⟩ := @readArtifacts_captured call tool stamp digest result sized
    (utf8Len result.text - utf8Len (readProjection limits result.text))
  unfold finishReadFile
  simp only [trusted, captured, Bool.false_eq_true, ↓reduceIte]
  constructor
  · intro kind failed
    rw [failed, error_bind]
  · intro next ready
    rw [ready, ok_bind]
    exact ⟨_, rfl, rfl, rfl⟩

def CanonicalCounts (stream : Option ExecutionStreamResult) : Prop :=
  ∀ found ∈ stream, found.observedBytes ≤ i64Max ∧ found.capturedBytes ≤ i64Max

theorem streamEvidence_isSome_iff (small : remaining ≤ i64Max) (toolId : ToolExecutionId)
    (eventId : JournalEventId) :
    (streamEvidence call toolId stream perStream remaining eventId).isSome = true ↔
      CanonicalCounts stream := by
  cases stream with
  | none => simp [streamEvidence, CanonicalCounts]
  | some found =>
    have shown : utf8Len (truncateUtf8 found.projection (min perStream remaining)) ≤ i64Max := by
      have short := utf8Len_truncateUtf8 found.projection (min perStream remaining)
      omega
    simp only [streamEvidence, CanonicalCounts, Option.mem_def, Option.some.injEq, forall_eq']
    split
    · rename_i large
      simp only [Option.isSome_none, Bool.false_eq_true, false_iff]
      omega
    · rename_i counted
      simp only [Option.isSome_some, true_iff]
      omega

theorem streamEvidence_short
    {toolId : ToolExecutionId} {eventId : JournalEventId} {evidence : StreamEvidence}
    (found : streamEvidence call toolId stream perStream remaining eventId = some evidence) :
    utf8Len evidence.projection ≤ i64Max := by
  cases stream with
  | none =>
    obtain rfl := Option.some.inj found
    exact Nat.zero_le _
  | some result =>
    simp only [streamEvidence] at found
    split at found
    · cases found
    · rename_i counted
      obtain rfl := Option.some.inj found
      dsimp only
      omega

theorem boundedShellResultFields_ok {result : ExecutionResult}
    (exit : ∀ code ∈ result.exitCode, IsI64 code) (signal : ∀ code ∈ result.terminatingSignal, IsI64 code)
    {stdout stderr : Text} (stdoutBound : utf8Len stdout ≤ i64Max) (stderrBound : utf8Len stderr ≤ i64Max)
    (kind : ToolResultClass) :
    ∃ bounded, boundedShellResultFields (shellFixedFields result) stdout stderr kind
        (executionSummary kind) = .ok bounded ∧
      bounded.stdoutReturned ≤ i64Max ∧ bounded.stderrReturned ≤ i64Max := by
  have zero := buildShellFields_fits_zero (shellFixedFields_plain exit signal) stdoutBound stderrBound
    (by decide) kind (executionSummary_short kind).1
  have fits := boundedBudget_fits zero
  obtain ⟨stdoutWithin, stderrWithin⟩ := boundedTexts_le stdout stderr
    (boundedBudget (shellFixedFields result) stdout stderr kind (executionSummary kind))
  unfold boundedShellResultFields
  simp only [fits, Bool.not_true, refuseIf_false, ok_bind]
  exact ⟨_, rfl, Nat.le_trans stdoutWithin stdoutBound, Nat.le_trans stderrWithin stderrBound⟩

theorem updateStreamProjectionCounts_ok (counts : Option ToolStreamCounts) {returned : Nat}
    (small : returned ≤ i64Max) :
    ∃ updated, updateStreamProjectionCounts counts returned = .ok updated := by
  have counted : ¬i64Max < returned := by omega
  cases counts with
  | none => exact ⟨none, rfl⟩
  | some => simp [updateStreamProjectionCounts, counted, pure, Except.pure]

section

variable {limits : ToolRuntimeLimits} {expected : ExpectedExecution} {result : ExecutionResult}
  (inline : limits.inlineModelResultBytes ≤ i64Max)
  (trusted : executionUntrusted call expected result = false)
  (same : result.executionId = tool.executionId)

include inline trusted same

theorem finishRunShell_plans (exit : ∀ code ∈ result.exitCode, IsI64 code)
    (signal : ∀ code ∈ result.terminatingSignal, IsI64 code) (stdoutCounts : CanonicalCounts result.stdout)
    (stderrCounts : CanonicalCounts result.stderr) :
    Plans (finishRunShell limits call tool stamp work expected result)
      (terminalWorkNext work tool.toolExecutionId none) fun outcome =>
        outcome.state = .completed ∧ outcome.cleanupConfirmed = some true ∧
          outcome.result.map (·.resultKind) = some (executionResultClass result) := by
  obtain ⟨stdout, stdoutFound⟩ := Option.isSome_iff_exists.mp
    ((@streamEvidence_isSome_iff call result.stdout limits.perStreamProjectionBytes
      limits.inlineModelResultBytes inline tool.toolExecutionId stamp.firstArtifactEventId).mpr
      stdoutCounts)
  have rest : limits.inlineModelResultBytes - utf8Len stdout.projection ≤ i64Max := by omega
  obtain ⟨stderr, stderrFound⟩ := Option.isSome_iff_exists.mp
    ((@streamEvidence_isSome_iff call result.stderr limits.perStreamProjectionBytes _ rest
      tool.toolExecutionId stamp.secondArtifactEventId).mpr stderrCounts)
  obtain ⟨bounded, boundedOk, stdoutSmall, stderrSmall⟩ := boundedShellResultFields_ok exit signal
    (streamEvidence_short stdoutFound) (streamEvidence_short stderrFound) (executionResultClass result)
  obtain ⟨updatedStdout, stdoutUpdated⟩ := updateStreamProjectionCounts_ok stdout.counts stdoutSmall
  obtain ⟨updatedStderr, stderrUpdated⟩ := updateStreamProjectionCounts_ok stderr.counts stderrSmall
  unfold finishRunShell
  simp only [trusted, same, stdoutFound, stderrFound, boundedOk, stdoutUpdated, stderrUpdated,
    Bool.false_eq_true, ↓reduceIte, ne_eq, not_true_eq_false, ok_bind]
  constructor
  · intro kind failed
    rw [failed, error_bind]
  · intro next ready
    rw [ready, ok_bind]
    exact ⟨_, rfl, rfl, rfl, rfl, rfl⟩

theorem finishRunShell_uncounted
    (uncounted : ¬(CanonicalCounts result.stdout ∧ CanonicalCounts result.stderr)) :
    finishRunShell limits call tool stamp work expected result =
      persistOutcomeUnknown call tool stamp work (.workstation .outcomeUnknown none)
        .invalidComposition := by
  unfold finishRunShell
  simp only [trusted, same, Bool.false_eq_true, ↓reduceIte, ne_eq, not_true_eq_false]
  cases stdoutFound : streamEvidence call tool.toolExecutionId result.stdout
      limits.perStreamProjectionBytes limits.inlineModelResultBytes stamp.firstArtifactEventId with
  | none => rfl
  | some stdout =>
    have stdoutCounts := (streamEvidence_isSome_iff inline tool.toolExecutionId
      stamp.firstArtifactEventId).mp (Option.isSome_iff_exists.mpr ⟨_, stdoutFound⟩)
    have rest : limits.inlineModelResultBytes - utf8Len stdout.projection ≤ i64Max := by omega
    cases stderrFound : streamEvidence call tool.toolExecutionId result.stderr
        limits.perStreamProjectionBytes
        (limits.inlineModelResultBytes - utf8Len stdout.projection) stamp.secondArtifactEventId with
    | none => simp only [stderrFound]
    | some stderr =>
      have stderrCounts := (streamEvidence_isSome_iff rest tool.toolExecutionId
        stamp.secondArtifactEventId).mp (Option.isSome_iff_exists.mpr ⟨_, stderrFound⟩)
      exact absurd ⟨stdoutCounts, stderrCounts⟩ uncounted

end

end

end Craxii
