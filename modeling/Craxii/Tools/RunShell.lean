import Craxii.Store.ToolAttempt
import Craxii.Tools.ResultFields
import Craxii.Workstation.Execution

/-!
From the bytes that a command wrote to the outcome that `finish_tool` commits.
-/

namespace Craxii

open Utf8Text ExceptRules

variable {toolExecutionId : ToolExecutionId} {work : WorkLifecycleSnapshot}

theorem terminalWorkNext_waiting (waits : WaitsOnTool work toolExecutionId) :
    terminalWorkNext work toolExecutionId none =
      orRefuse (stepWork work (.forSnapshot work, .resumeFromTool toolExecutionId))
        .invalidCallContext := by
  simp only [terminalWorkNext, waits.state, reduceCtorEq, ↓reduceIte, stepWork, pure, Except.pure,
    ok_bind]
  cases decideWorkTransition work (.forSnapshot work) (.resumeFromTool toolExecutionId) with
  | error _ => rfl
  | ok _ => rfl

theorem WaitsOnTool.resume (waits : WaitsOnTool work toolExecutionId) {version : ProjectionVersion}
    (incremented : work.projectionVersion.checkedIncrement = some version) :
    terminalWorkNext work toolExecutionId none = .ok (resumedWork work version) := by
  obtain ⟨owned, _, _⟩ := waits.reasons
  have accepted : AcceptedWork work (.forSnapshot work) (.resumeFromTool toolExecutionId)
      (resumedWork work version) := by
    refine ⟨waits.shape, checkGuard_forSnapshot work, ?_, ?_, incremented,
      ⟨.workResumed, .commitObservedToolTerminal, ?_⟩, ?_, rfl, rfl⟩
    · rw [waits.state]
      rfl
    · rw [waits.state]
      rfl
    · simp [transitionFields, waits.attempt, resumedWork]
    · simp [WorkLifecycleSnapshot.shapeOk, workShapeOk, resumedWork, owned]
  rw [terminalWorkNext_waiting waits, (stepWork_eq_some_iff _ _ _ _).mpr accepted, orRefuse_some]

theorem WaitsOnTool.resume_overflow (waits : WaitsOnTool work toolExecutionId)
    (exhausted : work.projectionVersion.checkedIncrement = none) :
    terminalWorkNext work toolExecutionId none = .error .invalidCallContext := by
  rw [terminalWorkNext_waiting waits]
  cases stepped : stepWork work (.forSnapshot work, .resumeFromTool toolExecutionId) with
  | none => rfl
  | some next =>
    have version := ((stepWork_eq_some_iff _ _ _ _).mp stepped).version
    rw [exhausted] at version
    cases version

def LegalCounts (counts : ToolStreamCounts) : Prop :=
  counts.captured ≤ counts.observed ∧ counts.returnedInline ≤ counts.captured ∧
    counts.omitted = counts.observed - counts.returnedInline

def RecordsCompletion (store : ToolStore)
    (planned : Except ToolExecutionServiceErrorKind FinishPlan) : Prop :=
  ∃ plan finished, planned = .ok plan ∧ plan.failure = none ∧
    plan.request.outcome.state = .completed ∧ finishTool store plan.request = .ok finished ∧
    (∀ counts, plan.request.outcome.stdoutCounts = some counts → LegalCounts counts) ∧
    (∀ counts, plan.request.outcome.stderrCounts = some counts → LegalCounts counts)

structure CommandRun where
  request : ExecutionRequest
  status : ExitStatus
  (cgroupEmpty cgroupRemoved : Option Bool)
  duration : DurationMillis
  (stdoutArtifactId stderrArtifactId : ArtifactId)
  (stdoutLimit stderrLimit : Nat)
  stdoutChunks : List (List UInt8)
  stderrChunks : List (List UInt8)

def CommandRun.result (digest : List UInt8 → Sha256Digest) (run : CommandRun) : ExecutionResult :=
  supervisedResult run.request .natural (some run.status) true run.cgroupEmpty run.cgroupRemoved
    (drainStream digest (beginCapture run.stdoutArtifactId run.stdoutLimit) run.stdoutChunks)
    (drainStream digest (beginCapture run.stderrArtifactId run.stderrLimit) run.stderrChunks)
    run.duration

structure IssuedBy (call : ToolExecutionCall) (tool : DispatchedTool) (expected : ExpectedExecution)
    (request : ExecutionRequest) : Prop where
  executionId : request.executionId = tool.executionId
  cwd : request.requestedCwd = expected.cwd
  resolvedCwd : request.resolvedCwd = expected.resolvedCwd
  requestedPath : expected.resolvedCwd.requestedPath = expected.cwd
  workstation : expected.resolvedCwd.workstationId = call.workstationId
  generation : expected.resolvedCwd.workstationGeneration = call.workstationGeneration
  workspace : expected.resolvedCwd.workspaceId = call.workspaceId
  privilege : request.effectivePrivilege = expected.privilege
  commandSha256 : request.commandSha256 = expected.commandSha256

namespace CommandRun

def stdoutBytes (run : CommandRun) : List UInt8 :=
  run.stdoutChunks.flatten

def stderrBytes (run : CommandRun) : List UInt8 :=
  run.stderrChunks.flatten

structure Confirmed (run : CommandRun) : Prop where
  cgroupEmpty : run.cgroupEmpty ≠ some false
  cgroupRemoved : run.cgroupRemoved ≠ some false
  stdoutCounted : run.stdoutBytes.length ≤ i64Max
  stderrCounted : run.stderrBytes.length ≤ i64Max

variable (digest : List UInt8 → Sha256Digest) (limits : ToolRuntimeLimits) (run : CommandRun)

def shownStdout : Text :=
  truncateUtf8 (fromUtf8Lossy (projectedBytes run.stdoutBytes))
    (min limits.perStreamProjectionBytes limits.inlineModelResultBytes)

def shownStderr : Text :=
  truncateUtf8 (fromUtf8Lossy (projectedBytes run.stderrBytes))
    (min limits.perStreamProjectionBytes
      (limits.inlineModelResultBytes - utf8Len (run.shownStdout limits)))

def resultClass : ToolResultClass :=
  executionResultClass (run.result digest)

def budget : Nat :=
  boundedBudget (shellFixedFields (run.result digest)) (run.shownStdout limits)
    (run.shownStderr limits) (run.resultClass digest) (executionSummary (run.resultClass digest))

def returned : Text × Text :=
  boundedTexts (run.shownStdout limits) (run.shownStderr limits) (run.budget digest limits)

def evidence : ToolResultEvidence where
  resultKind := run.resultClass digest
  summary := executionSummary (run.resultClass digest)
  fields := buildShellFields (shellFixedFields (run.result digest)) (run.shownStdout limits)
    (run.shownStderr limits) (run.budget digest limits)

end CommandRun

def drainedCounts (bytes : List UInt8) (hardLimit : Nat) (returned : Text) : ToolStreamCounts :=
  ⟨bytes.length, (bytes.take hardLimit).length, utf8Len returned, bytes.length - utf8Len returned⟩

theorem streamCountsOk_drained {bytes : List UInt8} (counted : bytes.length ≤ i64Max)
    (hardLimit : Nat) (returned : Text) :
    streamCountsOk (drainedCounts bytes hardLimit returned) = true ↔
      utf8Len returned ≤ (bytes.take hardLimit).length := by
  have captured : (bytes.take hardLimit).length ≤ bytes.length := List.length_take_le' _ _
  simp only [streamCountsOk, Bool.and_eq_true, decide_eq_true_eq]
  simp only [drainedCounts, beq_self_eq_true]
  constructor
  · exact fun all => all.1.1.1.2
  · exact fun within => ⟨⟨⟨⟨captured, within⟩, trivial⟩, counted⟩, by omega⟩

theorem legalCounts_drained {bytes : List UInt8} {hardLimit : Nat} {returned : Text}
    (within : utf8Len returned ≤ (bytes.take hardLimit).length) :
    LegalCounts (drainedCounts bytes hardLimit returned) :=
  ⟨List.length_take_le' _ _, within, rfl⟩

theorem utf8Len_shown (bytes : List UInt8) (limit : Nat) :
    utf8Len (truncateUtf8 (fromUtf8Lossy (projectedBytes bytes)) limit) ≤ 131072 := by
  have truncated := utf8Len_truncateUtf8_le (fromUtf8Lossy (projectedBytes bytes)) limit
  have decoded := utf8Len_fromUtf8Lossy (projectedBytes bytes)
  have projected := length_projectedBytes bytes
  simp only [executionStreamProjectionBytes] at projected
  omega

theorem CommandRun.utf8Len_shownStdout (limits : ToolRuntimeLimits) (run : CommandRun) :
    utf8Len (run.shownStdout limits) ≤ 131072 :=
  utf8Len_shown _ _

theorem CommandRun.utf8Len_shownStderr (limits : ToolRuntimeLimits) (run : CommandRun) :
    utf8Len (run.shownStderr limits) ≤ 131072 :=
  utf8Len_shown _ _

def drainedArtifact (call : ToolExecutionCall) (tool : DispatchedTool)
    (digest : List UInt8 → Sha256Digest) (artifactId : ArtifactId) (hardLimit : Nat)
    (bytes : List UInt8) (eventId : JournalEventId) : List PreparedArtifact :=
  if decide (0 < (bytes.take hardLimit).length) then
    [preparedArtifact call tool.toolExecutionId (drainedStream digest artifactId hardLimit bytes).artifact
      "application/octet-stream".toList eventId]
  else []

def drainedArtifactId (artifactId : ArtifactId) (hardLimit : Nat) (bytes : List UInt8) :
    Option ArtifactId :=
  if decide (0 < (bytes.take hardLimit).length) then some artifactId else none

theorem streamEvidence_drained (call : ToolExecutionCall) (tool : DispatchedTool)
    (digest : List UInt8 → Sha256Digest) (artifactId : ArtifactId) (hardLimit : Nat)
    {bytes : List UInt8} (counted : bytes.length ≤ i64Max) (perStream remaining : Nat)
    (eventId : JournalEventId) :
    streamEvidence call tool.toolExecutionId (some (drainedStream digest artifactId hardLimit bytes))
        perStream remaining eventId =
      let shown := truncateUtf8 (fromUtf8Lossy (projectedBytes bytes)) (min perStream remaining)
      some ⟨drainedArtifactId artifactId hardLimit bytes, some (drainedCounts bytes hardLimit shown),
        shown, drainedArtifact call tool digest artifactId hardLimit bytes eventId⟩ := by
  have shownSmall := utf8Len_shown bytes (min perStream remaining)
  have captured : (bytes.take hardLimit).length ≤ bytes.length := List.length_take_le' _ _
  have counts : ¬(i64Max < bytes.length ∨ i64Max < (bytes.take hardLimit).length ∨
      i64Max < utf8Len (truncateUtf8 (fromUtf8Lossy (projectedBytes bytes)) (min perStream remaining))) := by
    simp only [i64Max] at counted ⊢
    omega
  simp only [streamEvidence, drainedStream, counts, ↓reduceIte, drainedCounts, drainedArtifactId,
    drainedArtifact]
  rfl

theorem executionSummary_short (kind : ToolResultClass) :
    utf8Len (executionSummary kind) ≤ 64 ∧ isBoundedText (executionSummary kind) 8192 = true := by
  cases kind <;> decide

theorem ExitStatus.code_small (status : ExitStatus) : SmallCode status.code := by
  intro code isCode
  cases status with
  | exited number => exact ⟨number.val, number.isLt, (Option.some.inj isCode).symm⟩
  | signaled number => cases isCode

theorem ExitStatus.signal_small (status : ExitStatus) : SmallCode status.signal := by
  intro code isCode
  cases status with
  | exited number => cases isCode
  | signaled number =>
    exact ⟨number.val, Nat.lt_trans number.isLt (by decide), (Option.some.inj isCode).symm⟩

section

variable (digest : List UInt8 → Sha256Digest) {run : CommandRun} (confirmed : run.Confirmed)

include confirmed

theorem CommandRun.Confirmed.result_eq :
    run.result digest = {
      executionId := run.request.executionId
      startObserved := true
      requestedCwd := run.request.requestedCwd
      resolvedCwd := run.request.resolvedCwd
      effectivePrivilege := run.request.effectivePrivilege
      commandSha256 := run.request.commandSha256
      resultKind := (resultKindOf .natural (some run.status)).1
      exitCode := run.status.code
      terminatingSignal := run.status.signal
      timedOut := false
      cancelled := false
      duration := run.duration
      stdout := some (drainedStream digest run.stdoutArtifactId run.stdoutLimit run.stdoutBytes)
      stderr := some (drainedStream digest run.stderrArtifactId run.stderrLimit run.stderrBytes)
      cleanup := ⟨true, true, true, true, run.cgroupEmpty, run.cgroupRemoved⟩
      error := none
      certainty := .definite } := by
  have stdoutCounted : run.stdoutChunks.flatten.length ≤ i64Max := confirmed.stdoutCounted
  have stderrCounted : run.stderrChunks.flatten.length ≤ i64Max := confirmed.stderrCounted
  have gone : (run.cgroupEmpty != some false) = true ∧ (run.cgroupRemoved != some false) = true :=
    ⟨bne_iff_ne.mpr confirmed.cgroupEmpty, bne_iff_ne.mpr confirmed.cgroupRemoved⟩
  have kept : resultKindOf .natural (some run.status) =
      ((resultKindOf .natural (some run.status)).1, false, false) := by
    cases run.status <;> rfl
  simp only [CommandRun.result, supervisedResult, drainStream_bytes, stdoutCounted, stderrCounted,
    ↓reduceIte, Option.isSome_some, ExecutionCleanupEvidence.confirmed, gone, Bool.and_self,
    Option.bind_some, CommandRun.stdoutBytes, CommandRun.stderrBytes]
  rw [kept]

theorem CommandRun.Confirmed.trusted {call : ToolExecutionCall} {tool : DispatchedTool}
    {expected : ExpectedExecution} (issued : IssuedBy call tool expected run.request) :
    executionUntrusted call expected (run.result digest) = false := by
  have gone : (run.cgroupEmpty != some false) = true ∧ (run.cgroupRemoved != some false) = true :=
    ⟨bne_iff_ne.mpr confirmed.cgroupEmpty, bne_iff_ne.mpr confirmed.cgroupRemoved⟩
  have ended : ((resultKindOf .natural (some run.status)).1 == ExecutionResultKind.cleanupFailed) =
      false := by
    cases run.status <;> rfl
  simp [executionUntrusted, confirmed.result_eq, issued.cwd, issued.resolvedCwd, issued.requestedPath,
    issued.workstation, issued.generation, issued.workspace, issued.privilege, issued.commandSha256,
    ExecutionCleanupEvidence.confirmed, gone, ended]

theorem CommandRun.Confirmed.fixedFields_plain :
    PlainFields (shellFixedFields (run.result digest)) 1500 := by
  apply shellFixedFields_plain
  · rw [confirmed.result_eq]
    exact run.status.code_small.isI64
  · rw [confirmed.result_eq]
    exact run.status.signal_small.isI64

theorem CommandRun.Confirmed.bounded (limits : ToolRuntimeLimits) :
    boundedShellResultFields (shellFixedFields (run.result digest)) (run.shownStdout limits)
        (run.shownStderr limits) (run.resultClass digest) (executionSummary (run.resultClass digest)) =
      .ok ⟨(run.evidence digest limits).fields, utf8Len (run.returned digest limits).1,
        utf8Len (run.returned digest limits).2⟩ ∧
      (storedToolResult (run.evidence digest limits)).byteLen ≤ maxToolResultJsonBytes := by
  have zero := buildShellFields_fits_zero (confirmed.fixedFields_plain digest)
    (Nat.le_trans (run.utf8Len_shownStdout limits) (by decide))
    (Nat.le_trans (run.utf8Len_shownStderr limits) (by decide)) (by decide)
    (run.resultClass digest) (executionSummary_short (run.resultClass digest)).1
  have fits := boundedBudget_fits zero
  refine ⟨?_, (shellFieldsFit_iff _ _ _).mp fits⟩
  unfold boundedShellResultFields
  dsimp only
  rw [fits]
  rfl

end

namespace CommandRun

variable (digest : List UInt8 → Sha256Digest) (limits : ToolRuntimeLimits) (run : CommandRun)

def stdoutCounts : ToolStreamCounts :=
  drainedCounts run.stdoutBytes run.stdoutLimit (run.returned digest limits).1

def stderrCounts : ToolStreamCounts :=
  drainedCounts run.stderrBytes run.stderrLimit (run.returned digest limits).2

def outcome (tool : DispatchedTool) (stamp : OutcomeStamp) : ToolTerminalOutcome where
  state := .completed
  predispatchAuthority := none
  startedAt := some tool.dispatchAt
  completedAt := stamp.completedAt
  exitCode := run.status.code
  signal := run.status.signal
  timedOut := some false
  cancelled := some false
  cleanupConfirmed := some true
  result := some (run.evidence digest limits)
  evidenceArtifactIds := []
  stdoutArtifactId := drainedArtifactId run.stdoutArtifactId run.stdoutLimit run.stdoutBytes
  stderrArtifactId := drainedArtifactId run.stderrArtifactId run.stderrLimit run.stderrBytes
  stdoutCounts := some (run.stdoutCounts digest limits)
  stderrCounts := some (run.stderrCounts digest limits)
  truncated := streamTruncated (some (run.stdoutCounts digest limits)) ||
    streamTruncated (some (run.stderrCounts digest limits))
  normalizedError := none

def artifacts (call : ToolExecutionCall) (tool : DispatchedTool) (stamp : OutcomeStamp) :
    List PreparedArtifact :=
  drainedArtifact call tool digest run.stdoutArtifactId run.stdoutLimit run.stdoutBytes
      stamp.firstArtifactEventId ++
    drainedArtifact call tool digest run.stderrArtifactId run.stderrLimit run.stderrBytes
      stamp.secondArtifactEventId

end CommandRun

section

variable (digest : List UInt8 → Sha256Digest) (limits : ToolRuntimeLimits) {call : ToolExecutionCall}
  {tool : DispatchedTool} (stamp : OutcomeStamp) {work : WorkLifecycleSnapshot}
  {expected : ExpectedExecution} {run : CommandRun} (confirmed : run.Confirmed)

include confirmed

theorem finishRunShell_confirmed (issued : IssuedBy call tool expected run.request) :
    finishRunShell limits call tool stamp work expected (run.result digest) =
      (terminalWorkNext work tool.toolExecutionId none).map fun next =>
        ⟨terminalRequest call tool stamp work (run.outcome digest limits tool stamp)
          (run.artifacts digest call tool stamp) next, none⟩ := by
  have trusted := confirmed.trusted digest issued
  obtain ⟨bounded, _⟩ := confirmed.bounded digest limits
  have same : (run.result digest).executionId = tool.executionId := by
    rw [confirmed.result_eq]
    exact issued.executionId
  have stdout : streamEvidence call tool.toolExecutionId (run.result digest).stdout
      limits.perStreamProjectionBytes limits.inlineModelResultBytes stamp.firstArtifactEventId =
        some ⟨drainedArtifactId run.stdoutArtifactId run.stdoutLimit run.stdoutBytes,
          some (drainedCounts run.stdoutBytes run.stdoutLimit (run.shownStdout limits)),
          run.shownStdout limits, drainedArtifact call tool digest run.stdoutArtifactId
            run.stdoutLimit run.stdoutBytes stamp.firstArtifactEventId⟩ := by
    rw [confirmed.result_eq]
    exact streamEvidence_drained call tool digest _ _ confirmed.stdoutCounted _ _ _
  have stderr : streamEvidence call tool.toolExecutionId (run.result digest).stderr
      limits.perStreamProjectionBytes
      (limits.inlineModelResultBytes - utf8Len (run.shownStdout limits)) stamp.secondArtifactEventId =
        some ⟨drainedArtifactId run.stderrArtifactId run.stderrLimit run.stderrBytes,
          some (drainedCounts run.stderrBytes run.stderrLimit (run.shownStderr limits)),
          run.shownStderr limits, drainedArtifact call tool digest run.stderrArtifactId
            run.stderrLimit run.stderrBytes stamp.secondArtifactEventId⟩ := by
    rw [confirmed.result_eq]
    exact streamEvidence_drained call tool digest _ _ confirmed.stderrCounted _ _ _
  have stdoutSmall : ¬i64Max < utf8Len (run.returned digest limits).1 := by
    have within := (boundedTexts_le (run.shownStdout limits) (run.shownStderr limits)
      (run.budget digest limits)).1
    have shown := run.utf8Len_shownStdout limits
    simp only [CommandRun.returned, i64Max]
    omega
  have stderrSmall : ¬i64Max < utf8Len (run.returned digest limits).2 := by
    have within := (boundedTexts_le (run.shownStdout limits) (run.shownStderr limits)
      (run.budget digest limits)).2
    have shown := run.utf8Len_shownStderr limits
    simp only [CommandRun.returned, i64Max]
    omega
  simp only [finishRunShell, trusted, same, stdout, stderr, Bool.false_eq_true, ↓reduceIte, ne_eq,
    not_true_eq_false]
  have byClass : executionResultClass (run.result digest) = run.resultClass digest := rfl
  rw [byClass, bounded]
  simp only [ok_bind, updateStreamProjectionCounts, stdoutSmall, stderrSmall, decide_false,
    refuseIf_false, pure, Except.pure]
  have startObserved : (run.result digest).startObserved = true := by rw [confirmed.result_eq]
  have exitCode : (run.result digest).exitCode = run.status.code := by rw [confirmed.result_eq]
  have signal : (run.result digest).terminatingSignal = run.status.signal := by
    rw [confirmed.result_eq]
  have ended : (run.result digest).timedOut = false ∧ (run.result digest).cancelled = false ∧
      (run.result digest).error = none := by
    rw [confirmed.result_eq]
    exact ⟨rfl, rfl, rfl⟩
  rw [startObserved, exitCode, signal, ended.1, ended.2.1, ended.2.2]
  cases terminalWorkNext work tool.toolExecutionId none with
  | error _ => rfl
  | ok next => rfl

end

section

variable (call : ToolExecutionCall) (tool : DispatchedTool) (digest : List UInt8 → Sha256Digest)
  (artifactId : ArtifactId) (hardLimit : Nat) (bytes : List UInt8) (eventId : JournalEventId)

theorem drainedArtifact_facts {artifact : PreparedArtifact}
    (found : artifact ∈ drainedArtifact call tool digest artifactId hardLimit bytes eventId) :
    artifactFactsOk call.workId (.tool tool.toolExecutionId) artifact = true ∧
      artifact.metadata.craxiiId = call.craxiiId ∧ artifact.event.correlationId = call.correlationId := by
  unfold drainedArtifact at found
  split at found
  · rw [List.mem_singleton.mp found]
    have captured : (bytes.take hardLimit).length ≤ bytes.length := List.length_take_le' _ _
    refine ⟨?_, rfl, rfl⟩
    simp only [artifactFactsOk, preparedArtifact, drainedStream, captured, decide_true]
    simp
  · cases found

theorem drainedArtifact_ids :
    (drainedArtifact call tool digest artifactId hardLimit bytes eventId).map (·.metadata.artifactId) =
      (drainedArtifactId artifactId hardLimit bytes).toList := by
  unfold drainedArtifact drainedArtifactId
  split <;> rfl

theorem drainedArtifact_events :
    (drainedArtifact call tool digest artifactId hardLimit bytes eventId).map (·.event.eventId) =
      ((drainedArtifactId artifactId hardLimit bytes).map fun _ => eventId).toList := by
  unfold drainedArtifact drainedArtifactId
  split <;> rfl

theorem streamArtifactOk_drained (returned : Text) {artifacts : List PreparedArtifact}
    (supplied : ∀ artifact ∈ drainedArtifact call tool digest artifactId hardLimit bytes eventId,
      artifact ∈ artifacts) :
    streamArtifactOk artifacts (drainedArtifactId artifactId hardLimit bytes)
      (some (drainedCounts bytes hardLimit returned)) = true := by
  unfold drainedArtifactId drainedArtifact at *
  split
  · rename_i captured
    simp only [captured, ↓reduceIte, List.mem_singleton, forall_eq] at supplied
    simp only [streamArtifactOk, Option.all_some, Option.any_some, List.any_eq_true]
    refine ⟨_, supplied, ?_⟩
    simp [preparedArtifact, drainedStream, drainedCounts]
  · rfl

end

theorem toList_append_nodup {Value : Type} {first second : Option Value}
    (distinct : ∀ one other, first = some one → second = some other → one ≠ other) :
    (first.toList ++ second.toList).Nodup := by
  cases first with
  | none => cases second <;> simp
  | some one =>
    cases second with
    | none => simp
    | some other => simpa using distinct one other rfl rfl

theorem drainedArtifactId_some {artifactId found : ArtifactId} {hardLimit : Nat} {bytes : List UInt8}
    (isSome : drainedArtifactId artifactId hardLimit bytes = some found) : artifactId = found := by
  unfold drainedArtifactId at isSome
  split at isSome
  · exact Option.some.inj isSome
  · cases isSome

section

variable (digest : List UInt8 → Sha256Digest) (limits : ToolRuntimeLimits) {call : ToolExecutionCall}
  {tool : DispatchedTool} {stamp : OutcomeStamp} {work : WorkLifecycleSnapshot} {run : CommandRun}

theorem CommandRun.artifacts_consistent (sameWork : work.workId = call.workId)
    (distinctIds : run.stdoutArtifactId ≠ run.stderrArtifactId)
    (distinctEvents : stamp.firstArtifactEventId ≠ stamp.secondArtifactEventId)
    (next : WorkLifecycleSnapshot) :
    ConsistentArtifacts (terminalRequest call tool stamp work (run.outcome digest limits tool stamp)
      (run.artifacts digest call tool stamp) next) call.craxiiId call.correlationId := by
  have facts : ∀ artifact ∈ run.artifacts digest call tool stamp,
      artifactFactsOk call.workId (.tool tool.toolExecutionId) artifact = true ∧
        artifact.metadata.craxiiId = call.craxiiId ∧
        artifact.event.correlationId = call.correlationId := by
    intro artifact found
    rcases List.mem_append.mp found with stdout | stderr
    · exact drainedArtifact_facts _ _ _ _ _ _ _ stdout
    · exact drainedArtifact_facts _ _ _ _ _ _ _ stderr
  have referenced : referencedArtifacts (run.outcome digest limits tool stamp) =
      (drainedArtifactId run.stdoutArtifactId run.stdoutLimit run.stdoutBytes).toList ++
        (drainedArtifactId run.stderrArtifactId run.stderrLimit run.stderrBytes).toList :=
    List.append_nil _
  refine ⟨?_, fun artifact found => (facts artifact found).2, ?_, ?_, ?_, ?_, ?_⟩
  · intro artifact found
    simp only [terminalRequest, WorkExpectation.forSnapshot, sameWork]
    exact (facts artifact found).1
  · simp only [terminalRequest, CommandRun.artifacts, List.map_append, drainedArtifact_events]
    refine toList_append_nodup ?_
    intro one other isOne isOther
    simp only [Option.map_eq_some_iff] at isOne isOther
    obtain ⟨_, _, isFirst⟩ := isOne
    obtain ⟨_, _, isSecond⟩ := isOther
    rw [← isFirst, ← isSecond]
    exact distinctEvents
  · simp only [terminalRequest, referenced, CommandRun.artifacts, List.map_append, drainedArtifact_ids]
  · simp only [terminalRequest, referenced]
    refine toList_append_nodup ?_
    intro one other isOne isOther
    rw [← drainedArtifactId_some isOne, ← drainedArtifactId_some isOther]
    exact distinctIds
  · exact streamArtifactOk_drained call tool digest _ _ _ _ _
      fun artifact found => List.mem_append_left _ found
  · exact streamArtifactOk_drained call tool digest _ _ _ _ _
      fun artifact found => List.mem_append_right _ found

end

section

variable (digest : List UInt8 → Sha256Digest) (limits : ToolRuntimeLimits) {call : ToolExecutionCall}
  {tool : DispatchedTool} {stamp : OutcomeStamp} {work : WorkLifecycleSnapshot} {run : CommandRun}

theorem streamEvidenceOk_outcome (confirmed : run.Confirmed) :
    streamEvidenceOk (run.outcome digest limits tool stamp) = true ↔
      utf8Len (run.returned digest limits).1 ≤ (run.stdoutBytes.take run.stdoutLimit).length ∧
        utf8Len (run.returned digest limits).2 ≤ (run.stderrBytes.take run.stderrLimit).length := by
  have identified (artifactId : ArtifactId) (hardLimit : Nat) (bytes : List UInt8) (returned : Text) :
      ((drainedArtifactId artifactId hardLimit bytes).isSome ==
        streamCaptured (some (drainedCounts bytes hardLimit returned))) = true := by
    by_cases captured : 0 < (bytes.take hardLimit).length
    · simp only [drainedArtifactId, streamCaptured, drainedCounts, captured, decide_true, ↓reduceIte,
        Option.isSome_some, Option.any_some, beq_self_eq_true]
    · simp only [drainedArtifactId, streamCaptured, drainedCounts, captured, decide_false,
        Bool.false_eq_true, ↓reduceIte, Option.isSome_none, Option.any_some, beq_self_eq_true]
  simp only [streamEvidenceOk, CommandRun.outcome, CommandRun.stdoutCounts, CommandRun.stderrCounts,
    Option.all_some, identified, beq_self_eq_true, Bool.and_true, Bool.and_eq_true,
    streamCountsOk_drained confirmed.stdoutCounted, streamCountsOk_drained confirmed.stderrCounted]

theorem CommandRun.Confirmed.resultClass_eq (confirmed : run.Confirmed) :
    run.resultClass digest = match run.status with
      | .exited code => if code = 0 then .success else .processExit
      | .signaled _ => .signalTermination := by
  simp only [CommandRun.resultClass, executionResultClass, confirmed.result_eq]
  cases run.status with
  | exited code =>
    simp only [resultKindOf, Option.bind_some, ExitStatus.code, Option.some.injEq]
    by_cases zero : code = 0
    · simp [zero]
    · simp [zero]
  | signaled signal => rfl

theorem CommandRun.Confirmed.completes (confirmed : run.Confirmed) (next : WorkLifecycleSnapshot) :
    CompletesDispatched (terminalRequest call tool stamp work (run.outcome digest limits tool stamp)
      (run.artifacts digest call tool stamp) next) (run.evidence digest limits) := by
  have kind : (run.evidence digest limits).resultKind = run.resultClass digest := rfl
  refine ⟨rfl, rfl, rfl, rfl, rfl, ?_, ?_⟩
  · rw [kind, confirmed.resultClass_eq]
    simp only [terminalRequest, CommandRun.outcome]
    cases run.status with
    | exited code =>
      by_cases zero : code = 0
      · subst zero
        rfl
      · simp [zero, toolObservationOk, ExitStatus.code, ExitStatus.signal]
    | signaled signal => rfl
  · rw [kind, confirmed.resultClass_eq]
    cases run.status with
    | exited code =>
      dsimp only
      split <;> rfl
    | signaled signal => rfl

variable {store : ToolStore} {expected : ExpectedExecution}

theorem finishRunShell_records_iff (waits : WaitsOnTool work tool.toolExecutionId)
    (holds : HoldsTool store work tool.toolExecutionId call.craxiiId call.correlationId)
    (sameWork : work.workId = call.workId) (issued : IssuedBy call tool expected run.request)
    (confirmed : run.Confirmed) (distinctIds : run.stdoutArtifactId ≠ run.stderrArtifactId)
    (distinctEvents : stamp.firstArtifactEventId ≠ stamp.secondArtifactEventId) :
    RecordsCompletion store
        (finishRunShell limits call tool stamp work expected (run.result digest)) ↔
      (NulFree (run.returned digest limits).1 ∧
        utf8Len (run.returned digest limits).1 ≤ (run.stdoutBytes.take run.stdoutLimit).length) ∧
      (NulFree (run.returned digest limits).2 ∧
        utf8Len (run.returned digest limits).2 ≤ (run.stderrBytes.take run.stderrLimit).length) ∧
      work.projectionVersion.value < i64Max := by
  rw [finishRunShell_confirmed digest limits stamp confirmed issued,
    ← PositiveInteger.checkedIncrement_isSome_iff]
  cases incremented : work.projectionVersion.checkedIncrement with
  | none =>
    rw [waits.resume_overflow incremented]
    refine iff_of_false ?_ (by simp)
    rintro ⟨plan, finished, planned, _⟩
    cases planned
  | some version =>
    have storable := buildShellFields_storable (confirmed.fixedFields_plain digest)
      (run.utf8Len_shownStdout limits) (run.utf8Len_shownStderr limits) (run.budget digest limits)
    have nulFree := buildShellFields_nulFree_iff (confirmed.fixedFields_plain digest)
      (run.utf8Len_shownStdout limits) (run.utf8Len_shownStderr limits) (run.budget digest limits)
    have encoded := @encodeToolResult_isOk_iff (run.evidence digest limits) storable
      (executionSummary_short _).2
    have fits := (confirmed.bounded digest limits).2
    have accepted := finishTool_completed_isOk_iff
      (confirmed.completes digest limits (resumedWork work version)) waits holds rfl incremented rfl
      rfl ⟨rfl, rfl⟩ (run.artifacts_consistent digest limits sameWork distinctIds distinctEvents _)
    have fields : (∀ field ∈ (run.evidence digest limits).fields, NulFree field.2) ↔
        NulFree (run.returned digest limits).1 ∧ NulFree (run.returned digest limits).2 := nulFree
    have counted := @streamEvidenceOk_outcome digest limits tool stamp run confirmed
    rw [encoded, fields] at accepted
    rw [waits.resume incremented]
    constructor
    · rintro ⟨plan, finished, planned, _, _, committed, _, _⟩
      cases planned
      obtain ⟨⟨⟨stdoutFree, stderrFree⟩, _⟩, legal⟩ := accepted.mp (by rw [committed]; rfl)
      obtain ⟨stdoutWithin, stderrWithin⟩ := counted.mp legal
      exact ⟨⟨stdoutFree, stdoutWithin⟩, ⟨stderrFree, stderrWithin⟩, rfl⟩
    · rintro ⟨⟨stdoutFree, stdoutWithin⟩, ⟨stderrFree, stderrWithin⟩, _⟩
      have isOk := accepted.mpr
        ⟨⟨⟨stdoutFree, stderrFree⟩, fits⟩, counted.mpr ⟨stdoutWithin, stderrWithin⟩⟩
      obtain ⟨finished, committed⟩ := isOk_iff.mp isOk
      refine ⟨_, finished, rfl, rfl, rfl, committed, ?_, ?_⟩
      · intro counts isCounts
        cases isCounts
        exact legalCounts_drained stdoutWithin
      · intro counts isCounts
        cases isCounts
        exact legalCounts_drained stderrWithin

end

end Craxii
