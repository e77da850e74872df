import Craxii.Lib.SortedFields
import Craxii.Lib.TextSlices
import Craxii.Store.ToolAttemptCore
import Craxii.Workstation.ExecutionCore

/-!
Embedding of `finish_read_file` and `finish_run_shell` of `tool_execution_service.rs`.
-/

namespace Craxii

open Utf8Text ExceptRules

inductive ToolExecutionServiceErrorKind
  | invalidComposition | invalidCallContext | cancelledBeforeIntent | stateStore | clock | artifact
  | outcomeUnknown | handlerPanickedBeforeHandoff | handlerPanickedAfterPossibleHandoff
deriving DecidableEq

structure ToolRuntimeLimits where
  (inlineModelResultBytes perStreamProjectionBytes : Nat)

structure ToolExecutionCall where
  craxiiId : CraxiiId
  workId : WorkId
  correlationId : CorrelationId
  workstationId : WorkstationId
  workstationGeneration : WorkstationGeneration
  workspaceId : WorkspaceId

structure DispatchedTool where
  toolExecutionId : ToolExecutionId
  executionId : ExecutionId
  causation : JournalEventId
  dispatchAt : UtcTimestamp

structure OutcomeStamp where
  (toolEventId workEventId firstArtifactEventId secondArtifactEventId : JournalEventId)
  fileArtifactId : ArtifactId
  completedAt : UtcTimestamp

structure FinishPlan where
  request : FinishToolExecutionRequest
  failure : Option ToolExecutionServiceErrorKind

def terminalWorkNext (current : WorkLifecycleSnapshot) (toolExecutionId : ToolExecutionId)
    (interruption : Option WorkInterruptionReason) :
    Except ToolExecutionServiceErrorKind WorkLifecycleSnapshot := do
  let request ← match interruption with
    | some reason => pure (.interrupt reason)
    | none =>
      if current.state = .cancelRequested then do
        let reason ← orRefuse current.cancellationReason .invalidCallContext
        pure (.cancel reason .confirmed)
      else pure (.resumeFromTool toolExecutionId)
  let decision ← orRefuse
    (decideWorkTransition current (.forSnapshot current) request).toOption .invalidCallContext
  return decision.next

variable (digest : List UInt8 → Sha256Digest) (fixed : List (Text × Text)) (limits : ToolRuntimeLimits) (call : ToolExecutionCall) (stdout stderr : Text) (toolExecutionId : ToolExecutionId) (tool : DispatchedTool) (result : ExecutionResult) (stamp : OutcomeStamp) (expectedWork : WorkLifecycleSnapshot)

def terminalRequest (outcome : ToolTerminalOutcome)
    (artifacts : List PreparedArtifact) (workNext : WorkLifecycleSnapshot) :
    FinishToolExecutionRequest where
  expectedWork := .forSnapshot expectedWork
  expectedTool := ⟨tool.toolExecutionId, .dispatching⟩
  outcome := outcome
  artifacts := artifacts
  workNext := workNext
  toolEvent := ⟨stamp.toolEventId, call.correlationId, some tool.causation⟩
  workEvent := ⟨stamp.workEventId, call.correlationId, some stamp.toolEventId⟩

def persistOutcomeUnknown (error : NormalizedError)
    (failure : ToolExecutionServiceErrorKind) : Except ToolExecutionServiceErrorKind FinishPlan := do
  let workNext ← terminalWorkNext expectedWork tool.toolExecutionId (some .toolOutcomeUnknown)
  let outcome : ToolTerminalOutcome := {
    state := .outcomeUnknown
    predispatchAuthority := none
    startedAt := some tool.dispatchAt
    completedAt := stamp.completedAt
    exitCode := none
    signal := none
    timedOut := none
    cancelled := none
    cleanupConfirmed := some false
    result := none
    evidenceArtifactIds := []
    stdoutArtifactId := none
    stderrArtifactId := none
    stdoutCounts := none
    stderrCounts := none
    truncated := false
    normalizedError := some error }
  return ⟨terminalRequest call tool stamp expectedWork outcome [] workNext, some failure⟩

def decimalText (value : Nat) : Text :=
  Nat.toDigits 10 value

def IsI64 (value : Int) : Prop :=
  -(2 ^ 63) ≤ value ∧ value < 2 ^ 63

def integerText : Int → Text
  | .ofNat value => decimalText value
  | .negSucc value => '-' :: decimalText (value + 1)

def paddedIndex (index : Nat) : Text :=
  List.replicate (4 - (decimalText index).length) '0' ++ decimalText index

def chunkKey (label : Text) (index : Nat) : Text :=
  label ++ '_' :: paddedIndex index

def projectionChunkBytes : Nat := 4000

def insertChunks (label : Text) : Nat → List Text → List (Text × Text) → List (Text × Text)
  | _, [], fields => fields
  | index, piece :: rest, fields =>
    insertChunks label (index + 1) rest (SortedFields.insert (chunkKey label index) piece fields)

def insertProjectionChunks (fields : List (Text × Text)) (label value : Text) : List (Text × Text) :=
  insertChunks label 1 (slices projectionChunkBytes value) fields

def executionResultClass : ToolResultClass :=
  match result.resultKind with
  | .exited => if result.exitCode = some 0 then .success else .processExit
  | .signaled => .signalTermination
  | .timedOut => .timeout
  | .cancelled => .cancellation
  | .spawnFailed => .spawnFailure
  | .cleanupFailed => .cleanupFailure

def executionSummary : ToolResultClass → Text
  | .success => "Command completed successfully.".toList
  | .processExit => "Command exited with a nonzero status.".toList
  | .signalTermination => "Command terminated by signal.".toList
  | .timeout => "Command timed out with cleanup confirmed.".toList
  | .cancellation => "Command cancellation was confirmed.".toList
  | .spawnFailure => "Command failed before process start.".toList
  | .cleanupFailure => "Command cleanup was not confirmed.".toList
  | _ => "Command completed with a structured result.".toList

def preparedArtifact (finalized : FinalizedArtifact) (mimeType : Text) (eventId : JournalEventId) :
    PreparedArtifact where
  finalized := finalized
  metadata := {
    artifactId := finalized.artifactId
    craxiiId := call.craxiiId
    producingWorkId := some call.workId
    producer := .tool toolExecutionId
    sha256 := finalized.sha256
    canonicalLength := finalized.capturedByteCount
    observedLength := some finalized.observedByteCount
    mimeType := mimeType
    canonicalEvidence := true
    truncated := finalized.truncated }
  event := ⟨eventId, call.correlationId, none⟩

structure StreamEvidence where
  artifactId : Option ArtifactId
  counts : Option ToolStreamCounts
  projection : Text
  artifacts : List PreparedArtifact

def streamEvidence (stream : Option ExecutionStreamResult) (perStreamLimit combinedRemaining : Nat)
    (eventId : JournalEventId) : Option StreamEvidence :=
  match stream with
  | none => some ⟨none, none, [], []⟩
  | some stream =>
    let projection := truncateUtf8 stream.projection (min perStreamLimit combinedRemaining)
    let returned := utf8Len projection
    if i64Max < stream.observedBytes ∨ i64Max < stream.capturedBytes ∨ i64Max < returned then none
    else
      let captured := decide (0 < stream.capturedBytes)
      some {
        artifactId := if captured then some stream.artifact.artifactId else none
        counts := some ⟨stream.observedBytes, stream.capturedBytes, returned,
          stream.observedBytes - returned⟩
        projection
        artifacts :=
          if captured then [preparedArtifact call toolExecutionId stream.artifact
            "application/octet-stream".toList eventId] else [] }

structure BoundedShellResultFields where
  fields : List (Text × Text)
  (stdoutReturned stderrReturned : Nat)

def boundedTexts (budget : Nat) : Text × Text :=
  let returnedStdout := truncateUtf8 stdout (min (utf8Len stdout) budget)
  let returnedStderr := truncateUtf8 stderr (min (utf8Len stderr) (budget - utf8Len returnedStdout))
  (returnedStdout, returnedStderr)

def buildShellFields (budget : Nat) : List (Text × Text) :=
  let returned := boundedTexts stdout stderr budget
  let counted := SortedFields.insert "stdout_projection_omitted_bytes".toList
    (decimalText (utf8Len stdout - utf8Len returned.1))
    (SortedFields.insert "stderr_projection_omitted_bytes".toList
      (decimalText (utf8Len stderr - utf8Len returned.2)) fixed)
  insertProjectionChunks (insertProjectionChunks counted "stderr".toList returned.2)
    "stdout".toList returned.1

def shellFieldsFit (result : ToolResultClass) (summary : Text) (fields : List (Text × Text)) : Bool :=
  decide ((Json.obj [("fields".toList, toolResultFields fields),
    ("result_kind".toList, .str result.asStr), ("summary".toList, .str summary),
    ("version".toList, .natural 1)]).byteLen ≤ maxToolResultJsonBytes)

def searchBudget (fits : Nat → Bool) (low high : Nat) : Nat :=
  if low < high then
    let midpoint := low + (high - low + 1) / 2
    if fits midpoint then searchBudget fits midpoint high
    else searchBudget fits low (midpoint - 1)
  else low
termination_by high - low

def boundedBudget (result : ToolResultClass) (summary : Text) : Nat :=
  let fits budget := shellFieldsFit result summary (buildShellFields fixed stdout stderr budget)
  let maximum := utf8Len stdout + utf8Len stderr
  if fits maximum then maximum else searchBudget fits 0 maximum

def boundedShellResultFields (result : ToolResultClass) (summary : Text) :
    Except ToolExecutionServiceErrorKind BoundedShellResultFields := do
  let budget := boundedBudget fixed stdout stderr result summary
  let fields := buildShellFields fixed stdout stderr budget
  refuseIf (!shellFieldsFit result summary fields) .invalidComposition
  let returned := boundedTexts stdout stderr budget
  return ⟨fields, utf8Len returned.1, utf8Len returned.2⟩

def updateStreamProjectionCounts (counts : Option ToolStreamCounts) (returnedInline : Nat) :
    Except ToolExecutionServiceErrorKind (Option ToolStreamCounts) :=
  match counts with
  | none => .ok none
  | some counts => do
      refuseIf (decide (i64Max < returnedInline)) .invalidComposition
      return some { counts with returnedInline, omitted := counts.observed - returnedInline }

structure ExpectedExecution where
  cwd : LogicalPathReference
  resolvedCwd : ResolvedPathEvidence
  privilege : PrivilegeMode
  commandSha256 : Sha256Digest

def executionUntrusted (expected : ExpectedExecution) (result : ExecutionResult) : Bool :=
  result.certainty == .outcomeUnknown || result.resultKind == .cleanupFailed ||
    !result.cleanup.confirmed || result.requestedCwd != expected.cwd ||
    result.resolvedCwd.requestedPath != expected.cwd ||
    result.resolvedCwd.workstationId != call.workstationId ||
    result.resolvedCwd.workstationGeneration != call.workstationGeneration ||
    result.resolvedCwd.workspaceId != call.workspaceId ||
    result.resolvedCwd != expected.resolvedCwd ||
    result.effectivePrivilege != expected.privilege ||
    result.commandSha256 != expected.commandSha256

def optionalField (key : Text) (value : Option Int) (fields : List (Text × Text)) :
    List (Text × Text) :=
  match value with
  | some value => SortedFields.insert key (integerText value) fields
  | none => fields

def shellFixedFields : List (Text × Text) :=
  optionalField "signal".toList result.terminatingSignal
    (optionalField "exit_code".toList result.exitCode
      (SortedFields.insert "duration_ms".toList (decimalText result.duration.value)
        (SortedFields.insert "command_sha256".toList result.commandSha256.text [])))

def finishRunShell (expected : ExpectedExecution) (result : ExecutionResult) :
    Except ToolExecutionServiceErrorKind FinishPlan :=
  if executionUntrusted call expected result then
    persistOutcomeUnknown call tool stamp expectedWork (.workstation .outcomeUnknown none)
      .outcomeUnknown
  else if result.executionId ≠ tool.executionId then
    persistOutcomeUnknown call tool stamp expectedWork .internalInvariant .outcomeUnknown
  else
    match streamEvidence call tool.toolExecutionId result.stdout limits.perStreamProjectionBytes
        limits.inlineModelResultBytes stamp.firstArtifactEventId with
    | none =>
      persistOutcomeUnknown call tool stamp expectedWork (.workstation .outcomeUnknown none)
        .invalidComposition
    | some stdout =>
      match streamEvidence call tool.toolExecutionId result.stderr
          limits.perStreamProjectionBytes
          (limits.inlineModelResultBytes - utf8Len stdout.projection)
          stamp.secondArtifactEventId with
      | none =>
        persistOutcomeUnknown call tool stamp expectedWork
          (.workstation .outcomeUnknown none) .invalidComposition
      | some stderr => do
          let resultClass := executionResultClass result
          let summary := executionSummary resultClass
          let bounded ← boundedShellResultFields (shellFixedFields result) stdout.projection
            stderr.projection resultClass summary
          let stdoutCounts ← updateStreamProjectionCounts stdout.counts bounded.stdoutReturned
          let stderrCounts ← updateStreamProjectionCounts stderr.counts bounded.stderrReturned
          let workNext ← terminalWorkNext expectedWork tool.toolExecutionId none
          let outcome : ToolTerminalOutcome := {
            state := .completed
            predispatchAuthority := none
            startedAt := if result.startObserved then some tool.dispatchAt else none
            completedAt := stamp.completedAt
            exitCode := result.exitCode
            signal := result.terminatingSignal
            timedOut := some result.timedOut
            cancelled := some result.cancelled
            cleanupConfirmed := some true
            result := some ⟨resultClass, summary, bounded.fields⟩
            evidenceArtifactIds := []
            stdoutArtifactId := stdout.artifactId
            stderrArtifactId := stderr.artifactId
            stdoutCounts
            stderrCounts
            truncated := streamTruncated stdoutCounts || streamTruncated stderrCounts
            normalizedError := result.error }
          return ⟨terminalRequest call tool stamp expectedWork outcome
            (stdout.artifacts ++ stderr.artifacts) workNext, none⟩

def readFileProjectionBytes : Nat := 32768

def readUntrusted (expectedPath : LogicalPathReference) (result : FileReadResult) : Bool :=
  result.truncated || utf8Len result.text != result.byteLength ||
    result.sha256 != digest (toUtf8 result.text) || result.requestedPath != expectedPath ||
    result.resolvedPath.requestedPath != expectedPath ||
    result.resolvedPath.workstationId != call.workstationId ||
    result.resolvedPath.workstationGeneration != call.workstationGeneration ||
    result.resolvedPath.workspaceId != call.workspaceId

def readProjection (text : Text) : Text :=
  truncateUtf8 text
    (min (min limits.perStreamProjectionBytes readFileProjectionBytes) limits.inlineModelResultBytes)

/-- The whole file as an artifact when the projection leaves something out; `none` is an
artifact failure. -/
def readArtifacts (result : FileReadResult) (omitted : Nat) : Option (List PreparedArtifact) :=
  if 0 < omitted then do
    let capture ← (beginCapture stamp.fileArtifactId result.byteLength).writeChunk
      (toUtf8 result.text)
    return [preparedArtifact call tool.toolExecutionId (capture.finalize digest) "text/plain".toList
      stamp.firstArtifactEventId]
  else some []

def readFileFields (result : FileReadResult) (duration : DurationMillis) (projection : Text)
    (omitted : Nat) (artifactId : Option ArtifactId) : List (Text × Text) :=
  let fixed := [("byte_length".toList, decimalText result.byteLength),
    ("duration_ms".toList, decimalText duration.value),
    ("projection_omitted_bytes".toList, decimalText omitted),
    ("requested_path".toList, result.requestedPath.canonical),
    ("resolved_path".toList, result.resolvedPath.resolvedAbsolutePath),
    ("sha256".toList, result.sha256.text)].foldl
      (fun fields (key, value) => SortedFields.insert key value fields) []
  let identified := match artifactId with
    | some id => SortedFields.insert "artifact_id".toList id.toText fixed
    | none => fixed
  insertProjectionChunks identified "text".toList projection

def finishReadFile (expectedPath : LogicalPathReference)
    (result : FileReadResult) (duration : DurationMillis) :
    Except ToolExecutionServiceErrorKind FinishPlan :=
  if readUntrusted digest call expectedPath result then
    persistOutcomeUnknown call tool stamp expectedWork (.workstation .outcomeUnknown none)
      .outcomeUnknown
  else
    let projection := readProjection limits result.text
    let omitted := utf8Len result.text - utf8Len projection
    match readArtifacts digest call tool stamp result omitted with
    | none =>
      persistOutcomeUnknown call tool stamp expectedWork (.workstation .outcomeUnknown none)
        .artifact
    | some artifacts => do
        let artifactIds := artifacts.map (·.metadata.artifactId)
        let workNext ← terminalWorkNext expectedWork tool.toolExecutionId none
        let outcome : ToolTerminalOutcome := {
          state := .completed
          predispatchAuthority := none
          startedAt := some tool.dispatchAt
          completedAt := stamp.completedAt
          exitCode := none
          signal := none
          timedOut := some false
          cancelled := some false
          cleanupConfirmed := none
          result := some ⟨.success, "File read completed.".toList,
            readFileFields result duration projection omitted artifactIds.head?⟩
          evidenceArtifactIds := artifactIds
          stdoutArtifactId := none
          stderrArtifactId := none
          stdoutCounts := none
          stderrCounts := none
          truncated := false
          normalizedError := none }
        return ⟨terminalRequest call tool stamp expectedWork outcome artifacts workNext, none⟩

end Craxii
