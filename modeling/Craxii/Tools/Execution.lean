import Craxii.Tools.RunShell

/-!
File reads, and the condition under which a finished tool execution of either kind is
recorded.
-/

namespace Craxii

open Utf8Text ExceptRules

theorem readSummary_short : utf8Len "File read completed.".toList ≤ 64 ∧
    isBoundedText "File read completed.".toList 8192 = true := by
  decide

section

variable (digest : List UInt8 → Sha256Digest) (limits : ToolRuntimeLimits) (call : ToolExecutionCall)
  (tool : DispatchedTool) (stamp : OutcomeStamp) (resolvedPath : ResolvedPathEvidence) (text : Text)

def readOmitted : Nat :=
  utf8Len text - utf8Len (readProjection limits text)

def readArtifact : List PreparedArtifact :=
  if 0 < readOmitted limits text then
    [preparedArtifact call tool.toolExecutionId
      ⟨stamp.fileArtifactId, digest (toUtf8 text), utf8Len text, utf8Len text, false⟩
      "text/plain".toList stamp.firstArtifactEventId]
  else []

def readEvidence (duration : DurationMillis) : ToolResultEvidence where
  resultKind := .success
  summary := "File read completed.".toList
  fields := readFileFields (fileReadResult digest resolvedPath text) duration
    (readProjection limits text) (readOmitted limits text)
    ((readArtifact digest limits call tool stamp text).map (·.metadata.artifactId)).head?

def readOutcome (duration : DurationMillis) : ToolTerminalOutcome where
  state := .completed
  predispatchAuthority := none
  startedAt := some tool.dispatchAt
  completedAt := stamp.completedAt
  exitCode := none
  signal := none
  timedOut := some false
  cancelled := some false
  cleanupConfirmed := none
  result := some (readEvidence digest limits call tool stamp resolvedPath text duration)
  evidenceArtifactIds := (readArtifact digest limits call tool stamp text).map (·.metadata.artifactId)
  stdoutArtifactId := none
  stderrArtifactId := none
  stdoutCounts := none
  stderrCounts := none
  truncated := false
  normalizedError := none

theorem readArtifacts_whole (small : utf8Len text ≤ hardFileReadMaxBytes) :
    readArtifacts digest call tool stamp (fileReadResult digest resolvedPath text)
      (readOmitted limits text) = some (readArtifact digest limits call tool stamp text) := by
  have counted : utf8Len text ≤ i64Max := by
    simp only [hardFileReadMaxBytes, i64Max] at small ⊢
    omega
  have whole : (toUtf8 text).take (utf8Len text) = toUtf8 text :=
    List.take_of_length_le (by rw [length_toUtf8])
  unfold readArtifacts readArtifact
  split
  · simp only [beginCapture, ArtifactCapture.writeChunk, fileReadResult, length_toUtf8, counted,
      ↓reduceIte, Option.bind_eq_bind, Option.bind_some, ArtifactCapture.finalize, List.nil_append,
      List.length_nil, Nat.sub_zero, whole, Nat.zero_add, Nat.lt_irrefl, decide_false, pure]
  · rfl

structure ReadFor (call : ToolExecutionCall) (resolvedPath : ResolvedPathEvidence) : Prop where
  workstation : resolvedPath.workstationId = call.workstationId
  generation : resolvedPath.workstationGeneration = call.workstationGeneration
  workspace : resolvedPath.workspaceId = call.workspaceId

variable {work : WorkLifecycleSnapshot} (duration : DurationMillis)

theorem finishReadFile_whole (readFor : ReadFor call resolvedPath)
    (small : utf8Len text ≤ hardFileReadMaxBytes) :
    finishReadFile digest limits call tool stamp work resolvedPath.requestedPath
        (fileReadResult digest resolvedPath text) duration =
      (terminalWorkNext work tool.toolExecutionId none).map fun next =>
        ⟨terminalRequest call tool stamp work
          (readOutcome digest limits call tool stamp resolvedPath text duration)
          (readArtifact digest limits call tool stamp text) next, none⟩ := by
  have trusted : readUntrusted digest call resolvedPath.requestedPath
      (fileReadResult digest resolvedPath text) = false := by
    simp [readUntrusted, fileReadResult, readFor.workstation, readFor.generation, readFor.workspace]
  have artifacts := readArtifacts_whole digest limits call tool stamp resolvedPath text small
  have omitted : utf8Len (fileReadResult digest resolvedPath text).text - utf8Len (readProjection limits
      (fileReadResult digest resolvedPath text).text) = readOmitted limits text := rfl
  simp only [finishReadFile, trusted, Bool.false_eq_true, ↓reduceIte, omitted, artifacts]
  cases terminalWorkNext work tool.toolExecutionId none with
  | error => rfl
  | ok next => rfl

theorem readArtifact_consistent (sameWork : work.workId = call.workId) (next : WorkLifecycleSnapshot) :
    ConsistentArtifacts (terminalRequest call tool stamp work
      (readOutcome digest limits call tool stamp resolvedPath text duration)
      (readArtifact digest limits call tool stamp text) next) call.craxiiId call.correlationId := by
  have single : readArtifact digest limits call tool stamp text = [] ∨
      ∃ artifact, readArtifact digest limits call tool stamp text = [artifact] ∧
        artifactFactsOk call.workId (.tool tool.toolExecutionId) artifact = true ∧
        artifact.metadata.craxiiId = call.craxiiId ∧
        artifact.event.correlationId = call.correlationId := by
    unfold readArtifact
    split
    · refine Or.inr ⟨_, rfl, ?_, rfl, rfl⟩
      simp [artifactFactsOk, preparedArtifact]
    · exact Or.inl rfl
  have referenced : referencedArtifacts
      (readOutcome digest limits call tool stamp resolvedPath text duration) =
        (readArtifact digest limits call tool stamp text).map (·.metadata.artifactId) := rfl
  refine ⟨?_, ?_, ?_, referenced.symm, ?_, rfl, rfl⟩
  · rcases single with empty | ⟨artifact, isSingle, facts, _⟩
    · simp [terminalRequest, empty]
    · simpa [terminalRequest, WorkExpectation.forSnapshot, isSingle, sameWork] using facts
  · rcases single with empty | ⟨artifact, isSingle, _, origin⟩
    · simp [terminalRequest, empty]
    · simpa [terminalRequest, isSingle] using origin
  · rcases single with empty | ⟨artifact, isSingle, _⟩
    · simp [terminalRequest, empty]
    · simp [terminalRequest, isSingle]
  · simp only [terminalRequest, referenced]
    rcases single with empty | ⟨artifact, isSingle, _⟩
    · simp [empty]
    · simp [isSingle]

theorem readProjection_short : utf8Len (readProjection limits text) ≤ readFileProjectionBytes := by
  have truncated := utf8Len_truncateUtf8 text
    (min (min limits.perStreamProjectionBytes readFileProjectionBytes) limits.inlineModelResultBytes)
  unfold readProjection
  omega

variable {store : ToolStore}

theorem finishReadFile_records_iff (waits : WaitsOnTool work tool.toolExecutionId)
    (holds : HoldsTool store work tool.toolExecutionId call.craxiiId call.correlationId)
    (sameWork : work.workId = call.workId) (readFor : ReadFor call resolvedPath)
    (small : utf8Len text ≤ hardFileReadMaxBytes) :
    RecordsCompletion store (finishReadFile digest limits call tool stamp work
        resolvedPath.requestedPath (fileReadResult digest resolvedPath text) duration) ↔
      NulFree (readProjection limits text) ∧ work.projectionVersion.value < i64Max := by
  rw [finishReadFile_whole digest limits call tool stamp resolvedPath text duration readFor small,
    ← PositiveInteger.checkedIncrement_isSome_iff]
  cases incremented : work.projectionVersion.checkedIncrement with
  | none =>
    rw [waits.resume_overflow incremented]
    refine iff_of_false ?_ (by simp)
    rintro ⟨plan, finished, planned, _⟩
    cases planned
  | some version =>
    obtain ⟨storable, nulFree, cost⟩ := @readFileFields_spec (fileReadResult digest resolvedPath text)
      small duration (readProjection limits text) (readOmitted limits text) (Nat.sub_le _ _)
      ((readArtifact digest limits call tool stamp text).map (·.metadata.artifactId)).head?
      (readProjection_short limits text)
    have fits : (storedToolResult (readEvidence digest limits call tool stamp resolvedPath text
        duration)).byteLen ≤ maxToolResultJsonBytes := by
      have document := @byteLen_storedToolResult_le (readEvidence digest limits call tool stamp
        resolvedPath text duration) readSummary_short.1
      have costs : fieldsCost (readEvidence digest limits call tool stamp resolvedPath text
        duration).fields ≤ 260000 := cost
      simp only [maxToolResultJsonBytes]
      omega
    have completes : CompletesDispatched (terminalRequest call tool stamp work
        (readOutcome digest limits call tool stamp resolvedPath text duration)
        (readArtifact digest limits call tool stamp text) (resumedWork work version))
        (readEvidence digest limits call tool stamp resolvedPath text duration) :=
      ⟨rfl, rfl, rfl, rfl, rfl, rfl, rfl⟩
    have encoded := @encodeToolResult_isOk_iff
      (readEvidence digest limits call tool stamp resolvedPath text duration) storable
      readSummary_short.2
    have accepted := finishTool_completed_isOk_iff completes waits holds rfl incremented rfl rfl
      ⟨rfl, rfl⟩ (readArtifact_consistent digest limits call tool stamp resolvedPath text duration
        sameWork _)
    have fields : (∀ field ∈ (readEvidence digest limits call tool stamp resolvedPath text
        duration).fields, NulFree field.2) ↔ NulFree (readProjection limits text) := nulFree
    rw [encoded, fields] at accepted
    rw [waits.resume incremented]
    constructor
    · rintro ⟨plan, finished, planned, _, _, committed, _, _⟩
      cases planned
      exact ⟨(accepted.mp (by rw [committed]; rfl)).1.1, rfl⟩
    · rintro ⟨free, _⟩
      obtain ⟨finished, committed⟩ := isOk_iff.mp (accepted.mpr ⟨⟨free, fits⟩, rfl⟩)
      refine ⟨_, finished, rfl, rfl, rfl, committed, ?_, ?_⟩
      · intro counts isCounts
        cases isCounts
      · intro counts isCounts
        cases isCounts

end

theorem truncateUtf8_nulFree {text : Text} (free : NulFree text) (budget : Nat) :
    NulFree (truncateUtf8 text budget) := by
  obtain ⟨rest, split⟩ := truncateUtf8_isPrefix text budget
  intro found
  refine free ?_
  rw [split]
  exact List.mem_append_left _ found

theorem plainText_returnable {text : Text} (free : NulFree text)
    (short : utf8Len text ≤ executionStreamProjectionBytes) {hardLimit : Nat}
    (captures : executionStreamProjectionBytes ≤ hardLimit) (first second : Nat) :
    NulFree (truncateUtf8 (truncateUtf8 (fromUtf8Lossy (projectedBytes (toUtf8 text))) first) second) ∧
      utf8Len (truncateUtf8 (truncateUtf8 (fromUtf8Lossy (projectedBytes (toUtf8 text))) first) second) ≤
        ((toUtf8 text).take hardLimit).length := by
  have decoded : fromUtf8Lossy (projectedBytes (toUtf8 text)) = text := by
    rw [projectedBytes, if_pos (by rw [length_toUtf8]; exact short), fromUtf8Lossy_toUtf8]
  have outer := utf8Len_truncateUtf8_le (truncateUtf8 text first) second
  have inner := utf8Len_truncateUtf8_le text first
  rw [decoded]
  refine ⟨truncateUtf8_nulFree (truncateUtf8_nulFree free first) second, ?_⟩
  rw [List.length_take, length_toUtf8]
  omega

def sampleToolId : ToolExecutionId := ⟨sampleUuid 3⟩

def sampleToolWork : WorkLifecycleSnapshot where
  workId := ⟨sampleUuid 0⟩
  state := .waitingOnTool
  projectionVersion := sampleNumber 5
  runtimeOwner := some ⟨sampleUuid 1⟩
  currentAttempt := .tool sampleToolId
  cancellationReason := none
  terminalReason := none

def sampleToolStore : ToolStore where
  works := [⟨sampleToolWork, ⟨sampleUuid 4⟩, ⟨sampleUuid 5⟩, ⟨sampleUuid 8⟩, some 1⟩]
  models := []
  artifacts := []
  tools := [⟨sampleToolId, sampleToolWork.workId, ⟨sampleUuid 1⟩, .dispatching, none⟩]

def sampleCall : ToolExecutionCall :=
  ⟨⟨sampleUuid 4⟩, sampleToolWork.workId, ⟨sampleUuid 8⟩, ⟨sampleUuid 6⟩, .one,
    ⟨sampleUuid 7⟩⟩

def sampleTool : DispatchedTool :=
  ⟨sampleToolId, ⟨sampleUuid 9⟩, ⟨sampleUuid 10⟩, 2⟩

def sampleStamp : OutcomeStamp :=
  ⟨⟨sampleUuid 11⟩, ⟨sampleUuid 12⟩, ⟨sampleUuid 13⟩, ⟨sampleUuid 14⟩,
    ⟨sampleUuid 2⟩, 3⟩

def samplePath : LogicalPathReference :=
  ⟨.workspaceRelative, ['.'], by decide, by decide, by decide⟩

def sampleResolvedPath : ResolvedPathEvidence where
  workstationId := sampleCall.workstationId
  workstationGeneration := .one
  workspaceId := sampleCall.workspaceId
  requestedPath := samplePath
  resolvedAbsolutePath := "/work".toList
  absolute := by decide
  bounded := by decide
  noNul := by decide

def sampleExpected : ExpectedExecution :=
  ⟨samplePath, sampleResolvedPath, .user, zeroDigest⟩

def sampleRun (stdout : List UInt8) : CommandRun where
  request := ⟨sampleTool.executionId, samplePath, sampleResolvedPath, .user, zeroDigest⟩
  status := .exited 0
  cgroupEmpty := none
  cgroupRemoved := none
  duration := ⟨7, by decide⟩
  stdoutArtifactId := ⟨sampleUuid 1⟩
  stderrArtifactId := ⟨sampleUuid 2⟩
  stdoutLimit := 8388608
  stderrLimit := 8388608
  stdoutChunks := [stdout]
  stderrChunks := []

def sampleToolLimits : ToolRuntimeLimits := ⟨65536, 32768⟩

theorem sampleTool_waits : WaitsOnTool sampleToolWork sampleTool.toolExecutionId ∧
    HoldsTool sampleToolStore sampleToolWork sampleTool.toolExecutionId sampleCall.craxiiId
      sampleCall.correlationId :=
  ⟨⟨rfl, rfl, by decide⟩, ⟨⟨_, rfl, rfl, rfl, rfl, rfl⟩, ⟨_, rfl, rfl, rfl, rfl⟩⟩⟩

theorem sampleRun_confirmed {stdout : List UInt8} (short : stdout.length ≤ 100) :
    IssuedBy sampleCall sampleTool sampleExpected (sampleRun stdout).request ∧
      (sampleRun stdout).Confirmed := by
  refine ⟨⟨rfl, rfl, rfl, rfl, rfl, rfl, rfl, rfl, rfl⟩, ⟨by simp [sampleRun], by simp [sampleRun], ?_, ?_⟩⟩
  · simp only [CommandRun.stdoutBytes, sampleRun, List.flatten_cons, List.flatten_nil, List.append_nil,
      i64Max]
    omega
  · exact Nat.zero_le _

end Craxii
