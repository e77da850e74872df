import Craxii.Domain.ToolCore
import Craxii.Lib.Utf8Bytes
import Craxii.Store.ModelAttemptCore

/-!
Embedding of a command's observation: the capture of `artifacts/local.rs`, `drain_stream` with its
head and tail projection, and the result of `supervise_inner`.
-/

namespace Craxii

open Utf8Text

def u64Max : Nat := 18446744073709551615

def executionStreamProjectionBytes : Nat := 32768
def executionStreamProjectionHeadBytes : Nat := 24576
def executionStreamProjectionTailBytes : Nat := 8192

structure ArtifactCapture where
  artifactId : ArtifactId
  (hardLimit observed : Nat)
  captured : List UInt8

def beginCapture (artifactId : ArtifactId) (hardLimit : Nat) : ArtifactCapture :=
  ⟨artifactId, hardLimit, 0, []⟩

variable (digest : List UInt8 → Sha256Digest) (capture : ArtifactCapture)

/-- `write_chunk`: bytes past the limit are counted and dropped; the count is a canonical
byte count, so it stays within `i64`. -/
def ArtifactCapture.writeChunk (chunk : List UInt8) : Option ArtifactCapture :=
  if capture.observed + chunk.length ≤ i64Max then
    some { capture with
      observed := capture.observed + chunk.length
      captured := capture.captured ++ chunk.take (capture.hardLimit - capture.captured.length) }
  else none

def ArtifactCapture.finalize :
    FinalizedArtifact where
  artifactId := capture.artifactId
  sha256 := digest capture.captured
  capturedByteCount := capture.captured.length
  observedByteCount := capture.observed
  truncated := decide (capture.captured.length < capture.observed)

structure ExecutionStreamResult where
  artifact : FinalizedArtifact
  projection : Text
  projectionHadUtf8Replacement : Bool
  (observedBytes capturedBytes omittedBytes projectionOmittedBytes : Nat)
  (observedCountSaturated truncated : Bool)
deriving DecidableEq

structure DrainState where
  observed : Nat
  saturated : Bool
  (first tail : List UInt8)
  capture : ArtifactCapture

def retainTail (tail chunk : List UInt8) : List UInt8 :=
  if executionStreamProjectionTailBytes ≤ chunk.length then
    chunk.drop (chunk.length - executionStreamProjectionTailBytes)
  else
    tail.drop (tail.length + chunk.length - executionStreamProjectionTailBytes) ++ chunk

def drainChunk (state : DrainState) (chunk : List UInt8) : Option DrainState := do
  let capture ← state.capture.writeChunk chunk
  return {
    observed :=
      if u64Max < state.observed + chunk.length then u64Max
      else if state.saturated then state.observed
      else state.observed + chunk.length
    saturated := state.saturated || decide (u64Max < state.observed + chunk.length)
    first := state.first ++ chunk.take (executionStreamProjectionBytes - state.first.length)
    tail := retainTail state.tail chunk
    capture }

def drainChunks : DrainState → List (List UInt8) → Option DrainState
  | state, [] => some state
  | state, chunk :: rest => (drainChunk state chunk).bind (drainChunks · rest)

def DrainState.projectionBytes (state : DrainState) : List UInt8 :=
  if state.observed ≤ executionStreamProjectionBytes ∧ state.saturated = false then state.first
  else state.first.take executionStreamProjectionHeadBytes ++ state.tail

/-- `drain_stream` on the chunks that the reader returns before its end; `none` is an
`IoError`. -/
def drainStream (chunks : List (List UInt8)) : Option ExecutionStreamResult := do
  let state ← drainChunks ⟨0, false, [], [], capture⟩ chunks
  let artifact := state.capture.finalize digest
  let bytes := state.projectionBytes
  return {
    artifact
    projection := fromUtf8Lossy bytes
    projectionHadUtf8Replacement := toUtf8 (fromUtf8Lossy bytes) != bytes
    observedBytes := state.observed
    capturedBytes := artifact.capturedByteCount
    omittedBytes := state.observed - artifact.capturedByteCount
    projectionOmittedBytes := state.observed - bytes.length
    observedCountSaturated := state.saturated
    truncated := decide (artifact.capturedByteCount < state.observed) || state.saturated }

def hardFileReadMaxBytes : Nat := 8388608

structure FileReadResult where
  requestedPath : LogicalPathReference
  resolvedPath : ResolvedPathEvidence
  byteLength : Nat
  sha256 : Sha256Digest
  text : Text
  truncated : Bool

def fileReadResult (resolvedPath : ResolvedPathEvidence) (text : Text) : FileReadResult where
  requestedPath := resolvedPath.requestedPath
  resolvedPath := resolvedPath
  byteLength := utf8Len text
  sha256 := digest (toUtf8 text)
  text := text
  truncated := false

inductive ExecutionResultKind
  | exited | signaled | timedOut | cancelled | spawnFailed | cleanupFailed
deriving DecidableEq

structure ExecutionCleanupEvidence where
  (directChildReaped stdoutDrainJoined stderrDrainJoined processGroupEmpty : Bool)
  (cgroupEmpty cgroupRemoved : Option Bool)
deriving DecidableEq

def ExecutionCleanupEvidence.confirmed (cleanup : ExecutionCleanupEvidence) : Bool :=
  cleanup.directChildReaped && cleanup.stdoutDrainJoined && cleanup.stderrDrainJoined &&
    cleanup.processGroupEmpty && cleanup.cgroupEmpty != some false &&
    cleanup.cgroupRemoved != some false

structure DurationMillis where
  value : Nat
  bounded : value < 10 ^ 23
deriving DecidableEq

structure ExecutionResult where
  executionId : ExecutionId
  startObserved : Bool
  requestedCwd : LogicalPathReference
  resolvedCwd : ResolvedPathEvidence
  effectivePrivilege : PrivilegeMode
  commandSha256 : Sha256Digest
  resultKind : ExecutionResultKind
  (exitCode terminatingSignal : Option Int)
  (timedOut cancelled : Bool)
  duration : DurationMillis
  (stdout stderr : Option ExecutionStreamResult)
  cleanup : ExecutionCleanupEvidence
  error : Option NormalizedError
  certainty : Certainty
deriving DecidableEq

inductive TerminalCause
  | natural | timeout | cancellation | shutdown
deriving DecidableEq

inductive ExitStatus
  | exited (code : Fin 256)
  | signaled (signal : Fin 128)

def ExitStatus.code : ExitStatus → Option Int
  | .exited code => some code.val
  | .signaled _ => none

def ExitStatus.signal : ExitStatus → Option Int
  | .exited _ => none
  | .signaled signal => some signal.val

structure ExecutionRequest where
  executionId : ExecutionId
  requestedCwd : LogicalPathReference
  resolvedCwd : ResolvedPathEvidence
  effectivePrivilege : PrivilegeMode
  commandSha256 : Sha256Digest

def resultKindOf (cause : TerminalCause) (status : Option ExitStatus) :
    ExecutionResultKind × Bool × Bool :=
  match cause with
  | .timeout => (.timedOut, true, false)
  | .cancellation | .shutdown => (.cancelled, false, true)
  | .natural =>
    match status.bind ExitStatus.code with
    | some _ => (.exited, false, false)
    | none => (.signaled, false, false)

def supervisedResult (request : ExecutionRequest) (cause : TerminalCause)
    (status : Option ExitStatus) (processGroupEmpty : Bool) (cgroupEmpty cgroupRemoved : Option Bool)
    (stdout stderr : Option ExecutionStreamResult) (duration : DurationMillis) : ExecutionResult :=
  let cleanup : ExecutionCleanupEvidence :=
    ⟨status.isSome, stdout.isSome, stderr.isSome, processGroupEmpty, cgroupEmpty, cgroupRemoved⟩
  let observed := cleanup.confirmed && stdout.isSome && stderr.isSome
  let (kind, timedOut, cancelled) := resultKindOf cause status
  { executionId := request.executionId
    startObserved := true
    requestedCwd := request.requestedCwd
    resolvedCwd := request.resolvedCwd
    effectivePrivilege := request.effectivePrivilege
    commandSha256 := request.commandSha256
    resultKind := if observed then kind else .cleanupFailed
    exitCode := status.bind ExitStatus.code
    terminatingSignal := status.bind ExitStatus.signal
    timedOut
    cancelled
    duration
    stdout
    stderr
    cleanup
    error := if observed then none else some (.workstation .outcomeUnknown none)
    certainty := if observed then .definite else .outcomeUnknown }

end Craxii
