import Craxii.Domain.ToolCore
import Craxii.Store.ModelAttemptCore

/-!
Embedding of the tool transactions of `stage8.rs`: `encode_tool_result` and `finish_tool`.
-/

namespace Craxii

open Utf8Text ExceptRules

structure ToolExpectation where
  toolExecutionId : ToolExecutionId
  state : ToolExecutionState

structure ToolStreamCounts where
  (observed captured returnedInline omitted : Nat)

structure ToolResultEvidence where
  resultKind : ToolResultClass
  summary : Text
  fields : List (Text × Text)

inductive AuthorityDecision
  | allow
  | deny
deriving DecidableEq

structure AuthorityDecisionSnapshot where
  decision : AuthorityDecision
  effectivePrivilege : PrivilegeMode
  reasonCode : Text

structure ToolTerminalOutcome where
  state : ToolExecutionState
  predispatchAuthority : Option AuthorityDecisionSnapshot
  startedAt : Option UtcTimestamp
  completedAt : UtcTimestamp
  (exitCode signal : Option Int)
  (timedOut cancelled cleanupConfirmed : Option Bool)
  result : Option ToolResultEvidence
  evidenceArtifactIds : List ArtifactId
  (stdoutArtifactId stderrArtifactId : Option ArtifactId)
  (stdoutCounts stderrCounts : Option ToolStreamCounts)
  truncated : Bool
  normalizedError : Option NormalizedError

structure FinishToolExecutionRequest where
  expectedWork : WorkExpectation
  expectedTool : ToolExpectation
  outcome : ToolTerminalOutcome
  artifacts : List PreparedArtifact
  workNext : WorkLifecycleSnapshot
  (toolEvent workEvent : EventIntent)

def maxToolResultJsonBytes : Nat := 262144

def toolResultFieldOk (field : Text × Text) : Bool :=
  lowerReference 64 field.1 && isBoundedText field.2 4096

def toolResultFields (fields : List (Text × Text)) : Json :=
  .arr (fields.map fun (key, value) => .arr [.str key, .str value])

variable (outcome : ToolTerminalOutcome) (request : FinishToolExecutionRequest) (evidence : ToolResultEvidence)

def storedToolResult : Json :=
  .obj [("version".toList, .natural 1), ("result_kind".toList, .str evidence.resultKind.asStr),
    ("summary".toList, .str evidence.summary), ("fields".toList, toolResultFields evidence.fields)]

def encodeToolResult : Except StoreRefusal Text := do
  refuseIf (!evidence.fields.all toolResultFieldOk) .internalInvariant
  refuseIf (!Json.keysIncrease (evidence.fields.map (·.1))) .internalInvariant
  refuseIf (!isBoundedText evidence.summary 8192) .internalInvariant
  refuseIf (decide (maxToolResultJsonBytes < (storedToolResult evidence).byteLen)) .internalInvariant
  return (storedToolResult evidence).print

def streamCountsOk (counts : ToolStreamCounts) : Bool :=
  decide (counts.captured ≤ counts.observed) && decide (counts.returnedInline ≤ counts.captured) &&
    counts.omitted == counts.observed - counts.returnedInline &&
    decide (counts.observed ≤ i64Max) && decide (counts.omitted ≤ i64Max)

def toolObservationOk (result : ToolResultClass) (dispatched started : Bool)
    (exitCode signal : Option Int) (timedOut cancelled : Option Bool) : Bool :=
  let notInterrupted := timedOut == some false && cancelled == some false
  if !dispatched then
    !started && exitCode.isNone && signal.isNone && timedOut.isNone && cancelled.isNone &&
      result.allowedBeforeDispatch
  else match result with
    | .success => exitCode.all (· == 0) && signal.isNone && notInterrupted
    | .processExit => exitCode.any (· != 0) && signal.isNone && notInterrupted
    | .signalTermination => signal.isSome && exitCode.isNone && notInterrupted
    | .timeout => timedOut == some true && cancelled == some false
    | .cancellation => timedOut == some false && cancelled == some true
    | .spawnFailure => !started && exitCode.isNone && signal.isNone && notInterrupted
    | .validationRejection | .unknownTool | .authorityDenial | .fileError | .cleanupFailure =>
      notInterrupted

def validAuthorityReasonCodes : List Text :=
  ["allowed", "registered_tool", "policy_denied", "malformed_request", "work_cancelled",
    "scope_denied", "unregistered_tool", "malformed_arguments", "cancelled_work",
    "authority_widening", "explicit_constraint_denial", "wrong_workstation", "stale_generation",
    "wrong_workspace", "unsupported_capability", "administrative_unavailable",
    "limit_exceeded"].map String.toList

def AuthorityDecisionSnapshot.isEncodable (authority : AuthorityDecisionSnapshot) : Bool :=
  (authority.decision != .deny || authority.effectivePrivilege == .user) &&
    validAuthorityReasonCodes.contains authority.reasonCode

def toolLifecycleOk : Bool :=
  let outcome := request.outcome
  outcome.state.isTerminal &&
    (request.expectedWork.state == .waitingOnTool || request.expectedWork.state == .cancelRequested) &&
    request.expectedWork.currentAttempt == .tool request.expectedTool.toolExecutionId &&
    request.workNext.currentAttempt == .none &&
    request.workEvent.causationEventId == some request.toolEvent.eventId &&
    (request.expectedWork.state != .waitingOnTool ||
      request.workNext.state == .running || request.workNext.state == .interrupted) &&
    (request.expectedWork.state != .cancelRequested ||
      request.workNext.state == .cancelled || request.workNext.state == .interrupted) &&
    ((outcome.state != .interruptedBeforeDispatch && outcome.state != .outcomeUnknown) ||
      request.workNext.state == .interrupted)

def observedFlags : Option Bool × Option Bool :=
  let outcome := request.outcome
  if outcome.state = .completed ∧ request.expectedTool.state = .dispatching then
    (some (outcome.timedOut.getD false), some (outcome.cancelled.getD false))
  else (outcome.timedOut, outcome.cancelled)

def noStreamEvidence : Bool :=
  outcome.stdoutCounts.isNone && outcome.stderrCounts.isNone &&
    outcome.evidenceArtifactIds.isEmpty && outcome.stdoutArtifactId.isNone &&
    outcome.stderrArtifactId.isNone

def undispatchedEvidenceOk : Bool :=
  outcome.startedAt.isNone && outcome.exitCode.isNone && outcome.signal.isNone &&
    outcome.timedOut.isNone && outcome.cancelled.isNone && outcome.cleanupConfirmed.isNone &&
    noStreamEvidence outcome && !outcome.truncated &&
    outcome.predispatchAuthority.all fun authority =>
      authority.decision == .deny && evidence.resultKind == .authorityDenial

def cleanupStatusOf : Option Bool → CleanupStatus
  | some true => .confirmed
  | some false => .unconfirmed
  | none => .notRequired

def attemptErrorOk (allowOutcomeUnknown : Bool) (error : NormalizedError) : Bool :=
  error.certainty == .definite || (allowOutcomeUnknown && error.certainty == .outcomeUnknown)

def transitionAllowed (state : ToolExecutionState) (request : ToolTransitionRequest) : Bool :=
  (decideToolTransition state request).isOk

def toolTerminalResult :
    Except StoreRefusal (Option Text) := do
  let outcome := request.outcome
  match outcome.state with
  | .completed => do
      let evidence ← orRefuse outcome.result .internalInvariant
      refuseIf (if request.expectedTool.state = .requested then
          !undispatchedEvidenceOk outcome evidence
        else outcome.predispatchAuthority.isSome) .internalInvariant
      refuseIf (!toolObservationOk evidence.resultKind (request.expectedTool.state == .dispatching)
        outcome.startedAt.isSome outcome.exitCode outcome.signal (observedFlags request).1
        (observedFlags request).2) .internalInvariant
      refuseIf request.expectedWork.runtimeOwner.isNone .internalInvariant
      refuseIf (!transitionAllowed request.expectedTool.state
        (.complete evidence.resultKind (cleanupStatusOf outcome.cleanupConfirmed))) .internalInvariant
      refuseIf (!outcome.normalizedError.all (attemptErrorOk false)) .inconsistentSchema
      let json ← encodeToolResult evidence
      return some json
  | .interruptedBeforeDispatch => do
      refuseIf (request.expectedTool.state != .requested || outcome.predispatchAuthority.isSome ||
        outcome.result.isSome || !noStreamEvidence outcome) .internalInvariant
      let error ← orRefuse outcome.normalizedError .internalInvariant
      refuseIf request.expectedWork.runtimeOwner.isNone .internalInvariant
      refuseIf (!transitionAllowed request.expectedTool.state .interruptBeforeDispatch)
        .internalInvariant
      refuseIf (!attemptErrorOk false error) .inconsistentSchema
      return none
  | .outcomeUnknown => do
      refuseIf (request.expectedTool.state != .dispatching || outcome.predispatchAuthority.isSome ||
        outcome.cleanupConfirmed != some false || outcome.result.isSome ||
        !noStreamEvidence outcome) .internalInvariant
      let error ← orRefuse outcome.normalizedError .internalInvariant
      refuseIf (error.certainty != .outcomeUnknown) .internalInvariant
      refuseIf request.expectedWork.runtimeOwner.isNone .internalInvariant
      refuseIf (!transitionAllowed request.expectedTool.state .markOutcomeUnknown) .internalInvariant
      refuseIf (!attemptErrorOk true error) .inconsistentSchema
      return none
  | .requested | .dispatching => .error .internalInvariant

variable (counts : Option ToolStreamCounts)

def streamTruncated : Bool :=
  counts.any fun counts => decide (counts.captured < counts.observed)

def streamCaptured : Bool :=
  counts.any fun counts => decide (0 < counts.captured)

def streamEvidenceOk : Bool :=
  outcome.stdoutCounts.all streamCountsOk && outcome.stderrCounts.all streamCountsOk &&
    (streamTruncated outcome.stdoutCounts || streamTruncated outcome.stderrCounts) ==
      outcome.truncated &&
    outcome.stdoutArtifactId.isSome == streamCaptured outcome.stdoutCounts &&
    outcome.stderrArtifactId.isSome == streamCaptured outcome.stderrCounts

def streamArtifactOk (artifacts : List PreparedArtifact) (id : Option ArtifactId)
    (counts : Option ToolStreamCounts) : Bool :=
  id.all fun id => counts.any fun counts => artifacts.any fun artifact =>
    artifact.metadata.artifactId == id &&
      artifact.finalized.capturedByteCount == counts.captured &&
      artifact.finalized.observedByteCount == counts.observed &&
      artifact.finalized.truncated == decide (counts.captured < counts.observed)

structure StoredToolOutcome where
  outcome : ToolTerminalOutcome
  resultJson : Option Text

structure ToolRow where
  toolExecutionId : ToolExecutionId
  workId : WorkId
  runtimeInstanceId : RuntimeInstanceId
  state : ToolExecutionState
  stored : Option StoredToolOutcome

structure ToolStore extends AttemptStore where
  tools : List ToolRow

def ToolRow.matchesExpectation (row : ToolRow) (workId : WorkId) (expected : ToolExpectation) :
    Bool :=
  row.toolExecutionId == expected.toolExecutionId && row.workId == workId &&
    row.state == expected.state

def ToolRow.finish (resultJson : Option Text) (row : ToolRow) : ToolRow :=
  if row.matchesExpectation request.expectedWork.workId request.expectedTool then
    { row with state := request.outcome.state, stored := some ⟨request.outcome, resultJson⟩ }
  else row

def referencedArtifacts : List ArtifactId :=
  outcome.stdoutArtifactId.toList ++ outcome.stderrArtifactId.toList ++ outcome.evidenceArtifactIds

def finishTool (store : ToolStore) (request : FinishToolExecutionRequest) :
    Except StoreRefusal ToolStore := do
  let outcome := request.outcome
  let workId := request.expectedWork.workId
  refuseIf (!toolLifecycleOk request) .internalInvariant
  let resultJson ← toolTerminalResult request
  refuseIf (!streamEvidenceOk outcome) .internalInvariant
  indexValidatedArtifacts request.artifacts workId (.tool request.expectedTool.toolExecutionId)
  refuseIf (!decide (referencedArtifacts outcome).Nodup) .internalInvariant
  requireExactArtifactSet request.artifacts (referencedArtifacts outcome)
  refuseIf (!(streamArtifactOk request.artifacts outcome.stdoutArtifactId outcome.stdoutCounts &&
    streamArtifactOk request.artifacts outcome.stderrArtifactId outcome.stderrCounts))
    .internalInvariant
  refuseIf (!outcome.predispatchAuthority.all (·.isEncodable)) .internalInvariant
  let context ← loadWorkContext store.works workId
  refuseIf (request.artifacts.any fun artifact =>
    artifact.metadata.craxiiId != context.craxiiId ||
      artifact.event.correlationId != context.correlationId) .internalInvariant
  let row ← orRefuse (store.tools.find? (·.matchesExpectation workId request.expectedTool)) .conflict
  refuseIf (request.expectedWork.runtimeOwner != some row.runtimeInstanceId) .conflict
  let expected ← expectedSnapshot request.expectedWork
  let works ← guardedWorkUpdate store.works expected request.workNext
    { startedAt := context.startedAt
      cancelRequestedAt := none
      terminalAt := if request.workNext.state.isTerminal then some outcome.completedAt else none }
  refuseIf (request.toolEvent.correlationId != context.correlationId ||
    request.workEvent.correlationId != context.correlationId) .internalInvariant
  return { store with
    works
    tools := store.tools.map (ToolRow.finish request resultJson)
    artifacts := store.artifacts ++ request.artifacts.map (·.metadata) }

end Craxii
