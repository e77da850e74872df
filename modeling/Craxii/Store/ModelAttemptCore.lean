import Craxii.Codec.NormalizedOutputCore
import Craxii.Domain.LifecycleCore
import Craxii.Ports.ModelProviderCore

/-!
Embedding of the model-attempt transactions of `stage8.rs`: `validate_model_terminal`, the guarded
work projection and `finish_model`.
-/

namespace Craxii

open Utf8Text ExceptRules

structure WorkExpectation where
  workId : WorkId
  state : WorkState
  version : ProjectionVersion
  runtimeOwner : Option RuntimeInstanceId
  currentAttempt : CurrentWorkAttempt
  cancellationReason : Option WorkCancellationReason

def WorkExpectation.forSnapshot (snapshot : WorkLifecycleSnapshot) : WorkExpectation where
  workId := snapshot.workId
  state := snapshot.state
  version := snapshot.projectionVersion
  runtimeOwner := snapshot.runtimeOwner
  currentAttempt := snapshot.currentAttempt
  cancellationReason := snapshot.cancellationReason

structure ModelExpectation where
  modelInvocationId : ModelInvocationId
  state : ModelInvocationState

structure EventIntent where
  eventId : JournalEventId
  correlationId : CorrelationId
  causationEventId : Option JournalEventId

inductive ArtifactProducer
  | none
  | model (id : ModelInvocationId)
  | tool (id : ToolExecutionId)
deriving DecidableEq

structure FinalizedArtifact where
  artifactId : ArtifactId
  sha256 : Sha256Digest
  (capturedByteCount observedByteCount : Nat)
  truncated : Bool
deriving DecidableEq

structure ArtifactReference where
  artifactId : ArtifactId
  craxiiId : CraxiiId
  producingWorkId : Option WorkId
  producer : ArtifactProducer
  sha256 : Sha256Digest
  canonicalLength : Nat
  observedLength : Option Nat
  mimeType : Text
  (canonicalEvidence truncated : Bool)

structure PreparedArtifact where
  finalized : FinalizedArtifact
  metadata : ArtifactReference
  event : EventIntent

inductive ModelUsageStatus
  | reported | unavailable | notApplicableOrUnknown
deriving DecidableEq

structure StoredModelUsage where
  (inputTokens cachedInputTokens outputTokens reasoningTokens totalTokens : Nat)

structure ModelTerminalOutcome where
  state : ModelInvocationState
  responseSha256 : Option Sha256Digest
  responseArtifactId : Option ArtifactId
  normalizedOutput : Option NormalizedModelOutput
  (providerRequestId providerResponseId : Option Text)
  (firstByteAt firstOutputAt : Option UtcTimestamp)
  completedAt : UtcTimestamp
  usage : Option StoredModelUsage
  usageStatus : ModelUsageStatus
  providerErrorKind : Option ProviderErrorKind
  providerOutcomeCertainty : ProviderOutcomeCertainty
  billingAmbiguity : Bool
  stopReason : Option Text
  toolCallCount : Option Nat
  draftExposed : Bool
  normalizedError : Option NormalizedError

structure FinishModelInvocationRequest where
  expectedWork : WorkExpectation
  expectedModel : ModelExpectation
  outcome : ModelTerminalOutcome
  artifacts : List PreparedArtifact
  workNext : WorkLifecycleSnapshot
  (modelEvent workEvent : EventIntent)

def StoredModelUsage.isEncodable (usage : StoredModelUsage) : Bool :=
  decide (usage.cachedInputTokens ≤ usage.inputTokens) &&
    decide (usage.reasoningTokens ≤ usage.outputTokens) &&
    usage.totalTokens == usage.inputTokens + usage.outputTokens &&
    [usage.inputTokens, usage.cachedInputTokens, usage.outputTokens, usage.reasoningTokens,
      usage.totalTokens].all fun count => decide (count ≤ i64Max)

def usageStatusFor (usage : Option StoredModelUsage) : ModelUsageStatus :=
  if usage.isSome then .reported else .unavailable

variable (outcome : ModelTerminalOutcome) (artifacts : List PreparedArtifact) (request : FinishModelInvocationRequest)

def lifecycleTransitionOk : Bool :=
  request.outcome.state.isTerminal &&
    isLegalModelPair request.expectedModel.state request.outcome.state &&
    (request.expectedWork.state == .waitingOnModel || request.expectedWork.state == .cancelRequested) &&
    request.expectedWork.currentAttempt == .model request.expectedModel.modelInvocationId &&
    request.workNext.currentAttempt == .none &&
    request.workEvent.causationEventId == some request.modelEvent.eventId &&
    (request.expectedWork.state != .cancelRequested ||
      request.workNext.state == .cancelled || request.workNext.state == .interrupted)

def evidenceIdentifiersOk : Bool :=
  outcome.providerRequestId.all (isBoundedTrimmed · 255) &&
    outcome.providerResponseId.all (isBoundedTrimmed · 255) &&
    outcome.stopReason.all (isBoundedTrimmed · 255)

def stopReasonOrToolCountOk : Bool :=
  outcome.stopReason.all (fun reason => decide (utf8Len reason ≤ 64)) &&
    outcome.toolCallCount.all fun count => decide (count ≤ i64Max)

def completedEvidenceOk : Bool :=
  outcome.responseSha256.isSome && outcome.normalizedOutput.isSome && outcome.firstByteAt.isSome &&
    outcome.firstOutputAt.isSome && outcome.stopReason.isSome && outcome.toolCallCount.isSome &&
    outcome.normalizedError.isNone && outcome.providerErrorKind.isNone &&
    outcome.providerOutcomeCertainty == .definitelyCompleted && !outcome.billingAmbiguity &&
    outcome.usageStatus == usageStatusFor outcome.usage

def failedEvidenceOk : Bool :=
  outcome.responseSha256.isNone && outcome.responseArtifactId.isNone &&
    outcome.normalizedOutput.isNone && outcome.stopReason.isNone && outcome.toolCallCount.isNone &&
    outcome.normalizedError.isSome && outcome.providerErrorKind.isSome &&
    outcome.usageStatus == usageStatusFor outcome.usage

def terminalEvidenceValid (state : ModelInvocationState) (kind : ProviderErrorKind)
    (certainty : ProviderOutcomeCertainty) (billingAmbiguity : Bool) : Bool :=
  match state with
  | .failed =>
    (certainty == .definitelyNotSent || certainty == .definiteProviderFailure ||
      certainty == .semanticOutputObserved) && !billingAmbiguity
  | .cancelledLocally =>
    kind == .cancelled &&
      (certainty == .definitelyNotSent || certainty == .providerOutcomeUnknown) &&
      billingAmbiguity == (certainty == .providerOutcomeUnknown)
  | .providerOutcomeUnknown =>
    (kind == .transportAfterPossibleProcessing || kind == .timeoutAfterOutput ||
      kind == .cancelled || kind == .providerOutcomeUnknown) &&
      certainty == .providerOutcomeUnknown && billingAmbiguity
  | _ => false

def normalizedErrorCertaintyOk : Bool :=
  outcome.normalizedError.all fun error =>
    (error.certainty == .outcomeUnknown) == (outcome.state == .providerOutcomeUnknown)

def validateModelTerminal (library : Json.Library) (request : FinishModelInvocationRequest) :
    Except StoreRefusal (Option Text) := do
  let outcome := request.outcome
  refuseIf (!lifecycleTransitionOk request) .internalInvariant
  refuseIf (!evidenceIdentifiersOk outcome) .internalInvariant
  refuseIf (!stopReasonOrToolCountOk outcome) .internalInvariant
  let outputJson ← match outcome.state with
    | .completed => do
        refuseIf (!completedEvidenceOk outcome) .internalInvariant
        let output ← orRefuse outcome.normalizedOutput .internalInvariant
        refuseIf (outcome.toolCallCount != some (output.countP (·.isToolCall))) .internalInvariant
        let json ← encodeNormalizedOutput library output
        refuseIf (!outcome.usage.all (·.isEncodable)) .internalInvariant
        pure (some json)
    | .failed | .cancelledLocally | .providerOutcomeUnknown => do
        refuseIf (!failedEvidenceOk outcome) .internalInvariant
        let kind ← orRefuse outcome.providerErrorKind .internalInvariant
        refuseIf (!terminalEvidenceValid outcome.state kind outcome.providerOutcomeCertainty
          outcome.billingAmbiguity) .internalInvariant
        pure none
    | .requesting | .streaming => .error .internalInvariant
  refuseIf (!normalizedErrorCertaintyOk outcome) .internalInvariant
  refuseIf (outcome.state != .completed && !outcome.usage.all (·.isEncodable)) .internalInvariant
  return outputJson

structure WorkRow where
  lifecycle : WorkLifecycleSnapshot
  craxiiId : CraxiiId
  conversationId : ConversationId
  correlationId : CorrelationId
  startedAt : Option UtcTimestamp

structure ModelRow where
  modelInvocationId : ModelInvocationId
  logicalInvocationId : LogicalInvocationId
  workId : WorkId
  runtimeInstanceId : RuntimeInstanceId
  attemptNo : AttemptNo
  retryOf : Option ModelInvocationId
  state : ModelInvocationState
  normalizedOutputJson : Option Text
  providerErrorKind : Option ProviderErrorKind
  providerOutcomeCertainty : Option ProviderOutcomeCertainty
  draftExposed : Bool

def WorkRow.matchesGuard (row : WorkRow) (expected : WorkLifecycleSnapshot) : Bool :=
  row.lifecycle.workId == expected.workId && row.lifecycle.state == expected.state &&
    row.lifecycle.projectionVersion == expected.projectionVersion &&
    row.lifecycle.runtimeOwner == expected.runtimeOwner &&
    row.lifecycle.currentAttempt == expected.currentAttempt

structure WorkProjectionTimes where
  (startedAt cancelRequestedAt terminalAt : Option UtcTimestamp)

def validTimeShape (state : WorkState) (times : WorkProjectionTimes) : Bool :=
  match state with
  | .queued => times.startedAt.isNone && times.cancelRequestedAt.isNone && times.terminalAt.isNone
  | .running | .waitingOnModel | .waitingOnTool =>
    times.startedAt.isSome && times.cancelRequestedAt.isNone && times.terminalAt.isNone
  | .cancelRequested =>
    times.startedAt.isSome && times.cancelRequestedAt.isSome && times.terminalAt.isNone
  | .completed | .failed | .interrupted =>
    times.startedAt.isSome && times.cancelRequestedAt.isNone && times.terminalAt.isSome
  | .cancelled => times.cancelRequestedAt.isNone && times.terminalAt.isSome

def WorkRow.project (expected next : WorkLifecycleSnapshot) (row : WorkRow) : WorkRow :=
  if row.matchesGuard expected then { row with lifecycle := next } else row

def guardedWorkUpdate (works : List WorkRow) (expected next : WorkLifecycleSnapshot)
    (times : WorkProjectionTimes) : Except StoreRefusal (List WorkRow) := do
  refuseIf (expected.workId != next.workId || expected.state.isTerminal ||
    next.projectionVersion.value != expected.projectionVersion.value + 1 ||
    !isLegalWorkPair expected.state next.state || !validTimeShape next.state times)
    .internalInvariant
  refuseIf (!works.any (·.matchesGuard expected)) .conflict
  return works.map (WorkRow.project expected next)

def expectedSnapshot (expected : WorkExpectation) : Except StoreRefusal WorkLifecycleSnapshot := do
  refuseIf (!workShapeOk expected.state expected.runtimeOwner expected.currentAttempt
    expected.cancellationReason none) .internalInvariant
  return {
    workId := expected.workId
    state := expected.state
    projectionVersion := expected.version
    runtimeOwner := expected.runtimeOwner
    currentAttempt := expected.currentAttempt
    cancellationReason := expected.cancellationReason
    terminalReason := none }

structure AttemptStore where
  works : List WorkRow
  models : List ModelRow
  artifacts : List ArtifactReference

def loadWorkContext (works : List WorkRow) (workId : WorkId) : Except StoreRefusal WorkRow := do
  let row ← orRefuse (works.find? fun row => row.lifecycle.workId == workId) .conflict
  refuseIf row.startedAt.isNone .inconsistentSchema
  return row

variable (workId : WorkId)

def artifactFactsOk (producer : ArtifactProducer) (artifact : PreparedArtifact) : Bool :=
  artifact.finalized.artifactId == artifact.metadata.artifactId &&
    artifact.finalized.sha256 == artifact.metadata.sha256 &&
    artifact.finalized.capturedByteCount == artifact.metadata.canonicalLength &&
    artifact.metadata.observedLength == some artifact.finalized.observedByteCount &&
    decide (artifact.finalized.capturedByteCount ≤ artifact.finalized.observedByteCount) &&
    artifact.finalized.truncated ==
      decide (artifact.finalized.capturedByteCount < artifact.finalized.observedByteCount) &&
    artifact.finalized.truncated == artifact.metadata.truncated &&
    artifact.metadata.producingWorkId == some workId && artifact.metadata.producer == producer

def indexValidatedArtifacts (producer : ArtifactProducer) : Except StoreRefusal Unit :=
  refuseIf (!(artifacts.all (artifactFactsOk workId producer) &&
    decide (artifacts.map (·.event.eventId)).Nodup &&
    decide (artifacts.map (·.metadata.artifactId)).Nodup)) .internalInvariant

def requireExactArtifactSet (referenced : List ArtifactId) : Except StoreRefusal Unit :=
  refuseIf (!(artifacts.all (fun artifact => referenced.contains artifact.metadata.artifactId) &&
    referenced.all fun id => (artifacts.map (·.metadata.artifactId)).contains id)) .internalInvariant

def opaqueReferences (output : NormalizedModelOutput) : List (ArtifactId × Sha256Digest) :=
  output.filterMap fun
    | .providerOpaque _ _ sha256 artifactId => some (artifactId, sha256)
    | _ => none

def opaqueArtifactOk (reference : ArtifactId × Sha256Digest) : Bool :=
  artifacts.any fun artifact =>
    artifact.metadata.artifactId == reference.1 && artifact.metadata.sha256 == reference.2 &&
      artifact.metadata.mimeType == "application/octet-stream".toList &&
      artifact.metadata.canonicalEvidence

def responseArtifactOk (id : ArtifactId) : Bool :=
  request.artifacts.any fun artifact =>
    artifact.metadata.artifactId == id &&
      request.outcome.responseSha256 == some artifact.metadata.sha256

def ModelRow.matchesExpectation (row : ModelRow) (workId : WorkId) (expected : ModelExpectation) :
    Bool :=
  row.modelInvocationId == expected.modelInvocationId && row.workId == workId &&
    row.state == expected.state

def ModelRow.finish (outputJson : Option Text) (row : ModelRow) : ModelRow :=
  if row.matchesExpectation request.expectedWork.workId request.expectedModel then
    { row with
      state := request.outcome.state
      normalizedOutputJson := outputJson
      providerErrorKind := request.outcome.providerErrorKind
      providerOutcomeCertainty := some request.outcome.providerOutcomeCertainty
      draftExposed := request.outcome.draftExposed }
  else row

def finishModel (library : Json.Library) (store : AttemptStore)
    (request : FinishModelInvocationRequest) : Except StoreRefusal AttemptStore := do
  let outputJson ← validateModelTerminal library request
  let workId := request.expectedWork.workId
  let output := request.outcome.normalizedOutput.getD []
  indexValidatedArtifacts request.artifacts workId
    (.model request.expectedModel.modelInvocationId)
  requireExactArtifactSet request.artifacts
    (request.outcome.responseArtifactId.toList ++ (opaqueReferences output).map (·.1))
  refuseIf (!request.outcome.responseArtifactId.all (responseArtifactOk request)) .internalInvariant
  refuseIf (!(opaqueReferences output).all (opaqueArtifactOk request.artifacts)) .internalInvariant
  let context ← loadWorkContext store.works workId
  refuseIf (request.artifacts.any fun artifact =>
    artifact.metadata.craxiiId != context.craxiiId ||
      artifact.event.correlationId != context.correlationId) .internalInvariant
  let row ← orRefuse (store.models.find? (·.matchesExpectation workId request.expectedModel)) .conflict
  refuseIf (request.expectedWork.runtimeOwner != some row.runtimeInstanceId) .conflict
  let expected ← expectedSnapshot request.expectedWork
  let works ← guardedWorkUpdate store.works expected request.workNext
    { startedAt := context.startedAt
      cancelRequestedAt := none
      terminalAt := if request.workNext.state.isTerminal then some request.outcome.completedAt
        else none }
  refuseIf (request.modelEvent.correlationId != context.correlationId ||
    request.workEvent.correlationId != context.correlationId) .internalInvariant
  return {
    works
    models := store.models.map (ModelRow.finish request outputJson)
    artifacts := store.artifacts ++ request.artifacts.map (·.metadata) }

end Craxii
