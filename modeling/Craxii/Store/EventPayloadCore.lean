import Craxii.Codec.NormalizedOutputCore
import Craxii.Domain.JournalCore
import Craxii.Domain.ToolCore

/-!
Embedding of the payloads of `domain/journal.rs` with all their fields, the JSON of
`encode_event_payload`, and the checks of `prepare_event` and `decode_event_row`.
-/

namespace Craxii

open Utf8Text ExceptRules

def WorkState.asStr : WorkState → Text
  | .queued => "queued".toList
  | .running => "running".toList
  | .waitingOnModel => "waiting_on_model".toList
  | .waitingOnTool => "waiting_on_tool".toList
  | .cancelRequested => "cancel_requested".toList
  | .completed => "completed".toList
  | .failed => "failed".toList
  | .cancelled => "cancelled".toList
  | .interrupted => "interrupted".toList

def ModelInvocationState.asStr : ModelInvocationState → Text
  | .requesting => "requesting".toList
  | .streaming => "streaming".toList
  | .completed => "completed".toList
  | .failed => "failed".toList
  | .cancelledLocally => "cancelled_locally".toList
  | .providerOutcomeUnknown => "provider_outcome_unknown".toList

def ToolExecutionState.asStr : ToolExecutionState → Text
  | .requested => "requested".toList
  | .dispatching => "dispatching".toList
  | .completed => "completed".toList
  | .interruptedBeforeDispatch => "interrupted_before_dispatch".toList
  | .outcomeUnknown => "outcome_unknown".toList

def WorkCancellationReason.asStr : WorkCancellationReason → Text
  | .userRequest => "user_request".toList
  | .gracefulShutdown => "graceful_shutdown".toList

def JournalWorkTerminalReason.asStr : JournalWorkTerminalReason → Text
  | .answered => "answered".toList
  | .refused => "refused".toList
  | .definiteNormalizedError => "definite_normalized_error".toList
  | .providerExhausted => "provider_exhausted".toList
  | .invalidModelOutput => "invalid_model_output".toList
  | .lifecycleLimit => "lifecycle_limit".toList
  | .userRequest => "user_request".toList
  | .gracefulShutdown => "graceful_shutdown".toList
  | .runtimeOwnershipLost => "runtime_ownership_lost".toList
  | .providerOutcomeUnknown => "provider_outcome_unknown".toList
  | .toolInterruptedBeforeDispatch => "tool_interrupted_before_dispatch".toList
  | .toolOutcomeUnknown => "tool_outcome_unknown".toList
  | .cleanupUnconfirmed => "cleanup_unconfirmed".toList

inductive MessageRole
  | user | assistant | system
deriving DecidableEq

def MessageRole.asStr : MessageRole → Text
  | .user => "user".toList
  | .assistant => "assistant".toList
  | .system => "system".toList

inductive WorkInputRelationship
  | trigger | steering | supplemental | scheduledTrigger | externalTrigger | recoveryInstruction
deriving DecidableEq

def WorkInputRelationship.asStr : WorkInputRelationship → Text
  | .trigger => "trigger".toList
  | .steering => "steering".toList
  | .supplemental => "supplemental".toList
  | .scheduledTrigger => "scheduled_trigger".toList
  | .externalTrigger => "external_trigger".toList
  | .recoveryInstruction => "recovery_instruction".toList

inductive WorkInputActor
  | user | craxii | system | recovery
deriving DecidableEq

def WorkInputActor.asStr : WorkInputActor → Text
  | .user => "user".toList
  | .craxii => "craxii".toList
  | .system => "system".toList
  | .recovery => "recovery".toList

inductive ArtifactRetention
  | canonicalEvidence | diagnostic | regenerable
deriving DecidableEq

def ArtifactRetention.asStr : ArtifactRetention → Text
  | .canonicalEvidence => "canonical_evidence".toList
  | .diagnostic => "diagnostic".toList
  | .regenerable => "regenerable".toList

namespace Publication

abbrev SchemaVersion := PositiveInteger
abbrev WorkInputOrdinal := PositiveInteger
abbrev DiagnosticPid := PositiveInteger
abbrev StreamSeq := PositiveInteger

inductive JournalStreamFamily
  | craxii | conversation | work | runtime
deriving DecidableEq

inductive JournalStreamId
  | craxii (id : CraxiiId)
  | conversation (id : ConversationId)
  | work (id : WorkId)
  | runtime (id : RuntimeInstanceId)
deriving DecidableEq

def JournalStreamId.family : JournalStreamId → JournalStreamFamily
  | .craxii _ => .craxii
  | .conversation _ => .conversation
  | .work _ => .work
  | .runtime _ => .runtime

inductive JournalActor
  | user (deviceId : Option DeviceId)
  | userV2 (userId : UserId)
  | craxii (id : CraxiiId)
  | model (id : ModelInvocationId)
  | tool (id : ToolExecutionId)
  | runtime (id : RuntimeInstanceId)
  | client (deviceId : DeviceId)
deriving DecidableEq

inductive JournalEventKind
  | craxiiInitialized | conversationCreated | messageAccepted | workQueued | workStarted
  | workWaitingOnModel | workWaitingOnTool | workResumed | workCancelRequested | workCancelled
  | workCompleted | workFailed | workInterrupted | modelInvocationStarted | modelInvocationStreaming
  | modelInvocationCompleted | modelInvocationFailed | modelInvocationInterrupted
  | toolExecutionRequested | toolExecutionDispatching | toolExecutionCompleted
  | toolExecutionInterruptedBeforeDispatch | toolExecutionOutcomeUnknown | assistantMessageCommitted
  | artifactRecorded | runtimeStarted | runtimeRecoveryPerformed | runtimeStopping
deriving DecidableEq

def JournalEventKind.primaryStream : JournalEventKind → JournalStreamFamily
  | .craxiiInitialized => .craxii
  | .conversationCreated | .messageAccepted | .assistantMessageCommitted => .conversation
  | .runtimeStarted | .runtimeRecoveryPerformed | .runtimeStopping => .runtime
  | _ => .work

structure CraxiiInitializedV1 where
  craxiiId : CraxiiId
  (displayName ownerLabel architectureRevision : Text)
  schemaRevision : SchemaVersion
  workstationId : WorkstationId
  workstationGeneration : WorkstationGeneration
  (workstationArchitecture workstationOsRelease : Text)
  capabilitiesSha256 : Sha256Digest
  workspaceId : WorkspaceId
  (workspaceLogicalName workspaceLogicalRoot : Text)
  primaryConversationId : ConversationId
  createdAt : UtcTimestamp
deriving DecidableEq

structure ConversationCreatedV1 where
  conversationId : ConversationId
  craxiiId : CraxiiId
  nextWorkOrdinal : ConversationWorkOrdinal
  stateVersion : ProjectionVersion
  createdAt : UtcTimestamp
deriving DecidableEq

structure ConversationCreatedV2 extends ConversationCreatedV1 where
  ownerUserId : UserId
deriving DecidableEq

structure MessageCommittedV1 where
  messageId : MessageId
  craxiiId : CraxiiId
  conversationId : ConversationId
  role : MessageRole
  content : MessageContent
  contentSha256 : Sha256Digest
  producedByWorkId : Option WorkId
  deviceId : Option DeviceId
  clientMessageId : Option ClientMessageId
  committedAt : UtcTimestamp
deriving DecidableEq

structure MessageCommittedV2 where
  messageId : MessageId
  craxiiId : CraxiiId
  conversationId : ConversationId
  role : MessageRole
  content : MessageContent
  contentSha256 : Sha256Digest
  authorUserId : UserId
  origin : MessageAcceptedOriginV2
  committedAt : UtcTimestamp
deriving DecidableEq

structure WorkInputFactV1 where
  inputEventId : JournalEventId
  relationship : WorkInputRelationship
  ordinalWithinWork : WorkInputOrdinal
  attachedAt : UtcTimestamp
  actor : WorkInputActor
deriving DecidableEq

structure WorkQueuedV1 where
  workId : WorkId
  craxiiId : CraxiiId
  conversationId : ConversationId
  conversationWorkOrdinal : ConversationWorkOrdinal
  priority : Int
  workspaceId : WorkspaceId
  correlationId : CorrelationId
  stateVersion : ProjectionVersion
  (createdAt queuedAt : UtcTimestamp)
  trigger : WorkInputFactV1
deriving DecidableEq

structure WorkQueuedV2 extends WorkQueuedV1 where
  replyBindingId : Option ConversationBindingId
deriving DecidableEq

structure WorkCancellationV2 where
  transition : WorkTransitionV1
  inboundDeliveryId : InboundDeliveryId
deriving DecidableEq

structure ModelInvocationEventV1 where
  workId : WorkId
  modelInvocationId : ModelInvocationId
  logicalInvocationId : LogicalInvocationId
  state : ModelInvocationState
  observedAt : UtcTimestamp
deriving DecidableEq

structure ToolExecutionEventV1 where
  workId : WorkId
  toolExecutionId : ToolExecutionId
  state : ToolExecutionState
  outcomeClassification : Option ToolResultClass
  observedAt : UtcTimestamp
deriving DecidableEq

structure ArtifactRecordedV1 where
  workId : WorkId
  artifactId : ArtifactId
  sha256 : Sha256Digest
  canonicalLength : UInt64
  retention : ArtifactRetention
  recordedAt : UtcTimestamp
deriving DecidableEq

structure RuntimeStartedV1 where
  runtimeInstanceId : RuntimeInstanceId
  craxiiId : CraxiiId
  workstationId : WorkstationId
  workstationGeneration : WorkstationGeneration
  linuxBootId : Text
  processId : DiagnosticPid
  (binaryVersion gitRevision : Text)
  schemaVersion : SchemaVersion
  startedAt : UtcTimestamp
deriving DecidableEq

structure RuntimeRecoveryPerformedV1 where
  runtimeInstanceId : RuntimeInstanceId
  (staleRuntimesObserved staleRuntimesClosed retainedQueuedWork interruptedWork : UInt64)
  (modelAttemptsProviderOutcomeUnknown modelAttemptsTerminalPreserved : UInt64)
  (toolAttemptsInterruptedBeforeDispatch toolAttemptsOutcomeUnknown : UInt64)
  (toolAttemptsTerminalPreserved draftsAbandoned orphanArtifactsObserved : UInt64)
  (cleanupChecksPerformed cleanupUnconfirmed recoveryDurationMs : UInt64)
  binaryVersion : Text
  schemaVersion : SchemaVersion
  recoveredAt : UtcTimestamp
deriving DecidableEq

structure RuntimeStoppingV1 where
  runtimeInstanceId : RuntimeInstanceId
  (shutdownRequestedAt graceDeadline : UtcTimestamp)
  (activeWorkCount activeTaskCount : UInt64)
deriving DecidableEq

inductive JournalEventPayload
  | craxiiInitialized (value : CraxiiInitializedV1)
  | conversationCreated (value : ConversationCreatedV1)
  | conversationCreatedV2 (value : ConversationCreatedV2)
  | messageAccepted (value : MessageCommittedV1)
  | messageAcceptedV2 (value : MessageCommittedV2)
  | workQueued (value : WorkQueuedV1)
  | workQueuedV2 (value : WorkQueuedV2)
  | workStarted (value : WorkTransitionV1)
  | workWaitingOnModel (value : WorkTransitionV1)
  | workWaitingOnTool (value : WorkTransitionV1)
  | workResumed (value : WorkTransitionV1)
  | workCancelRequested (value : WorkTransitionV1)
  | workCancelRequestedV2 (value : WorkCancellationV2)
  | workCancelled (value : WorkTransitionV1)
  | workCancelledV2 (value : WorkCancellationV2)
  | workCompleted (value : WorkTransitionV1)
  | workFailed (value : WorkTransitionV1)
  | workInterrupted (value : WorkTransitionV1)
  | modelInvocationStarted (value : ModelInvocationEventV1)
  | modelInvocationStreaming (value : ModelInvocationEventV1)
  | modelInvocationCompleted (value : ModelInvocationEventV1)
  | modelInvocationFailed (value : ModelInvocationEventV1)
  | modelInvocationInterrupted (value : ModelInvocationEventV1)
  | toolExecutionRequested (value : ToolExecutionEventV1)
  | toolExecutionDispatching (value : ToolExecutionEventV1)
  | toolExecutionCompleted (value : ToolExecutionEventV1)
  | toolExecutionInterruptedBeforeDispatch (value : ToolExecutionEventV1)
  | toolExecutionOutcomeUnknown (value : ToolExecutionEventV1)
  | assistantMessageCommitted (value : MessageCommittedV1)
  | artifactRecorded (value : ArtifactRecordedV1)
  | runtimeStarted (value : RuntimeStartedV1)
  | runtimeRecoveryPerformed (value : RuntimeRecoveryPerformedV1)
  | runtimeStopping (value : RuntimeStoppingV1)
deriving DecidableEq

def JournalEventPayload.kind : JournalEventPayload → JournalEventKind
  | .craxiiInitialized _ => .craxiiInitialized
  | .conversationCreated _ | .conversationCreatedV2 _ => .conversationCreated
  | .messageAccepted _ | .messageAcceptedV2 _ => .messageAccepted
  | .workQueued _ | .workQueuedV2 _ => .workQueued
  | .workStarted _ => .workStarted
  | .workWaitingOnModel _ => .workWaitingOnModel
  | .workWaitingOnTool _ => .workWaitingOnTool
  | .workResumed _ => .workResumed
  | .workCancelRequested _ | .workCancelRequestedV2 _ => .workCancelRequested
  | .workCancelled _ | .workCancelledV2 _ => .workCancelled
  | .workCompleted _ => .workCompleted
  | .workFailed _ => .workFailed
  | .workInterrupted _ => .workInterrupted
  | .modelInvocationStarted _ => .modelInvocationStarted
  | .modelInvocationStreaming _ => .modelInvocationStreaming
  | .modelInvocationCompleted _ => .modelInvocationCompleted
  | .modelInvocationFailed _ => .modelInvocationFailed
  | .modelInvocationInterrupted _ => .modelInvocationInterrupted
  | .toolExecutionRequested _ => .toolExecutionRequested
  | .toolExecutionDispatching _ => .toolExecutionDispatching
  | .toolExecutionCompleted _ => .toolExecutionCompleted
  | .toolExecutionInterruptedBeforeDispatch _ => .toolExecutionInterruptedBeforeDispatch
  | .toolExecutionOutcomeUnknown _ => .toolExecutionOutcomeUnknown
  | .assistantMessageCommitted _ => .assistantMessageCommitted
  | .artifactRecorded _ => .artifactRecorded
  | .runtimeStarted _ => .runtimeStarted
  | .runtimeRecoveryPerformed _ => .runtimeRecoveryPerformed
  | .runtimeStopping _ => .runtimeStopping

def JournalEventPayload.version : JournalEventPayload → Nat
  | .conversationCreatedV2 _ | .messageAcceptedV2 _ | .workQueuedV2 _ | .workCancelRequestedV2 _
  | .workCancelledV2 _ => 2
  | _ => 1

/-- What the payload code takes from elsewhere: the canonical 27-byte text of an instant,
the digest of a content and the acceptance of `LogicalPathReference::absolute`. -/
structure Contracts where
  timestampText : UtcTimestamp → Text
  timestampLength : ∀ instant, utf8Len (timestampText instant) = 27
  contentSha256 : MessageContent → Sha256Digest
  isAbsolutePath : Text → Bool

def field (key : String) (value : Json) : Text × Json := (key.toList, value)

def textJson (text : String) : Json := .str text.toList

def idJson {kind : IdKind} (id : Identity kind) : Json := .str id.toText

def optionJson {α : Type} (document : α → Json) : Option α → Json
  | none => .null
  | some value => document value

def unsignedJson (value : UInt64) : Json := .natural value.toNat

variable (contracts : Contracts)

def timeJson (instant : UtcTimestamp) : Json := .str (contracts.timestampText instant)

def blockJson (text : Text) : Json :=
  .obj [field "type" (textJson "text"), field "text" (.str text)]

def storedContent (content : MessageContent) : Json :=
  .obj [field "version" (.natural 1), field "blocks" (.arr (content.blocks.map blockJson))]

def storedOrigin : MessageAcceptedOriginV2 → Json
  | .native deviceId clientMessageId =>
    .obj [field "type" (textJson "native"), field "device_id" (idJson deviceId),
      field "client_message_id" (idJson clientMessageId)]
  | .inboundDelivery inboundDeliveryId =>
    .obj [field "type" (textJson "inbound_delivery"),
      field "inbound_delivery_id" (idJson inboundDeliveryId)]

def storedWorkInput (input : WorkInputFactV1) : Json :=
  .obj [field "input_event_id" (idJson input.inputEventId),
    field "relationship" (.str input.relationship.asStr),
    field "ordinal_within_work" (.natural input.ordinalWithinWork.value),
    field "attached_at" (timeJson contracts input.attachedAt), field "actor" (.str input.actor.asStr)]

def storedAttempt : CurrentWorkAttempt → Json
  | .none => .obj [field "kind" (textJson "none")]
  | .model id => .obj [field "kind" (textJson "model"), field "id" (idJson id)]
  | .tool id => .obj [field "kind" (textJson "tool"), field "id" (idJson id)]

def storedCraxiiInitialized (value : CraxiiInitializedV1) : Json :=
  .obj [field "craxii_id" (idJson value.craxiiId), field "display_name" (.str value.displayName),
    field "owner_label" (.str value.ownerLabel),
    field "architecture_revision" (.str value.architectureRevision),
    field "schema_revision" (.natural value.schemaRevision.value),
    field "workstation_id" (idJson value.workstationId),
    field "workstation_generation" (.natural value.workstationGeneration.value),
    field "workstation_architecture" (.str value.workstationArchitecture),
    field "workstation_os_release" (.str value.workstationOsRelease),
    field "capabilities_sha256" (.str value.capabilitiesSha256.text),
    field "workspace_id" (idJson value.workspaceId),
    field "workspace_logical_name" (.str value.workspaceLogicalName),
    field "workspace_logical_root" (.str value.workspaceLogicalRoot),
    field "primary_conversation_id" (idJson value.primaryConversationId),
    field "created_at" (timeJson contracts value.createdAt)]

def storedConversationTail (value : ConversationCreatedV1) : List (Text × Json) :=
  [field "kind" (textJson "primary"), field "lifecycle" (textJson "active"),
    field "next_work_ordinal" (.natural value.nextWorkOrdinal.value),
    field "state_version" (.natural value.stateVersion.value),
    field "created_at" (timeJson contracts value.createdAt)]

def storedConversationCreated (value : ConversationCreatedV1) : Json :=
  .obj ([field "conversation_id" (idJson value.conversationId), field "craxii_id" (idJson value.craxiiId)] ++
    storedConversationTail contracts value)

def storedConversationCreatedV2 (value : ConversationCreatedV2) : Json :=
  .obj ([field "conversation_id" (idJson value.conversationId), field "craxii_id" (idJson value.craxiiId),
    field "owner_user_id" (idJson value.ownerUserId)] ++
    storedConversationTail contracts value.toConversationCreatedV1)

def storedMessage (value : MessageCommittedV1) : Json :=
  .obj [field "message_id" (idJson value.messageId), field "craxii_id" (idJson value.craxiiId),
    field "conversation_id" (idJson value.conversationId), field "role" (.str value.role.asStr),
    field "content" (storedContent value.content),
    field "content_sha256" (.str value.contentSha256.text),
    field "produced_by_work_id" (optionJson idJson value.producedByWorkId),
    field "device_id" (optionJson idJson value.deviceId),
    field "client_message_id" (optionJson idJson value.clientMessageId),
    field "committed_at" (timeJson contracts value.committedAt)]

def storedMessageV2 (value : MessageCommittedV2) : Json :=
  .obj [field "message_id" (idJson value.messageId), field "craxii_id" (idJson value.craxiiId),
    field "conversation_id" (idJson value.conversationId), field "role" (.str value.role.asStr),
    field "content" (storedContent value.content),
    field "content_sha256" (.str value.contentSha256.text),
    field "author_user_id" (idJson value.authorUserId), field "origin" (storedOrigin value.origin),
    field "committed_at" (timeJson contracts value.committedAt)]

def storedWorkQueuedFields (value : WorkQueuedV1) : List (Text × Json) :=
  [field "work_id" (idJson value.workId), field "craxii_id" (idJson value.craxiiId),
    field "conversation_id" (idJson value.conversationId),
    field "conversation_work_ordinal" (.natural value.conversationWorkOrdinal.value),
    field "kind" (textJson "conversational"), field "priority" (.integer value.priority),
    field "workspace_id" (idJson value.workspaceId),
    field "correlation_id" (idJson value.correlationId),
    field "state_version" (.natural value.stateVersion.value),
    field "created_at" (timeJson contracts value.createdAt),
    field "queued_at" (timeJson contracts value.queuedAt),
    field "trigger" (storedWorkInput contracts value.trigger)]

def storedWorkQueued (value : WorkQueuedV1) : Json :=
  .obj (storedWorkQueuedFields contracts value)

def storedWorkQueuedV2 (value : WorkQueuedV2) : Json :=
  .obj (storedWorkQueuedFields contracts value.toWorkQueuedV1 ++
    [field "reply_binding_id" (optionJson idJson value.replyBindingId)])

def storedTransition (value : WorkTransitionV1) : Json :=
  .obj [field "work_id" (idJson value.workId), field "from_state" (.str value.fromState.asStr),
    field "to_state" (.str value.toState.asStr),
    field "expected_state_version" (.natural value.expectedStateVersion.value),
    field "expected_runtime_owner" (optionJson idJson value.expectedRuntimeOwner),
    field "expected_current_attempt" (storedAttempt value.expectedCurrentAttempt),
    field "expected_cancellation_reason"
      (optionJson (fun reason => .str reason.asStr) value.expectedCancellationReason),
    field "state_version" (.natural value.stateVersion.value),
    field "runtime_owner" (optionJson idJson value.runtimeOwner),
    field "current_attempt" (storedAttempt value.currentAttempt),
    field "cancellation_reason"
      (optionJson (fun reason => .str reason.asStr) value.cancellationReason),
    field "terminal_reason" (optionJson (fun reason => .str reason.asStr) value.terminalReason),
    field "transitioned_at" (timeJson contracts value.transitionedAt)]

def storedCancellation (value : WorkCancellationV2) : Json :=
  .obj [field "transition" (storedTransition contracts value.transition),
    field "inbound_delivery_id" (idJson value.inboundDeliveryId)]

def storedModel (value : ModelInvocationEventV1) : Json :=
  .obj [field "work_id" (idJson value.workId),
    field "model_invocation_id" (idJson value.modelInvocationId),
    field "logical_invocation_id" (idJson value.logicalInvocationId),
    field "state" (.str value.state.asStr), field "observed_at" (timeJson contracts value.observedAt)]

def storedTool (value : ToolExecutionEventV1) : Json :=
  .obj [field "work_id" (idJson value.workId),
    field "tool_execution_id" (idJson value.toolExecutionId), field "state" (.str value.state.asStr),
    field "outcome_classification"
      (optionJson (fun classification => .str classification.asStr) value.outcomeClassification),
    field "observed_at" (timeJson contracts value.observedAt)]

def storedArtifact (value : ArtifactRecordedV1) : Json :=
  .obj [field "work_id" (idJson value.workId), field "artifact_id" (idJson value.artifactId),
    field "sha256" (.str value.sha256.text),
    field "canonical_length" (unsignedJson value.canonicalLength),
    field "retention" (.str value.retention.asStr),
    field "recorded_at" (timeJson contracts value.recordedAt)]

def storedRuntimeStarted (value : RuntimeStartedV1) : Json :=
  .obj [field "runtime_instance_id" (idJson value.runtimeInstanceId),
    field "craxii_id" (idJson value.craxiiId), field "workstation_id" (idJson value.workstationId),
    field "workstation_generation" (.natural value.workstationGeneration.value),
    field "linux_boot_id" (.str value.linuxBootId),
    field "process_id" (.natural value.processId.value),
    field "binary_version" (.str value.binaryVersion), field "git_revision" (.str value.gitRevision),
    field "schema_version" (.natural value.schemaVersion.value),
    field "started_at" (timeJson contracts value.startedAt)]

def storedRuntimeRecovery (value : RuntimeRecoveryPerformedV1) : Json :=
  .obj [field "runtime_instance_id" (idJson value.runtimeInstanceId),
    field "stale_runtimes_observed" (unsignedJson value.staleRuntimesObserved),
    field "stale_runtimes_closed" (unsignedJson value.staleRuntimesClosed),
    field "retained_queued_work" (unsignedJson value.retainedQueuedWork),
    field "interrupted_work" (unsignedJson value.interruptedWork),
    field "model_attempts_provider_outcome_unknown"
      (unsignedJson value.modelAttemptsProviderOutcomeUnknown),
    field "model_attempts_terminal_preserved" (unsignedJson value.modelAttemptsTerminalPreserved),
    field "tool_attempts_interrupted_before_dispatch"
      (unsignedJson value.toolAttemptsInterruptedBeforeDispatch),
    field "tool_attempts_outcome_unknown" (unsignedJson value.toolAttemptsOutcomeUnknown),
    field "tool_attempts_terminal_preserved" (unsignedJson value.toolAttemptsTerminalPreserved),
    field "drafts_abandoned" (unsignedJson value.draftsAbandoned),
    field "orphan_artifacts_observed" (unsignedJson value.orphanArtifactsObserved),
    field "cleanup_checks_performed" (unsignedJson value.cleanupChecksPerformed),
    field "cleanup_unconfirmed" (unsignedJson value.cleanupUnconfirmed),
    field "recovery_duration_ms" (unsignedJson value.recoveryDurationMs),
    field "binary_version" (.str value.binaryVersion),
    field "schema_version" (.natural value.schemaVersion.value),
    field "recovered_at" (timeJson contracts value.recoveredAt)]

def storedRuntimeStopping (value : RuntimeStoppingV1) : Json :=
  .obj [field "runtime_instance_id" (idJson value.runtimeInstanceId),
    field "shutdown_requested_at" (timeJson contracts value.shutdownRequestedAt),
    field "shutdown_reason" (textJson "graceful_shutdown"),
    field "grace_deadline" (timeJson contracts value.graceDeadline),
    field "active_work_count" (unsignedJson value.activeWorkCount),
    field "active_task_count" (unsignedJson value.activeTaskCount)]

def storedPayload : JournalEventPayload → Json
  | .craxiiInitialized value => storedCraxiiInitialized contracts value
  | .conversationCreated value => storedConversationCreated contracts value
  | .conversationCreatedV2 value => storedConversationCreatedV2 contracts value
  | .messageAccepted value | .assistantMessageCommitted value => storedMessage contracts value
  | .messageAcceptedV2 value => storedMessageV2 contracts value
  | .workQueued value => storedWorkQueued contracts value
  | .workQueuedV2 value => storedWorkQueuedV2 contracts value
  | .workCancelRequestedV2 value | .workCancelledV2 value => storedCancellation contracts value
  | .workStarted value | .workWaitingOnModel value | .workWaitingOnTool value | .workResumed value
  | .workCancelRequested value | .workCancelled value | .workCompleted value | .workFailed value
  | .workInterrupted value => storedTransition contracts value
  | .modelInvocationStarted value | .modelInvocationStreaming value
  | .modelInvocationCompleted value | .modelInvocationFailed value
  | .modelInvocationInterrupted value => storedModel contracts value
  | .toolExecutionRequested value | .toolExecutionDispatching value | .toolExecutionCompleted value
  | .toolExecutionInterruptedBeforeDispatch value | .toolExecutionOutcomeUnknown value =>
    storedTool contracts value
  | .artifactRecorded value => storedArtifact contracts value
  | .runtimeStarted value => storedRuntimeStarted contracts value
  | .runtimeRecoveryPerformed value => storedRuntimeRecovery contracts value
  | .runtimeStopping value => storedRuntimeStopping contracts value

def maxPayloadBytes : Nat := 262144
def minRuntimeEventSchemaVersion : Nat := 3
def maxSupportedSchemaVersion : Nat := 7

def isPersistable (count : UInt64) : Bool := decide (count.toNat ≤ i64Max)

def RuntimeRecoveryPerformedV1.countsArePersistable (value : RuntimeRecoveryPerformedV1) : Bool :=
  isPersistable value.staleRuntimesObserved && isPersistable value.staleRuntimesClosed &&
    isPersistable value.retainedQueuedWork && isPersistable value.interruptedWork &&
    isPersistable value.modelAttemptsProviderOutcomeUnknown &&
    isPersistable value.modelAttemptsTerminalPreserved &&
    isPersistable value.toolAttemptsInterruptedBeforeDispatch &&
    isPersistable value.toolAttemptsOutcomeUnknown &&
    isPersistable value.toolAttemptsTerminalPreserved && isPersistable value.draftsAbandoned &&
    isPersistable value.orphanArtifactsObserved && isPersistable value.cleanupChecksPerformed &&
    isPersistable value.cleanupUnconfirmed && isPersistable value.recoveryDurationMs

def MessageCommittedV1.validateContract (value : MessageCommittedV1) : Bool :=
  (match value.role with
    | .user => value.producedByWorkId.isNone && value.deviceId.isSome && value.clientMessageId.isSome
    | .assistant =>
      value.producedByWorkId.isSome && value.deviceId.isNone && value.clientMessageId.isNone
    | .system =>
      value.producedByWorkId.isNone && value.deviceId.isNone && value.clientMessageId.isNone) &&
    contracts.contentSha256 value.content == value.contentSha256

def MessageCommittedV2.validateContract (value : MessageCommittedV2) : Bool :=
  value.role == .user && contracts.contentSha256 value.content == value.contentSha256

def runtimeEventSchemaIsSupported (schemaVersion : SchemaVersion) : Bool :=
  decide (minRuntimeEventSchemaVersion ≤ schemaVersion.value) &&
    decide (schemaVersion.value ≤ maxSupportedSchemaVersion)

def conversationCreatedOk (value : ConversationCreatedV1) : Bool :=
  value.nextWorkOrdinal.value == 1 && value.stateVersion.value == 1

def workQueuedOk (value : WorkQueuedV1) : Bool :=
  value.priority == 0 && value.stateVersion.value == 1 &&
    value.trigger.relationship == .trigger && value.trigger.ordinalWithinWork.value == 1 &&
    value.trigger.actor == .user

def validatePayloadKind : JournalEventPayload → Bool
  | .craxiiInitialized value =>
    value.displayName == "Craxii".toList && value.ownerLabel == "local-owner".toList &&
      value.architectureRevision == "V0.0.01".toList &&
      (decide (2 ≤ value.schemaRevision.value) && decide (value.schemaRevision.value ≤ 5)) &&
      contracts.isAbsolutePath value.workspaceLogicalRoot && !value.workspaceLogicalName.isEmpty
  | .conversationCreated value => conversationCreatedOk value
  | .conversationCreatedV2 value => conversationCreatedOk value.toConversationCreatedV1
  | .messageAccepted value => value.role == .user && value.validateContract contracts
  | .messageAcceptedV2 value => value.validateContract contracts
  | .assistantMessageCommitted value => value.role == .assistant && value.validateContract contracts
  | .workQueued value => workQueuedOk value
  | .workQueuedV2 value => workQueuedOk value.toWorkQueuedV1
  | .workStarted value => value.toState == .running
  | .workWaitingOnModel value => value.toState == .waitingOnModel
  | .workWaitingOnTool value => value.toState == .waitingOnTool
  | .workResumed value => value.toState == .running
  | .workCancelRequested value => value.toState == .cancelRequested
  | .workCancelRequestedV2 value => value.transition.toState == .cancelRequested
  | .workCancelled value => value.toState == .cancelled
  | .workCancelledV2 value => value.transition.toState == .cancelled
  | .workCompleted value => value.toState == .completed
  | .workFailed value => value.toState == .failed
  | .workInterrupted value => value.toState == .interrupted
  | .modelInvocationStarted value => value.state == .requesting
  | .modelInvocationStreaming value => value.state == .streaming
  | .modelInvocationCompleted value => value.state == .completed
  | .modelInvocationFailed value => value.state == .failed
  | .modelInvocationInterrupted value =>
    value.state == .cancelledLocally || value.state == .providerOutcomeUnknown
  | .toolExecutionRequested value => value.state == .requested
  | .toolExecutionDispatching value => value.state == .dispatching
  | .toolExecutionCompleted value => value.state == .completed
  | .toolExecutionInterruptedBeforeDispatch value =>
    value.state == .interruptedBeforeDispatch && value.outcomeClassification.isNone
  | .toolExecutionOutcomeUnknown value => value.state == .outcomeUnknown
  | .artifactRecorded value => isPersistable value.canonicalLength
  | .runtimeStarted value =>
    runtimeEventSchemaIsSupported value.schemaVersion && !value.linuxBootId.isEmpty &&
      !value.binaryVersion.isEmpty && !value.gitRevision.isEmpty
  | .runtimeRecoveryPerformed value =>
    runtimeEventSchemaIsSupported value.schemaVersion && value.countsArePersistable
  | .runtimeStopping value =>
    decide (value.shutdownRequestedAt ≤ value.graceDeadline) &&
      isPersistable value.activeWorkCount && isPersistable value.activeTaskCount

def validateCurrentPayloadKind (payload : JournalEventPayload) : Bool :=
  validatePayloadKind contracts payload &&
    match payload with
    | .runtimeStarted value => value.schemaVersion.value == maxSupportedSchemaVersion
    | .runtimeRecoveryPerformed value => value.schemaVersion.value == maxSupportedSchemaVersion
    | _ => true

structure JournalAppendIntent where
  eventId : JournalEventId
  craxiiId : CraxiiId
  streamId : JournalStreamId
  conversationId : Option ConversationId
  workId : Option WorkId
  causationEventId : Option JournalEventId
  correlationId : CorrelationId
  actor : JournalActor
  runtimeInstanceId : Option RuntimeInstanceId
  payload : JournalEventPayload
  recordedAt : UtcTimestamp
  occurredAt : Option UtcTimestamp
deriving DecidableEq

def conversationLinks (intent : JournalAppendIntent) (id : ConversationId)
    (value : ConversationCreatedV1) : Bool :=
  id == value.conversationId && intent.craxiiId == value.craxiiId &&
    intent.conversationId == some value.conversationId && intent.workId.isNone &&
    intent.causationEventId.isSome && intent.actor == .craxii value.craxiiId

def queuedLinks (intent : JournalAppendIntent) (id : WorkId) (value : WorkQueuedV1) : Bool :=
  id == value.workId && intent.craxiiId == value.craxiiId &&
    intent.conversationId == some value.conversationId && intent.workId == some value.workId &&
    intent.correlationId == value.correlationId &&
    intent.causationEventId == some value.trigger.inputEventId && intent.actor == .craxii value.craxiiId

def workLinks (intent : JournalAppendIntent) (id workId : WorkId) : Bool :=
  id == workId && intent.workId == some workId

def runtimeLinks (intent : JournalAppendIntent) (id runtimeInstanceId : RuntimeInstanceId) : Bool :=
  id == runtimeInstanceId && intent.runtimeInstanceId == some runtimeInstanceId &&
    intent.actor == .runtime runtimeInstanceId

def validateIntent (intent : JournalAppendIntent) : Bool :=
  intent.payload.kind.primaryStream == intent.streamId.family &&
    match intent.payload, intent.streamId with
    | .craxiiInitialized value, .craxii id =>
      id == value.craxiiId && intent.craxiiId == value.craxiiId &&
        intent.conversationId == some value.primaryConversationId && intent.workId.isNone &&
        intent.runtimeInstanceId.isNone && intent.causationEventId.isNone &&
        intent.actor == .craxii value.craxiiId
    | .conversationCreated value, .conversation id => conversationLinks intent id value
    | .conversationCreatedV2 value, .conversation id =>
      conversationLinks intent id value.toConversationCreatedV1
    | .messageAccepted value, .conversation id =>
      id == value.conversationId && intent.craxiiId == value.craxiiId &&
        intent.conversationId == some value.conversationId &&
        intent.workId == value.producedByWorkId && intent.actor == .user value.deviceId
    | .messageAcceptedV2 value, .conversation id =>
      id == value.conversationId && intent.craxiiId == value.craxiiId &&
        intent.conversationId == some value.conversationId && intent.workId.isNone &&
        intent.actor == .userV2 value.authorUserId
    | .assistantMessageCommitted value, .conversation id =>
      id == value.conversationId && intent.craxiiId == value.craxiiId &&
        intent.conversationId == some value.conversationId &&
        intent.workId == value.producedByWorkId && intent.actor == .craxii value.craxiiId
    | .workQueued value, .work id => queuedLinks intent id value
    | .workQueuedV2 value, .work id => queuedLinks intent id value.toWorkQueuedV1
    | .workCancelRequestedV2 value, .work id | .workCancelledV2 value, .work id =>
      workLinks intent id value.transition.workId &&
        (match intent.actor with | .userV2 _ => true | _ => false)
    | .workStarted value, .work id | .workWaitingOnModel value, .work id
    | .workWaitingOnTool value, .work id | .workResumed value, .work id
    | .workCancelRequested value, .work id | .workCancelled value, .work id
    | .workCompleted value, .work id | .workFailed value, .work id
    | .workInterrupted value, .work id => workLinks intent id value.workId
    | .modelInvocationStarted value, .work id | .modelInvocationStreaming value, .work id
    | .modelInvocationCompleted value, .work id | .modelInvocationFailed value, .work id
    | .modelInvocationInterrupted value, .work id => workLinks intent id value.workId
    | .toolExecutionRequested value, .work id | .toolExecutionDispatching value, .work id
    | .toolExecutionCompleted value, .work id
    | .toolExecutionInterruptedBeforeDispatch value, .work id
    | .toolExecutionOutcomeUnknown value, .work id => workLinks intent id value.workId
    | .artifactRecorded value, .work id => workLinks intent id value.workId
    | .runtimeStarted value, .runtime id => runtimeLinks intent id value.runtimeInstanceId
    | .runtimeRecoveryPerformed value, .runtime id => runtimeLinks intent id value.runtimeInstanceId
    | .runtimeStopping value, .runtime id => runtimeLinks intent id value.runtimeInstanceId
    | _, _ => false

def prepareEvent (intent : JournalAppendIntent) : Except StoreRefusal JournalAppendIntent := do
  refuseIf (!validateIntent intent) .inconsistentSchema
  refuseIf (!validateCurrentPayloadKind contracts intent.payload) .inconsistentSchema
  refuseIf (decide (maxPayloadBytes < (storedPayload contracts intent.payload).byteLen))
    .inconsistentSchema
  return intent

structure JournalRow where
  journalOffset : JournalOffset
  streamSeq : StreamSeq
  eventVersion : Nat
  columns : JournalAppendIntent
  versioned : eventVersion = columns.payload.version

def appendedRow (journalOffset : JournalOffset) (streamSeq : StreamSeq)
    (prepared : JournalAppendIntent) : JournalRow :=
  ⟨journalOffset, streamSeq, prepared.payload.version, prepared, rfl⟩

structure JournalEvent extends JournalAppendIntent where
  journalOffset : JournalOffset
  streamSeq : StreamSeq
  eventVersion : Nat
deriving DecidableEq

def versionSupported (kind : JournalEventKind) (version : Nat) : Bool :=
  match kind with
  | .conversationCreated | .messageAccepted | .workQueued | .workCancelRequested | .workCancelled =>
    version == 2 || version == 1
  | _ => version == 1

def transitionReadable (value : WorkTransitionV1) : Bool :=
  value.expectedStateVersion.checkedIncrement == some value.stateVersion &&
    isLegalWorkPair value.fromState value.toState

def payloadReadable : JournalEventPayload → Bool
  | .messageAccepted value | .assistantMessageCommitted value => value.validateContract contracts
  | .messageAcceptedV2 value => value.validateContract contracts
  | .workQueued value => workQueuedOk value
  | .workQueuedV2 value => workQueuedOk value.toWorkQueuedV1
  | .workStarted value | .workWaitingOnModel value | .workWaitingOnTool value | .workResumed value
  | .workCancelRequested value | .workCancelled value | .workCompleted value | .workFailed value
  | .workInterrupted value => transitionReadable value
  | .workCancelRequestedV2 value | .workCancelledV2 value => transitionReadable value.transition
  | .runtimeRecoveryPerformed value => value.countsArePersistable
  | .runtimeStopping value =>
    decide (value.shutdownRequestedAt ≤ value.graceDeadline) &&
      isPersistable value.activeWorkCount && isPersistable value.activeTaskCount
  | _ => true

def parseActorForEvent (kind : JournalEventKind) (version : Nat) (actor : JournalActor) :
    Except StoreRefusal JournalActor :=
  if version == 2 && (kind == .messageAccepted || kind == .workCancelRequested ||
      kind == .workCancelled) then
    match actor with
    | .user (some deviceId) => .ok (.userV2 ⟨deviceId.uuid⟩)
    | .userV2 userId => .ok (.userV2 userId)
    | _ => .error .inconsistentSchema
  else
    match actor with
    | .userV2 userId => .ok (.user (some ⟨userId.uuid⟩))
    | other => .ok other

def decodeEventRow (row : JournalRow) : Except StoreRefusal JournalEvent := do
  let payload := row.columns.payload
  refuseIf (!versionSupported payload.kind row.eventVersion) .inconsistentSchema
  refuseIf (!payloadReadable contracts payload) .inconsistentSchema
  refuseIf (!validatePayloadKind contracts payload) .inconsistentSchema
  let actor ← parseActorForEvent payload.kind row.eventVersion row.columns.actor
  let columns := { row.columns with actor := actor }
  refuseIf (!validateIntent columns) .inconsistentSchema
  return { columns with
    journalOffset := row.journalOffset, streamSeq := row.streamSeq, eventVersion := row.eventVersion }

end Publication

end Craxii
