import Craxii.Domain.CommandCore

/-!
Embedding of what message admission, work transitions and cancellations write of
`domain/journal.rs`: streams, actors, payloads and the link check of an append.
-/

namespace Craxii

open Utf8Text

inductive JournalStreamId
  | craxii
  | conversation (id : ConversationId)
  | work (id : WorkId)
  | runtime (id : RuntimeInstanceId)
deriving DecidableEq

inductive JournalActor
  | user (deviceId : Option DeviceId)
  | userV2 (userId : UserId)
  | craxii
  | model (id : ModelInvocationId)
  | tool (id : ToolExecutionId)
  | runtime (id : RuntimeInstanceId)
  | client (deviceId : DeviceId)
deriving DecidableEq

inductive JournalWorkTerminalReason
  | answered | refused | definiteNormalizedError | providerExhausted | invalidModelOutput
  | lifecycleLimit | userRequest | gracefulShutdown | runtimeOwnershipLost | providerOutcomeUnknown
  | toolInterruptedBeforeDispatch | toolOutcomeUnknown | cleanupUnconfirmed
deriving DecidableEq

def WorkTerminalReason.journalReason : WorkTerminalReason → JournalWorkTerminalReason
  | .completion .answered => .answered
  | .completion .refused => .refused
  | .failure (.definite _) => .definiteNormalizedError
  | .failure .providerExhausted => .providerExhausted
  | .failure (.invalidModelOutput _) => .invalidModelOutput
  | .failure (.limit _) => .lifecycleLimit
  | .cancellation .userRequest => .userRequest
  | .cancellation .gracefulShutdown => .gracefulShutdown
  | .interruption .runtimeOwnershipLost => .runtimeOwnershipLost
  | .interruption .providerOutcomeUnknown => .providerOutcomeUnknown
  | .interruption .toolInterruptedBeforeDispatch => .toolInterruptedBeforeDispatch
  | .interruption .toolOutcomeUnknown => .toolOutcomeUnknown
  | .interruption .cleanupUnconfirmed => .cleanupUnconfirmed

structure WorkTransitionV1 where
  workId : WorkId
  (fromState toState : WorkState)
  expectedStateVersion : ProjectionVersion
  expectedRuntimeOwner : Option RuntimeInstanceId
  expectedCurrentAttempt : CurrentWorkAttempt
  expectedCancellationReason : Option WorkCancellationReason
  stateVersion : ProjectionVersion
  runtimeOwner : Option RuntimeInstanceId
  currentAttempt : CurrentWorkAttempt
  cancellationReason : Option WorkCancellationReason
  terminalReason : Option JournalWorkTerminalReason
  transitionedAt : UtcTimestamp
deriving DecidableEq

def WorkTransitionV1.between (current next : WorkLifecycleSnapshot) (transitionedAt : UtcTimestamp) :
    WorkTransitionV1 where
  workId := current.workId
  fromState := current.state
  toState := next.state
  expectedStateVersion := current.projectionVersion
  expectedRuntimeOwner := current.runtimeOwner
  expectedCurrentAttempt := current.currentAttempt
  expectedCancellationReason := current.cancellationReason
  stateVersion := next.projectionVersion
  runtimeOwner := next.runtimeOwner
  currentAttempt := next.currentAttempt
  cancellationReason := next.cancellationReason
  terminalReason := next.terminalReason.map (·.journalReason)
  transitionedAt := transitionedAt

inductive MessageAcceptedOriginV2
  | native (deviceId : DeviceId) (clientMessageId : ClientMessageId)
  | inboundDelivery (inboundDeliveryId : InboundDeliveryId)
deriving DecidableEq

structure MessageCommittedV2 where
  messageId : MessageId
  conversationId : ConversationId
  content : MessageContent
  authorUserId : UserId
  origin : MessageAcceptedOriginV2
  committedAt : UtcTimestamp
deriving DecidableEq

structure WorkQueuedV2 where
  workId : WorkId
  conversationId : ConversationId
  conversationWorkOrdinal : ConversationWorkOrdinal
  correlationId : CorrelationId
  (createdAt queuedAt : UtcTimestamp)
  triggerEventId : JournalEventId
  triggerAttachedAt : UtcTimestamp
  replyBindingId : Option ConversationBindingId
deriving DecidableEq

inductive JournalEvidenceKind
  | craxiiInitialized | modelInvocation | toolExecution | assistantMessageCommitted
  | artifactRecorded | runtimeStarted | runtimeRecoveryPerformed | runtimeStopping
deriving DecidableEq

inductive JournalEventPayload
  | conversationCreated (conversationId : ConversationId)
  | messageAcceptedV2 (value : MessageCommittedV2)
  | workQueuedV2 (value : WorkQueuedV2)
  | workTransition (kind : WorkEventKind) (transition : WorkTransitionV1)
  | workCancelRequestedV2 (transition : WorkTransitionV1) (inboundDeliveryId : InboundDeliveryId)
  | workCancelledV2 (transition : WorkTransitionV1) (inboundDeliveryId : InboundDeliveryId)
  | evidence (kind : JournalEvidenceKind)
deriving DecidableEq

structure JournalAppendIntent where
  eventId : JournalEventId
  streamId : JournalStreamId
  conversationId : Option ConversationId
  workId : Option WorkId
  causationEventId : Option JournalEventId
  correlationId : CorrelationId
  actor : JournalActor
  runtimeInstanceId : Option RuntimeInstanceId
  payload : JournalEventPayload
  recordedAt : UtcTimestamp
  occurredAt : Option UtcTimestamp
deriving DecidableEq

structure JournalEvent extends JournalAppendIntent where
  (journalOffset streamSeq : Nat)
deriving DecidableEq

def correlationForWork (workId : WorkId) : CorrelationId := ⟨workId.uuid⟩

def WorkEventKind.targetState : WorkEventKind → WorkState
  | .workStarted | .workResumed => .running
  | .workWaitingOnModel => .waitingOnModel
  | .workWaitingOnTool => .waitingOnTool
  | .workCancelRequested => .cancelRequested
  | .workCompleted => .completed
  | .workFailed => .failed
  | .workCancelled => .cancelled
  | .workInterrupted => .interrupted

def JournalEventPayload.kindOk : JournalEventPayload → Bool
  | .workTransition kind transition => transition.toState == kind.targetState
  | .workCancelRequestedV2 transition _ => transition.toState == .cancelRequested
  | .workCancelledV2 transition _ => transition.toState == .cancelled
  | _ => true

def JournalAppendIntent.linksMatch (intent : JournalAppendIntent) : Bool :=
  match intent.payload, intent.streamId with
  | .conversationCreated conversationId, .conversation id =>
    id == conversationId && intent.conversationId == some conversationId && intent.workId.isNone &&
      intent.causationEventId.isSome && intent.actor == .craxii
  | .messageAcceptedV2 value, .conversation id =>
    id == value.conversationId && intent.conversationId == some value.conversationId &&
      intent.workId.isNone && intent.actor == .userV2 value.authorUserId
  | .workQueuedV2 value, .work id =>
    id == value.workId && intent.conversationId == some value.conversationId &&
      intent.workId == some value.workId && intent.correlationId == value.correlationId &&
      intent.causationEventId == some value.triggerEventId && intent.actor == .craxii
  | .workCancelRequestedV2 transition _, .work id
  | .workCancelledV2 transition _, .work id =>
    id == transition.workId && intent.workId == some transition.workId &&
      (match intent.actor with | .userV2 _ => true | _ => false)
  | .workTransition _ transition, .work id =>
    id == transition.workId && intent.workId == some transition.workId
  | .evidence .craxiiInitialized, .craxii => intent.workId.isNone && intent.actor == .craxii
  | .evidence .modelInvocation, .work id
  | .evidence .toolExecution, .work id
  | .evidence .artifactRecorded, .work id => intent.workId == some id
  | .evidence .assistantMessageCommitted, .conversation id =>
    intent.conversationId == some id && intent.actor == .craxii
  | .evidence .runtimeStarted, .runtime id
  | .evidence .runtimeRecoveryPerformed, .runtime id
  | .evidence .runtimeStopping, .runtime id =>
    intent.runtimeInstanceId == some id && intent.actor == .runtime id
  | _, _ => false

def maxPayloadBytes : Nat := 262144

def MessageContent.storedJson (content : MessageContent) : Json :=
  .obj [("version".toList, .natural 1),
    ("blocks".toList, .arr (content.blocks.map fun block =>
      .obj [("type".toList, .str "text".toList), ("text".toList, .str block)]))]

def MessageAcceptedOriginV2.storedJson : MessageAcceptedOriginV2 → Json
  | .native deviceId clientMessageId =>
    .obj [("type".toList, .str "native".toList), ("device_id".toList, .str deviceId.toText),
      ("client_message_id".toList, .str clientMessageId.toText)]
  | .inboundDelivery inboundDeliveryId =>
    .obj [("type".toList, .str "inbound_delivery".toList),
      ("inbound_delivery_id".toList, .str inboundDeliveryId.toText)]

/-- `StoredMessageCommittedV2`. Only its length counts, so the texts of fixed width that
the model does not have stand as that many zeros. -/
def MessageCommittedV2.storedJson (value : MessageCommittedV2) : Json :=
  .obj [("message_id".toList, .str value.messageId.toText),
    ("craxii_id".toList, .str (List.replicate 36 '0')),
    ("conversation_id".toList, .str value.conversationId.toText),
    ("role".toList, .str "user".toList),
    ("content".toList, value.content.storedJson),
    ("content_sha256".toList, .str (List.replicate 64 '0')),
    ("author_user_id".toList, .str value.authorUserId.toText),
    ("origin".toList, value.origin.storedJson),
    ("committed_at".toList, .str (List.replicate 27 '0'))]

def JournalEventPayload.fits : JournalEventPayload → Bool
  | .messageAcceptedV2 value => decide (value.storedJson.byteLen ≤ maxPayloadBytes)
  | _ => true

def JournalAppendIntent.isPreparable (intent : JournalAppendIntent) : Bool :=
  intent.linksMatch && intent.payload.kindOk && intent.payload.fits

end Craxii
