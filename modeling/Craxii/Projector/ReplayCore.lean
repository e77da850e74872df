import Craxii.Domain.JournalCore
import Craxii.Domain.ToolCore

/-!
Embedding of `application/projector.rs`: the replay of ordered journal events with every check it
makes.
-/

namespace Craxii.Projector

open ExceptRules Utf8Text

abbrev StreamSeq := PositiveInteger
abbrev WorkInputOrdinal := PositiveInteger
abbrev SchemaVersion := PositiveInteger

inductive JournalStreamFamily
  | craxii | conversation | work | runtime
deriving DecidableEq

inductive JournalStreamId
  | craxii (id : CraxiiId)
  | conversation (id : ConversationId)
  | work (id : WorkId)
  | runtime (id : RuntimeInstanceId)
deriving DecidableEq

def JournalStreamId.family : JournalStreamId → JournalStreamFamily
  | .craxii _ => .craxii
  | .conversation _ => .conversation
  | .work _ => .work
  | .runtime _ => .runtime

inductive JournalActor
  | user (deviceId : Option DeviceId)
  | userV2 (userId : UserId)
  | craxii (id : CraxiiId)
  | model (id : ModelInvocationId)
  | tool (id : ToolExecutionId)
  | runtime (id : RuntimeInstanceId)
  | client (deviceId : DeviceId)
deriving DecidableEq

inductive ModelEventKind
  | started | streaming | completed | failed | interrupted
deriving DecidableEq

inductive ToolEventKind
  | requested | dispatching | completed | interruptedBeforeDispatch | outcomeUnknown
deriving DecidableEq

inductive JournalEventKind
  | craxiiInitialized
  | conversationCreated
  | messageAccepted
  | workQueued
  | work (kind : WorkEventKind)
  | modelInvocation (kind : ModelEventKind)
  | toolExecution (kind : ToolEventKind)
  | assistantMessageCommitted
  | artifactRecorded
  | runtimeStarted
  | runtimeRecoveryPerformed
  | runtimeStopping
deriving DecidableEq

namespace JournalEventKind

def primaryStream : JournalEventKind → JournalStreamFamily
  | craxiiInitialized => .craxii
  | conversationCreated | messageAccepted | assistantMessageCommitted => .conversation
  | workQueued | work _ | modelInvocation _ | toolExecution _ | artifactRecorded => .work
  | runtimeStarted | runtimeRecoveryPerformed | runtimeStopping => .runtime

def stateBearing : JournalEventKind → Bool
  | artifactRecorded | runtimeStopping => false
  | _ => true

end JournalEventKind

inductive JournalContractError
  | invalidStream | invalidActor | unknownEventType | unsupportedEventVersion | invalidEnvelope
  | invalidPayload | invalidOrder | invalidCausation | inconsistentProjection
deriving DecidableEq

structure CraxiiInitializedV1 where
  craxiiId : CraxiiId
  workstationId : WorkstationId
  workspaceId : WorkspaceId
  primaryConversationId : ConversationId

structure ConversationCreatedV1 where
  conversationId : ConversationId
  craxiiId : CraxiiId
  nextWorkOrdinal : ConversationWorkOrdinal
  stateVersion : ProjectionVersion
  createdAt : UtcTimestamp

structure ConversationCreatedV2 where
  conversationId : ConversationId
  craxiiId : CraxiiId
  ownerUserId : UserId
  nextWorkOrdinal : ConversationWorkOrdinal
  stateVersion : ProjectionVersion
  createdAt : UtcTimestamp

inductive MessageRole
  | user | assistant | system
deriving DecidableEq

structure MessageCommittedV1 where
  messageId : MessageId
  craxiiId : CraxiiId
  conversationId : ConversationId
  role : MessageRole
  content : MessageContent
  contentSha256 : Sha256Digest
  producedByWorkId : Option WorkId
  deviceId : Option DeviceId
  clientMessageId : Option ClientMessageId
  committedAt : UtcTimestamp

structure MessageCommittedV2 where
  messageId : MessageId
  craxiiId : CraxiiId
  conversationId : ConversationId
  role : MessageRole
  content : MessageContent
  contentSha256 : Sha256Digest
  authorUserId : UserId
  origin : MessageAcceptedOriginV2
  committedAt : UtcTimestamp

inductive WorkInputRelationship
  | trigger | steering | supplemental | scheduledTrigger | externalTrigger | recoveryInstruction
deriving DecidableEq

inductive WorkInputActor
  | user | craxii | system | recovery
deriving DecidableEq

structure WorkInputFactV1 where
  inputEventId : JournalEventId
  relationship : WorkInputRelationship
  ordinalWithinWork : WorkInputOrdinal
  attachedAt : UtcTimestamp
  actor : WorkInputActor

structure WorkQueuedV1 where
  workId : WorkId
  craxiiId : CraxiiId
  conversationId : ConversationId
  conversationWorkOrdinal : ConversationWorkOrdinal
  priority : Int
  workspaceId : WorkspaceId
  correlationId : CorrelationId
  stateVersion : ProjectionVersion
  (createdAt queuedAt : UtcTimestamp)
  trigger : WorkInputFactV1

structure WorkQueuedV2 extends WorkQueuedV1 where
  replyBindingId : Option ConversationBindingId

structure WorkCancellationV2 where
  transition : WorkTransitionV1
  inboundDeliveryId : InboundDeliveryId

structure ModelInvocationEventV1 where
  workId : WorkId
  modelInvocationId : ModelInvocationId
  logicalInvocationId : LogicalInvocationId
  state : ModelInvocationState
  observedAt : UtcTimestamp

structure ToolExecutionEventV1 where
  workId : WorkId
  toolExecutionId : ToolExecutionId
  state : ToolExecutionState
  outcomeClassification : Option ToolResultClass
  observedAt : UtcTimestamp

structure ArtifactRecordedV1 where
  workId : WorkId
  artifactId : ArtifactId

structure RuntimeStartedV1 where
  runtimeInstanceId : RuntimeInstanceId
  craxiiId : CraxiiId
  workstationId : WorkstationId
  binaryVersion : Text
  schemaVersion : SchemaVersion

structure RuntimeRecoveryPerformedV1 where
  runtimeInstanceId : RuntimeInstanceId
  binaryVersion : Text
  schemaVersion : SchemaVersion

structure RuntimeStoppingV1 where
  runtimeInstanceId : RuntimeInstanceId

/-- The nine V1 work transitions differ by their kind alone, and so do the five model
and the five tool facts. -/
inductive JournalEventPayload
  | craxiiInitialized (payload : CraxiiInitializedV1)
  | conversationCreated (payload : ConversationCreatedV1)
  | conversationCreatedV2 (payload : ConversationCreatedV2)
  | messageAccepted (payload : MessageCommittedV1)
  | messageAcceptedV2 (payload : MessageCommittedV2)
  | workQueued (payload : WorkQueuedV1)
  | workQueuedV2 (payload : WorkQueuedV2)
  | workTransition (kind : WorkEventKind) (payload : WorkTransitionV1)
  | workCancelRequestedV2 (payload : WorkCancellationV2)
  | workCancelledV2 (payload : WorkCancellationV2)
  | modelInvocation (kind : ModelEventKind) (payload : ModelInvocationEventV1)
  | toolExecution (kind : ToolEventKind) (payload : ToolExecutionEventV1)
  | assistantMessageCommitted (payload : MessageCommittedV1)
  | artifactRecorded (payload : ArtifactRecordedV1)
  | runtimeStarted (payload : RuntimeStartedV1)
  | runtimeRecoveryPerformed (payload : RuntimeRecoveryPerformedV1)
  | runtimeStopping (payload : RuntimeStoppingV1)

namespace JournalEventPayload

def kind : JournalEventPayload → JournalEventKind
  | craxiiInitialized _ => .craxiiInitialized
  | conversationCreated _ | conversationCreatedV2 _ => .conversationCreated
  | messageAccepted _ | messageAcceptedV2 _ => .messageAccepted
  | workQueued _ | workQueuedV2 _ => .workQueued
  | workTransition kind _ => .work kind
  | workCancelRequestedV2 _ => .work .workCancelRequested
  | workCancelledV2 _ => .work .workCancelled
  | modelInvocation kind _ => .modelInvocation kind
  | toolExecution kind _ => .toolExecution kind
  | assistantMessageCommitted _ => .assistantMessageCommitted
  | artifactRecorded _ => .artifactRecorded
  | runtimeStarted _ => .runtimeStarted
  | runtimeRecoveryPerformed _ => .runtimeRecoveryPerformed
  | runtimeStopping _ => .runtimeStopping

def version : JournalEventPayload → Int
  | conversationCreatedV2 _ | messageAcceptedV2 _ | workQueuedV2 _ | workCancelRequestedV2 _
  | workCancelledV2 _ => 2
  | _ => 1

end JournalEventPayload

structure JournalEvent where
  journalOffset : JournalOffset
  eventId : JournalEventId
  craxiiId : CraxiiId
  streamId : JournalStreamId
  streamSeq : StreamSeq
  eventVersion : Int
  conversationId : Option ConversationId
  workId : Option WorkId
  causationEventId : Option JournalEventId
  correlationId : CorrelationId
  actor : JournalActor
  runtimeInstanceId : Option RuntimeInstanceId
  payload : JournalEventPayload

structure ProjectedMessage where
  streamSeq : StreamSeq
  eventId : JournalEventId
  message : MessageCommittedV1
  authorUserId : Option UserId
  inboundDeliveryId : Option InboundDeliveryId

structure ProjectedConversation where
  created : ConversationCreatedV1
  ownerUserId : Option UserId
  creationEventId : JournalEventId
  creationStreamSeq : StreamSeq

structure ProjectedWork where
  created : WorkQueuedV1
  replyBindingId : Option ConversationBindingId
  state : WorkState
  stateVersion : ProjectionVersion
  runtimeOwner : Option RuntimeInstanceId
  currentAttempt : CurrentWorkAttempt
  cancellationReason : Option WorkCancellationReason
  terminalReason : Option JournalWorkTerminalReason
  (startedAt cancelRequestedAt terminalAt : Option UtcTimestamp)

structure ProjectedModelReference where
  kind : JournalEventKind
  fact : ModelInvocationEventV1

structure ProjectedToolReference where
  kind : JournalEventKind
  fact : ToolExecutionEventV1

structure ProjectedRuntimeReference where
  startedEventId : JournalEventId
  started : RuntimeStartedV1
  recovery : Option RuntimeRecoveryPerformedV1
  stopping : Option RuntimeStoppingV1

structure ProjectedState where
  root : Option CraxiiInitializedV1
  conversations : ConversationId → Option ProjectedConversation
  messages : List ProjectedMessage
  works : WorkId → Option ProjectedWork
  models : ModelInvocationId → Option ProjectedModelReference
  tools : ToolExecutionId → Option ProjectedToolReference
  artifacts : List ArtifactId
  runtimes : RuntimeInstanceId → Option ProjectedRuntimeReference
  evidenceWarnings : List JournalEventId

def ProjectedState.empty : ProjectedState where
  root := none
  conversations := fun _ => none
  messages := []
  works := fun _ => none
  models := fun _ => none
  tools := fun _ => none
  artifacts := []
  runtimes := fun _ => none
  evidenceWarnings := []

structure ObservedEvent where
  correlationId : CorrelationId
  kind : JournalEventKind
  conversationId : Option ConversationId
  workId : Option WorkId

variable (state : ProjectedState) (event : JournalEvent)

def JournalEvent.observed : ObservedEvent where
  correlationId := event.correlationId
  kind := event.payload.kind
  conversationId := event.conversationId
  workId := event.workId

def JournalEvent.linksMatch : Bool :=
  match event.payload, event.streamId with
  | .craxiiInitialized payload, .craxii id =>
    id == payload.craxiiId && event.craxiiId == payload.craxiiId &&
      event.conversationId == some payload.primaryConversationId && event.workId.isNone
  | .conversationCreated payload, .conversation id =>
    id == payload.conversationId && event.conversationId == some payload.conversationId &&
      event.craxiiId == payload.craxiiId && event.workId.isNone
  | .conversationCreatedV2 payload, .conversation id =>
    id == payload.conversationId && event.conversationId == some payload.conversationId &&
      event.craxiiId == payload.craxiiId && event.workId.isNone
  | .messageAccepted payload, .conversation id
  | .assistantMessageCommitted payload, .conversation id =>
    id == payload.conversationId && event.conversationId == some payload.conversationId &&
      event.craxiiId == payload.craxiiId && event.workId == payload.producedByWorkId
  | .messageAcceptedV2 payload, .conversation id =>
    id == payload.conversationId && event.conversationId == some payload.conversationId &&
      event.craxiiId == payload.craxiiId && event.workId.isNone
  | .workQueued payload, .work id =>
    id == payload.workId && event.workId == some payload.workId &&
      event.conversationId == some payload.conversationId && event.craxiiId == payload.craxiiId &&
      event.correlationId == payload.correlationId
  | .workQueuedV2 payload, .work id =>
    id == payload.workId && event.workId == some payload.workId &&
      event.conversationId == some payload.conversationId && event.craxiiId == payload.craxiiId &&
      event.correlationId == payload.correlationId
  | .workCancelRequestedV2 payload, .work id
  | .workCancelledV2 payload, .work id =>
    id == payload.transition.workId && event.workId == some payload.transition.workId &&
      (match event.actor with | .userV2 _ => true | _ => false)
  | .workTransition _ payload, .work id => id == payload.workId && event.workId == some payload.workId
  | .modelInvocation _ payload, .work id => id == payload.workId && event.workId == some payload.workId
  | .toolExecution _ payload, .work id => id == payload.workId && event.workId == some payload.workId
  | .artifactRecorded payload, .work id => id == payload.workId && event.workId == some payload.workId
  | .runtimeStarted payload, .runtime id =>
    id == payload.runtimeInstanceId && event.runtimeInstanceId == some payload.runtimeInstanceId
  | .runtimeRecoveryPerformed payload, .runtime id =>
    id == payload.runtimeInstanceId && event.runtimeInstanceId == some payload.runtimeInstanceId
  | .runtimeStopping payload, .runtime id =>
    id == payload.runtimeInstanceId && event.runtimeInstanceId == some payload.runtimeInstanceId
  | _, _ => false

def validateStreamAndLinks : Except JournalContractError Unit := do
  refuseIf (event.payload.kind.primaryStream != event.streamId.family) .invalidEnvelope
  refuseIf (!event.linksMatch) .invalidEnvelope

def conversationV1FromV2 (value : ConversationCreatedV2) : ConversationCreatedV1 where
  conversationId := value.conversationId
  craxiiId := value.craxiiId
  nextWorkOrdinal := value.nextWorkOrdinal
  stateVersion := value.stateVersion
  createdAt := value.createdAt

def messageV1FromV2 (value : MessageCommittedV2) : MessageCommittedV1 × Option InboundDeliveryId :=
  let (deviceId, clientMessageId, inboundDeliveryId) := match value.origin with
    | .native deviceId clientMessageId => (some deviceId, some clientMessageId, none)
    | .inboundDelivery inboundDeliveryId => (none, none, some inboundDeliveryId)
  ({ messageId := value.messageId
     craxiiId := value.craxiiId
     conversationId := value.conversationId
     role := value.role
     content := value.content
     contentSha256 := value.contentSha256
     producedByWorkId := none
     deviceId
     clientMessageId
     committedAt := value.committedAt }, inboundDeliveryId)

def workV1FromV2 (value : WorkQueuedV2) : WorkQueuedV1 := value.toWorkQueuedV1

variable (cause : Option ObservedEvent)

def applyConversationCreated (payload : ConversationCreatedV1) (ownerUserId : Option UserId) :
    Except JournalContractError ProjectedState := do
  let root ← orRefuse state.root .invalidCausation
  let cause ← orRefuse cause .invalidCausation
  refuseIf (cause.kind != .craxiiInitialized || cause.correlationId != event.correlationId ||
      payload.craxiiId != root.craxiiId || event.actor != .craxii root.craxiiId ||
      (state.conversations payload.conversationId).isSome) .inconsistentProjection
  -- V1 predates user ownership and is valid only for the historical root
  refuseIf (ownerUserId.isNone && payload.conversationId != root.primaryConversationId)
    .inconsistentProjection
  return { state with
    conversations := Function.update state.conversations payload.conversationId (some {
      created := payload
      ownerUserId
      creationEventId := event.eventId
      creationStreamSeq := event.streamSeq }) }

def applyWorkQueued (payload : WorkQueuedV1) (replyBindingId : Option ConversationBindingId) :
    Except JournalContractError ProjectedState := do
  let cause ← orRefuse cause .invalidCausation
  let rootMatches := state.root.any fun root =>
    root.craxiiId == payload.craxiiId && root.workspaceId == payload.workspaceId
  let conversation ← orRefuse (state.conversations payload.conversationId) .inconsistentProjection
  refuseIf (cause.kind != .messageAccepted || cause.correlationId != event.correlationId ||
      cause.conversationId != some payload.conversationId || cause.workId.isSome || !rootMatches ||
      conversation.created.conversationId != payload.conversationId ||
      conversation.created.craxiiId != payload.craxiiId ||
      conversation.created.nextWorkOrdinal != payload.conversationWorkOrdinal ||
      payload.priority != 0 || some payload.trigger.inputEventId != event.causationEventId ||
      payload.trigger.relationship != .trigger || payload.trigger.ordinalWithinWork.value != 1 ||
      payload.trigger.actor != .user || event.actor != .craxii payload.craxiiId ||
      payload.stateVersion.value != 1 || (state.works payload.workId).isSome) .inconsistentProjection
  let nextWorkOrdinal ←
    orRefuse conversation.created.nextWorkOrdinal.checkedIncrement .inconsistentProjection
  let stateVersion ← orRefuse conversation.created.stateVersion.checkedIncrement .inconsistentProjection
  return { state with
    conversations := Function.update state.conversations payload.conversationId (some
      { conversation with created := { conversation.created with nextWorkOrdinal, stateVersion } })
    works := Function.update state.works payload.workId (some {
      created := payload
      replyBindingId
      state := .queued
      stateVersion := payload.stateVersion
      runtimeOwner := none
      currentAttempt := .none
      cancellationReason := none
      terminalReason := none
      startedAt := none
      cancelRequestedAt := none
      terminalAt := none }) }

def validateProjectedWorkShape (payload : WorkTransitionV1) : Except JournalContractError Unit :=
  let valid := match payload.toState with
    | .queued => false
    | .running =>
      payload.runtimeOwner.isSome && payload.currentAttempt == .none &&
        payload.cancellationReason.isNone && payload.terminalReason.isNone
    | .waitingOnModel =>
      payload.runtimeOwner.isSome &&
        (match payload.currentAttempt with | .model _ => true | _ => false) &&
        payload.cancellationReason.isNone && payload.terminalReason.isNone
    | .waitingOnTool =>
      payload.runtimeOwner.isSome &&
        (match payload.currentAttempt with | .tool _ => true | _ => false) &&
        payload.cancellationReason.isNone && payload.terminalReason.isNone
    | .cancelRequested =>
      payload.runtimeOwner.isSome && payload.cancellationReason.isSome &&
        payload.terminalReason.isNone
    | .completed =>
      payload.runtimeOwner.isNone && payload.currentAttempt == .none &&
        (match payload.terminalReason with
        | some .answered | some .refused => true
        | _ => false)
    | .failed =>
      payload.runtimeOwner.isNone && payload.currentAttempt == .none &&
        (match payload.terminalReason with
        | some .definiteNormalizedError | some .providerExhausted | some .invalidModelOutput
        | some .lifecycleLimit => true
        | _ => false)
    | .cancelled =>
      payload.runtimeOwner.isNone && payload.currentAttempt == .none &&
        (match payload.terminalReason with
        | some .userRequest | some .gracefulShutdown => true
        | _ => false)
    | .interrupted =>
      payload.runtimeOwner.isNone && payload.currentAttempt == .none &&
        (match payload.terminalReason with
        | some .runtimeOwnershipLost | some .providerOutcomeUnknown
        | some .toolInterruptedBeforeDispatch | some .toolOutcomeUnknown
        | some .cleanupUnconfirmed => true
        | _ => false)
  refuseIf (!valid) .inconsistentProjection

def ProjectedWork.advance (work : ProjectedWork) (payload : WorkTransitionV1) : ProjectedWork :=
  { work with
    startedAt := if payload.fromState == .queued && payload.toState == .running then
        some payload.transitionedAt else work.startedAt
    cancelRequestedAt := if payload.toState.isTerminal then none
      else if payload.toState == .cancelRequested then some payload.transitionedAt
      else work.cancelRequestedAt
    terminalAt := if payload.toState.isTerminal then some payload.transitionedAt else work.terminalAt
    state := payload.toState
    stateVersion := payload.stateVersion
    runtimeOwner := payload.runtimeOwner
    currentAttempt := payload.currentAttempt
    cancellationReason := payload.cancellationReason
    terminalReason := payload.terminalReason }

def applyWorkTransition (correlationId : CorrelationId)
    (payload : WorkTransitionV1) : Except JournalContractError ProjectedState := do
  let work ← orRefuse (state.works payload.workId) .inconsistentProjection
  refuseIf (work.created.correlationId != correlationId || work.state != payload.fromState ||
      work.stateVersion != payload.expectedStateVersion ||
      work.runtimeOwner != payload.expectedRuntimeOwner ||
      work.currentAttempt != payload.expectedCurrentAttempt ||
      work.cancellationReason != payload.expectedCancellationReason ||
      some payload.stateVersion != payload.expectedStateVersion.checkedIncrement ||
      !isLegalWorkPair payload.fromState payload.toState || work.state.isTerminal)
    .inconsistentProjection
  validateProjectedWorkShape payload
  return { state with works := Function.update state.works payload.workId (some (work.advance payload)) }

def requireWorkContext (workId : WorkId) : Except JournalContractError Unit :=
  refuseIf (!(state.works workId).any fun work =>
    work.created.correlationId == event.correlationId && work.created.craxiiId == event.craxiiId &&
      event.conversationId == some work.created.conversationId && event.workId == some workId)
    .inconsistentProjection

section Apply

variable (sha256 : List UInt8 → Sha256Digest)

def MessageCommittedV1.validContract (payload : MessageCommittedV1) : Bool :=
  (match payload.role with
    | .user =>
      payload.producedByWorkId.isNone && payload.deviceId.isSome && payload.clientMessageId.isSome
    | .assistant =>
      payload.producedByWorkId.isSome && payload.deviceId.isNone && payload.clientMessageId.isNone
    | .system =>
      payload.producedByWorkId.isNone && payload.deviceId.isNone && payload.clientMessageId.isNone) &&
    sha256 payload.content.canonicalBytes == payload.contentSha256

def MessageCommittedV2.validContract (payload : MessageCommittedV2) : Bool :=
  payload.role == .user && sha256 payload.content.canonicalBytes == payload.contentSha256

def ProjectedState.hasMessage (messageId : MessageId) : Bool :=
  state.messages.any fun candidate => candidate.message.messageId == messageId

def ProjectedState.pushMessage (message : MessageCommittedV1) (authorUserId : Option UserId)
    (inboundDeliveryId : Option InboundDeliveryId) : ProjectedState :=
  { state with messages := state.messages ++ [{
      streamSeq := event.streamSeq
      eventId := event.eventId
      message
      authorUserId
      inboundDeliveryId }] }

def applyMessageAccepted (state : ProjectedState) (event : JournalEvent) (payload : MessageCommittedV1) :
    Except JournalContractError ProjectedState := do
  refuseIf (payload.role != .user || !payload.validContract sha256 ||
      event.actor != .user payload.deviceId ||
      !(state.conversations payload.conversationId).any (fun conversation =>
        conversation.created.conversationId == payload.conversationId &&
          conversation.created.craxiiId == payload.craxiiId) ||
      state.hasMessage payload.messageId) .invalidEnvelope
  return state.pushMessage event payload none none

def applyMessageAcceptedV2 (state : ProjectedState) (event : JournalEvent)
    (payload : MessageCommittedV2) : Except JournalContractError ProjectedState := do
  let (message, inboundDeliveryId) := messageV1FromV2 payload
  refuseIf (!payload.validContract sha256 || event.actor != .userV2 payload.authorUserId ||
      !(state.conversations payload.conversationId).any (fun conversation =>
        conversation.created.conversationId == payload.conversationId &&
          conversation.created.craxiiId == payload.craxiiId &&
          conversation.ownerUserId == some payload.authorUserId) ||
      state.hasMessage payload.messageId) .invalidEnvelope
  return state.pushMessage event message (some payload.authorUserId) inboundDeliveryId

def applyAssistantMessage (state : ProjectedState) (event : JournalEvent)
    (payload : MessageCommittedV1) : Except JournalContractError ProjectedState := do
  refuseIf (payload.role != .assistant || !payload.validContract sha256 ||
      event.actor != .craxii payload.craxiiId ||
      !(state.conversations payload.conversationId).any (fun conversation =>
        conversation.created.conversationId == payload.conversationId &&
          conversation.created.craxiiId == payload.craxiiId) ||
      !payload.producedByWorkId.any (fun workId => (state.works workId).any fun work =>
        work.created.correlationId == event.correlationId &&
          work.created.conversationId == payload.conversationId) ||
      state.hasMessage payload.messageId) .invalidEnvelope
  return state.pushMessage event payload none none

def checkModelFact (payload : ModelInvocationEventV1) :
    ModelEventKind → Except JournalContractError Unit
  | .started =>
    refuseIf (payload.state != .requesting || (state.models payload.modelInvocationId).isSome)
      .inconsistentProjection
  | _ => do
      let previous ← orRefuse (state.models payload.modelInvocationId) .inconsistentProjection
      refuseIf (previous.fact.workId != payload.workId ||
          previous.fact.logicalInvocationId != payload.logicalInvocationId ||
          !isLegalModelPair previous.fact.state payload.state) .inconsistentProjection

def applyModelInvocation (kind : ModelEventKind)
    (payload : ModelInvocationEventV1) : Except JournalContractError ProjectedState := do
  requireWorkContext state event payload.workId
  checkModelFact state payload kind
  return { state with
    models := Function.update state.models payload.modelInvocationId
      (some ⟨.modelInvocation kind, payload⟩) }

def checkToolFact (payload : ToolExecutionEventV1) :
    ToolEventKind → Except JournalContractError Unit
  | .requested =>
    refuseIf (payload.state != .requested || (state.tools payload.toolExecutionId).isSome)
      .inconsistentProjection
  | _ => do
      let previous ← orRefuse (state.tools payload.toolExecutionId) .inconsistentProjection
      refuseIf (previous.fact.workId != payload.workId ||
          !isLegalToolPair previous.fact.state payload.state) .inconsistentProjection

def applyToolExecution (kind : ToolEventKind)
    (payload : ToolExecutionEventV1) : Except JournalContractError ProjectedState := do
  requireWorkContext state event payload.workId
  checkToolFact state payload kind
  return { state with
    tools := Function.update state.tools payload.toolExecutionId (some ⟨.toolExecution kind, payload⟩) }

def applyRuntimeStarted (payload : RuntimeStartedV1) :
    Except JournalContractError ProjectedState := do
  refuseIf (event.actor != .runtime payload.runtimeInstanceId ||
      !state.root.any (fun root => root.craxiiId == payload.craxiiId &&
        root.craxiiId == event.craxiiId && root.workstationId == payload.workstationId) ||
      event.causationEventId.isSome || (state.runtimes payload.runtimeInstanceId).isSome)
    .invalidEnvelope
  return { state with
    runtimes := Function.update state.runtimes payload.runtimeInstanceId (some {
      startedEventId := event.eventId
      started := payload
      recovery := none
      stopping := none }) }

def applyRuntimeRecovery
    (payload : RuntimeRecoveryPerformedV1) : Except JournalContractError ProjectedState := do
  let cause ← orRefuse cause .invalidCausation
  let runtime ← orRefuse (state.runtimes payload.runtimeInstanceId) .inconsistentProjection
  refuseIf (event.actor != .runtime payload.runtimeInstanceId || cause.kind != .runtimeStarted ||
      event.causationEventId != some runtime.startedEventId ||
      cause.correlationId != event.correlationId || runtime.recovery.isSome ||
      payload.schemaVersion != runtime.started.schemaVersion ||
      payload.binaryVersion != runtime.started.binaryVersion) .inconsistentProjection
  return { state with
    runtimes := Function.update state.runtimes payload.runtimeInstanceId
      (some { runtime with recovery := some payload }) }

def applyRuntimeStopping
    (payload : RuntimeStoppingV1) : Except JournalContractError ProjectedState := do
  let cause ← orRefuse cause .invalidCausation
  let runtime ← orRefuse (state.runtimes payload.runtimeInstanceId) .inconsistentProjection
  refuseIf (event.actor != .runtime payload.runtimeInstanceId || runtime.recovery.isNone ||
      runtime.stopping.isSome || cause.correlationId != event.correlationId ||
      !(cause.kind == .runtimeStarted || cause.kind == .runtimeRecoveryPerformed))
    .inconsistentProjection
  return { state with
    runtimes := Function.update state.runtimes payload.runtimeInstanceId
      (some { runtime with stopping := some payload }) }

def applyPayload (state : ProjectedState) (event : JournalEvent) (cause : Option ObservedEvent) :
    Except JournalContractError ProjectedState :=
  match event.payload with
  | .craxiiInitialized payload => do
      refuseIf (state.root.isSome || event.causationEventId.isSome ||
        event.actor != .craxii payload.craxiiId) .inconsistentProjection
      return { state with root := some payload }
  | .conversationCreated payload => applyConversationCreated state event cause payload none
  | .conversationCreatedV2 payload =>
    applyConversationCreated state event cause (conversationV1FromV2 payload)
      (some payload.ownerUserId)
  | .messageAccepted payload => applyMessageAccepted sha256 state event payload
  | .messageAcceptedV2 payload => applyMessageAcceptedV2 sha256 state event payload
  | .assistantMessageCommitted payload => applyAssistantMessage sha256 state event payload
  | .workQueued payload => applyWorkQueued state event cause payload none
  | .workQueuedV2 payload => applyWorkQueued state event cause (workV1FromV2 payload) payload.replyBindingId
  | .workCancelRequestedV2 payload | .workCancelledV2 payload => do
      requireWorkContext state event payload.transition.workId
      refuseIf (!(match event.actor with | .userV2 _ => true | _ => false) ||
        event.runtimeInstanceId != payload.transition.runtimeOwner) .invalidEnvelope
      applyWorkTransition state event.correlationId payload.transition
  | .workTransition _ payload => do
      requireWorkContext state event payload.workId
      refuseIf (event.runtimeInstanceId != payload.runtimeOwner) .invalidEnvelope
      applyWorkTransition state event.correlationId payload
  | .modelInvocation kind payload => applyModelInvocation state event kind payload
  | .toolExecution kind payload => applyToolExecution state event kind payload
  | .artifactRecorded payload => do
      requireWorkContext state event payload.workId
      refuseIf (decide (payload.artifactId ∈ state.artifacts)) .inconsistentProjection
      return { state with artifacts := state.artifacts ++ [payload.artifactId] }
  | .runtimeStarted payload => applyRuntimeStarted state event payload
  | .runtimeRecoveryPerformed payload => applyRuntimeRecovery state event cause payload
  | .runtimeStopping payload => applyRuntimeStopping state event cause payload

def applyEvent (state : ProjectedState) (event : JournalEvent) (cause : Option ObservedEvent) :
    Except JournalContractError ProjectedState := do
  let applied ← applyPayload sha256 state event cause
  return if event.payload.kind.stateBearing then applied
    else { applied with evidenceWarnings := applied.evidenceWarnings ++ [event.eventId] }

structure ReplayState where
  state : ProjectedState
  priorOffset : Option JournalOffset
  streamHeads : JournalStreamId → Option StreamSeq
  observed : JournalEventId → Option ObservedEvent

def ReplayState.initial : ReplayState where
  state := .empty
  priorOffset := none
  streamHeads := fun _ => none
  observed := fun _ => none

def ReplayState.expectedSeq (replay : ReplayState) (stream : JournalStreamId) :
    Except JournalContractError Nat :=
  match replay.streamHeads stream with
  | none => .ok 1
  | some previous => orRefuse (previous.checkedIncrement.map (·.value)) .invalidOrder

def ReplayState.findCause (replay : ReplayState) (event : JournalEvent) :
    Except JournalContractError (Option ObservedEvent) :=
  match event.causationEventId with
  | none => .ok none
  | some id => do
      refuseIf (id == event.eventId) .invalidCausation
      let observed ← orRefuse (replay.observed id) .invalidCausation
      return some observed

def ReplayState.read (replay : ReplayState) (state : ProjectedState) (event : JournalEvent) :
    ReplayState where
  state
  priorOffset := some event.journalOffset
  streamHeads := Function.update replay.streamHeads event.streamId (some event.streamSeq)
  observed := Function.update replay.observed event.eventId (some event.observed)

@[simp] theorem ReplayState.read_state (replay : ReplayState) (state : ProjectedState)
    (event : JournalEvent) : (replay.read state event).state = state := rfl

def projectEvent (replay : ReplayState) (event : JournalEvent) :
    Except JournalContractError ReplayState := do
  refuseIf (event.eventVersion != event.payload.version) .unsupportedEventVersion
  refuseIf (replay.priorOffset.any fun prior => decide (event.journalOffset.value ≤ prior.value))
    .invalidOrder
  refuseIf (replay.observed event.eventId).isSome .invalidOrder
  let expectedSeq ← replay.expectedSeq event.streamId
  refuseIf (event.streamSeq.value != expectedSeq) .invalidOrder
  let cause ← replay.findCause event
  validateStreamAndLinks event
  let state ← applyEvent sha256 replay.state event cause
  return replay.read state event

def replayEvents (events : List JournalEvent) : Except JournalContractError ReplayState :=
  events.foldlM (projectEvent sha256) .initial

def project (events : List JournalEvent) : Except JournalContractError ProjectedState :=
  (replayEvents sha256 events).map (·.state)

end Apply

end Craxii.Projector
