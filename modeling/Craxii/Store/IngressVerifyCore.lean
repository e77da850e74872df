import Craxii.Store.ChannelIngressCore

/-!
Embedding of `verify_channel_ingress_consistency` of `channel_ingress.rs` and
`verify_stage9_cancellation_events` of `stage9.rs`.
-/

namespace Craxii

open ExceptRules Tables

def require (condition : Bool) : Except StoreRefusal Unit :=
  refuseIf (!condition) .inconsistentSchema

def previousEvent (events : List JournalEvent) (event : JournalEvent) : Option JournalEvent :=
  events.find? fun candidate => candidate.streamId == event.streamId &&
    candidate.streamSeq + 1 == event.streamSeq

variable (store : IngressStore) (transition : WorkTransitionV1)

def exactCancellationShape : Bool :=
  transition.expectedCancellationReason.isNone &&
    transition.runtimeOwner == transition.expectedRuntimeOwner &&
    transition.currentAttempt == transition.expectedCurrentAttempt &&
    match transition.fromState, transition.toState with
    | .queued, .cancelled =>
      transition.expectedRuntimeOwner.isNone && transition.expectedCurrentAttempt == .none &&
        transition.cancellationReason.isNone && transition.terminalReason == some .userRequest
    | .running, .cancelRequested
    | .waitingOnModel, .cancelRequested
    | .waitingOnTool, .cancelRequested =>
      transition.expectedRuntimeOwner.isSome &&
        transition.cancellationReason == some .userRequest && transition.terminalReason.isNone
    | _, _ => false

variable (resolved : ResolvedTopology) (workId : WorkId)

namespace JournalEvent

def asChannelCancellation (event : JournalEvent) : Option (WorkTransitionV1 × InboundDeliveryId) :=
  match event.payload with
  | .workCancelRequestedV2 transition inboundDeliveryId
  | .workCancelledV2 transition inboundDeliveryId => some (transition, inboundDeliveryId)
  | _ => none

def anyCancelRequested (event : JournalEvent) (workId : WorkId) : Bool :=
  match event.payload with
  | .workTransition .workCancelRequested transition => transition.workId == workId
  | .workCancelRequestedV2 transition _ => transition.workId == workId
  | _ => false

def isConversationCreated (event : JournalEvent) : Bool :=
  match event.payload with
  | .conversationCreated _ => true
  | _ => false

end JournalEvent

namespace IngressStore

def findEvent (eventId : JournalEventId) : Option JournalEvent :=
  store.journal.find? fun event => event.eventId == eventId

def verifyQueuedEvent (acceptedEventId : JournalEventId) : Except StoreRefusal Unit := do
  let queued ← orRefuse ((store.journal.filter fun event => event.streamId == .work workId).find?
    fun event => event.payload.isWorkQueued) .inconsistentSchema
  match queued.payload with
  | .workQueuedV2 payload =>
    require (payload.workId == workId && payload.conversationId == resolved.conversationId &&
      payload.correlationId == correlationForWork workId &&
      payload.replyBindingId == some resolved.bindingId &&
      payload.triggerEventId == acceptedEventId && queued.actor == .craxii &&
      queued.conversationId == some resolved.conversationId && queued.workId == some workId &&
      queued.causationEventId == some acceptedEventId &&
      queued.correlationId == correlationForWork workId)
  | _ => .error .inconsistentSchema

def verifyAcceptedEvent (id : InboundDeliveryId) (resolved : ResolvedTopology)
    (message : MessageRow) (workId : WorkId) (acceptedEventId : JournalEventId) :
    Except StoreRefusal Unit := do
  let accepted ← orRefuse (store.findEvent acceptedEventId) .inconsistentSchema
  match accepted.payload with
  | .messageAcceptedV2 payload => do
      let cause ← orRefuse (accepted.causationEventId.bind store.findEvent) .inconsistentSchema
      require (payload.messageId == message.id && payload.conversationId == resolved.conversationId &&
        payload.authorUserId == resolved.userId && payload.content == message.content &&
        payload.origin == .inboundDelivery id && accepted.actor == .userV2 resolved.userId &&
        accepted.streamId == .conversation resolved.conversationId &&
        accepted.conversationId == some resolved.conversationId && accepted.workId.isNone &&
        accepted.correlationId == correlationForWork workId &&
        cause.streamId == .conversation resolved.conversationId && cause.isConversationCreated)
  | _ => .error .inconsistentSchema

def verifyMessageClassification (id : InboundDeliveryId)
    (resolved : ResolvedTopology) (messageId : MessageId) (workId : WorkId) :
    Except StoreRefusal Unit := do
  let message ← orRefuse (store.messages.find? fun row => row.id == messageId) .inconsistentSchema
  require (message.conversationId == resolved.conversationId &&
    message.authorUserId == resolved.userId && message.origin == .inboundDelivery id)
  let work ← orRefuse (store.works.find? fun row => row.id == workId) .inconsistentSchema
  require (work.conversationId == resolved.conversationId &&
    work.replyBindingId == some resolved.bindingId && work.correlationId == correlationForWork workId)
  match store.inputs.filter fun input => input.workId == workId with
  | [input] => do
      store.verifyAcceptedEvent id resolved message workId input.inputEventId
      store.verifyQueuedEvent resolved workId input.inputEventId
  | _ => .error .inconsistentSchema

def verifyChannelCancellationEvent (event : JournalEvent)
    (transition : WorkTransitionV1) (resolved : ResolvedTopology) (targetWorkId : WorkId) :
    Except StoreRefusal Unit := do
  let previous ← orRefuse (previousEvent store.journal event) .inconsistentSchema
  require (transition.workId == targetWorkId && event.actor == .userV2 resolved.userId &&
    event.streamId == .work targetWorkId && event.workId == some targetWorkId &&
    event.conversationId == some resolved.conversationId &&
    event.correlationId == correlationForWork targetWorkId &&
    event.causationEventId == some previous.eventId &&
    event.recordedAt == transition.transitionedAt && event.occurredAt.isNone &&
    exactCancellationShape transition)

def cancellationsOf (id : InboundDeliveryId) : List (JournalEvent × WorkTransitionV1) :=
  store.journal.filterMap fun event => event.asChannelCancellation.bind fun cancellation =>
    if cancellation.2 = id then some (event, cancellation.1) else none

def verifyControlClassification (id : InboundDeliveryId)
    (resolved : ResolvedTopology) (target : Option WorkId) (classifiedAt : UtcTimestamp) :
    Except StoreRefusal (Option InboundDeliveryId) :=
  match target with
  | none => do
      require (store.cancellationsOf id).isEmpty
      return none
  | some targetWorkId => do
      let work ← orRefuse (store.works.find? fun row => row.id == targetWorkId) .inconsistentSchema
      require (work.conversationId == resolved.conversationId)
      match store.cancellationsOf id with
      | [(event, transition)] =>
        store.verifyChannelCancellationEvent event transition resolved targetWorkId
        return some id
      | [] =>
        require (store.journal.any fun event => decide (event.recordedAt ≤ classifiedAt) &&
          event.workId == some targetWorkId && event.anyCancelRequested targetWorkId)
        return none
      | _ => .error .inconsistentSchema

def verifyDelivery (row : InboundDeliveryRow) : Except StoreRefusal (Option InboundDeliveryId) :=
  match row.classified with
  | none => .ok none
  | some (.message resolved messageId workId, _) => do
      store.verifyMessageClassification row.id resolved messageId workId
      return none
  | some (.control resolved target, classifiedAt) =>
    store.verifyControlClassification row.id resolved target classifiedAt
  | some (.unsupported, _) | some (.rejected, _) => .ok none

def verifyChannelIngressConsistency : Except StoreRefusal Unit := do
  let linked ← store.inbound.mapM store.verifyDelivery
  require ((store.journal.filterMap JournalEvent.asChannelCancellation).all fun cancellation =>
    linked.contains (some cancellation.2))

end IngressStore

def JournalEvent.cancellationTransition (event : JournalEvent) : Option WorkTransitionV1 :=
  match event.payload with
  | .workTransition .workCancelRequested transition =>
    if (transition.fromState == .running || transition.fromState == .waitingOnModel ||
        transition.fromState == .waitingOnTool) && transition.toState == .cancelRequested &&
        transition.cancellationReason == some .userRequest then some transition
    else none
  | .workTransition .workCancelled transition =>
    if transition.fromState == .queued && transition.toState == .cancelled then some transition
    else none
  | _ => none

def cancellationEventMatchesCommand (event : JournalEvent) (command : ClientCommandRow)
    (receipt : CancellationCommandReceipt) (correlationId : CorrelationId) : Bool :=
  event.journalOffset == receipt.committedCursor &&
    event.cancellationTransition.any fun transition =>
      transition.workId == receipt.workId && transition.toState == receipt.resultingWorkState &&
        transition.transitionedAt == command.createdAt && event.streamId == .work receipt.workId &&
        event.workId == some receipt.workId && event.correlationId == correlationId &&
        event.actor == .user (some command.deviceId)

namespace IngressStore

def actorWorks (deviceId : DeviceId) (workId : WorkId) : List WorkItemRow :=
  (store.devices.filter fun device => device.id == deviceId).flatMap fun device =>
    (store.conversations.filter fun conversation =>
        conversation.ownerUserId == device.userId).flatMap fun conversation =>
      store.works.filter fun work => work.conversationId == conversation.id && work.id == workId

def matchingCommands (event : JournalEvent) : Except StoreRefusal Nat := do
  let receipts ← (store.commands.filter fun command => command.kind == .cancel).mapM fun command => do
    let receipt ← decodeCancellationReceipt command
    return cancellationEventMatchesCommand event command receipt event.correlationId
  return receipts.countP id

def verifyCancellationEvent (event : JournalEvent) (transition : WorkTransitionV1) :
    Except StoreRefusal Unit :=
  match event.actor with
  | .user (some actorId) => do
      let previous ← orRefuse (previousEvent store.journal event) .inconsistentSchema
      require ((store.actorWorks actorId transition.workId).length == 1 &&
        event.streamId == .work transition.workId && event.workId == some transition.workId &&
        event.correlationId == correlationForWork transition.workId &&
        event.causationEventId == some previous.eventId &&
        event.recordedAt == transition.transitionedAt && event.occurredAt.isNone &&
        exactCancellationShape transition)
      let matching ← store.matchingCommands event
      require (matching != 0 && !store.journal.any fun candidate =>
        decide (event.journalOffset < candidate.journalOffset) && candidate.workId == event.workId &&
          candidate.actor == event.actor && candidate.cancellationTransition.any fun later =>
            later.transitionedAt == transition.transitionedAt)
  | _ => .error .inconsistentSchema

def verifyStage9CancellationEvents : Except StoreRefusal Unit :=
  store.journal.forM fun event =>
    match event.cancellationTransition with
    | none => .ok ()
    | some transition => store.verifyCancellationEvent event transition

end IngressStore

end Craxii
