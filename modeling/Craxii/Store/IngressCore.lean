import Craxii.Domain.JournalCore
import Craxii.Store.RecoveryCore

/-!
Embedding of the tables of messages, commands and channel events, of the journal's append, the
guarded work projection and `message_admission.rs`.
-/

namespace Craxii

open ExceptRules Tables Utf8Text

structure ConversationRow where
  id : ConversationId
  ownerUserId : UserId
  active : Bool
  nextWorkOrdinal : ConversationWorkOrdinal
  stateVersion : ProjectionVersion
deriving DecidableEq

structure DeviceRow where
  id : DeviceId
  userId : UserId
  revoked : Bool
deriving DecidableEq

structure WorkItemRow where
  work : WorkLifecycleSnapshot
  conversationId : ConversationId
  ordinal : ConversationWorkOrdinal
  correlationId : CorrelationId
  replyBindingId : Option ConversationBindingId
  (startedAt cancelRequestedAt : Option UtcTimestamp)
deriving DecidableEq

abbrev WorkItemRow.id (row : WorkItemRow) : WorkId := row.work.workId

structure MessageRow where
  id : MessageId
  conversationId : ConversationId
  content : MessageContent
  authorUserId : UserId
  origin : MessageAcceptedOriginV2
  committedAt : UtcTimestamp
deriving DecidableEq

structure WorkInputRow where
  workId : WorkId
  inputEventId : JournalEventId
  attachedAt : UtcTimestamp
deriving DecidableEq

inductive StoredResponse
  | message (version : Nat) (workState : WorkState) (receipt : MessageCommandReceipt)
  | cancellation (version : Nat) (workId : WorkId) (resultingWorkState : WorkState)
      (cleanupPending : Bool) (committedCursor : Nat)
deriving DecidableEq

structure ClientCommandRow where
  deviceId : DeviceId
  idempotencyKey : IdempotencyKey
  kind : CommandKind
  requestHash : Sha256Digest
  responseHttpStatus : Nat
  response : StoredResponse
  committedCursor : Nat
  createdAt : UtcTimestamp
deriving DecidableEq

abbrev ExternalId := CheckedText (isIdentifier · 255)

abbrev ChannelProviderId := Text

structure ChannelAccountRow where
  id : ChannelAccountId
  active : Bool
  providerId : ChannelProviderId
deriving DecidableEq

structure ExternalIdentityRow where
  id : ExternalIdentityId
  channelAccountId : ChannelAccountId
  subjectId : ExternalId
  userId : UserId
  active : Bool
deriving DecidableEq

structure ConversationBindingRow where
  id : ConversationBindingId
  channelAccountId : ChannelAccountId
  externalConversationId : ExternalId
  externalThreadId : Option ExternalId
  externalIdentityId : ExternalIdentityId
  userId : UserId
  conversationId : ConversationId
  active : Bool
deriving DecidableEq

structure ChannelTopology where
  accounts : List ChannelAccountRow
  activeUsers : List UserId
  identities : List ExternalIdentityRow
  bindings : List ConversationBindingRow
deriving DecidableEq

structure ResolvedTopology where
  externalIdentityId : ExternalIdentityId
  bindingId : ConversationBindingId
  userId : UserId
  conversationId : ConversationId
deriving DecidableEq

inductive InboundClassification
  | message (resolved : ResolvedTopology) (messageId : MessageId) (workId : WorkId)
  | control (resolved : ResolvedTopology) (targetWorkId : Option WorkId)
  | unsupported
  | rejected
deriving DecidableEq

structure InboundDeliveryRow where
  id : InboundDeliveryId
  channelAccountId : ChannelAccountId
  externalEventId : ExternalId
  externalMessageId : Option ExternalId
  (subjectId externalConversationId : ExternalId)
  externalThreadId : Option ExternalId
  materialDigest : Sha256Digest
  providerOccurredAt : Option UtcTimestamp
  receivedAt : UtcTimestamp
  classified : Option (InboundClassification × UtcTimestamp)
deriving DecidableEq

inductive ControlAcknowledgementOutcome
  | applied
  | noOp
deriving DecidableEq

structure AcknowledgementRow where
  outboundDeliveryId : OutboundDeliveryId
  inboundDeliveryId : InboundDeliveryId
  outcome : ControlAcknowledgementOutcome
  createdAt : UtcTimestamp
deriving DecidableEq

structure Ledger where
  conversations : List ConversationRow
  works : List WorkItemRow
  messages : List MessageRow
  inputs : List WorkInputRow
  journal : List JournalEvent
deriving DecidableEq

structure IngressStore extends Ledger where
  primaryConversationId : ConversationId
  devices : List DeviceRow
  runtimes : List RuntimeRow
  commands : List ClientCommandRow
  channels : ChannelTopology
  inbound : List InboundDeliveryRow
  acknowledgements : List AcknowledgementRow
deriving DecidableEq

def Ledger.empty : Ledger := ⟨[], [], [], [], []⟩

def IngressStore.empty (primaryConversationId : ConversationId) : IngressStore where
  toLedger := .empty
  primaryConversationId := primaryConversationId
  devices := []
  runtimes := []
  commands := []
  channels := ⟨[], [], [], []⟩
  inbound := []
  acknowledgements := []

variable (store : IngressStore) (journal : List JournalEvent)

def streamLength (streamId : JournalStreamId) : Nat :=
  journal.countP fun event => event.streamId == streamId

def eventFor (intent : JournalAppendIntent) : JournalEvent where
  toJournalAppendIntent := intent
  journalOffset := journal.length + 1
  streamSeq := streamLength journal intent.streamId + 1

def latestEvent (streamId : JournalStreamId) : Option JournalEvent :=
  (journal.filter fun event => event.streamId == streamId).getLast?

namespace IngressStore

def appendEvent (intent : JournalAppendIntent) :
    Except StoreRefusal (IngressStore × Nat) := do
  refuseIf (!intent.isPreparable) .inconsistentSchema
  refuseIf (store.journal.any fun event => event.eventId == intent.eventId) .internalInvariant
  let event := eventFor store.journal intent
  return ({ store with journal := store.journal ++ [event] }, event.journalOffset)

def latestWorkEvent (workId : WorkId) : Except StoreRefusal JournalEventId :=
  orRefuse ((latestEvent store.journal (.work workId)).map fun event => event.eventId)
    .inconsistentSchema

end IngressStore

def WorkItemRow.project (next : WorkLifecycleSnapshot) (times : WorkProjectionTimes)
    (row : WorkItemRow) : WorkItemRow :=
  { row with
    work := next
    startedAt := times.startedAt
    cancelRequestedAt := times.cancelRequestedAt }

def IngressStore.guardedWorkUpdate (expected next : WorkLifecycleSnapshot)
    (times : WorkProjectionTimes) : Except StoreRefusal IngressStore := do
  refuseIf (expected.workId != next.workId || expected.state.isTerminal ||
    next.projectionVersion.value != expected.projectionVersion.value + 1 ||
    !isLegalWorkPair expected.state next.state || !validTimeShape next.state times)
    .internalInvariant
  refuseIf (!store.works.any fun row => row.work.matchesGuard expected) .conflict
  return { store with
    works := update (fun row => row.work.matchesGuard expected) (WorkItemRow.project next times)
      store.works }

def StoreRefusal.projected : StoreRefusal → StoreRefusal
  | .conflict => .inconsistentSchema
  | refusal => refusal

structure CanonicalMessageTopology where
  userId : UserId
  conversationId : ConversationId
  nextOrdinal : ConversationWorkOrdinal
  conversationVersion : ProjectionVersion
  conversationCreatedEventId : JournalEventId

structure CanonicalMessageCandidates where
  messageId : MessageId
  workId : WorkId
  (acceptanceEventId queuedEventId : JournalEventId)
deriving DecidableEq

structure CanonicalMessageAdmission where
  topology : CanonicalMessageTopology
  origin : MessageAcceptedOriginV2
  content : MessageContent
  replyBindingId : Option ConversationBindingId
  admittedAt : UtcTimestamp
  candidates : CanonicalMessageCandidates

structure CanonicalMessageAdmissionReceipt where
  messageId : MessageId
  workId : WorkId
  workOrdinal : ConversationWorkOrdinal
  committedCursor : Nat

variable (request : CanonicalMessageAdmission)

namespace CanonicalMessageAdmission

def message : MessageRow where
  id := request.candidates.messageId
  conversationId := request.topology.conversationId
  content := request.content
  authorUserId := request.topology.userId
  origin := request.origin
  committedAt := request.admittedAt

def work (request : CanonicalMessageAdmission) : WorkItemRow where
  work := .initial request.candidates.workId
  conversationId := request.topology.conversationId
  ordinal := request.topology.nextOrdinal
  correlationId := correlationForWork request.candidates.workId
  replyBindingId := request.replyBindingId
  startedAt := none
  cancelRequestedAt := none

def input : WorkInputRow where
  workId := request.candidates.workId
  inputEventId := request.candidates.acceptanceEventId
  attachedAt := request.admittedAt

def acceptedIntent : JournalAppendIntent where
  eventId := request.candidates.acceptanceEventId
  streamId := .conversation request.topology.conversationId
  conversationId := some request.topology.conversationId
  workId := none
  causationEventId := some request.topology.conversationCreatedEventId
  correlationId := correlationForWork request.candidates.workId
  actor := .userV2 request.topology.userId
  runtimeInstanceId := none
  payload := .messageAcceptedV2 {
    messageId := request.candidates.messageId
    conversationId := request.topology.conversationId
    content := request.content
    authorUserId := request.topology.userId
    origin := request.origin
    committedAt := request.admittedAt }
  recordedAt := request.admittedAt
  occurredAt := none

def queuedIntent : JournalAppendIntent where
  eventId := request.candidates.queuedEventId
  streamId := .work request.candidates.workId
  conversationId := some request.topology.conversationId
  workId := some request.candidates.workId
  causationEventId := some request.candidates.acceptanceEventId
  correlationId := correlationForWork request.candidates.workId
  actor := .craxii
  runtimeInstanceId := none
  payload := .workQueuedV2 {
    workId := request.candidates.workId
    conversationId := request.topology.conversationId
    conversationWorkOrdinal := request.topology.nextOrdinal
    correlationId := correlationForWork request.candidates.workId
    createdAt := request.admittedAt
    queuedAt := request.admittedAt
    triggerEventId := request.candidates.acceptanceEventId
    triggerAttachedAt := request.admittedAt
    replyBindingId := request.replyBindingId }
  recordedAt := request.admittedAt
  occurredAt := none

end CanonicalMessageAdmission

namespace IngressStore

def insertMessage (row : MessageRow) : Except StoreRefusal IngressStore := do
  refuseIf (store.messages.any fun other => other.id == row.id || other.origin == row.origin)
    .internalInvariant
  return { store with messages := store.messages ++ [row] }

def insertWork (row : WorkItemRow) : Except StoreRefusal IngressStore := do
  refuseIf (store.works.any fun other => other.id == row.id ||
    other.conversationId == row.conversationId && other.ordinal == row.ordinal) .internalInvariant
  return { store with works := store.works ++ [row] }

def advanceConversationOrdinal (conversationId : ConversationId)
    (expectedVersion : ProjectionVersion) (expectedOrdinal : ConversationWorkOrdinal) :
    Except StoreRefusal IngressStore := do
  let nextVersion ← orRefuse expectedVersion.checkedIncrement .internalInvariant
  let nextOrdinal ← orRefuse expectedOrdinal.checkedIncrement .internalInvariant
  let selects := fun (row : ConversationRow) => row.id == conversationId &&
    row.stateVersion == expectedVersion && row.nextWorkOrdinal == expectedOrdinal
  refuseIf (!store.conversations.any selects) .conflict
  return { store with
    conversations := update selects
      (fun row => { row with nextWorkOrdinal := nextOrdinal, stateVersion := nextVersion })
      store.conversations }

def admitCanonicalMessage :
    Except StoreRefusal (IngressStore × CanonicalMessageAdmissionReceipt) := do
  let store ← store.insertMessage request.message
  let (store, _) ← store.appendEvent request.acceptedIntent
  let store ← store.insertWork request.work
  let store := { store with inputs := store.inputs ++ [request.input] }
  let (store, queuedOffset) ← store.appendEvent request.queuedIntent
  let store ← (store.advanceConversationOrdinal request.topology.conversationId
    request.topology.conversationVersion request.topology.nextOrdinal).mapError StoreRefusal.projected
  return (store, {
    messageId := request.candidates.messageId
    workId := request.candidates.workId
    workOrdinal := request.topology.nextOrdinal
    committedCursor := queuedOffset })

def conversationCreatedEvent (conversationId : ConversationId) :
    Except StoreRefusal JournalEventId :=
  match store.journal.filter (fun event => event.streamId == .conversation conversationId &&
    (match event.payload with | .conversationCreated _ => true | _ => false)) with
  | [created] => .ok created.eventId
  | _ => .error .inconsistentSchema

end IngressStore

end Craxii
