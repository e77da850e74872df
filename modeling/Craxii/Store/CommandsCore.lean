import Craxii.Store.IngressCore

/-!
Embedding of the native commands of `stage9.rs`, the shared cancellation of `cancellation.rs`,
`claim_next` of `stage10.rs` and the transitions committed for a claimed work.
-/

namespace Craxii

open ExceptRules Tables Utf8Text

inductive CommandRefusal
  | idempotencyConflict
  | targetNotFound
  | store (refusal : StoreRefusal)

structure AcceptUserMessageRequest where
  deviceId : DeviceId
  userId : UserId
  idempotencyKey : IdempotencyKey
  clientMessageId : ClientMessageId
  conversationId : ConversationId
  content : MessageContent
  requestHash : Sha256Digest
  acceptedAt : UtcTimestamp
  candidates : CanonicalMessageCandidates
deriving DecidableEq

structure RequestCancellationRequest where
  deviceId : DeviceId
  userId : UserId
  idempotencyKey : IdempotencyKey
  clientCommandId : ClientCommandId
  workId : WorkId
  requestHash : Sha256Digest
  requestedAt : UtcTimestamp
  eventId : JournalEventId

def StoredResponse.ofMessage (receipt : MessageCommandReceipt) : StoredResponse :=
  .message 1 .queued receipt

def StoredResponse.ofCancellation (receipt : CancellationCommandReceipt) : StoredResponse :=
  .cancellation 1 receipt.workId receipt.resultingWorkState receipt.cleanup.isPending
    receipt.committedCursor

def decodeMessageReceipt (row : ClientCommandRow) : Except StoreRefusal MessageCommandReceipt :=
  match row.response with
  | .message version workState receipt => do
      refuseIf (version != 1 || row.responseHttpStatus != MessageCommandReceipt.httpStatus ||
        workState != .queued || receipt.committedCursor != row.committedCursor) .inconsistentSchema
      return receipt
  | .cancellation .. => .error .inconsistentSchema

def decodeCancellationReceipt (row : ClientCommandRow) :
    Except StoreRefusal CancellationCommandReceipt :=
  match row.response with
  | .message .. => .error .inconsistentSchema
  | .cancellation version workId resultingWorkState cleanupPending committedCursor => do
      refuseIf (version != 1 || committedCursor != row.committedCursor) .inconsistentSchema
      let receipt ← orRefuse (CancellationCommandReceipt.tryNew workId resultingWorkState
        (if cleanupPending then .pending else .notPending) committedCursor) .inconsistentSchema
      refuseIf (receipt.httpStatus != row.responseHttpStatus) .inconsistentSchema
      return receipt

namespace IngressStore

def loadCommandRow (store : IngressStore) (deviceId : DeviceId) (key : IdempotencyKey) :
    Option ClientCommandRow :=
  store.commands.find? fun row => row.deviceId == deviceId && row.idempotencyKey == key

def insertCommandRow (store : IngressStore) (row : ClientCommandRow) :
    Except CommandRefusal IngressStore := do
  refuseIf (store.loadCommandRow row.deviceId row.idempotencyKey).isSome .idempotencyConflict
  return { store with commands := store.commands ++ [row] }

def loadMessageTopology (store : IngressStore) (conversationId : ConversationId) (deviceId : DeviceId)
    (userId : UserId) : Except StoreRefusal CanonicalMessageTopology := do
  let device ← orRefuse (store.devices.find? fun row => row.id == deviceId && !row.revoked)
    .inconsistentSchema
  let conversation ← orRefuse
    (store.conversations.find? fun row => row.id == store.primaryConversationId) .inconsistentSchema
  refuseIf (conversation.id != conversationId || conversation.ownerUserId != userId ||
    device.userId != userId || !conversation.active) .inconsistentSchema
  let created ← store.conversationCreatedEvent conversation.id
  return {
    userId := conversation.ownerUserId
    conversationId := conversation.id
    nextOrdinal := conversation.nextWorkOrdinal
    conversationVersion := conversation.stateVersion
    conversationCreatedEventId := created }

end IngressStore

def AcceptUserMessageRequest.admission (request : AcceptUserMessageRequest)
    (topology : CanonicalMessageTopology) : CanonicalMessageAdmission where
  topology := topology
  origin := .native request.deviceId request.clientMessageId
  content := request.content
  replyBindingId := none
  admittedAt := request.acceptedAt
  candidates := request.candidates

def AcceptUserMessageRequest.material (request : AcceptUserMessageRequest) : List UInt8 :=
  messageMaterial request.conversationId request.clientMessageId request.content

def AcceptUserMessageRequest.commandRow (request : AcceptUserMessageRequest)
    (receipt : MessageCommandReceipt) : ClientCommandRow where
  deviceId := request.deviceId
  idempotencyKey := request.idempotencyKey
  kind := .message
  requestHash := request.requestHash
  responseHttpStatus := MessageCommandReceipt.httpStatus
  response := .ofMessage receipt
  committedCursor := receipt.committedCursor
  createdAt := request.acceptedAt

def acceptMessage (sha256 : List UInt8 → Sha256Digest) (store : IngressStore)
    (request : AcceptUserMessageRequest) :
    Except CommandRefusal (IngressStore × CommandOutcome MessageCommandReceipt) := do
  refuseIf (request.idempotencyKey != .forMessage request.clientMessageId) (.store .internalInvariant)
  refuseIf (request.requestHash != sha256 request.material) (.store .internalInvariant)
  match store.loadCommandRow request.deviceId request.idempotencyKey with
  | some row =>
    refuseIf (row.kind != .message || row.requestHash != request.requestHash) .idempotencyConflict
    let receipt ← (decodeMessageReceipt row).mapError .store
    return (store, .replayed receipt)
  | none =>
    let topology ← (store.loadMessageTopology request.conversationId request.deviceId
      request.userId).mapError .store
    let (store, admission) ← (store.admitCanonicalMessage (request.admission topology)).mapError .store
    let receipt : MessageCommandReceipt := {
      conversationId := topology.conversationId
      messageId := admission.messageId
      workId := admission.workId
      workOrdinal := admission.workOrdinal
      committedCursor := admission.committedCursor }
    let store ← store.insertCommandRow (request.commandRow receipt)
    return (store, .committed receipt)

def representativeTerminalReason (work : WorkLifecycleSnapshot) :
    Except StoreRefusal (Option WorkTerminalReason) :=
  match work.state, work.terminalReason with
  | .completed, some (.completion reason) => .ok (some (.completion reason))
  | .failed, _ => .ok (some (.failure .providerExhausted))
  | .cancelled, some (.cancellation reason) => .ok (some (.cancellation reason))
  | .interrupted, _ => .ok (some (.interruption .runtimeOwnershipLost))
  | .queued, none | .running, none | .waitingOnModel, none | .waitingOnTool, none
  | .cancelRequested, none => .ok none
  | _, _ => .error .inconsistentSchema

def decodeLoadedCancellationWork (row : WorkItemRow) : Except StoreRefusal WorkLifecycleSnapshot := do
  let terminalReason ← representativeTerminalReason row.work
  refuseIf (!workShapeOk row.work.state row.work.runtimeOwner row.work.currentAttempt
    row.work.cancellationReason terminalReason) .inconsistentSchema
  return { row.work with terminalReason }

inductive CancellationJournalOrigin
  | native (deviceId : DeviceId)
  | channel (userId : UserId) (inboundDeliveryId : InboundDeliveryId)

structure CancellationMutation where
  resultingState : WorkState
  committedCursor : Option Nat

def CancellationJournalOrigin.actor : CancellationJournalOrigin → JournalActor
  | .native deviceId => .user (some deviceId)
  | .channel userId _ => .userV2 userId

def CancellationJournalOrigin.payload (origin : CancellationJournalOrigin)
    (transition : WorkTransitionV1) : Except StoreRefusal JournalEventPayload :=
  match origin, transition.toState with
  | .native _, .cancelRequested => .ok (.workTransition .workCancelRequested transition)
  | .native _, .cancelled => .ok (.workTransition .workCancelled transition)
  | .channel _ inboundDeliveryId, .cancelRequested =>
    .ok (.workCancelRequestedV2 transition inboundDeliveryId)
  | .channel _ inboundDeliveryId, .cancelled => .ok (.workCancelledV2 transition inboundDeliveryId)
  | _, _ => .error .internalInvariant

def transitionIntent (row : WorkItemRow) (next : WorkLifecycleSnapshot) (eventId cause : JournalEventId)
    (actor : JournalActor) (payload : JournalEventPayload) (recordedAt : UtcTimestamp) :
    JournalAppendIntent where
  eventId := eventId
  streamId := .work row.id
  conversationId := some row.conversationId
  workId := some row.id
  causationEventId := some cause
  correlationId := row.correlationId
  actor := actor
  runtimeInstanceId := next.runtimeOwner
  payload := payload
  recordedAt := recordedAt
  occurredAt := none

def IngressStore.applyCancellation (store : IngressStore) (row : WorkItemRow)
    (requestedAt : UtcTimestamp) (eventId : JournalEventId) (origin : CancellationJournalOrigin) :
    Except StoreRefusal (IngressStore × CancellationMutation) := do
  let snapshot ← decodeLoadedCancellationWork row
  match cancellationRequest snapshot.state .userRequest with
  | none => return (store, ⟨snapshot.state, none⟩)
  | some request =>
    let decision ← orRefuse
      (decideWorkTransition snapshot (.forSnapshot snapshot) request).toOption .inconsistentSchema
    let next := decision.next
    let store ← (store.guardedWorkUpdate snapshot next {
      startedAt := row.startedAt
      cancelRequestedAt := if next.state = .cancelRequested then some requestedAt else none
      terminalAt := if next.state = .cancelled then some requestedAt else none }).mapError
        StoreRefusal.projected
    let cause ← store.latestWorkEvent row.id
    let payload ← origin.payload (.between snapshot next requestedAt)
    let (store, offset) ← store.appendEvent
      (transitionIntent row next eventId cause origin.actor payload requestedAt)
    return (store, ⟨next.state, some offset⟩)

def IngressStore.loadCancellationWork (store : IngressStore) (workId : WorkId) (deviceId : DeviceId)
    (userId : UserId) : Except CommandRefusal WorkItemRow := do
  let row ← orRefuse (store.works.find? fun row => row.id == workId) .targetNotFound
  let conversation ← orRefuse
    (store.conversations.find? fun other => other.id == row.conversationId) .targetNotFound
  let device ← orRefuse (store.devices.find? fun other => other.id == deviceId && !other.revoked)
    .targetNotFound
  refuseIf (store.primaryConversationId != row.conversationId || conversation.ownerUserId != userId ||
    device.userId != userId) .targetNotFound
  return row

def cleanupFor (state : WorkState) : CancellationCleanupDisposition :=
  if state = .cancelRequested then .pending else .notPending

def RequestCancellationRequest.material (request : RequestCancellationRequest) : List UInt8 :=
  cancellationMaterial request.clientCommandId request.workId

def RequestCancellationRequest.commandRow (request : RequestCancellationRequest)
    (receipt : CancellationCommandReceipt) : ClientCommandRow where
  deviceId := request.deviceId
  idempotencyKey := request.idempotencyKey
  kind := .cancel
  requestHash := request.requestHash
  responseHttpStatus := receipt.httpStatus
  response := .ofCancellation receipt
  committedCursor := receipt.committedCursor
  createdAt := request.requestedAt

def IngressStore.journalHead (store : IngressStore) : Except StoreRefusal Nat :=
  orRefuse (store.journal.getLast?.map fun event => event.journalOffset) .inconsistentSchema

def requestCancellation (sha256 : List UInt8 → Sha256Digest) (store : IngressStore)
    (request : RequestCancellationRequest) :
    Except CommandRefusal (IngressStore × CommandOutcome CancellationCommandReceipt) := do
  refuseIf (request.idempotencyKey != .forCancellation request.clientCommandId)
    (.store .internalInvariant)
  refuseIf (request.requestHash != sha256 request.material) (.store .internalInvariant)
  match store.loadCommandRow request.deviceId request.idempotencyKey with
  | some row =>
    refuseIf (row.kind != .cancel || row.requestHash != request.requestHash) .idempotencyConflict
    let receipt ← (decodeCancellationReceipt row).mapError .store
    return (store, .replayed receipt)
  | none =>
    let work ← store.loadCancellationWork request.workId request.deviceId request.userId
    let (store, mutation) ← (store.applyCancellation work request.requestedAt request.eventId
      (.native request.deviceId)).mapError .store
    let cursor ← match mutation.committedCursor with
      | some cursor => .ok cursor
      | none => store.journalHead.mapError .store
    let receipt ← orRefuse (CancellationCommandReceipt.tryNew request.workId mutation.resultingState
      (cleanupFor mutation.resultingState) cursor) (.store .internalInvariant)
    let store ← store.insertCommandRow (request.commandRow receipt)
    return (store, .committed receipt)

def JournalEventPayload.isWorkQueued : JournalEventPayload → Bool
  | .workQueuedV2 _ => true
  | _ => false

namespace IngressStore

def queuedOffsets (store : IngressStore) (workId : WorkId) : List Nat :=
  (store.journal.filter fun event =>
    event.workId == some workId && event.payload.isWorkQueued).map fun event => event.journalOffset

def isConversationHead (store : IngressStore) (row : WorkItemRow) : Bool :=
  row.work.state == .queued && store.works.all fun other =>
    !(other.work.state == .queued && other.conversationId == row.conversationId) ||
      decide (row.ordinal.value ≤ other.ordinal.value)

structure ClaimCandidate where
  queuedOffset : Nat
  row : WorkItemRow

def ClaimCandidate.before (first second : ClaimCandidate) : Prop :=
  first.queuedOffset < second.queuedOffset ∨ first.queuedOffset = second.queuedOffset ∧
    (first.row.conversationId.toText < second.row.conversationId.toText ∨
      first.row.conversationId.toText = second.row.conversationId.toText ∧
      (first.row.ordinal.value < second.row.ordinal.value ∨
        first.row.ordinal.value = second.row.ordinal.value ∧
          first.row.id.toText ≤ second.row.id.toText))

instance (first second : ClaimCandidate) : Decidable (first.before second) :=
  inferInstanceAs (Decidable (_ ∨ _))

def claimCandidates (store : IngressStore) : Except StoreRefusal (List ClaimCandidate) := do
  let candidates ← (store.works.filter store.isConversationHead).mapM fun row =>
    match store.queuedOffsets row.id with
    | [queuedOffset] => Except.ok (ClaimCandidate.mk queuedOffset row)
    | _ => .error StoreRefusal.inconsistentSchema
  return candidates.insertionSort ClaimCandidate.before

structure ClaimedWork where
  row : WorkItemRow
  lifecycle : WorkLifecycleSnapshot
  offset : Nat

def startPayload (lifecycle next : WorkLifecycleSnapshot) (claimedAt : UtcTimestamp) :
    JournalEventPayload :=
  .workTransition .workStarted (.between lifecycle next claimedAt)

def claimCandidate (store : IngressStore) (candidate : WorkItemRow) (runtimeId : RuntimeInstanceId)
    (eventId : JournalEventId) (claimedAt : UtcTimestamp) :
    Except StoreRefusal (IngressStore × ClaimedWork) := do
  let row ← orRefuse (store.works.find? fun row => row.id == candidate.id) .inconsistentSchema
  let lifecycle ← decodeActiveWorkRow row.work
  refuseIf (lifecycle.state != .queued || row.conversationId != candidate.conversationId ||
    row.ordinal != candidate.ordinal || lifecycle.runtimeOwner.isSome ||
    lifecycle.currentAttempt != .none || row.startedAt.isSome || row.cancelRequestedAt.isSome)
    .inconsistentSchema
  let decision ← orRefuse (decideWorkTransition lifecycle (.forSnapshot lifecycle)
    (.start runtimeId)).toOption .internalInvariant
  let store ← (store.guardedWorkUpdate lifecycle decision.next
    ⟨some claimedAt, none, none⟩).mapError fun _ => .conflict
  let cause ← store.latestWorkEvent row.id
  let (store, offset) ← store.appendEvent (transitionIntent row decision.next eventId cause
    (.runtime runtimeId) (startPayload lifecycle decision.next claimedAt) claimedAt)
  return (store, ⟨row, decision.next, offset⟩)

def claimNext (store : IngressStore) (runtimeId : RuntimeInstanceId) (eventId : JournalEventId)
    (claimedAt : UtcTimestamp) : Except StoreRefusal (IngressStore × Option ClaimedWork) := do
  let runtime ← orRefuse (store.runtimes.find? fun row => row.id == runtimeId) .conflict
  refuseIf (runtime.state != .running) .conflict
  if store.works.any fun row => row.work.state.isActive then return (store, none)
  match ← store.claimCandidates with
  | [] => return (store, none)
  | candidate :: _ =>
    let (store, claimed) ← store.claimCandidate candidate.row runtimeId eventId claimedAt
    return (store, some claimed)

/-! The other transactions that move works, events and topology. -/

/-- The transitions a runner or the scheduler commits for a work it owns. A user's
cancellation and the claim are the transactions above. -/
def isOwnerRequest : WorkTransitionRequest → Bool
  | .start _ => false
  | .requestCancellation reason => reason == .gracefulShutdown
  | _ => true

def advanceWork (store : IngressStore) (workId : WorkId) (request : WorkTransitionRequest)
    (actor : JournalActor) (eventId : JournalEventId) (recordedAt : UtcTimestamp) :
    Except StoreRefusal IngressStore := do
  refuseIf (!isOwnerRequest request) .internalInvariant
  let row ← orRefuse (store.works.find? fun row => row.id == workId) .conflict
  refuseIf (!row.work.state.isActive) .conflict
  let decision ← orRefuse (decideWorkTransition row.work (.forSnapshot row.work) request).toOption
    .conflict
  let next := decision.next
  let store ← store.guardedWorkUpdate row.work next {
    startedAt := row.startedAt
    cancelRequestedAt := if next.state = .cancelRequested then some recordedAt else none
    terminalAt := if next.state.isTerminal then some recordedAt else none }
  let cause ← store.latestWorkEvent row.id
  let (store, _) ← store.appendEvent (transitionIntent row next eventId cause actor
    (.workTransition decision.eventKind (.between row.work next recordedAt)) recordedAt)
  return store

def recordEvidence (store : IngressStore) (intent : JournalAppendIntent) :
    Except StoreRefusal IngressStore := do
  refuseIf (match intent.payload with | .evidence _ => false | _ => true) .internalInvariant
  let (store, _) ← store.appendEvent intent
  return store

def createConversation (store : IngressStore) (conversationId : ConversationId) (ownerUserId : UserId)
    (eventId cause : JournalEventId) (correlationId : CorrelationId) (createdAt : UtcTimestamp) :
    Except StoreRefusal IngressStore := do
  refuseIf (store.conversations.any fun row =>
    row.id == conversationId || row.ownerUserId == ownerUserId) .internalInvariant
  let store := { store with
    conversations := store.conversations ++ [ConversationRow.mk conversationId ownerUserId true .one .one] }
  let (store, _) ← store.appendEvent {
    eventId := eventId
    streamId := .conversation conversationId
    conversationId := some conversationId
    workId := none
    causationEventId := some cause
    correlationId := correlationId
    actor := .craxii
    runtimeInstanceId := none
    payload := .conversationCreated conversationId
    recordedAt := createdAt
    occurredAt := none }
  return store

def provisionDevice (store : IngressStore) (deviceId : DeviceId) (userId : UserId) :
    Except StoreRefusal IngressStore := do
  refuseIf (store.devices.any fun row => row.id == deviceId) .conflict
  return { store with devices := store.devices ++ [DeviceRow.mk deviceId userId false] }

def revokeDevice (store : IngressStore) (deviceId : DeviceId) : IngressStore :=
  { store with
    devices := update (fun row => row.id == deviceId) (fun row => { row with revoked := true })
      store.devices }

end IngressStore

end Craxii
