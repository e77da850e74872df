import Craxii.Store.CommandsCore

/-!
Embedding of the inbound channel path: the verified event of `application/channel_ingress.rs`, the
classification of `adapters/sqlite/channel_ingress.rs`, and the moves of the whole store.
-/

namespace Craxii

open ExceptRules Tables Utf8Text Framing

inductive UnsupportedInboundKind
  | nonText | edit | reaction | other
deriving DecidableEq

def UnsupportedInboundKind.tag : UnsupportedInboundKind → UInt8
  | .nonText => 1
  | .edit => 2
  | .reaction => 3
  | .other => 4

inductive VerifiedInboundPayload
  | text (content : MessageContent)
  | unsupported (kind : UnsupportedInboundKind)
deriving DecidableEq

structure VerifiedInboundEvent where
  channelAccountId : ChannelAccountId
  externalEventId : ExternalId
  externalMessageId : Option ExternalId
  (senderSubjectId externalConversationId : ExternalId)
  externalThreadId : Option ExternalId
  payload : VerifiedInboundPayload
  providerOccurredAt : Option UtcTimestamp
  observedAt : UtcTimestamp
deriving DecidableEq

def VerifiedInboundPayload.materialBytes : VerifiedInboundPayload → List UInt8
  | .text content => 1 :: frame content.canonicalBytes
  | .unsupported kind => [2, kind.tag]

/-- The bytes `material_digest` is taken over. The canonical text of an instant is the
date library's; the event's own id and the time it was observed are not part of it. -/
def VerifiedInboundEvent.material (shown : UtcTimestamp → List UInt8) (event : VerifiedInboundEvent) :
    List UInt8 :=
  toUtf8 "craxii.inbound-material".toList ++ 1 ::
    (frame (toUtf8 event.channelAccountId.toText) ++
      (frame (toUtf8 event.senderSubjectId.text) ++
        (frame (toUtf8 event.externalConversationId.text) ++
          (optionalFrame (event.externalThreadId.map fun id => toUtf8 id.text) ++
            (optionalFrame (event.externalMessageId.map fun id => toUtf8 id.text) ++
              (event.payload.materialBytes ++
                optionalFrame (event.providerOccurredAt.map shown)))))))

structure InboundCandidates where
  inboundDeliveryId : InboundDeliveryId
  messageId : MessageId
  workId : WorkId
  (acceptanceEventId queuedEventId cancellationEventId : JournalEventId)
  outboundDeliveryId : OutboundDeliveryId
deriving DecidableEq

/-- A delivery profile, by its provider and by how many parts it cuts the two
acknowledgement texts into. -/
structure AcknowledgementProfile where
  providerId : ChannelProviderId
  (appliedParts noOpParts : Nat)
deriving DecidableEq

def AcknowledgementProfile.parts (profile : AcknowledgementProfile) :
    ControlAcknowledgementOutcome → Nat
  | .applied => profile.appliedParts
  | .noOp => profile.noOpParts

structure ClassifyInboundRequest extends VerifiedInboundEvent where
  materialDigest : Sha256Digest
  isControl : Bool
  deliveryProfile : Option AcknowledgementProfile
  candidates : InboundCandidates
deriving DecidableEq

inductive ChannelIngressStoreErrorKind
  | contradictoryReplay | storage | inconsistent | invalid
deriving DecidableEq

inductive DurableInboundOutcome
  | messageAccepted (inboundDeliveryId : InboundDeliveryId) (messageId : MessageId) (workId : WorkId)
      (workOrdinal : ConversationWorkOrdinal) (committedCursor : Nat)
  | controlApplied (inboundDeliveryId : InboundDeliveryId) (targetWorkId : WorkId)
  | controlNoOp (inboundDeliveryId : InboundDeliveryId)
  | unsupported (inboundDeliveryId : InboundDeliveryId)
  | rejected (inboundDeliveryId : InboundDeliveryId)
deriving DecidableEq

inductive InboundAdmissionDisposition
  | newlyClassified
  | duplicate
deriving DecidableEq

inductive InboundPostCommitEffect
  | none
  | messageCommitted (workId : WorkId) (cursor : Nat)
  | activeCancellationCommitted (workId : WorkId) (cursor : Nat)
  | directCancellationCommitted (workId : WorkId) (cursor : Nat)
  | controlAcknowledgementCommitted
deriving DecidableEq

structure ClassifiedInbound where
  disposition : InboundAdmissionDisposition
  outcome : DurableInboundOutcome
  effect : InboundPostCommitEffect
deriving DecidableEq

def ClassifiedInbound.newly (outcome : DurableInboundOutcome) (effect : InboundPostCommitEffect) :
    ClassifiedInbound :=
  ⟨.newlyClassified, outcome, effect⟩

def inconsistentStore : StoreRefusal → ChannelIngressStoreErrorKind :=
  fun _ => .inconsistent

def threadText (threadId : Option ExternalId) : Text :=
  (threadId.map fun id => id.text).getD []

variable (store : IngressStore) (event : VerifiedInboundEvent)

def InboundDeliveryRow.matchesEvent (row : InboundDeliveryRow) : Bool :=
  row.channelAccountId == event.channelAccountId && row.externalEventId == event.externalEventId

def InboundDeliveryRow.matchesMessage (row : InboundDeliveryRow) : Bool :=
  event.externalMessageId.isSome && row.channelAccountId == event.channelAccountId &&
    row.externalConversationId == event.externalConversationId &&
    threadText row.externalThreadId == threadText event.externalThreadId &&
    row.externalMessageId == event.externalMessageId

namespace IngressStore

def loadExistingByEvent : Option InboundDeliveryRow :=
  store.inbound.find? (·.matchesEvent event)

def loadExistingByMessage : Option InboundDeliveryRow :=
  store.inbound.find? (·.matchesMessage event)

def messageCursor (workId : WorkId) : Except ChannelIngressStoreErrorKind Nat :=
  match (store.journal.filter fun event =>
    event.streamId == .work workId && event.payload.isWorkQueued) with
  | [event] => .ok event.journalOffset
  | _ => .error .inconsistent

def duplicateOutcome (existing : InboundDeliveryRow) (digest : Sha256Digest) :
    Except ChannelIngressStoreErrorKind DurableInboundOutcome := do
  refuseIf (existing.materialDigest != digest) .contradictoryReplay
  let classified ← orRefuse existing.classified .inconsistent
  match classified.1 with
  | .message _ messageId workId =>
    let row ← orRefuse (store.works.find? fun row => row.id == workId) .inconsistent
    let cursor ← store.messageCursor workId
    return .messageAccepted existing.id messageId workId row.ordinal cursor
  | .control _ (some targetWorkId) => return .controlApplied existing.id targetWorkId
  | .control _ none => return .controlNoOp existing.id
  | .unsupported => return .unsupported existing.id
  | .rejected => return .rejected existing.id

def loadAccount (channelAccountId : ChannelAccountId) :
    Except ChannelIngressStoreErrorKind ChannelAccountRow :=
  orRefuse (store.channels.accounts.find? fun row => row.id == channelAccountId) .inconsistent

end IngressStore

variable (request : ClassifyInboundRequest)

def ClassifyInboundRequest.receivedRow : InboundDeliveryRow where
  id := request.candidates.inboundDeliveryId
  channelAccountId := request.channelAccountId
  externalEventId := request.externalEventId
  externalMessageId := request.externalMessageId
  subjectId := request.senderSubjectId
  externalConversationId := request.externalConversationId
  externalThreadId := request.externalThreadId
  materialDigest := request.materialDigest
  providerOccurredAt := request.providerOccurredAt
  receivedAt := request.observedAt
  classified := none

def VerifiedInboundPayload.isText : VerifiedInboundPayload → Bool
  | .text _ => true
  | .unsupported _ => false

structure AuthorizedTopology extends ResolvedTopology where
  nextOrdinal : ConversationWorkOrdinal
  conversationVersion : ProjectionVersion
  conversationCreatedEventId : JournalEventId

namespace IngressStore

def insertReceived :
    Except ChannelIngressStoreErrorKind IngressStore := do
  refuseIf (request.payload.isText && request.externalMessageId.isNone) .invalid
  refuseIf (store.inbound.any fun row => row.id == request.candidates.inboundDeliveryId ||
    row.matchesEvent request.toVerifiedInboundEvent ||
    row.matchesMessage request.toVerifiedInboundEvent) .inconsistent
  return { store with inbound := store.inbound ++ [request.receivedRow] }

def classifyRow (id : InboundDeliveryId)
    (classification : InboundClassification) (classifiedAt : UtcTimestamp) :
    Except ChannelIngressStoreErrorKind IngressStore := do
  let selects := fun (row : InboundDeliveryRow) => row.id == id && row.classified.isNone
  refuseIf (!store.inbound.any selects) .inconsistent
  return { store with
    inbound := update selects (fun row => { row with classified := some (classification, classifiedAt) })
      store.inbound }

def resolveAuthorizedTopology :
    Except ChannelIngressStoreErrorKind (Option AuthorizedTopology) := do
  match store.channels.identities.filter (fun row => row.channelAccountId == event.channelAccountId &&
    row.subjectId == event.senderSubjectId && row.active) with
  | [] => return none
  | [identity] =>
    refuseIf (!store.channels.activeUsers.contains identity.userId) .inconsistent
    match store.channels.bindings.filter (fun row =>
      row.channelAccountId == event.channelAccountId &&
      row.externalConversationId == event.externalConversationId &&
      threadText row.externalThreadId == threadText event.externalThreadId && row.active) with
    | [] => return none
    | [binding] =>
      if binding.externalIdentityId != identity.id || binding.userId != identity.userId then
        return none
      let conversation ← orRefuse
        (store.conversations.find? fun row => row.id == binding.conversationId) .inconsistent
      refuseIf (conversation.ownerUserId != identity.userId || !conversation.active) .inconsistent
      let created ← (store.conversationCreatedEvent binding.conversationId).mapError
        inconsistentStore
      return some {
        externalIdentityId := identity.id
        bindingId := binding.id
        userId := identity.userId
        conversationId := binding.conversationId
        nextOrdinal := conversation.nextWorkOrdinal
        conversationVersion := conversation.stateVersion
        conversationCreatedEventId := created }
    | _ => .error .inconsistent
  | _ => .error .inconsistent

end IngressStore

variable (authorized : AuthorizedTopology)

def ClassifyInboundRequest.admission (content : MessageContent) : CanonicalMessageAdmission where
  topology := {
    userId := authorized.userId
    conversationId := authorized.conversationId
    nextOrdinal := authorized.nextOrdinal
    conversationVersion := authorized.conversationVersion
    conversationCreatedEventId := authorized.conversationCreatedEventId }
  origin := .inboundDelivery request.candidates.inboundDeliveryId
  content := content
  replyBindingId := some authorized.bindingId
  admittedAt := request.observedAt
  candidates := {
    messageId := request.candidates.messageId
    workId := request.candidates.workId
    acceptanceEventId := request.candidates.acceptanceEventId
    queuedEventId := request.candidates.queuedEventId }

def WorkItemRow.ordinalBefore (first second : WorkItemRow) : Prop :=
  first.ordinal.value < second.ordinal.value ∨
    first.ordinal.value = second.ordinal.value ∧ first.id.toText ≤ second.id.toText

instance (first second : WorkItemRow) : Decidable (first.ordinalBefore second) :=
  inferInstanceAs (Decidable (_ ∨ _))

namespace IngressStore

def classifyMessage (content : MessageContent) :
    Except ChannelIngressStoreErrorKind (IngressStore × ClassifiedInbound) := do
  let store ← store.classifyRow request.candidates.inboundDeliveryId
    (.message authorized.toResolvedTopology request.candidates.messageId request.candidates.workId)
    request.observedAt
  let (store, admission) ← (store.admitCanonicalMessage (request.admission authorized content)).mapError
    inconsistentStore
  return (store, .newly
    (.messageAccepted request.candidates.inboundDeliveryId admission.messageId admission.workId
      admission.workOrdinal admission.committedCursor)
    (.messageCommitted admission.workId admission.committedCursor))

def selectControlTarget (conversationId : ConversationId) :
    Except ChannelIngressStoreErrorKind (Option WorkItemRow) :=
  match store.works.filter (fun row =>
    row.conversationId == conversationId && row.work.state.isActive) with
  | [row] => .ok (some row)
  | [] => .ok ((store.works.filter fun row =>
    row.conversationId == conversationId && row.work.state == .queued).insertionSort
      WorkItemRow.ordinalBefore).head?
  | _ => .error .inconsistent

def insertAcknowledgement (account : ChannelAccountRow) (outcome : ControlAcknowledgementOutcome) :
    Except ChannelIngressStoreErrorKind IngressStore := do
  refuseIf (request.deliveryProfile.any fun profile => profile.providerId != account.providerId) .invalid
  refuseIf (request.deliveryProfile.any fun profile => profile.parts outcome != 1) .invalid
  refuseIf (store.acknowledgements.any fun row =>
    row.outboundDeliveryId == request.candidates.outboundDeliveryId ||
      row.inboundDeliveryId == request.candidates.inboundDeliveryId) .inconsistent
  return { store with
    acknowledgements := store.acknowledgements ++ [AcknowledgementRow.mk
      request.candidates.outboundDeliveryId request.candidates.inboundDeliveryId outcome
      request.observedAt] }

def controlEffect (workId : WorkId) (mutation : CancellationMutation) :
    Except ChannelIngressStoreErrorKind InboundPostCommitEffect :=
  match mutation.resultingState, mutation.committedCursor with
  | .cancelRequested, some cursor => .ok (.activeCancellationCommitted workId cursor)
  | .cancelled, some cursor => .ok (.directCancellationCommitted workId cursor)
  | .cancelRequested, none => .ok .controlAcknowledgementCommitted
  | _, _ => .error .inconsistent

def classifyControl (account : ChannelAccountRow) :
    Except ChannelIngressStoreErrorKind (IngressStore × ClassifiedInbound) := do
  let target ← store.selectControlTarget authorized.conversationId
  let store ← store.classifyRow request.candidates.inboundDeliveryId
    (.control authorized.toResolvedTopology (target.map fun row => row.id)) request.observedAt
  let store ← store.insertAcknowledgement request account
    (if target.isSome then .applied else .noOp)
  match target with
  | none =>
    return (store, .newly (.controlNoOp request.candidates.inboundDeliveryId)
      .controlAcknowledgementCommitted)
  | some row =>
    let (store, mutation) ← (store.applyCancellation row request.observedAt
      request.candidates.cancellationEventId
      (.channel authorized.userId request.candidates.inboundDeliveryId)).mapError inconsistentStore
    let effect ← controlEffect row.id mutation
    return (store, .newly (.controlApplied request.candidates.inboundDeliveryId row.id) effect)

def classifyWithoutResolution
    (classification : InboundClassification) (outcome : InboundDeliveryId → DurableInboundOutcome) :
    Except ChannelIngressStoreErrorKind (IngressStore × ClassifiedInbound) := do
  let store ← store.classifyRow request.candidates.inboundDeliveryId classification request.observedAt
  return (store, .newly (outcome request.candidates.inboundDeliveryId) .none)

def classifyNew :
    Except ChannelIngressStoreErrorKind (IngressStore × ClassifiedInbound) := do
  let account ← store.loadAccount request.channelAccountId
  let store ← store.insertReceived request
  if !account.active then store.classifyWithoutResolution request .rejected .rejected
  else match ← store.resolveAuthorizedTopology request.toVerifiedInboundEvent with
    | none => store.classifyWithoutResolution request .rejected .rejected
    | some authorized =>
      match request.payload with
      | .unsupported _ => store.classifyWithoutResolution request .unsupported .unsupported
      | .text content =>
        if request.isControl then store.classifyControl request authorized account
        else store.classifyMessage request authorized content

def existingDelivery : Except ChannelIngressStoreErrorKind (Option InboundDeliveryRow) :=
  match store.loadExistingByEvent event, store.loadExistingByMessage event with
  | some byEvent, some byMessage =>
    if byEvent.id != byMessage.id then .error .inconsistent else .ok (some byEvent)
  | some byEvent, none => .ok (some byEvent)
  | none, byMessage => .ok byMessage

def classifyInbound :
    Except ChannelIngressStoreErrorKind (IngressStore × ClassifiedInbound) := do
  match ← store.existingDelivery request.toVerifiedInboundEvent with
  | some existing =>
    let outcome ← store.duplicateOutcome existing request.materialDigest
    return (store, ⟨.duplicate, outcome, .none⟩)
  | none => store.classifyNew request

end IngressStore

inductive IngressMove
  | createConversation (conversationId : ConversationId) (ownerUserId : UserId)
      (eventId cause : JournalEventId) (correlationId : CorrelationId) (createdAt : UtcTimestamp)
  | provisionDevice (deviceId : DeviceId) (userId : UserId)
  | revokeDevice (deviceId : DeviceId)
  | setRuntimes (rows : List RuntimeRow)
  | rewireChannels (topology : ChannelTopology)
  | recordEvidence (intent : JournalAppendIntent)
  | accept (request : AcceptUserMessageRequest)
  | cancel (request : RequestCancellationRequest)
  | classify (request : ClassifyInboundRequest)
  | claim (runtimeId : RuntimeInstanceId) (eventId : JournalEventId) (claimedAt : UtcTimestamp)
  | advance (workId : WorkId) (request : WorkTransitionRequest) (actor : JournalActor)
      (eventId : JournalEventId) (recordedAt : UtcTimestamp)

def ingressStep (sha256 : List UInt8 → Sha256Digest) (store : IngressStore) :
    IngressMove → Option IngressStore
  | .createConversation conversationId ownerUserId eventId cause correlationId createdAt =>
    (store.createConversation conversationId ownerUserId eventId cause correlationId
      createdAt).toOption
  | .provisionDevice deviceId userId => (store.provisionDevice deviceId userId).toOption
  | .revokeDevice deviceId => some (store.revokeDevice deviceId)
  | .setRuntimes rows => some { store with runtimes := rows }
  | .rewireChannels topology => some { store with channels := topology }
  | .recordEvidence intent => (store.recordEvidence intent).toOption
  | .accept request => (acceptMessage sha256 store request).toOption.map Prod.fst
  | .cancel request => (requestCancellation sha256 store request).toOption.map Prod.fst
  | .classify request => (store.classifyInbound request).toOption.map Prod.fst
  | .claim runtimeId eventId claimedAt =>
    (store.claimNext runtimeId eventId claimedAt).toOption.map Prod.fst
  | .advance workId request actor eventId recordedAt =>
    (store.advanceWork workId request actor eventId recordedAt).toOption

end Craxii
