import Craxii.Store.LedgerRefinement

/-!
What one committed transaction of the store can do, case by case.
-/

namespace Craxii

open ExceptRules Tables GuardedRun

def ClassifyInboundRequest.classifiedRow (request : ClassifyInboundRequest)
    (classification : InboundClassification) : InboundDeliveryRow :=
  { request.receivedRow with classified := some (classification, request.observedAt) }

def AuthorizedTopology.canonical (authorized : AuthorizedTopology) : CanonicalMessageTopology where
  userId := authorized.userId
  conversationId := authorized.conversationId
  nextOrdinal := authorized.nextOrdinal
  conversationVersion := authorized.conversationVersion
  conversationCreatedEventId := authorized.conversationCreatedEventId

namespace IngressStore

def deliver (store : IngressStore) (request : ClassifyInboundRequest)
    (classification : InboundClassification) : IngressStore :=
  { store with inbound := store.inbound ++ [request.classifiedRow classification] }

def acknowledge (store : IngressStore) (request : ClassifyInboundRequest)
    (outcome : ControlAcknowledgementOutcome) : IngressStore :=
  { store with
    acknowledgements := store.acknowledgements ++ [AcknowledgementRow.mk
      request.candidates.outboundDeliveryId request.candidates.inboundDeliveryId outcome
      request.observedAt] }

def withCommand (store : IngressStore) (row : ClientCommandRow) : IngressStore :=
  { store with commands := store.commands ++ [row] }

end IngressStore

structure FreshDelivery (store : IngressStore) (request : ClassifyInboundRequest) : Prop where
  id : ∀ row ∈ store.inbound, row.id ≠ request.candidates.inboundDeliveryId
  event : ∀ row ∈ store.inbound, row.matchesEvent request.toVerifiedInboundEvent = false
  message : ∀ row ∈ store.inbound, row.matchesMessage request.toVerifiedInboundEvent = false

inductive Classified (store : IngressStore) (request : ClassifyInboundRequest) :
    IngressStore → ClassifiedInbound → Prop
  | duplicate (existing : InboundDeliveryRow) (outcome : DurableInboundOutcome)
      (found : store.existingDelivery request.toVerifiedInboundEvent = .ok (some existing))
      (same : store.duplicateOutcome existing request.materialDigest = .ok outcome) :
      Classified store request store ⟨.duplicate, outcome, .none⟩
  | rejected (fresh : FreshDelivery store request) :
      Classified store request (store.deliver request .rejected)
        (.newly (.rejected request.candidates.inboundDeliveryId) .none)
  | unsupported (fresh : FreshDelivery store request) :
      Classified store request (store.deliver request .unsupported)
        (.newly (.unsupported request.candidates.inboundDeliveryId) .none)
  | message (fresh : FreshDelivery store request) (authorized : AuthorizedTopology)
      (content : MessageContent) (nextOrdinal : ConversationWorkOrdinal)
      (nextVersion : ProjectionVersion)
      (can : store.CanAdmit (request.admission authorized content) nextOrdinal) :
      Classified store request
        ((store.deliver request (.message authorized.toResolvedTopology request.candidates.messageId
          request.candidates.workId)).withLedger
          (store.toLedger.admitMessage (request.admission authorized content) nextOrdinal nextVersion))
        (.newly (.messageAccepted request.candidates.inboundDeliveryId request.candidates.messageId
          request.candidates.workId authorized.nextOrdinal (store.journal.length + 2))
          (.messageCommitted request.candidates.workId (store.journal.length + 2)))
  | noTarget (fresh : FreshDelivery store request) (authorized : AuthorizedTopology)
      (found : TopologyFound store.toLedger authorized.canonical) :
      Classified store request
        ((store.deliver request (.control authorized.toResolvedTopology none)).acknowledge request .noOp)
        (.newly (.controlNoOp request.candidates.inboundDeliveryId) .controlAcknowledgementCommitted)
  | alreadyRequested (fresh : FreshDelivery store request) (authorized : AuthorizedTopology)
      (found : TopologyFound store.toLedger authorized.canonical) (row : WorkItemRow)
      (member : row ∈ store.works) (home : row.conversationId = authorized.conversationId)
      (requested : row.work.state = .cancelRequested) :
      Classified store request
        ((store.deliver request (.control authorized.toResolvedTopology (some row.id))).acknowledge
          request .applied)
        (.newly (.controlApplied request.candidates.inboundDeliveryId row.id)
          .controlAcknowledgementCommitted)
  | cancelled (fresh : FreshDelivery store request) (authorized : AuthorizedTopology)
      (found : TopologyFound store.toLedger authorized.canonical) (move : WorkMove)
      (home : move.row.conversationId = authorized.conversationId)
      (origin : move.origin = .user (.channel authorized.userId request.candidates.inboundDeliveryId))
      (committedAt : move.committedAt = request.observedAt) (can : store.CanMove move)
      (effect : InboundPostCommitEffect) :
      Classified store request
        (((store.deliver request (.control authorized.toResolvedTopology (some move.row.id))).acknowledge
          request .applied).withLedger (store.toLedger.move move))
        (.newly (.controlApplied request.candidates.inboundDeliveryId move.row.id) effect)

section Deliveries

variable {store next : IngressStore} {request : ClassifyInboundRequest} {result : ClassifiedInbound}

theorem insertReceived_eq_ok (received : store.insertReceived request = .ok next) :
    FreshDelivery store request ∧
      next = { store with inbound := store.inbound ++ [request.receivedRow] } := by
  simp only [IngressStore.insertReceived, bind_eq_ok, refuseIf_eq_ok, pure_eq_ok,
    exists_const, List.any_eq_false, Bool.or_eq_true, beq_iff_eq, not_or, Bool.not_eq_true] at received
  obtain ⟨_, fresh, rfl⟩ := received
  exact ⟨⟨fun row member => (fresh row member).1.1, fun row member => (fresh row member).1.2,
    fun row member => (fresh row member).2⟩, rfl⟩

theorem classifyRow_eq_ok (fresh : FreshDelivery store request) {classification : InboundClassification}
    (classified : IngressStore.classifyRow
      { store with inbound := store.inbound ++ [request.receivedRow] }
      request.candidates.inboundDeliveryId classification request.observedAt = .ok next) :
    next = store.deliver request classification := by
  simp only [IngressStore.classifyRow, bind_eq_ok, refuseIf_eq_ok, pure_eq_ok,
    exists_const] at classified
  obtain ⟨_, rfl⟩ := classified
  have untouched : store.inbound.map (fun row => if (row.id == request.candidates.inboundDeliveryId &&
      row.classified.isNone) = true then { row with classified := some (classification, request.observedAt) }
      else row) = store.inbound := by
    refine (List.map_congr_left fun row member => ?_).trans (List.map_id _)
    simp [beq_false_of_ne (fresh.id row member)]
  simp only [IngressStore.deliver, update, List.map_append, untouched, List.map_cons, List.map_nil]
  simp [ClassifyInboundRequest.classifiedRow, ClassifyInboundRequest.receivedRow]

variable {authorized : AuthorizedTopology} {account : ChannelAccountRow}

theorem resolveAuthorizedTopology_eq_ok {event : VerifiedInboundEvent}
    (resolved : store.resolveAuthorizedTopology event = .ok (some authorized)) :
    TopologyFound store.toLedger authorized.canonical := by
  unfold IngressStore.resolveAuthorizedTopology at resolved
  split at resolved
  · cases resolved
  · rename_i identity _
    simp only [bind_eq_ok, refuseIf_eq_ok, exists_const] at resolved
    obtain ⟨_, resolved⟩ := resolved
    split at resolved
    · cases resolved
    · rename_i binding _
      split at resolved
      · cases resolved
      · simp only [bind_eq_ok, orRefuse_eq_ok, refuseIf_eq_ok, mapError_eq_ok, pure_eq_ok, Option.some.injEq, exists_const, Bool.or_eq_false_iff, bne_eq_false_iff_eq] at resolved
        obtain ⟨conversation, found, ⟨owner, _⟩, created, createdOk, rfl⟩ := resolved
        obtain ⟨member, same⟩ := mem_of_lookup found
        exact ⟨⟨conversation, member, same, rfl, owner⟩, conversationCreatedEvent_eq_ok createdOk⟩
    · cases resolved
  · cases resolved

theorem selectControlTarget_eq_ok {conversationId : ConversationId} {row : WorkItemRow}
    (selected : store.selectControlTarget conversationId = .ok (some row)) :
    row ∈ store.works ∧ row.conversationId = conversationId := by
  unfold IngressStore.selectControlTarget at selected
  split at selected
  · rename_i active only
    cases selected
    have listed : row ∈ store.works.filter _ := only ▸ List.mem_singleton_self row
    obtain ⟨member, chosen⟩ := List.mem_filter.mp listed
    simp only [Bool.and_eq_true, beq_iff_eq] at chosen
    exact ⟨member, chosen.1⟩
  · simp only [Except.ok.injEq] at selected
    have listed := (List.mem_insertionSort _).mp (List.mem_of_head? selected)
    obtain ⟨member, chosen⟩ := List.mem_filter.mp listed
    simp only [Bool.and_eq_true, beq_iff_eq] at chosen
    exact ⟨member, chosen.1⟩
  · cases selected

theorem insertAcknowledgement_eq_ok {outcome : ControlAcknowledgementOutcome}
    (inserted : store.insertAcknowledgement request account outcome = .ok next) :
    next = store.acknowledge request outcome := by
  simp only [IngressStore.insertAcknowledgement, bind_eq_ok, refuseIf_eq_ok, pure_eq_ok, exists_const] at inserted
  exact inserted.2.2.2.symm

theorem classifyControl_eq_ok (keyed : Keyed WorkItemRow.id store.works)
    (fresh : FreshDelivery store request)
    (found : TopologyFound store.toLedger authorized.canonical)
    (committed : IngressStore.classifyControl
      { store with inbound := store.inbound ++ [request.receivedRow] } request authorized account =
        .ok (next, result)) : Classified store request next result := by
  simp only [IngressStore.classifyControl, bind_eq_ok] at committed
  obtain ⟨target, selected, delivered, classified, acknowledged, inserted, branch⟩ := committed
  obtain rfl := classifyRow_eq_ok fresh classified
  obtain rfl := insertAcknowledgement_eq_ok inserted
  split at branch
  · simp only [pure_eq_ok, Prod.mk.injEq] at branch
    obtain ⟨rfl, rfl⟩ := branch
    exact .noTarget fresh authorized found
  · rename_i row
    simp only [bind_eq_ok, mapError_eq_ok, pure_eq_ok, Prod.mk.injEq] at branch
    obtain ⟨⟨after, mutation⟩, applied, effect, effectOk, rfl, rfl⟩ := branch
    obtain ⟨member, home⟩ := selectControlTarget_eq_ok selected
    rcases applyCancellation_eq_ok applied keyed member with ⟨unasked, rfl, rfl⟩ |
      ⟨move, rfl, origin, _, committedAt, can, rfl, rfl⟩
    · have requested : row.work.state = .cancelRequested := by
        unfold IngressStore.controlEffect at effectOk
        split at effectOk <;> simp_all
      have acknowledgedEffect : effect = .controlAcknowledgementCommitted := by
        simp only [IngressStore.controlEffect, requested, Except.ok.injEq] at effectOk
        exact effectOk.symm
      subst acknowledgedEffect
      exact .alreadyRequested fresh authorized found row member home requested
    · exact .cancelled fresh authorized found move home origin committedAt can effect

theorem classifyNew_eq_ok (ok : LedgerOk store.toLedger)
    (committed : store.classifyNew request = .ok (next, result)) : Classified store request next result := by
  simp only [IngressStore.classifyNew, bind_eq_ok] at committed
  obtain ⟨account, _, received, receivedOk, branch⟩ := committed
  obtain ⟨fresh, rfl⟩ := insertReceived_eq_ok receivedOk
  have plain : ∀ {classification : InboundClassification}
      {outcome : InboundDeliveryId → DurableInboundOutcome}, IngressStore.classifyWithoutResolution
        { store with inbound := store.inbound ++ [request.receivedRow] } request classification outcome =
        .ok (next, result) → next = store.deliver request classification ∧
          result = .newly (outcome request.candidates.inboundDeliveryId) .none := by
    intro classification outcome classified
    simp only [IngressStore.classifyWithoutResolution, bind_eq_ok, pure_eq_ok,
      Prod.mk.injEq] at classified
    obtain ⟨delivered, rowOk, rfl, rfl⟩ := classified
    exact ⟨classifyRow_eq_ok fresh rowOk, rfl⟩
  split at branch
  · obtain ⟨rfl, rfl⟩ := plain branch
    exact .rejected fresh
  · obtain ⟨resolved, resolvedOk, branch⟩ := bind_eq_ok.mp branch
    split at branch
    · obtain ⟨rfl, rfl⟩ := plain branch
      exact .rejected fresh
    · rename_i authorized
      have found : TopologyFound store.toLedger authorized.canonical :=
        resolveAuthorizedTopology_eq_ok resolvedOk
      split at branch
      · obtain ⟨rfl, rfl⟩ := plain branch
        exact .unsupported fresh
      · rename_i content _
        split at branch
        · exact classifyControl_eq_ok ok.queue.works fresh found branch
        · simp only [IngressStore.classifyMessage, bind_eq_ok, mapError_eq_ok, pure_eq_ok, Prod.mk.injEq] at branch
          obtain ⟨delivered, rowOk, ⟨after, admission⟩, admitted, rfl, rfl⟩ := branch
          obtain rfl := classifyRow_eq_ok fresh rowOk
          obtain ⟨nextOrdinal, nextVersion, can, rfl, rfl⟩ :=
            admitCanonicalMessage_eq_ok admitted ok.queue.conversations found
          exact .message fresh authorized content nextOrdinal nextVersion can

theorem classifyInbound_eq_ok (ok : LedgerOk store.toLedger)
    (committed : store.classifyInbound request = .ok (next, result)) :
    Classified store request next result := by
  obtain ⟨existing, found, branch⟩ := bind_eq_ok.mp committed
  split at branch
  · simp only [bind_eq_ok, pure_eq_ok, Prod.mk.injEq] at branch
    obtain ⟨outcome, same, rfl, rfl⟩ := branch
    exact .duplicate _ outcome found same
  · exact classifyNew_eq_ok ok branch

end Deliveries

def AcceptUserMessageRequest.receipt (request : AcceptUserMessageRequest)
    (topology : CanonicalMessageTopology) (committedCursor : Nat) : MessageCommandReceipt where
  conversationId := topology.conversationId
  messageId := request.candidates.messageId
  workId := request.candidates.workId
  workOrdinal := topology.nextOrdinal
  committedCursor := committedCursor

structure AcceptUserMessageRequest.Valid (sha256 : List UInt8 → Sha256Digest)
    (request : AcceptUserMessageRequest) : Prop where
  key : request.idempotencyKey = .forMessage request.clientMessageId
  hash : request.requestHash = sha256 request.material

structure RequestCancellationRequest.Valid (sha256 : List UInt8 → Sha256Digest)
    (request : RequestCancellationRequest) : Prop where
  key : request.idempotencyKey = .forCancellation request.clientCommandId
  hash : request.requestHash = sha256 request.material

inductive Accepted (sha256 : List UInt8 → Sha256Digest) (store : IngressStore)
    (request : AcceptUserMessageRequest) :
    IngressStore → CommandOutcome MessageCommandReceipt → Prop
  | replayed (row : ClientCommandRow) (receipt : MessageCommandReceipt) (valid : request.Valid sha256)
      (found : store.loadCommandRow request.deviceId request.idempotencyKey = some row)
      (kind : row.kind = .message) (hash : row.requestHash = request.requestHash)
      (decoded : decodeMessageReceipt row = .ok receipt) :
      Accepted sha256 store request store (.replayed receipt)
  | committed (topology : CanonicalMessageTopology) (nextOrdinal : ConversationWorkOrdinal)
      (nextVersion : ProjectionVersion) (valid : request.Valid sha256)
      (absent : store.loadCommandRow request.deviceId request.idempotencyKey = none)
      (can : store.CanAdmit (request.admission topology) nextOrdinal) :
      Accepted sha256 store request
        ((store.withLedger (store.toLedger.admitMessage (request.admission topology) nextOrdinal
          nextVersion)).withCommand (request.commandRow (request.receipt topology
            (store.journal.length + 2))))
        (.committed (request.receipt topology (store.journal.length + 2)))

structure CancellableBy (store : IngressStore) (deviceId : DeviceId) (row : WorkItemRow) : Prop where
  member : row ∈ store.works
  owned : ∃ device ∈ store.devices, ∃ conversation ∈ store.conversations, device.id = deviceId ∧
    conversation.id = row.conversationId ∧ conversation.ownerUserId = device.userId

inductive CancelAnswered (sha256 : List UInt8 → Sha256Digest) (store : IngressStore)
    (request : RequestCancellationRequest) :
    IngressStore → CommandOutcome CancellationCommandReceipt → Prop
  | replayed (row : ClientCommandRow) (receipt : CancellationCommandReceipt)
      (found : store.loadCommandRow request.deviceId request.idempotencyKey = some row)
      (kind : row.kind = .cancel) :
      CancelAnswered sha256 store request store (.replayed receipt)
  | ignored (row : WorkItemRow) (cursor : Nat) (receipt : CancellationCommandReceipt)
      (absent : store.loadCommandRow request.deviceId request.idempotencyKey = none)
      (cancellable : CancellableBy store request.deviceId row)
      (answer : CancellationCommandReceipt.tryNew request.workId row.work.state
        (cleanupFor row.work.state) cursor = some receipt)
      (unasked : cancellationRequest row.work.state .userRequest = none) :
      CancelAnswered sha256 store request (store.withCommand (request.commandRow receipt))
        (.committed receipt)
  | moved (move : WorkMove) (receipt : CancellationCommandReceipt)
      (absent : store.loadCommandRow request.deviceId request.idempotencyKey = none)
      (cancellable : CancellableBy store request.deviceId move.row)
      (target : move.row.id = request.workId)
      (origin : move.origin = .user (.native request.deviceId))
      (committedAt : move.committedAt = request.requestedAt) (can : store.CanMove move)
      (answer : CancellationCommandReceipt.tryNew request.workId move.decision.next.state
        (cleanupFor move.decision.next.state) (store.journal.length + 1) = some receipt) :
      CancelAnswered sha256 store request
        ((store.withLedger (store.toLedger.move move)).withCommand (request.commandRow receipt))
        (.committed receipt)

section Commands

variable {sha256 : List UInt8 → Sha256Digest} {store next : IngressStore}

theorem insertCommandRow_eq_ok {row : ClientCommandRow}
    (inserted : store.insertCommandRow row = .ok next) : next = store.withCommand row := by
  simp only [IngressStore.insertCommandRow, bind_eq_ok, refuseIf_eq_ok, pure_eq_ok, exists_const] at inserted
  exact inserted.2.symm

theorem loadMessageTopology_eq_ok {conversationId : ConversationId} {deviceId : DeviceId}
    {userId : UserId} {topology : CanonicalMessageTopology}
    (loaded : store.loadMessageTopology conversationId deviceId userId = .ok topology) :
    TopologyFound store.toLedger topology := by
  simp only [IngressStore.loadMessageTopology, bind_eq_ok, orRefuse_eq_ok, refuseIf_eq_ok, pure_eq_ok, exists_const] at loaded
  obtain ⟨device, _, conversation, found, _, created, createdOk, rfl⟩ := loaded
  exact ⟨⟨conversation, List.mem_of_find?_eq_some found, rfl, rfl, rfl⟩,
    conversationCreatedEvent_eq_ok createdOk⟩

theorem acceptMessage_eq_ok (ok : LedgerOk store.toLedger) {request : AcceptUserMessageRequest}
    {outcome : CommandOutcome MessageCommandReceipt}
    (committed : acceptMessage sha256 store request = .ok (next, outcome)) :
    Accepted sha256 store request next outcome := by
  simp only [acceptMessage, bind_eq_ok, refuseIf_eq_ok, bne_eq_false_iff_eq, exists_const] at committed
  obtain ⟨key, hash, branch⟩ := committed
  split at branch
  · rename_i row found
    simp only [bind_eq_ok, refuseIf_eq_ok, mapError_eq_ok, pure_eq_ok,
      Prod.mk.injEq, exists_const, Bool.or_eq_false_iff, bne_eq_false_iff_eq] at branch
    obtain ⟨⟨kind, sameHash⟩, receipt, decoded, rfl, rfl⟩ := branch
    exact .replayed row receipt ⟨key, hash⟩ found kind sameHash decoded
  · rename_i absent
    simp only [bind_eq_ok, mapError_eq_ok, pure_eq_ok, Prod.mk.injEq] at branch
    obtain ⟨topology, loaded, ⟨admittedStore, admission⟩, admitted, inserted, insertedOk, rfl, rfl⟩ := branch
    obtain ⟨nextOrdinal, nextVersion, can, rfl, rfl⟩ := admitCanonicalMessage_eq_ok admitted
      ok.queue.conversations (loadMessageTopology_eq_ok loaded)
    obtain rfl := insertCommandRow_eq_ok insertedOk
    exact .committed topology nextOrdinal nextVersion ⟨key, hash⟩ absent can

theorem loadCancellationWork_eq_ok {workId : WorkId} {deviceId : DeviceId} {userId : UserId}
    {row : WorkItemRow} (loaded : store.loadCancellationWork workId deviceId userId = .ok row) :
    CancellableBy store deviceId row ∧ row.id = workId := by
  simp only [IngressStore.loadCancellationWork, bind_eq_ok, orRefuse_eq_ok, refuseIf_eq_ok, pure_eq_ok, exists_const, Bool.or_eq_false_iff, bne_eq_false_iff_eq] at loaded
  obtain ⟨found, rowFound, conversation, conversationFound, device, deviceFound,
    ⟨⟨_, owner⟩, user⟩, rfl⟩ := loaded
  obtain ⟨rowIn, sameRow⟩ := mem_of_lookup rowFound
  obtain ⟨conversationIn, sameConversation⟩ := mem_of_lookup conversationFound
  have deviceIs := List.find?_some deviceFound
  simp only [Bool.and_eq_true, beq_iff_eq] at deviceIs
  exact ⟨⟨rowIn, device, List.mem_of_find?_eq_some deviceFound, conversation, conversationIn, deviceIs.1,
    sameConversation, owner.trans user.symm⟩, sameRow⟩

theorem requestCancellation_eq_ok (ok : LedgerOk store.toLedger) {request : RequestCancellationRequest}
    {outcome : CommandOutcome CancellationCommandReceipt}
    (committed : requestCancellation sha256 store request = .ok (next, outcome)) :
    CancelAnswered sha256 store request next outcome := by
  simp only [requestCancellation, bind_eq_ok, refuseIf_eq_ok, bne_eq_false_iff_eq, exists_const] at committed
  obtain ⟨key, hash, branch⟩ := committed
  split at branch
  · rename_i row found
    simp only [bind_eq_ok, refuseIf_eq_ok, mapError_eq_ok, pure_eq_ok,
      Prod.mk.injEq, exists_const, Bool.or_eq_false_iff, bne_eq_false_iff_eq] at branch
    obtain ⟨⟨kind, _⟩, receipt, _, rfl, rfl⟩ := branch
    exact .replayed row receipt found kind
  · rename_i absent
    obtain ⟨row, loaded, branch⟩ := bind_eq_ok.mp branch
    obtain ⟨⟨movedStore, mutation⟩, applied, branch⟩ := bind_eq_ok.mp branch
    obtain ⟨cancellable, target⟩ := loadCancellationWork_eq_ok loaded
    rcases applyCancellation_eq_ok (mapError_eq_ok.mp applied) ok.queue.works cancellable.member with
      ⟨unasked, rfl, rfl⟩ | ⟨move, rfl, origin, _, committedAt, can, rfl, rfl⟩
    · simp only [bind_eq_ok, mapError_eq_ok, orRefuse_eq_ok, pure_eq_ok,
        Prod.mk.injEq] at branch
      obtain ⟨cursor, _, receipt, answer, inserted, insertedOk, rfl, rfl⟩ := branch
      obtain rfl := insertCommandRow_eq_ok insertedOk
      exact .ignored row cursor receipt absent cancellable answer unasked
    · simp only [bind_eq_ok, orRefuse_eq_ok, pure_eq_ok, Except.ok.injEq, Prod.mk.injEq,
        exists_eq_left'] at branch
      obtain ⟨receipt, answer, inserted, insertedOk, rfl, rfl⟩ := branch
      obtain rfl := insertCommandRow_eq_ok insertedOk
      exact .moved move receipt absent cancellable target origin committedAt can answer

end Commands

inductive IngressStep (sha256 : List UInt8 → Sha256Digest) (store : IngressStore) :
    IngressMove → IngressStore → Prop
  | created (conversationId : ConversationId) (ownerUserId : UserId) (eventId cause : JournalEventId)
      (correlationId : CorrelationId) (createdAt : UtcTimestamp) (conversation : ConversationRow)
      (intent : JournalAppendIntent) (can : store.CanCreate conversation intent) :
      IngressStep sha256 store
        (.createConversation conversationId ownerUserId eventId cause correlationId createdAt)
        (store.withLedger (store.toLedger.create conversation intent))
  | provisioned (deviceId : DeviceId) (userId : UserId) (fresh : ∀ row ∈ store.devices, row.id ≠ deviceId) :
      IngressStep sha256 store (.provisionDevice deviceId userId)
        { store with devices := store.devices ++ [DeviceRow.mk deviceId userId false] }
  | revoked (deviceId : DeviceId) :
      IngressStep sha256 store (.revokeDevice deviceId) (store.revokeDevice deviceId)
  | runtimesSet (rows : List RuntimeRow) :
      IngressStep sha256 store (.setRuntimes rows) { store with runtimes := rows }
  | rewired (topology : ChannelTopology) :
      IngressStep sha256 store (.rewireChannels topology) { store with channels := topology }
  | recorded (intent : JournalAppendIntent) (kind : JournalEvidenceKind)
      (evidence : intent.payload = .evidence kind) (fresh : store.FreshEvent intent.eventId) :
      IngressStep sha256 store (.recordEvidence intent)
        (store.withLedger (store.toLedger.record intent))
  | accepted (request : AcceptUserMessageRequest) (outcome : CommandOutcome MessageCommandReceipt)
      (next : IngressStore) (accepted : Accepted sha256 store request next outcome) :
      IngressStep sha256 store (.accept request) next
  | cancelAnswered (request : RequestCancellationRequest)
      (outcome : CommandOutcome CancellationCommandReceipt) (next : IngressStore)
      (answered : CancelAnswered sha256 store request next outcome) :
      IngressStep sha256 store (.cancel request) next
  | classified (request : ClassifyInboundRequest) (result : ClassifiedInbound) (next : IngressStore)
      (classified : Classified store request next result) :
      IngressStep sha256 store (.classify request) next
  | notClaimed (runtimeId : RuntimeInstanceId) (eventId : JournalEventId) (claimedAt : UtcTimestamp) :
      IngressStep sha256 store (.claim runtimeId eventId claimedAt) store
  | claimed (runtimeId : RuntimeInstanceId) (eventId : JournalEventId) (claimedAt : UtcTimestamp)
      (move : WorkMove) (origin : move.origin = .claim runtimeId) (can : store.CanMove move) :
      IngressStep sha256 store (.claim runtimeId eventId claimedAt)
        (store.withLedger (store.toLedger.move move))
  | advanced (workId : WorkId) (request : WorkTransitionRequest) (actor : JournalActor)
      (eventId : JournalEventId) (recordedAt : UtcTimestamp) (move : WorkMove)
      (origin : move.origin = .owner actor) (can : store.CanMove move) :
      IngressStep sha256 store (.advance workId request actor eventId recordedAt)
        (store.withLedger (store.toLedger.move move))

section Runs

variable {sha256 : List UInt8 → Sha256Digest} {store next : IngressStore} {move : IngressMove}

theorem ingressStep_cases (ok : LedgerOk store.toLedger)
    (stepped : ingressStep sha256 store move = some next) : IngressStep sha256 store move next := by
  cases move with
  | createConversation conversationId ownerUserId eventId cause correlationId createdAt =>
    obtain ⟨conversation, intent, can, rfl⟩ := createConversation_eq_ok (toOption_eq_some.mp stepped)
    exact .created _ _ _ _ _ _ conversation intent can
  | provisionDevice deviceId userId =>
    simp only [ingressStep, toOption_eq_some, IngressStore.provisionDevice, bind_eq_ok, refuseIf_eq_ok,
      pure_eq_ok, exists_const, List.any_eq_false, beq_iff_eq] at stepped
    obtain ⟨fresh, rfl⟩ := stepped
    exact .provisioned deviceId userId fresh
  | revokeDevice deviceId =>
    cases stepped
    exact .revoked deviceId
  | setRuntimes rows =>
    cases stepped
    exact .runtimesSet rows
  | rewireChannels topology =>
    cases stepped
    exact .rewired topology
  | recordEvidence intent =>
    obtain ⟨⟨kind, evidence⟩, fresh, rfl⟩ := recordEvidence_eq_ok (toOption_eq_some.mp stepped)
    exact .recorded intent kind evidence fresh
  | accept request =>
    simp only [ingressStep, Option.map_eq_some_iff, toOption_eq_some] at stepped
    obtain ⟨⟨after, outcome⟩, committed, rfl⟩ := stepped
    exact .accepted request outcome after (acceptMessage_eq_ok ok committed)
  | cancel request =>
    simp only [ingressStep, Option.map_eq_some_iff, toOption_eq_some] at stepped
    obtain ⟨⟨after, outcome⟩, committed, rfl⟩ := stepped
    exact .cancelAnswered request outcome after (requestCancellation_eq_ok ok committed)
  | classify request =>
    simp only [ingressStep, Option.map_eq_some_iff, toOption_eq_some] at stepped
    obtain ⟨⟨after, result⟩, committed, rfl⟩ := stepped
    exact .classified request result after (classifyInbound_eq_ok ok committed)
  | claim runtimeId eventId claimedAt =>
    simp only [ingressStep, Option.map_eq_some_iff, toOption_eq_some] at stepped
    obtain ⟨⟨after, claimed⟩, committed, rfl⟩ := stepped
    obtain ⟨_, ⟨_, rfl⟩ | ⟨workMove, _, origin, _, _, _, can, rfl, _⟩⟩ := claimNext_eq_ok ok committed
    · exact .notClaimed runtimeId eventId claimedAt
    · exact .claimed runtimeId eventId claimedAt workMove origin can
  | advance workId request actor eventId recordedAt =>
    obtain ⟨workMove, _, origin, _, _, can, rfl⟩ :=
      advanceWork_eq_ok ok.queue.works (toOption_eq_some.mp stepped)
    exact .advanced workId request actor eventId recordedAt workMove origin can

theorem IngressStep.ledger (step : IngressStep sha256 store move next) :
    next.toLedger = store.toLedger ∨ LedgerStep store.toLedger next.toLedger := by
  cases step with
  | created _ _ _ _ _ _ conversation intent can => exact Or.inr (.created conversation intent can)
  | provisioned | revoked | runtimesSet | rewired | notClaimed => exact Or.inl rfl
  | recorded intent kind evidence fresh => exact Or.inr (.recorded intent kind evidence fresh)
  | claimed _ _ _ workMove _ can | advanced _ _ _ _ _ workMove _ can => exact Or.inr (.moved workMove can)
  | accepted _ _ _ accepted =>
    cases accepted with
    | replayed => exact Or.inl rfl
    | committed _ nextOrdinal nextVersion _ _ can => exact Or.inr (.admitted _ nextOrdinal nextVersion can)
  | cancelAnswered _ _ _ answered =>
    cases answered with
    | replayed | ignored => exact Or.inl rfl
    | moved workMove _ _ _ _ _ _ can => exact Or.inr (.moved workMove can)
  | classified _ _ _ classified =>
    cases classified with
    | duplicate | rejected | unsupported | noTarget | alreadyRequested =>
      exact Or.inl rfl
    | message _ _ _ nextOrdinal nextVersion can => exact Or.inr (.admitted _ nextOrdinal nextVersion can)
    | cancelled _ _ _ workMove _ _ _ can => exact Or.inr (.moved workMove can)

theorem LedgerOk.afterIngress (ok : LedgerOk store.toLedger)
    (step : IngressStep sha256 store move next) : LedgerOk next.toLedger := by
  rcases step.ledger with same | step
  · rw [same]
    exact ok
  · exact ok.step step

end Runs

/-- The store after the moves, from the empty one; a refused move changes nothing. -/
def ingressAfter (sha256 : List UInt8 → Sha256Digest) (primary : ConversationId)
    (moves : List IngressMove) : IngressStore :=
  replay (ingressStep sha256) (.empty primary) moves

theorem ingressAfter_invariant {sha256 : List UInt8 → Sha256Digest} {primary : ConversationId}
    (Holds : IngressStore → Prop) (initial : Holds (.empty primary))
    (preserved : ∀ store move next, LedgerOk store.toLedger → Holds store →
      IngressStep sha256 store move next → Holds next) (moves : List IngressMove) :
    LedgerOk (ingressAfter sha256 primary moves).toLedger ∧ Holds (ingressAfter sha256 primary moves) := by
  refine replay_invariant (fun store => LedgerOk store.toLedger ∧ Holds store) ?_ ?_ moves
  · rintro store move next ⟨ok, holds⟩ stepped
    have step := ingressStep_cases ok stepped
    exact ⟨ok.afterIngress step, preserved store move next ok holds step⟩
  · exact ⟨LedgerOk.empty, initial⟩

theorem ingressAfter_ok (sha256 : List UInt8 → Sha256Digest) (primary : ConversationId)
    (moves : List IngressMove) : LedgerOk (ingressAfter sha256 primary moves).toLedger :=
  (ingressAfter_invariant (fun _ => True) trivial (fun _ _ _ _ _ _ => trivial) moves).1

end Craxii
