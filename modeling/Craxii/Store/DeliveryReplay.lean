import Craxii.Store.CommandReplay

/-!
Channel events are classified once.
-/

namespace Craxii

open ExceptRules Tables GuardedRun Utf8Text Framing

/-! The material of an event. -/

def VerifiedInboundEvent.SameMaterial (first second : VerifiedInboundEvent) : Prop :=
  first.channelAccountId = second.channelAccountId ∧ first.senderSubjectId = second.senderSubjectId ∧
    first.externalConversationId = second.externalConversationId ∧
    first.externalThreadId = second.externalThreadId ∧
    first.externalMessageId = second.externalMessageId ∧ first.payload = second.payload ∧
    first.providerOccurredAt = second.providerOccurredAt

instance (first second : VerifiedInboundEvent) : Decidable (first.SameMaterial second) :=
  inferInstanceAs (Decidable (_ ∧ _))

/-- What is used of the date library: the instants have distinct canonical texts. -/
structure ShownDistinctly (shown : UtcTimestamp → List UInt8) (times : Set UtcTimestamp) : Prop where
  framable : ∀ time ∈ times, Framable (shown time)
  injective : Set.InjOn shown times

section Material

variable {shown : UtcTimestamp → List UInt8} {times : Set UtcTimestamp}
  {first second : VerifiedInboundEvent}

theorem ExternalId.framable (id : ExternalId) : Framable (toUtf8 id.text) := by
  have accepted := isBoundedTrimmed_of_isIdentifier id.accepted
  simp only [isBoundedTrimmed, Bool.and_eq_true, decide_eq_true_eq] at accepted
  rw [Framable, length_toUtf8]
  exact Nat.lt_of_le_of_lt accepted.1.2 (by decide)

theorem ExternalId.map_framable {id : Option ExternalId} :
    ∀ bytes ∈ id.map fun id => toUtf8 id.text, Framable bytes := by
  intro bytes member
  obtain ⟨found, _, rfl⟩ := Option.mem_map.mp member
  exact found.framable

theorem CheckedText.toUtf8_injective {accepts : Text → Bool} :
    Function.Injective fun checked : CheckedText accepts => toUtf8 checked.text := by
  intro first second same
  have texts := Framing.toUtf8_injective same
  cases first
  cases second
  simp_all

theorem VerifiedInboundPayload.materialBytes_append_inj {first second : VerifiedInboundPayload}
    {firstRest secondRest : List UInt8}
    (same : first.materialBytes ++ firstRest = second.materialBytes ++ secondRest) :
    first = second ∧ firstRest = secondRest := by
  cases first with
  | text firstContent =>
    cases second with
    | text secondContent =>
      simp only [materialBytes, List.cons_append, List.cons.injEq, true_and] at same
      obtain ⟨bytes, rest⟩ := frame_append_inj firstContent.canonicalBytes_framable
        secondContent.canonicalBytes_framable same
      exact ⟨by rw [MessageContent.canonicalBytes_injective bytes], rest⟩
    | unsupported kind => simp [materialBytes] at same
  | unsupported firstKind =>
    cases second with
    | text content => simp [materialBytes] at same
    | unsupported secondKind =>
      simp only [materialBytes, List.cons_append, List.nil_append, List.cons.injEq, true_and] at same
      refine ⟨?_, same.2⟩
      cases firstKind <;> cases secondKind <;> first | rfl | exact absurd same.1 (by decide)

theorem VerifiedInboundEvent.material_inj (distinct : ShownDistinctly shown times)
    (firstTimed : ∀ time ∈ first.providerOccurredAt, time ∈ times)
    (secondTimed : ∀ time ∈ second.providerOccurredAt, time ∈ times) :
    first.material shown = second.material shown ↔ first.SameMaterial second := by
  constructor
  · intro same
    have timesFramable : ∀ {time : Option UtcTimestamp}, (∀ found ∈ time, found ∈ times) →
        ∀ bytes ∈ time.map shown, Framable bytes := by
      intro time timed bytes member
      obtain ⟨found, isTime, rfl⟩ := Option.mem_map.mp member
      exact distinct.framable found (timed found isTime)
    have afterMagic := List.append_cancel_left same
    simp only [List.cons.injEq, true_and] at afterMagic
    obtain ⟨account, afterAccount⟩ := frame_append_inj first.channelAccountId.uuid.framable
      second.channelAccountId.uuid.framable afterMagic
    obtain ⟨sender, afterSender⟩ := frame_append_inj first.senderSubjectId.framable
      second.senderSubjectId.framable afterAccount
    obtain ⟨conversation, afterConversation⟩ := frame_append_inj first.externalConversationId.framable
      second.externalConversationId.framable afterSender
    obtain ⟨thread, afterThread⟩ := optionalFrame_append_inj ExternalId.map_framable
      ExternalId.map_framable afterConversation
    obtain ⟨message, afterMessage⟩ := optionalFrame_append_inj ExternalId.map_framable
      ExternalId.map_framable afterThread
    obtain ⟨payload, occurred⟩ := VerifiedInboundPayload.materialBytes_append_inj afterMessage
    have occurredBytes := (optionalFrame_append_inj (timesFramable firstTimed) (timesFramable secondTimed)
      (congrArg (· ++ []) occurred)).1
    refine ⟨Identity.toText_injective (Framing.toUtf8_injective account),
      CheckedText.toUtf8_injective sender, CheckedText.toUtf8_injective conversation,
      Option.map_injective CheckedText.toUtf8_injective thread, Option.map_injective CheckedText.toUtf8_injective message, payload, ?_⟩
    cases firstIs : first.providerOccurredAt with
    | none =>
      rw [firstIs, Option.map_none] at occurredBytes
      exact (Option.map_eq_none_iff.mp occurredBytes.symm).symm
    | some firstTime =>
      rw [firstIs, Option.map_some] at occurredBytes
      obtain ⟨secondTime, secondIs, shownSame⟩ := Option.map_eq_some_iff.mp occurredBytes.symm
      rw [secondIs, distinct.injective (secondTimed _ secondIs) (firstTimed _ firstIs) shownSame]
  · rintro ⟨account, sender, conversation, thread, message, payload, occurred⟩
    simp only [material, account, sender, conversation, thread, message, payload, occurred]

end Material

/-! Keys of deliveries. -/

abbrev EventKey := ChannelAccountId × ExternalId

abbrev MessageKey := ChannelAccountId × ExternalId × Text × ExternalId

def VerifiedInboundEvent.eventKey (event : VerifiedInboundEvent) : EventKey :=
  (event.channelAccountId, event.externalEventId)

def VerifiedInboundEvent.messageKey (event : VerifiedInboundEvent) : Option MessageKey :=
  event.externalMessageId.map fun id =>
    (event.channelAccountId, event.externalConversationId, threadText event.externalThreadId, id)

def InboundDeliveryRow.eventKey (row : InboundDeliveryRow) : EventKey :=
  (row.channelAccountId, row.externalEventId)

def InboundDeliveryRow.messageKey (row : InboundDeliveryRow) : Option MessageKey :=
  row.externalMessageId.map fun id =>
    (row.channelAccountId, row.externalConversationId, threadText row.externalThreadId, id)

def VerifiedInboundEvent.SharesKey (event other : VerifiedInboundEvent) : Prop :=
  event.eventKey = other.eventKey ∨ event.messageKey ≠ none ∧ event.messageKey = other.messageKey

section Keys

variable {store : IngressStore} {event : VerifiedInboundEvent} {row : InboundDeliveryRow}

theorem matchesEvent_iff : row.matchesEvent event = true ↔ row.eventKey = event.eventKey := by
  simp [InboundDeliveryRow.matchesEvent, InboundDeliveryRow.eventKey, VerifiedInboundEvent.eventKey]

theorem matchesMessage_iff : row.matchesMessage event = true ↔
    event.messageKey ≠ none ∧ row.messageKey = event.messageKey := by
  unfold InboundDeliveryRow.matchesMessage InboundDeliveryRow.messageKey VerifiedInboundEvent.messageKey
  cases eventMessage : event.externalMessageId with
  | none => simp
  | some id =>
    cases rowMessage : row.externalMessageId with
    | none => simp
    | some other => simp [and_assoc]

structure DeliveriesKeyed (inbound : List InboundDeliveryRow) : Prop where
  ids : Keyed InboundDeliveryRow.id inbound
  events : Keyed InboundDeliveryRow.eventKey inbound
  messages : ∀ first ∈ inbound, ∀ second ∈ inbound, first.messageKey ≠ none →
    first.messageKey = second.messageKey → first = second

theorem loadExistingByEvent_eq (keyed : DeliveriesKeyed store.inbound) (member : row ∈ store.inbound)
    (same : row.eventKey = event.eventKey) : store.loadExistingByEvent event = some row := by
  cases found : store.loadExistingByEvent event with
  | none => exact absurd (matchesEvent_iff.mpr same) (List.find?_eq_none.mp found row member)
  | some other =>
    have matching : other.eventKey = event.eventKey := matchesEvent_iff.mp (List.find?_some found)
    rw [keyed.events.eq (List.mem_of_find?_eq_some found) member (matching.trans same.symm)]

theorem loadExistingByMessage_eq (keyed : DeliveriesKeyed store.inbound) (member : row ∈ store.inbound)
    (present : event.messageKey ≠ none) (same : row.messageKey = event.messageKey) :
    store.loadExistingByMessage event = some row := by
  cases found : store.loadExistingByMessage event with
  | none =>
    exact absurd (matchesMessage_iff.mpr ⟨present, same⟩) (List.find?_eq_none.mp found row member)
  | some other =>
    have matching := (matchesMessage_iff.mp (List.find?_some found)).2
    rw [keyed.messages other (List.mem_of_find?_eq_some found) row member (matching ▸ present)
      (matching.trans same.symm)]

theorem loadExisting_shares {found : InboundDeliveryRow}
    (loaded : store.loadExistingByEvent event = some found ∨
      store.loadExistingByMessage event = some found) :
    found ∈ store.inbound ∧ (event.eventKey = found.eventKey ∨
      event.messageKey ≠ none ∧ event.messageKey = found.messageKey) := by
  rcases loaded with byEvent | byMessage
  · exact ⟨List.mem_of_find?_eq_some byEvent, Or.inl (matchesEvent_iff.mp (List.find?_some byEvent)).symm⟩
  · have matching := matchesMessage_iff.mp (List.find?_some byMessage)
    exact ⟨List.mem_of_find?_eq_some byMessage, Or.inr ⟨matching.1, matching.2.symm⟩⟩

theorem existingDelivery_single (keyed : DeliveriesKeyed store.inbound) (member : row ∈ store.inbound)
    (shares : event.eventKey = row.eventKey ∨ event.messageKey ≠ none ∧ event.messageKey = row.messageKey)
    (only : ∀ other ∈ store.inbound, (event.eventKey = other.eventKey ∨
      event.messageKey ≠ none ∧ event.messageKey = other.messageKey) → other = row) :
    store.existingDelivery event = .ok (some row) := by
  have found : ∀ {other}, store.loadExistingByEvent event = some other ∨
      store.loadExistingByMessage event = some other → other = row := by
    intro other loaded
    obtain ⟨otherIn, otherShares⟩ := loadExisting_shares loaded
    exact only other otherIn otherShares
  unfold IngressStore.existingDelivery
  cases byEvent : store.loadExistingByEvent event with
  | some first =>
    obtain rfl := found (Or.inl byEvent)
    cases byMessage : store.loadExistingByMessage event with
    | none => rfl
    | some second =>
      obtain rfl := found (Or.inr byMessage)
      simp
  | none =>
    rcases shares with sameEvent | ⟨present, sameMessage⟩
    · rw [loadExistingByEvent_eq keyed member sameEvent.symm] at byEvent
      cases byEvent
    · simp only [loadExistingByMessage_eq keyed member present sameMessage.symm]

theorem existingDelivery_split (keyed : DeliveriesKeyed store.inbound)
    {first second : InboundDeliveryRow}
    (firstIn : first ∈ store.inbound) (secondIn : second ∈ store.inbound) (different : first ≠ second)
    (sameEvent : event.eventKey = first.eventKey)
    (present : event.messageKey ≠ none) (sameMessage : event.messageKey = second.messageKey) :
    store.existingDelivery event = .error .inconsistent := by
  have ids : (first.id != second.id) = true := by
    simpa using fun same => different (keyed.ids.eq firstIn secondIn same)
  simp only [IngressStore.existingDelivery, loadExistingByEvent_eq keyed firstIn sameEvent.symm,
    loadExistingByMessage_eq keyed secondIn present sameMessage.symm, ids, if_true]

theorem DeliveriesKeyed.deliver (keyed : DeliveriesKeyed store.inbound)
    {request : ClassifyInboundRequest}
    (fresh : FreshDelivery store request) (classification : InboundClassification) :
    DeliveriesKeyed (store.inbound ++ [request.classifiedRow classification]) := by
  have newMessage : ∀ old ∈ store.inbound, old.messageKey ≠ none →
      old.messageKey ≠ (request.classifiedRow classification).messageKey := by
    intro old oldIn present same
    have unmatched := fresh.message old oldIn
    rw [Bool.eq_false_iff, ne_eq, matchesMessage_iff] at unmatched
    have requestKey : old.messageKey = request.toVerifiedInboundEvent.messageKey := same
    exact unmatched ⟨requestKey ▸ present, requestKey⟩
  refine ⟨keyed.ids.append fresh.id, keyed.events.append ?_, ?_⟩
  · intro old oldIn same
    have unmatched := fresh.event old oldIn
    rw [Bool.eq_false_iff, ne_eq, matchesEvent_iff] at unmatched
    exact unmatched same
  · intro first firstIn second secondIn present same
    rcases List.mem_append.mp firstIn with oldFirst | newFirst
    · rcases List.mem_append.mp secondIn with oldSecond | newSecond
      · exact keyed.messages first oldFirst second oldSecond present same
      · rw [List.mem_singleton.mp newSecond] at same
        exact absurd same (newMessage first oldFirst present)
    · rcases List.mem_append.mp secondIn with oldSecond | newSecond
      · rw [List.mem_singleton.mp newFirst] at same present
        exact absurd same.symm (newMessage second oldSecond (same ▸ present))
      · rw [List.mem_singleton.mp newFirst, List.mem_singleton.mp newSecond]

end Keys

/-! What a run has classified. -/

def classifiedDelivery (store : IngressStore) :
    IngressMove → Option (ClassifyInboundRequest × DurableInboundOutcome)
  | .classify request =>
    match store.classifyInbound request with
    | .ok (_, ⟨.newlyClassified, outcome, _⟩) => some (request, outcome)
    | _ => none
  | _ => none

def classifiedDeliveries (sha256 : List UInt8 → Sha256Digest) :
    IngressStore → List IngressMove → List (ClassifyInboundRequest × DurableInboundOutcome)
  | _, [] => []
  | store, move :: rest => (classifiedDelivery store move).toList ++
      classifiedDeliveries sha256 (offer (ingressStep sha256) store move) rest

def DurableInboundOutcome.message : DurableInboundOutcome → Option (MessageId × MessageAcceptedOriginV2)
  | .messageAccepted inboundDeliveryId messageId _ _ _ =>
    some (messageId, .inboundDelivery inboundDeliveryId)
  | _ => none

def JournalEvent.channelCancellation (event : JournalEvent) : Option (WorkId × InboundDeliveryId) :=
  match event.payload with
  | .workCancelRequestedV2 transition inboundDeliveryId
  | .workCancelledV2 transition inboundDeliveryId => some (transition.workId, inboundDeliveryId)
  | _ => none

/-- The outcome agrees with the classification and with what the ledger keeps of it. -/
inductive Recorded (ledger : Ledger) (id : InboundDeliveryId) :
    InboundClassification → DurableInboundOutcome → Prop
  | message (resolved : ResolvedTopology) (messageId : MessageId) (work : WorkItemRow)
      (event : JournalEvent) (workIn : work.queuedFact ∈ ledger.works.map WorkItemRow.queuedFact)
      (eventIn : event ∈ ledger.journal) (fact : event.queuedFact = some work.queuedFact) :
      Recorded ledger id (.message resolved messageId work.id)
        (.messageAccepted id messageId work.id work.ordinal event.journalOffset)
  | applied (resolved : ResolvedTopology) (targetWorkId : WorkId) :
      Recorded ledger id (.control resolved (some targetWorkId)) (.controlApplied id targetWorkId)
  | noOp (resolved : ResolvedTopology) : Recorded ledger id (.control resolved none) (.controlNoOp id)
  | unsupported : Recorded ledger id .unsupported (.unsupported id)
  | rejected : Recorded ledger id .rejected (.rejected id)

section Ledgers

variable {ledger after : Ledger}

theorem LedgerStep.journal (step : LedgerStep ledger after) :
    ∃ added, after.journal = ledger.journal ++ added := by
  cases step with
  | recorded intent | created _ intent => exact ⟨_, rfl⟩
  | admitted => exact ⟨_, List.append_assoc _ _ _⟩
  | moved => exact ⟨_, rfl⟩

def WorkItemRow.columns (row : WorkItemRow) :
    QueuedFact × Option ConversationBindingId × CorrelationId :=
  (row.queuedFact, row.replyBindingId, row.correlationId)

structure Extends (ledger after : Ledger) : Prop where
  columns : ∀ row ∈ ledger.works, row.columns ∈ after.works.map WorkItemRow.columns
  events : ∀ event ∈ ledger.journal, event ∈ after.journal
  messages : ∀ row ∈ ledger.messages, row ∈ after.messages
  inputs : ∀ row ∈ ledger.inputs, row ∈ after.inputs

theorem LedgerStep.extends (queue : QueueOk ledger) (step : LedgerStep ledger after) :
    Extends ledger after := by
  obtain ⟨added, journal⟩ := step.journal
  have events : ∀ event ∈ ledger.journal, event ∈ after.journal := by
    intro event member
    rw [journal]
    exact List.mem_append_left _ member
  cases step with
  | recorded | created =>
    exact ⟨fun row member => List.mem_map_of_mem member, events, fun _ member => member,
      fun _ member => member⟩
  | admitted =>
    exact ⟨fun row member => List.mem_map_of_mem (List.mem_append_left _ member), events,
      fun _ member => List.mem_append_left _ member, fun _ member => List.mem_append_left _ member⟩
  | moved move can =>
    refine ⟨fun row member => ?_, events, fun _ member => member, fun _ member => member⟩
    have same : move.moved.columns = move.row.columns := by
      simp only [WorkItemRow.columns, queuedFact_moved can]
      rfl
    rw [map_works_move queue.works can same]
    exact List.mem_map_of_mem member

theorem Extends.fact {fact : QueuedFact} (kept : Extends ledger after)
    (member : fact ∈ ledger.works.map WorkItemRow.queuedFact) :
    fact ∈ after.works.map WorkItemRow.queuedFact := by
  obtain ⟨row, rowIn, rfl⟩ := List.mem_map.mp member
  obtain ⟨found, foundIn, same⟩ := List.mem_map.mp (kept.columns row rowIn)
  exact List.mem_map.mpr ⟨found, foundIn, congrArg Prod.fst same⟩

theorem Extends.refl (ledger : Ledger) : Extends ledger ledger :=
  ⟨fun _ member => List.mem_map_of_mem member, fun _ member => member, fun _ member => member,
    fun _ member => member⟩

theorem Recorded.extend {id : InboundDeliveryId} {classification : InboundClassification}
    {outcome : DurableInboundOutcome} (recorded : Recorded ledger id classification outcome)
    (kept : Extends ledger after) : Recorded after id classification outcome := by
  cases recorded with
  | message resolved messageId work event workIn eventIn fact =>
    exact .message resolved messageId work event (kept.fact workIn) (kept.events _ eventIn) fact
  | applied resolved targetWorkId => exact .applied resolved targetWorkId
  | noOp resolved => exact .noOp resolved
  | unsupported => exact .unsupported
  | rejected => exact .rejected

end Ledgers

section Outcomes

variable {store : IngressStore}

theorem LedgerOk.queuedOfStream (ok : LedgerOk store.toLedger) {row : WorkItemRow} {event : JournalEvent}
    (rowIn : row ∈ store.works) (eventIn : event ∈ store.journal)
    (fact : event.queuedFact = some row.queuedFact) :
    store.journal.filter (fun other => other.streamId == .work row.id &&
      other.payload.isWorkQueued) = [event] := by
  obtain ⟨queued, value, payload, sameFact⟩ := JournalEvent.queuedFact_eq_some fact
  have sameWork : row.id = value.workId := congrArg QueuedFact.workId sameFact
  obtain ⟨only, _, _, unique⟩ := ok.queuedEvent rowIn
  have isOnly : event = only := unique event eventIn value payload sameWork.symm
  refine ok.journal.keyed.filter_eq_singleton eventIn ?_ ?_
  · simp [queued, (ok.queue.placed event eventIn value payload).1, sameWork]
  · intro other otherIn selected
    simp only [Bool.and_eq_true, beq_iff_eq] at selected
    obtain ⟨otherValue, otherPayload⟩ := JournalEvent.isWorkQueued_iff.mp selected.2
    have placed := (ok.queue.placed other otherIn otherValue otherPayload).1
    rw [selected.1, JournalStreamId.work.injEq] at placed
    rw [isOnly]
    exact unique other otherIn otherValue otherPayload placed.symm

theorem LedgerOk.messageCursor (ok : LedgerOk store.toLedger) {row : WorkItemRow} {event : JournalEvent}
    (rowIn : row ∈ store.works) (eventIn : event ∈ store.journal)
    (fact : event.queuedFact = some row.queuedFact) :
    store.messageCursor row.id = .ok event.journalOffset := by
  simp only [IngressStore.messageCursor, ok.queuedOfStream rowIn eventIn fact]

theorem Recorded.duplicateOutcome (ok : LedgerOk store.toLedger) {request : ClassifyInboundRequest}
    {classification : InboundClassification} {outcome : DurableInboundOutcome}
    (recorded : Recorded store.toLedger request.candidates.inboundDeliveryId classification outcome)
    (digest : Sha256Digest) :
    store.duplicateOutcome (request.classifiedRow classification) digest =
      if request.materialDigest = digest then .ok outcome else .error .contradictoryReplay := by
  have rowDigest : (request.classifiedRow classification).materialDigest = request.materialDigest := rfl
  have rowClassified : (request.classifiedRow classification).classified =
      some (classification, request.observedAt) := rfl
  by_cases same : request.materialDigest = digest
  · simp only [IngressStore.duplicateOutcome, rowDigest, rowClassified, same, bne_self_eq_false,
      refuseIf_false, ok_bind, orRefuse_some, if_true]
    cases recorded with
    | message resolved messageId work event workIn eventIn fact =>
      obtain ⟨row, rowIn, sameFact⟩ := List.mem_map.mp workIn
      have rowFact : event.queuedFact = some row.queuedFact := by rw [sameFact, fact]
      simp only [WorkItemRow.queuedFact, QueuedFact.mk.injEq] at sameFact
      have found : store.works.find? (fun other => other.id == work.id) = some row := by
        rw [← sameFact.1]
        exact ok.queue.works.lookup rowIn
      have cursor := ok.messageCursor rowIn eventIn rowFact
      rw [sameFact.1] at cursor
      simp only [found, orRefuse_some, ok_bind, cursor, sameFact.2.2]
      rfl
    | applied resolved targetWorkId => rfl
    | noOp resolved => rfl
    | unsupported => rfl
    | rejected => rfl
  · have different : (request.materialDigest != digest) = true := by simpa using same
    simp only [IngressStore.duplicateOutcome, rowDigest, different, refuseIf_true, error_bind, same,
      if_false]

end Outcomes

/-! What a move does to the deliveries. -/

section Cancellations

variable {ledger : Ledger}

def Ledger.channelCancellations (ledger : Ledger) : List (WorkId × InboundDeliveryId) :=
  ledger.journal.filterMap JournalEvent.channelCancellation

theorem channelCancellations_record (ledger : Ledger) (intent : JournalAppendIntent) :
    (ledger.record intent).channelCancellations = ledger.channelCancellations ++
      (eventFor ledger.journal intent).channelCancellation.toList := by
  cases found : (eventFor ledger.journal intent).channelCancellation <;>
    simp [Ledger.channelCancellations, Ledger.record, found]

theorem channelCancellation_other {move : WorkMove}
    (notChannel : ∀ userId inboundDeliveryId, move.origin ≠ .user (.channel userId inboundDeliveryId))
    (journal : List JournalEvent) : (eventFor journal move.intent).channelCancellation = none := by
  have payload : (eventFor journal move.intent).payload =
      move.origin.payload move.decision.eventKind move.transition := rfl
  rcases move.origin.payload_cases move.decision.eventKind move.transition with plain |
    ⟨userId, inboundDeliveryId, isChannel, _⟩
  · simp [JournalEvent.channelCancellation, payload, plain]
  · exact absurd isChannel (notChannel userId inboundDeliveryId)

theorem channelCancellation_channel {move : WorkMove} (can : ledger.CanMove move) {userId : UserId}
    {inboundDeliveryId : InboundDeliveryId} (origin : move.origin = .user (.channel userId inboundDeliveryId))
    (journal : List JournalEvent) :
    (eventFor journal move.intent).channelCancellation = some (move.row.id, inboundDeliveryId) := by
  have payload : (eventFor journal move.intent).payload =
      move.origin.payload move.decision.eventKind move.transition := rfl
  have workId : move.transition.workId = move.row.id := rfl
  have asked := can.allowed
  rw [origin] at asked
  have kind := decided_eventKind can.decided
  rcases cancellationRequest_eq_some asked with ⟨_, request⟩ | ⟨_, request⟩ <;> rw [request] at kind
  · simp [JournalEvent.channelCancellation, payload, origin, kind, TransitionOrigin.payload,
      WorkTransitionRequest.eventKind, workId]
  · simp [JournalEvent.channelCancellation, payload, origin, kind, TransitionOrigin.payload,
      WorkTransitionRequest.eventKind, workId]

end Cancellations

section Moves

variable {sha256 : List UInt8 → Sha256Digest} {store next : IngressStore} {move : IngressMove}

theorem channelCancellations_move {workMove : WorkMove}
    (notChannel : ∀ userId inboundDeliveryId, workMove.origin ≠ .user (.channel userId inboundDeliveryId)) :
    (store.toLedger.move workMove).channelCancellations = store.channelCancellations := by
  have recorded := channelCancellations_record store.toLedger workMove.intent
  rw [channelCancellation_other notChannel, Option.toList_none, List.append_nil] at recorded
  exact recorded

theorem channelCancellations_admitMessage {request : CanonicalMessageAdmission}
    {nextOrdinal : ConversationWorkOrdinal} {nextVersion : ProjectionVersion} :
    (store.toLedger.admitMessage request nextOrdinal nextVersion).channelCancellations =
      store.channelCancellations := by
  simp [Ledger.channelCancellations, Ledger.admitMessage, Ledger.record, eventFor,
    JournalEvent.channelCancellation, CanonicalMessageAdmission.acceptedIntent,
    CanonicalMessageAdmission.queuedIntent]

theorem IngressStep.extends (ok : LedgerOk store.toLedger) (step : IngressStep sha256 store move next) :
    Extends store.toLedger next.toLedger := by
  rcases step.ledger with same | ledgerStep
  · rw [same]
    exact .refl _
  · exact ledgerStep.extends ok.queue

def MessageRow.isChannel (row : MessageRow) : Bool :=
  !row.isNative

theorem IngressStep.deliveries (step : IngressStep sha256 store move next)
    (other : ∀ request, move ≠ .classify request) :
    next.inbound = store.inbound ∧
      next.messages.filter MessageRow.isChannel = store.messages.filter MessageRow.isChannel ∧
      next.channelCancellations = store.channelCancellations := by
  cases step with
  | provisioned | revoked | runtimesSet | rewired | notClaimed => exact ⟨rfl, rfl, rfl⟩
  | created _ _ _ _ _ _ conversation intent can =>
    refine ⟨rfl, rfl, ?_⟩
    have recorded := channelCancellations_record store.toLedger intent
    have plain : (eventFor store.journal intent).channelCancellation = none := by
      simp [JournalEvent.channelCancellation, eventFor, can.payload]
    rw [plain, Option.toList_none, List.append_nil] at recorded
    exact recorded
  | recorded intent kind evidence fresh =>
    refine ⟨rfl, rfl, ?_⟩
    have recorded := channelCancellations_record store.toLedger intent
    simpa [JournalEvent.channelCancellation, eventFor, evidence] using recorded
  | claimed _ _ _ workMove origin | advanced _ _ _ _ _ workMove origin =>
    exact ⟨rfl, rfl, channelCancellations_move fun _ _ => by rw [origin]; simp⟩
  | accepted _ _ _ accepted =>
    cases accepted with
    | replayed => exact ⟨rfl, rfl, rfl⟩
    | committed topology nextOrdinal nextVersion =>
      refine ⟨rfl, ?_, channelCancellations_admitMessage⟩
      simp [IngressStore.withCommand, IngressStore.withLedger, Ledger.admitMessage, MessageRow.isChannel,
        MessageRow.isNative, CanonicalMessageAdmission.message, AcceptUserMessageRequest.admission]
  | cancelAnswered _ _ _ answered =>
    cases answered with
    | replayed | ignored => exact ⟨rfl, rfl, rfl⟩
    | moved workMove _ _ _ _ origin =>
      exact ⟨rfl, rfl, channelCancellations_move fun _ _ => by rw [origin]; simp⟩
  | classified request => exact absurd rfl (other request)

end Moves

structure Deliveries (store : IngressStore)
    (classified : List (ClassifyInboundRequest × DurableInboundOutcome)) : Prop where
  keyed : DeliveriesKeyed store.inbound
  table : store.inbound.map (fun row => (row.id, row.eventKey, row.classified.isSome)) =
    classified.map fun entry => (entry.1.candidates.inboundDeliveryId, entry.1.eventKey, true)
  rows : ∀ entry ∈ classified, ∃ classification, entry.1.classifiedRow classification ∈ store.inbound ∧
    Recorded store.toLedger entry.1.candidates.inboundDeliveryId classification entry.2
  messages : ((store.messages.filter MessageRow.isChannel).map fun row => (row.id, row.origin)) =
    classified.filterMap fun entry => entry.2.message
  linked : ∀ link ∈ store.channelCancellations, ∃ entry ∈ classified,
    entry.2 = .controlApplied link.2 link.1
  cancelledOnce : (store.channelCancellations.map Prod.snd).Nodup

theorem Recorded.applied_id {ledger : Ledger} {id inboundDeliveryId : InboundDeliveryId}
    {workId : WorkId} {classification : InboundClassification}
    (recorded : Recorded ledger id classification (.controlApplied inboundDeliveryId workId)) :
    inboundDeliveryId = id := by
  cases recorded
  rfl

section Run

variable {sha256 : List UInt8 → Sha256Digest} {store next : IngressStore} {move : IngressMove}
  {classified : List (ClassifyInboundRequest × DurableInboundOutcome)}

section

variable (deliveries : Deliveries store classified)
include deliveries

theorem Deliveries.ids :
    store.inbound.map InboundDeliveryRow.id =
      classified.map fun entry => entry.1.candidates.inboundDeliveryId := by
  have first := congrArg (List.map Prod.fst) deliveries.table
  rwa [List.map_map, List.map_map] at first

theorem Deliveries.link_recorded {link : WorkId × InboundDeliveryId}
    (member : link ∈ store.channelCancellations) : ∃ row ∈ store.inbound, row.id = link.2 := by
  obtain ⟨entry, entryIn, outcome⟩ := deliveries.linked link member
  obtain ⟨classification, rowIn, recorded⟩ := deliveries.rows entry entryIn
  rw [outcome] at recorded
  exact ⟨_, rowIn, recorded.applied_id.symm⟩

theorem Deliveries.kept
    (inbound : next.inbound = store.inbound) (kept : Extends store.toLedger next.toLedger)
    (messages : next.messages.filter MessageRow.isChannel = store.messages.filter MessageRow.isChannel)
    (cancellations : next.channelCancellations = store.channelCancellations) :
    Deliveries next classified := by
  refine ⟨inbound ▸ deliveries.keyed, inbound ▸ deliveries.table, ?_, messages ▸ deliveries.messages,
    cancellations ▸ deliveries.linked, cancellations ▸ deliveries.cancelledOnce⟩
  intro entry member
  obtain ⟨classification, rowIn, recorded⟩ := deliveries.rows entry member
  exact ⟨classification, inbound ▸ rowIn, recorded.extend kept⟩

theorem Deliveries.extend {request : ClassifyInboundRequest}
    {classification : InboundClassification} {outcome : DurableInboundOutcome}
    (fresh : FreshDelivery store request)
    (inbound : next.inbound = store.inbound ++ [request.classifiedRow classification])
    (kept : Extends store.toLedger next.toLedger)
    (recorded : Recorded next.toLedger request.candidates.inboundDeliveryId classification outcome)
    (messages : ((next.messages.filter MessageRow.isChannel).map fun row => (row.id, row.origin)) =
      ((store.messages.filter MessageRow.isChannel).map fun row => (row.id, row.origin)) ++
        outcome.message.toList) (link : Option WorkId)
    (cancellations : next.channelCancellations = store.channelCancellations ++
      (link.map fun workId => (workId, request.candidates.inboundDeliveryId)).toList)
    (applied : ∀ workId, link = some workId →
      outcome = .controlApplied request.candidates.inboundDeliveryId workId) :
    Deliveries next (classified ++ [(request, outcome)]) := by
  refine ⟨inbound ▸ deliveries.keyed.deliver fresh classification, ?_, ?_, ?_, ?_, ?_⟩
  · rw [inbound, List.map_append, deliveries.table, List.map_append]
    rfl
  · intro entry member
    rw [inbound]
    rcases List.mem_append.mp member with old | new
    · obtain ⟨oldClassification, rowIn, oldRecorded⟩ := deliveries.rows entry old
      exact ⟨oldClassification, List.mem_append_left _ rowIn, oldRecorded.extend kept⟩
    · rw [List.mem_singleton.mp new]
      exact ⟨classification, List.mem_append_right _ (List.mem_singleton_self _), recorded⟩
  · rw [messages, deliveries.messages, List.filterMap_append]
    cases found : outcome.message <;> simp [found]
  · intro cancelled member
    rw [cancellations] at member
    rcases List.mem_append.mp member with old | new
    · obtain ⟨entry, entryIn, entryApplied⟩ := deliveries.linked cancelled old
      exact ⟨entry, List.mem_append_left _ entryIn, entryApplied⟩
    · simp only [Option.mem_toList, Option.map_eq_some_iff] at new
      obtain ⟨workId, isLink, rfl⟩ := new
      exact ⟨_, List.mem_append_right _ (List.mem_singleton_self _), applied workId isLink⟩
  · rw [cancellations, List.map_append, List.nodup_append]
    refine ⟨deliveries.cancelledOnce, ?_, ?_⟩
    · cases link <;> simp
    · intro oldId oldIn newId newIn same
      obtain ⟨oldLink, oldLinkIn, rfl⟩ := List.mem_map.mp oldIn
      obtain ⟨newLink, newLinkIn, rfl⟩ := List.mem_map.mp newIn
      simp only [Option.mem_toList, Option.map_eq_some_iff] at newLinkIn
      obtain ⟨workId, _, rfl⟩ := newLinkIn
      obtain ⟨row, rowIn, rowId⟩ := deliveries.link_recorded oldLinkIn
      exact fresh.id row rowIn (rowId.trans same)

end

theorem Deliveries.classify (ok : LedgerOk store.toLedger) (deliveries : Deliveries store classified)
    {request : ClassifyInboundRequest} {result : ClassifiedInbound}
    (step : Classified store request next result) :
    Deliveries next (classified ++ match result.disposition with
      | .newlyClassified => [(request, result.outcome)]
      | .duplicate => []) := by
  cases step with
  | duplicate =>
    rw [List.append_nil]
    exact deliveries
  | rejected fresh =>
    exact deliveries.extend fresh rfl (.refl _) .rejected (List.append_nil _).symm none
      (List.append_nil _).symm (by simp)
  | unsupported fresh =>
    exact deliveries.extend fresh rfl (.refl _) .unsupported (List.append_nil _).symm
      none (List.append_nil _).symm (by simp)
  | message fresh authorized content nextOrdinal nextVersion can =>
    have kept := (LedgerStep.admitted _ nextOrdinal nextVersion can).extends ok.queue
    refine deliveries.extend fresh rfl kept ?_ ?_ none ?_ (by simp)
    · let queued := eventFor (store.toLedger.record
        (request.admission authorized content).acceptedIntent).journal
        (request.admission authorized content).queuedIntent
      have offset : queued.journalOffset = store.journal.length + 2 := by
        simp [queued, eventFor, Ledger.record]
      have recorded : Recorded (store.toLedger.admitMessage (request.admission authorized content) nextOrdinal
          nextVersion) request.candidates.inboundDeliveryId
          (.message authorized.toResolvedTopology request.candidates.messageId request.candidates.workId)
          (.messageAccepted request.candidates.inboundDeliveryId request.candidates.messageId
            request.candidates.workId authorized.nextOrdinal queued.journalOffset) :=
        .message _ _ (request.admission authorized content).work queued (by simp [Ledger.admitMessage])
          (mem_journal_admitMessage.mpr (Or.inr (Or.inr rfl))) rfl
      rw [offset] at recorded
      exact recorded
    · have channel : (request.admission authorized content).message.isChannel = true := rfl
      simp only [IngressStore.withLedger, Ledger.admitMessage, List.filter_append, List.map_append,
        List.filter_cons, channel, if_true, List.filter_nil]
      rfl
    · rw [Option.map_none, Option.toList_none, List.append_nil]
      exact channelCancellations_admitMessage
  | noTarget fresh authorized found =>
    exact deliveries.extend fresh rfl (.refl _) (.noOp _) (List.append_nil _).symm none
      (List.append_nil _).symm (by simp)
  | alreadyRequested fresh authorized found row member home requested =>
    exact deliveries.extend fresh rfl (.refl _) (.applied _ _)
      (List.append_nil _).symm none (List.append_nil _).symm (by simp)
  | cancelled fresh authorized found workMove home origin committedAt can effect =>
    have kept := (LedgerStep.moved workMove can).extends ok.queue
    refine deliveries.extend fresh rfl kept (.applied _ _) (List.append_nil _).symm
      (some workMove.row.id) ?_ fun workId same => by rw [← Option.some.inj same]; rfl
    have recorded := channelCancellations_record store.toLedger workMove.intent
    rw [channelCancellation_channel can origin] at recorded
    exact recorded

theorem Deliveries.afterOffer (ok : LedgerOk store.toLedger) (deliveries : Deliveries store classified)
    (move : IngressMove) : Deliveries (offer (ingressStep sha256) store move)
      (classified ++ (classifiedDelivery store move).toList) := by
  by_cases isClassify : ∃ request, move = .classify request
  · obtain ⟨request, rfl⟩ := isClassify
    cases answer : store.classifyInbound request with
    | error =>
      have refused : ingressStep sha256 store (.classify request) = none := by
        simp [ingressStep, answer, Except.toOption]
      simpa [offer_refused refused, classifiedDelivery, answer] using deliveries
    | ok result =>
      obtain ⟨after, disposition, outcome, effect⟩ := result
      have stepped : ingressStep sha256 store (.classify request) = some after := by
        simp [ingressStep, answer, Except.toOption]
      rw [offer_accepted stepped]
      have extended := deliveries.classify ok (classifyInbound_eq_ok ok answer)
      cases disposition <;> simpa [classifiedDelivery, answer] using extended
  · have notClassify : ∀ request, move ≠ .classify request :=
      fun request same => isClassify ⟨request, same⟩
    have nothing : classifiedDelivery store move = none := by
      cases move with
      | classify request => exact absurd rfl (notClassify request)
      | _ => rfl
    rw [nothing, Option.toList_none, List.append_nil]
    cases stepped : ingressStep sha256 store move with
    | none => rwa [offer_refused stepped]
    | some after =>
      rw [offer_accepted stepped]
      have step := ingressStep_cases ok stepped
      obtain ⟨inbound, messages, cancellations⟩ := step.deliveries notClassify
      exact deliveries.kept inbound (step.extends ok) messages cancellations

theorem Deliveries.afterRun (moves : List IngressMove) : ∀ {store : IngressStore}
    {classified : List (ClassifyInboundRequest × DurableInboundOutcome)}, LedgerOk store.toLedger →
      Deliveries store classified → Deliveries (replay (ingressStep sha256) store moves)
        (classified ++ classifiedDeliveries sha256 store moves) := by
  induction moves with
  | nil =>
    intro store classified _ deliveries
    simpa [classifiedDeliveries] using deliveries
  | cons move rest ih =>
    intro store classified ok deliveries
    have extended : Deliveries (replay (ingressStep sha256) (offer (ingressStep sha256) store move) rest) _ :=
      ih (ok.afterOffer move) (deliveries.afterOffer ok move)
    rwa [List.append_assoc] at extended

end Run

theorem ingressAfter_deliveries (sha256 : List UInt8 → Sha256Digest) (primary : ConversationId)
    (moves : List IngressMove) : Deliveries (ingressAfter sha256 primary moves)
      (classifiedDeliveries sha256 (.empty primary) moves) := by
  have initial : Deliveries (.empty primary) [] := by
    refine ⟨⟨List.nodup_nil, List.nodup_nil, ?_⟩, rfl, ?_, rfl, ?_, List.nodup_nil⟩
    · simp [IngressStore.empty]
    · simp
    · simp [IngressStore.empty, Ledger.empty, Ledger.channelCancellations]
  exact Deliveries.afterRun moves LedgerOk.empty initial

theorem classifiedDeliveries_offered {sha256 : List UInt8 → Sha256Digest} (moves : List IngressMove) :
    ∀ {store : IngressStore} {entry : ClassifyInboundRequest × DurableInboundOutcome},
      entry ∈ classifiedDeliveries sha256 store moves → .classify entry.1 ∈ moves := by
  induction moves with
  | nil =>
    intro store entry member
    cases member
  | cons move rest ih =>
    intro store entry member
    rcases List.mem_append.mp member with here | later
    · rw [Option.mem_toList] at here
      cases move with
      | classify request =>
        simp only [classifiedDelivery] at here
        split at here
        · cases here
          exact List.mem_cons_self
        · cases here
      | _ => cases here
    · exact List.mem_cons_of_mem _ (ih later)

structure ClassifyInboundRequest.Digested (sha256 : List UInt8 → Sha256Digest)
    (shown : UtcTimestamp → List UInt8) (times : Set UtcTimestamp) (materials : Set (List UInt8))
    (request : ClassifyInboundRequest) : Prop where
  digest : request.materialDigest = sha256 (request.toVerifiedInboundEvent.material shown)
  material : request.toVerifiedInboundEvent.material shown ∈ materials
  timed : ∀ time ∈ request.providerOccurredAt, time ∈ times

section Redelivery

variable {store : IngressStore} {classified : List (ClassifyInboundRequest × DurableInboundOutcome)}
  {redelivery : ClassifyInboundRequest}

theorem Deliveries.entry_of_row (deliveries : Deliveries store classified) {row : InboundDeliveryRow}
    (member : row ∈ store.inbound) :
    ∃ entry ∈ classified, ∃ classification, row = entry.1.classifiedRow classification := by
  have listed : row.id ∈ classified.map fun entry => entry.1.candidates.inboundDeliveryId := by
    rw [← deliveries.ids]
    exact List.mem_map_of_mem member
  obtain ⟨entry, entryIn, sameId⟩ := List.mem_map.mp listed
  obtain ⟨classification, rowIn, _⟩ := deliveries.rows entry entryIn
  exact ⟨entry, entryIn, classification, deliveries.keyed.ids.eq member rowIn sameId.symm⟩

theorem Deliveries.redelivered (ok : LedgerOk store.toLedger) (deliveries : Deliveries store classified)
    {entry : ClassifyInboundRequest × DurableInboundOutcome} (member : entry ∈ classified)
    (shares : redelivery.SharesKey entry.1.toVerifiedInboundEvent)
    (only : ∀ other ∈ classified, redelivery.SharesKey other.1.toVerifiedInboundEvent → other = entry) :
    store.classifyInbound redelivery =
      if entry.1.materialDigest = redelivery.materialDigest then .ok (store, ⟨.duplicate, entry.2, .none⟩)
      else .error .contradictoryReplay := by
  obtain ⟨classification, rowIn, recorded⟩ := deliveries.rows entry member
  have found : store.existingDelivery redelivery.toVerifiedInboundEvent =
      .ok (some (entry.1.classifiedRow classification)) := by
    refine existingDelivery_single deliveries.keyed rowIn shares ?_
    intro other otherIn otherShares
    obtain ⟨otherEntry, otherEntryIn, otherClassification, rfl⟩ := deliveries.entry_of_row otherIn
    rw [only otherEntry otherEntryIn otherShares] at otherIn ⊢
    exact deliveries.keyed.ids.eq otherIn rowIn rfl
  simp only [IngressStore.classifyInbound, found, ok_bind, recorded.duplicateOutcome ok]
  split <;> rfl

theorem Deliveries.split (deliveries : Deliveries store classified)
    {first second : ClassifyInboundRequest × DurableInboundOutcome} (firstIn : first ∈ classified)
    (secondIn : second ∈ classified) (different : first ≠ second)
    (sharesFirst : redelivery.SharesKey first.1.toVerifiedInboundEvent)
    (sharesSecond : redelivery.SharesKey second.1.toVerifiedInboundEvent) :
    store.classifyInbound redelivery = .error .inconsistent := by
  obtain ⟨firstClass, firstRow, _⟩ := deliveries.rows first firstIn
  obtain ⟨secondClass, secondRow, _⟩ := deliveries.rows second secondIn
  have ids : (classified.map fun entry => entry.1.candidates.inboundDeliveryId).Nodup := by
    rw [← deliveries.ids]
    exact deliveries.keyed.ids
  have rows : first.1.classifiedRow firstClass ≠ second.1.classifiedRow secondClass := by
    intro same
    exact different (List.inj_on_of_nodup_map ids firstIn secondIn (congrArg InboundDeliveryRow.id same))
  have found : store.existingDelivery redelivery.toVerifiedInboundEvent = .error .inconsistent := by
    rcases sharesFirst with firstEvent | ⟨present, firstMessage⟩
    · rcases sharesSecond with secondEvent | ⟨present, secondMessage⟩
      · exact absurd (deliveries.keyed.events.eq firstRow secondRow (firstEvent.symm.trans secondEvent)) rows
      · exact existingDelivery_split deliveries.keyed firstRow secondRow rows firstEvent present
          secondMessage
    · rcases sharesSecond with secondEvent | ⟨_, secondMessage⟩
      · exact existingDelivery_split deliveries.keyed secondRow firstRow rows.symm secondEvent present
          firstMessage
      · refine absurd (deliveries.keyed.messages _ firstRow _ secondRow ?_
          (firstMessage.symm.trans secondMessage)) rows
        exact fun absent => present (firstMessage.trans absent)
  simp only [IngressStore.classifyInbound, found, error_bind]

end Redelivery

/-- Every event id is classified once, and an event that is delivered again changes nothing. -/
theorem channel_events_exactly_once (sha256 : List UInt8 → Sha256Digest)
    (shown : UtcTimestamp → List UInt8) (times : Set UtcTimestamp) (distinct : ShownDistinctly shown times)
    (materials : Set (List UInt8)) (collisionFree : Set.InjOn sha256 materials)
    (primary : ConversationId) (moves : List IngressMove)
    (offered : ∀ request, .classify request ∈ moves → request.Digested sha256 shown times materials) :
    let store := ingressAfter sha256 primary moves
    let classified := classifiedDeliveries sha256 (.empty primary) moves
    (classified.map fun entry => entry.1.eventKey).Nodup ∧
    store.inbound.map (fun row => (row.id, row.eventKey, row.classified.isSome)) =
      classified.map (fun entry => (entry.1.candidates.inboundDeliveryId, entry.1.eventKey, true)) ∧
    ((store.messages.filter MessageRow.isChannel).map fun row => (row.id, row.origin)) =
      classified.filterMap (fun entry => entry.2.message) ∧
    store.works.length = store.messages.length ∧
    (∀ entry ∈ classified, ∀ inboundDeliveryId messageId workId workOrdinal cursor,
      entry.2 = .messageAccepted inboundDeliveryId messageId workId workOrdinal cursor →
        ∃ work ∈ store.works, work.id = workId ∧ work.ordinal = workOrdinal) ∧
    (store.channelCancellations.map Prod.snd).Nodup ∧
    (∀ link ∈ store.channelCancellations, ∃ entry ∈ classified, entry.2 = .controlApplied link.2 link.1) ∧
    (∀ redelivery : ClassifyInboundRequest, redelivery.Digested sha256 shown times materials →
      ∀ entry ∈ classified, redelivery.SharesKey entry.1.toVerifiedInboundEvent →
        (∀ other ∈ classified, redelivery.SharesKey other.1.toVerifiedInboundEvent → other = entry) →
          store.classifyInbound redelivery =
            if redelivery.SameMaterial entry.1.toVerifiedInboundEvent then
              .ok (store, ⟨.duplicate, entry.2, .none⟩)
            else .error .contradictoryReplay) ∧
    ∀ redelivery : ClassifyInboundRequest, ∀ first ∈ classified, ∀ second ∈ classified, first ≠ second →
      redelivery.SharesKey first.1.toVerifiedInboundEvent →
        redelivery.SharesKey second.1.toVerifiedInboundEvent →
          store.classifyInbound redelivery = .error .inconsistent := by
  intro store classified
  have ok : LedgerOk store.toLedger := ingressAfter_ok sha256 primary moves
  have deliveries : Deliveries store classified := ingressAfter_deliveries sha256 primary moves
  have records := ingressAfter_records sha256 primary moves
  refine ⟨?_, deliveries.table, deliveries.messages, records.paired, ?_, deliveries.cancelledOnce,
    deliveries.linked, ?_, ?_⟩
  · have events := congrArg (List.map fun row => row.2.1) deliveries.table
    rw [List.map_map, List.map_map] at events
    have keyed : (store.inbound.map InboundDeliveryRow.eventKey).Nodup := deliveries.keyed.events
    exact events ▸ keyed
  · intro entry member inboundDeliveryId messageId workId workOrdinal cursor outcome
    obtain ⟨classification, _, recorded⟩ := deliveries.rows entry member
    rw [outcome] at recorded
    cases recorded with
    | message resolved _ work event workIn eventIn fact =>
      obtain ⟨row, rowIn, sameFact⟩ := List.mem_map.mp workIn
      simp only [WorkItemRow.queuedFact, QueuedFact.mk.injEq] at sameFact
      exact ⟨row, rowIn, sameFact.1, sameFact.2.2⟩
  · intro redelivery digested entry member shares only
    have entryDigested := offered entry.1 (classifiedDeliveries_offered moves member)
    rw [deliveries.redelivered ok member shares only]
    refine if_congr ?_ rfl rfl
    rw [entryDigested.digest, digested.digest,
      collisionFree.eq_iff entryDigested.material digested.material, eq_comm,
      VerifiedInboundEvent.material_inj distinct digested.timed entryDigested.timed]
  · intro redelivery first firstIn second secondIn different sharesFirst sharesSecond
    exact deliveries.split firstIn secondIn different sharesFirst sharesSecond

def sampleAccount : ChannelAccountId := ⟨sampleUuid 1⟩

def sampleExternal (digit : Nat) : ExternalId :=
  ⟨[Nat.digitChar (sampleHex digit)], by generalize sampleHex digit = hex; revert hex; decide⟩

def sampleEvent (event message : ExternalId) (digest : Sha256Digest) (digit : Nat) :
    ClassifyInboundRequest where
  channelAccountId := sampleAccount
  externalEventId := event
  externalMessageId := some message
  senderSubjectId := sampleExternal 10
  externalConversationId := sampleExternal 12
  externalThreadId := none
  payload := .text sampleContent
  providerOccurredAt := none
  observedAt := 2
  materialDigest := digest
  isControl := false
  deliveryProfile := none
  candidates := {
    inboundDeliveryId := ⟨sampleUuid digit⟩
    messageId := ⟨sampleUuid digit⟩
    workId := ⟨sampleUuid digit⟩
    acceptanceEventId := ⟨sampleUuid digit⟩
    queuedEventId := ⟨sampleUuid digit⟩
    cancellationEventId := ⟨sampleUuid digit⟩
    outboundDeliveryId := ⟨sampleUuid digit⟩ }

def oneDigest : Sha256Digest := ⟨List.replicate 64 '1', by decide⟩

def firstEvent : ClassifyInboundRequest :=
  sampleEvent (sampleExternal 1) (sampleExternal 1) zeroDigest 1

def secondEvent : ClassifyInboundRequest :=
  sampleEvent (sampleExternal 2) (sampleExternal 2) oneDigest 2

def splitEvent : ClassifyInboundRequest :=
  sampleEvent (sampleExternal 1) (sampleExternal 2) oneDigest 3

def sampleSha256 (bytes : List UInt8) : Sha256Digest :=
  if bytes = firstEvent.toVerifiedInboundEvent.material (fun _ => []) then zeroDigest else oneDigest

def sampleChannels : ChannelTopology :=
  ⟨[⟨sampleAccount, true, "sample".toList⟩], [], [], []⟩

def sampleMaterials : Set (List UInt8) :=
  {firstEvent.toVerifiedInboundEvent.material (fun _ => []),
    secondEvent.toVerifiedInboundEvent.material (fun _ => [])}

theorem sampleMaterials_injOn : Set.InjOn sampleSha256 sampleMaterials := by
  have different : sampleSha256 (firstEvent.toVerifiedInboundEvent.material fun _ => []) ≠
      sampleSha256 (secondEvent.toVerifiedInboundEvent.material fun _ => []) := by
    decide +kernel
  rintro first (rfl | rfl) second (rfl | rfl) same
  · rfl
  · exact absurd same different
  · exact absurd same.symm different
  · rfl

theorem channel_event_split_keys :
    let store := ingressAfter sampleSha256 sampleConversation
      [.rewireChannels sampleChannels, .classify firstEvent, .classify secondEvent]
    Set.InjOn sampleSha256 sampleMaterials ∧
    (∀ request ∈ [firstEvent, secondEvent, splitEvent],
      request.Digested sampleSha256 (fun _ => []) ∅ sampleMaterials) ∧
    splitEvent.eventKey = firstEvent.eventKey ∧
    ¬splitEvent.SameMaterial firstEvent.toVerifiedInboundEvent ∧
    store.classifyInbound splitEvent = .error .inconsistent := by
  refine ⟨sampleMaterials_injOn, ?_, rfl, by decide, ?_⟩
  · simp only [List.forall_mem_cons]
    refine ⟨⟨?_, Or.inl rfl, ?_⟩, ⟨?_, Or.inr rfl, ?_⟩, ⟨?_, Or.inr rfl, ?_⟩, by simp⟩
    · decide +kernel
    · exact fun _ absent => by cases absent
    · decide +kernel
    · exact fun _ absent => by cases absent
    · decide +kernel
    · exact fun _ absent => by cases absent
  · decide +kernel

theorem channel_events_exactly_once_redelivered :
    let moves : List IngressMove := [.rewireChannels sampleChannels, .classify firstEvent]
    let store := ingressAfter sampleSha256 sampleConversation moves
    ∃ outcome, (firstEvent, outcome) ∈ classifiedDeliveries sampleSha256 (.empty sampleConversation) moves ∧
      store.classifyInbound firstEvent = .ok (store, ⟨.duplicate, outcome, .none⟩) := by
  intro moves store
  have digested : firstEvent.Digested sampleSha256 (fun _ => []) ∅ sampleMaterials :=
    ⟨by decide +kernel, Or.inl rfl, fun _ absent => by cases absent⟩
  have offered : ∀ request, .classify request ∈ moves →
      request.Digested sampleSha256 (fun _ => []) ∅ sampleMaterials := by
    intro request member
    simp only [moves, List.mem_cons, reduceCtorEq, IngressMove.classify.injEq, List.not_mem_nil, or_false,
      false_or] at member
    rw [member]
    exact digested
  have classified : classifiedDeliveries sampleSha256 (.empty sampleConversation) moves =
      [(firstEvent, .rejected firstEvent.candidates.inboundDeliveryId)] := by
    decide +kernel
  refine ⟨.rejected firstEvent.candidates.inboundDeliveryId, by simp [classified], ?_⟩
  have answered := (channel_events_exactly_once sampleSha256 (fun _ => []) ∅ ⟨by simp, by simp⟩
    sampleMaterials sampleMaterials_injOn sampleConversation moves offered).2.2.2.2.2.2.2.1 firstEvent digested
    (firstEvent, .rejected firstEvent.candidates.inboundDeliveryId) (by simp [classified]) (Or.inl rfl)
    (by simp [classified])
  rwa [if_pos (by decide)] at answered

end Craxii
