import Craxii.Store.CancellationHistory
import Craxii.Store.DeliveryReplay

/-!
The startup verifiers accept what the transactions wrote, with one exception: a stop control that
finds its target already asked to stop has to be observed no earlier than that request.
-/

namespace Craxii

open ExceptRules Tables NumberedLog GuardedRun

@[simp] theorem require_true : require true = .ok () := rfl

/-! Messages of deliveries. -/

structure AdmissionRecorded (ledger : Ledger) (request : CanonicalMessageAdmission) : Prop where
  message : request.message ∈ ledger.messages
  work : request.work.columns ∈ ledger.works.map WorkItemRow.columns
  input : request.input ∈ ledger.inputs
  accepted : ∃ event ∈ ledger.journal, event.toJournalAppendIntent = request.acceptedIntent
  queued : ∃ event ∈ ledger.journal, event.toJournalAppendIntent = request.queuedIntent
  created : ∃ event ∈ ledger.journal, event.eventId = request.topology.conversationCreatedEventId ∧
    event.streamId = .conversation request.topology.conversationId ∧
    ∃ id, event.payload = .conversationCreated id

theorem AdmissionRecorded.extend {ledger after : Ledger} {request : CanonicalMessageAdmission}
    (recorded : AdmissionRecorded ledger request) (kept : Extends ledger after) :
    AdmissionRecorded after request := by
  refine ⟨kept.messages _ recorded.message, ?_, kept.inputs _ recorded.input, ?_, ?_, ?_⟩
  · obtain ⟨row, rowIn, same⟩ := List.mem_map.mp recorded.work
    rw [← same]
    exact kept.columns row rowIn
  · obtain ⟨event, eventIn, same⟩ := recorded.accepted
    exact ⟨event, kept.events event eventIn, same⟩
  · obtain ⟨event, eventIn, same⟩ := recorded.queued
    exact ⟨event, kept.events event eventIn, same⟩
  · obtain ⟨event, eventIn, facts⟩ := recorded.created
    exact ⟨event, kept.events event eventIn, facts⟩

theorem AdmissionRecorded.admitted {ledger : Ledger} {request : CanonicalMessageAdmission}
    {nextOrdinal : ConversationWorkOrdinal} {nextVersion : ProjectionVersion}
    (can : ledger.CanAdmit request nextOrdinal) :
    AdmissionRecorded (ledger.admitMessage request nextOrdinal nextVersion) request := by
  refine ⟨by simp [Ledger.admitMessage], by simp [Ledger.admitMessage], by simp [Ledger.admitMessage], ?_, ?_, ?_⟩
  · exact ⟨_, mem_journal_admitMessage.mpr (Or.inr (Or.inl rfl)), rfl⟩
  · exact ⟨_, mem_journal_admitMessage.mpr (Or.inr (Or.inr rfl)), rfl⟩
  · obtain ⟨event, eventIn, facts⟩ := can.created
    exact ⟨event, mem_journal_admitMessage.mpr (Or.inl eventIn), facts⟩

section Messages

variable {store : IngressStore} {request : CanonicalMessageAdmission} {id : InboundDeliveryId}
  {resolved : ResolvedTopology}

theorem LedgerOk.findEvent (ok : LedgerOk store.toLedger) {event : JournalEvent}
    (member : event ∈ store.journal) : store.findEvent event.eventId = some event :=
  ok.journal.keyed.lookup member

structure AdmittedFor (request : CanonicalMessageAdmission) (id : InboundDeliveryId)
    (resolved : ResolvedTopology) (messageId : MessageId) (workId : WorkId) : Prop where
  origin : request.origin = .inboundDelivery id
  messageId : request.candidates.messageId = messageId
  workId : request.candidates.workId = workId
  user : request.topology.userId = resolved.userId
  conversation : request.topology.conversationId = resolved.conversationId
  binding : request.replyBindingId = some resolved.bindingId

variable {messageId : MessageId} {workId : WorkId}

section

variable (ok : LedgerOk store.toLedger) (recorded : AdmissionRecorded store.toLedger request) (admitted : AdmittedFor request id resolved messageId workId)
include ok recorded admitted

theorem verifyAcceptedEvent_ok :
    store.verifyAcceptedEvent id resolved request.message workId request.candidates.acceptanceEventId =
      .ok () := by
  obtain ⟨accepted, acceptedIn, acceptedIs⟩ := recorded.accepted
  obtain ⟨created, createdIn, createdId, createdStream, conversationId, createdPayload⟩ := recorded.created
  have eventId : accepted.eventId = request.candidates.acceptanceEventId := by rw [acceptedIs]; rfl
  have found := ok.findEvent acceptedIn
  have cause := ok.findEvent createdIn
  rw [eventId] at found
  rw [createdId] at cause
  simp only [IngressStore.verifyAcceptedEvent, found, orRefuse_some, ok_bind, acceptedIs,
    CanonicalMessageAdmission.acceptedIntent, Option.bind_some, cause]
  simp [JournalEvent.isConversationCreated, createdPayload, createdStream, CanonicalMessageAdmission.message,
    admitted.conversation, admitted.user, admitted.origin, admitted.workId]

theorem verifyQueuedEvent_ok :
    store.verifyQueuedEvent resolved workId request.candidates.acceptanceEventId = .ok () := by
  obtain ⟨queued, queuedIn, queuedIs⟩ := recorded.queued
  obtain ⟨row, rowIn, sameColumns⟩ := List.mem_map.mp recorded.work
  have rowFact : row.queuedFact = request.work.queuedFact := congrArg Prod.fst sameColumns
  have fact : queued.queuedFact = some row.queuedFact := by
    rw [rowFact]
    simp [JournalEvent.queuedFact, queuedIs, CanonicalMessageAdmission.queuedIntent, WorkItemRow.queuedFact,
      CanonicalMessageAdmission.work, WorkLifecycleSnapshot.initial]
  have sameWork : row.id = workId := (congrArg QueuedFact.workId rowFact).trans admitted.workId
  have found : (store.journal.filter fun event => event.streamId == .work workId).find?
      (fun event => event.payload.isWorkQueued) = some queued := by
    have single := ok.queuedOfStream rowIn queuedIn fact
    rw [sameWork] at single
    rw [List.find?_filter, ← List.head?_filter]
    simp only [Bool.decide_and, Bool.decide_eq_true, single, List.head?_cons]
  simp only [IngressStore.verifyQueuedEvent, found, orRefuse_some, ok_bind, queuedIs,
    CanonicalMessageAdmission.queuedIntent]
  simp [admitted.workId, admitted.conversation, admitted.binding]

end

theorem verifyMessageClassification_ok (ok : LedgerOk store.toLedger)
    (history : LedgerHistory store.toLedger) (recorded : AdmissionRecorded store.toLedger request)
    (admitted : AdmittedFor request id resolved messageId workId) :
    store.verifyMessageClassification id resolved messageId workId = .ok () := by
  obtain ⟨row, rowIn, sameColumns⟩ := List.mem_map.mp recorded.work
  simp only [WorkItemRow.columns, Prod.mk.injEq, WorkItemRow.queuedFact, QueuedFact.mk.injEq] at sameColumns
  obtain ⟨⟨sameWork, sameConversation, _⟩, sameBinding, sameCorrelation⟩ := sameColumns
  have message : store.messages.find? (fun other => other.id == messageId) = some request.message := by
    rw [← admitted.messageId]
    exact history.messages.lookup recorded.message
  have work : store.works.find? (fun other => other.id == workId) = some row := by
    have sameId : row.id = workId := sameWork.trans admitted.workId
    exact sameId ▸ ok.queue.works.lookup rowIn
  have keyed : Keyed WorkInputRow.workId store.inputs := by
    rw [Keyed, history.inputs]
    exact ok.queue.works
  have input : store.inputs.filter (fun other => other.workId == workId) = [request.input] := by
    refine keyed.filter_eq_singleton recorded.input ?_ ?_
    · simp [← admitted.workId, CanonicalMessageAdmission.input]
    · intro other otherIn selected
      refine keyed.eq otherIn recorded.input ?_
      rw [beq_iff_eq.mp selected, ← admitted.workId]
      rfl
  have accepted := verifyAcceptedEvent_ok ok recorded admitted
  have queued := verifyQueuedEvent_ok ok recorded admitted
  simp only [IngressStore.verifyMessageClassification, message, work, input, orRefuse_some, ok_bind,
    sameConversation, sameBinding, sameCorrelation]
  simp only [CanonicalMessageAdmission.message, CanonicalMessageAdmission.work,
    CanonicalMessageAdmission.input, admitted.conversation, admitted.user, admitted.origin, admitted.workId,
    admitted.binding, beq_self_eq_true, Bool.and_self, require_true, ok_bind] at accepted ⊢
  rw [accepted, ok_bind, queued]

end Messages

/-! Controls of deliveries. -/

def Ledger.Unlinked (ledger : Ledger) (id : InboundDeliveryId) : Prop :=
  ∀ link ∈ ledger.channelCancellations, link.2 ≠ id

def Ledger.WorkIn (ledger : Ledger) (workId : WorkId) (conversationId : ConversationId) : Prop :=
  ∃ row ∈ ledger.works, row.id = workId ∧ row.conversationId = conversationId

theorem Ledger.WorkIn.extend {ledger after : Ledger} {workId : WorkId} {conversationId : ConversationId}
    (known : ledger.WorkIn workId conversationId) (kept : Extends ledger after) :
    after.WorkIn workId conversationId := by
  obtain ⟨row, rowIn, sameWork, sameConversation⟩ := known
  obtain ⟨found, foundIn, same⟩ := List.mem_map.mp (kept.columns row rowIn)
  simp only [WorkItemRow.columns, Prod.mk.injEq, WorkItemRow.queuedFact, QueuedFact.mk.injEq] at same
  exact ⟨found, foundIn, same.1.1.trans sameWork, same.1.2.1.trans sameConversation⟩

/-- What the verifier asks of a classified control, by what the control found. -/
inductive ControlRecorded (ledger : Ledger) (id : InboundDeliveryId) (resolved : ResolvedTopology)
    (classifiedAt : UtcTimestamp) : Option WorkId → Prop
  | noTarget (unlinked : ledger.Unlinked id) : ControlRecorded ledger id resolved classifiedAt none
  | linked (event : JournalEvent) (transition : WorkTransitionV1) (member : event ∈ ledger.journal)
      (link : event.asChannelCancellation = some (transition, id))
      (home : ledger.WorkIn transition.workId resolved.conversationId)
      (actor : event.actor = .userV2 resolved.userId)
      (conversation : event.conversationId = some resolved.conversationId) :
      ControlRecorded ledger id resolved classifiedAt (some transition.workId)
  | alreadyRequested (event : JournalEvent) (target : WorkId) (unlinked : ledger.Unlinked id)
      (home : ledger.WorkIn target resolved.conversationId) (member : event ∈ ledger.journal)
      (earlier : event.recordedAt ≤ classifiedAt) (work : event.workId = some target)
      (requested : event.anyCancelRequested target = true) :
      ControlRecorded ledger id resolved classifiedAt (some target)

theorem ControlRecorded.extend {ledger after : Ledger} {id : InboundDeliveryId}
    {resolved : ResolvedTopology} {classifiedAt : UtcTimestamp} {target : Option WorkId}
    (recorded : ControlRecorded ledger id resolved classifiedAt target) (kept : Extends ledger after)
    (unlinked : ledger.Unlinked id → after.Unlinked id) :
    ControlRecorded after id resolved classifiedAt target := by
  cases recorded with
  | noTarget before => exact .noTarget (unlinked before)
  | linked event transition member link home actor conversation =>
    exact .linked event transition (kept.events event member) link (home.extend kept) actor conversation
  | alreadyRequested event target before home member earlier work requested =>
    exact .alreadyRequested event target (unlinked before) (home.extend kept) (kept.events event member)
      earlier work requested

theorem channelCancellation_eq (event : JournalEvent) : event.channelCancellation =
    event.asChannelCancellation.map fun cancellation => (cancellation.1.workId, cancellation.2) := by
  unfold JournalEvent.channelCancellation JournalEvent.asChannelCancellation
  cases event.payload <;> rfl

section Controls

variable {store : IngressStore} {id : InboundDeliveryId} {resolved : ResolvedTopology}

theorem length_cancellationsOf :
    (store.cancellationsOf id).length = (store.channelCancellations.map Prod.snd).count id := by
  simp only [IngressStore.cancellationsOf, Ledger.channelCancellations]
  induction store.journal with
  | nil => rfl
  | cons event rest ih =>
    cases found : event.asChannelCancellation with
    | none => simpa [channelCancellation_eq, found] using ih
    | some cancellation =>
      by_cases same : cancellation.2 = id
      · simpa [channelCancellation_eq, found, same] using ih
      · simpa [channelCancellation_eq, found, same] using ih

variable {event : JournalEvent} {transition : WorkTransitionV1}

theorem mem_cancellationsOf
    (member : event ∈ store.journal) (link : event.asChannelCancellation = some (transition, id)) :
    (event, transition) ∈ store.cancellationsOf id :=
  List.mem_filterMap.mpr ⟨event, member, by simp [link]⟩

theorem cancellationsOf_unlinked (unlinked : store.Unlinked id) : store.cancellationsOf id = [] := by
  rw [← List.length_eq_zero_iff, length_cancellationsOf, List.count_eq_zero]
  intro member
  obtain ⟨link, linkIn, same⟩ := List.mem_map.mp member
  exact unlinked link linkIn same

theorem cancellationsOf_linked (once : (store.channelCancellations.map Prod.snd).Nodup)
    (member : event ∈ store.journal) (link : event.asChannelCancellation = some (transition, id)) :
    store.cancellationsOf id = [(event, transition)] := by
  have listed := mem_cancellationsOf member link
  have atMostOne : (store.cancellationsOf id).length ≤ 1 := by
    rw [length_cancellationsOf]
    exact List.nodup_iff_count_le_one.mp once id
  cases found : store.cancellationsOf id with
  | nil => simp [found] at listed
  | cons first rest =>
    rw [found] at listed atMostOne
    have single : rest = [] := by
      rw [← List.length_eq_zero_iff]
      simpa using atMostOne
    rw [single, List.mem_singleton] at listed
    rw [single, listed]

theorem LedgerHistory.previous (ok : LedgerOk store.toLedger)
    (history : LedgerHistory store.toLedger) (member : event ∈ store.journal)
    (isUser : event.IsUserTransition transition) :
    ∃ before previous, CancellationShaped before event transition ∧
      previousEvent store.journal event = some previous ∧
      event.causationEventId = some previous.eventId := by
  obtain ⟨before, after, split⟩ := List.append_of_mem member
  have shaped := history.built.allowed split transition isUser
  obtain ⟨previous, latest, caused⟩ := shaped.caused
  exact ⟨before, previous, shaped, ok.journal.streams.find_previous split latest, caused⟩

theorem verifyControl_ok (ok : LedgerOk store.toLedger) (history : LedgerHistory store.toLedger)
    (once : (store.channelCancellations.map Prod.snd).Nodup) {classifiedAt : UtcTimestamp}
    {target : Option WorkId}
    (recorded : ControlRecorded store.toLedger id resolved classifiedAt target) :
    ∃ linked, store.verifyControlClassification id resolved target classifiedAt = .ok linked ∧
      (store.Unlinked id ∨ linked = some id) := by
  cases recorded with
  | noTarget unlinked =>
    refine ⟨none, ?_, Or.inl unlinked⟩
    simp [IngressStore.verifyControlClassification, cancellationsOf_unlinked unlinked, pure, Except.pure]
  | linked event transition member link home actor conversation =>
    obtain ⟨row, rowIn, sameWork, sameConversation⟩ := home
    have found : store.works.find? (fun other => other.id == transition.workId) = some row :=
      sameWork ▸ ok.queue.works.lookup rowIn
    obtain ⟨before, previous, shaped, isPrevious, caused⟩ := history.previous ok member (Or.inr ⟨id, link⟩)
    have verified : store.verifyChannelCancellationEvent event transition resolved transition.workId =
        .ok () := by
      simp [IngressStore.verifyChannelCancellationEvent, isPrevious, caused, actor, conversation,
        shaped.stream, shaped.work, shaped.correlated, shaped.recorded, shaped.notOccurred, shaped.shape]
    refine ⟨some id, ?_, Or.inr rfl⟩
    simp [IngressStore.verifyControlClassification, found, sameConversation, verified,
      cancellationsOf_linked once member link, pure, Except.pure]
  | alreadyRequested event target unlinked home member earlier work requested =>
    obtain ⟨row, rowIn, sameWork, sameConversation⟩ := home
    have found : store.works.find? (fun other => other.id == target) = some row :=
      sameWork ▸ ok.queue.works.lookup rowIn
    have known : (store.journal.any fun event => decide (event.recordedAt ≤ classifiedAt) &&
        event.workId == some target && event.anyCancelRequested target) = true := by
      rw [List.any_eq_true]
      exact ⟨event, member, by simp [earlier, work, requested]⟩
    refine ⟨none, ?_, Or.inl unlinked⟩
    simp only [IngressStore.verifyControlClassification, found, orRefuse_some, ok_bind, sameConversation,
      beq_self_eq_true, require_true, cancellationsOf_unlinked unlinked, known]
    rfl

end Controls

/-! Deliveries. -/

def RowRecorded (ledger : Ledger) (id : InboundDeliveryId) :
    Option (InboundClassification × UtcTimestamp) → Prop
  | some (.message resolved messageId workId, _) => ∃ request, AdmissionRecorded ledger request ∧
      AdmittedFor request id resolved messageId workId
  | some (.control resolved target, classifiedAt) => ControlRecorded ledger id resolved classifiedAt target
  | _ => True

theorem RowRecorded.extend {ledger after : Ledger} {id : InboundDeliveryId}
    {classified : Option (InboundClassification × UtcTimestamp)}
    (recorded : RowRecorded ledger id classified) (kept : Extends ledger after)
    (unlinked : ledger.Unlinked id → after.Unlinked id) : RowRecorded after id classified := by
  unfold RowRecorded at recorded ⊢
  split
  · obtain ⟨request, admission, admitted⟩ := recorded
    exact ⟨request, admission.extend kept, admitted⟩
  · exact ControlRecorded.extend recorded kept unlinked
  · trivial

theorem verifyDelivery_ok {store : IngressStore} (ok : LedgerOk store.toLedger)
    (history : LedgerHistory store.toLedger) (once : (store.channelCancellations.map Prod.snd).Nodup)
    {row : InboundDeliveryRow} (recorded : RowRecorded store.toLedger row.id row.classified) :
    ∃ linked, store.verifyDelivery row = .ok linked := by
  unfold IngressStore.verifyDelivery
  cases classified : row.classified with
  | none => exact ⟨none, rfl⟩
  | some entry =>
    obtain ⟨classification, classifiedAt⟩ := entry
    rw [classified] at recorded
    cases classification with
    | message resolved messageId workId =>
      obtain ⟨request, admission, admitted⟩ := recorded
      refine ⟨none, ?_⟩
      simp only [verifyMessageClassification_ok ok history admission admitted, ok_bind]
      rfl
    | control resolved target =>
      obtain ⟨linked, verified, _⟩ := verifyControl_ok ok history once recorded
      exact ⟨linked, verified⟩
    | unsupported => exact ⟨none, rfl⟩
    | rejected => exact ⟨none, rfl⟩

theorem verifyChannelIngressConsistency_ok {store : IngressStore} (ok : LedgerOk store.toLedger)
    (history : LedgerHistory store.toLedger)
    {classified : List (ClassifyInboundRequest × DurableInboundOutcome)}
    (deliveries : Deliveries store classified)
    (rows : ∀ row ∈ store.inbound, RowRecorded store.toLedger row.id row.classified) :
    store.verifyChannelIngressConsistency = .ok () := by
  obtain ⟨linked, verified⟩ := exists_mapM_ok fun row member =>
    verifyDelivery_ok ok history deliveries.cancelledOnce (rows row member)
  have allLinked : ((store.journal.filterMap JournalEvent.asChannelCancellation).all fun cancellation =>
      linked.contains (some cancellation.2)) = true := by
    rw [List.all_eq_true]
    rintro ⟨transition, id⟩ member
    obtain ⟨event, eventIn, link⟩ := List.mem_filterMap.mp member
    have linkIn : (transition.workId, id) ∈ store.channelCancellations :=
      List.mem_filterMap.mpr ⟨event, eventIn, by simp [channelCancellation_eq, link]⟩
    -- The delivery that a cancellation names was classified as a control.
    obtain ⟨entry, entryIn, applied⟩ := deliveries.linked _ linkIn
    obtain ⟨classification, rowIn, recorded⟩ := deliveries.rows entry entryIn
    rw [applied] at recorded
    cases recorded with
    | applied resolved =>
      have control : ControlRecorded store.toLedger entry.1.candidates.inboundDeliveryId resolved
          entry.1.observedAt (some transition.workId) := rows _ rowIn
      obtain ⟨result, controlOk, unlinked | isLinked⟩ :=
        verifyControl_ok ok history deliveries.cancelledOnce control
      · exact absurd rfl (unlinked _ linkIn)
      · obtain ⟨found, foundIn, foundOk⟩ := (mapM_eq_ok verified).1 _ rowIn
        have same : result = found := Except.ok.inj (controlOk.symm.trans foundOk)
        rw [List.contains_iff_mem, ← isLinked, same]
        exact foundIn
  simp only [IngressStore.verifyChannelIngressConsistency, verified, ok_bind, allLinked, require_true]

/-! Native cancellations. -/

def DeviceRow.columns (row : DeviceRow) : DeviceId × UserId :=
  (row.id, row.userId)

def ConversationRow.columns (row : ConversationRow) : ConversationId × UserId :=
  (row.id, row.ownerUserId)

structure TablesExtend (store next : IngressStore) : Prop where
  ledger : Extends store.toLedger next.toLedger
  devices : ∀ row ∈ store.devices, row.columns ∈ next.devices.map DeviceRow.columns
  conversations : ∀ row ∈ store.conversations,
    row.columns ∈ next.conversations.map ConversationRow.columns
  commands : ∀ row ∈ store.commands, row ∈ next.commands

/-- The cancellation was asked for by a device of the work's owner, in a recorded command. -/
structure Issued (store : IngressStore) (event : JournalEvent) (transition : WorkTransitionV1) : Prop where
  owned : ∃ device ∈ store.devices, ∃ conversation ∈ store.conversations,
    event.actor = .user (some device.id) ∧ conversation.ownerUserId = device.userId ∧
      store.WorkIn transition.workId conversation.id
  commanded : ∃ command ∈ store.commands, command.kind = .cancel ∧ ∃ receipt,
    decodeCancellationReceipt command = .ok receipt ∧
      cancellationEventMatchesCommand event command receipt event.correlationId = true

theorem Issued.extend {store next : IngressStore} {event : JournalEvent} {transition : WorkTransitionV1}
    (issued : Issued store event transition) (kept : TablesExtend store next) :
    Issued next event transition := by
  constructor
  · obtain ⟨device, deviceIn, conversation, conversationIn, actor, owner, known⟩ := issued.owned
    obtain ⟨device', deviceIn', sameDevice⟩ := List.mem_map.mp (kept.devices device deviceIn)
    obtain ⟨conversation', conversationIn', sameConversation⟩ :=
      List.mem_map.mp (kept.conversations conversation conversationIn)
    simp only [DeviceRow.columns, Prod.mk.injEq] at sameDevice
    simp only [ConversationRow.columns, Prod.mk.injEq] at sameConversation
    refine ⟨device', deviceIn', conversation', conversationIn', ?_, ?_, ?_⟩
    · rw [sameDevice.1]
      exact actor
    · rw [sameConversation.2, sameDevice.2]
      exact owner
    · rw [sameConversation.1]
      exact known.extend kept.ledger
  · obtain ⟨command, commandIn, facts⟩ := issued.commanded
    exact ⟨command, kept.commands command commandIn, facts⟩

section Natives

variable {store : IngressStore} {event : JournalEvent} {transition : WorkTransitionV1}

theorem actorWorks_eq (ok : LedgerOk store.toLedger) (history : LedgerHistory store.toLedger)
    (devices : Keyed DeviceRow.id store.devices) {device : DeviceRow} {conversation : ConversationRow}
    (deviceIn : device ∈ store.devices) (conversationIn : conversation ∈ store.conversations)
    (owner : conversation.ownerUserId = device.userId) {workId : WorkId}
    (known : store.WorkIn workId conversation.id) : (store.actorWorks device.id workId).length = 1 := by
  obtain ⟨row, rowIn, sameWork, sameConversation⟩ := known
  have onlyDevice : store.devices.filter (fun other => other.id == device.id) = [device] :=
    devices.filter_eq_singleton deviceIn (by simp)
      fun other otherIn selected => devices.eq otherIn deviceIn (beq_iff_eq.mp selected)
  have onlyConversation : store.conversations.filter (fun other => other.ownerUserId == device.userId) =
      [conversation] :=
    history.owners.filter_eq_singleton conversationIn (by simp [owner])
      fun other otherIn selected => history.owners.eq otherIn conversationIn
        ((beq_iff_eq.mp selected).trans owner.symm)
  have onlyWork : store.works.filter (fun other => other.conversationId == conversation.id &&
      other.id == workId) = [row] := by
    refine ok.queue.works.filter_eq_singleton rowIn (by simp [sameWork, sameConversation]) ?_
    intro other otherIn selected
    simp only [Bool.and_eq_true, beq_iff_eq] at selected
    exact ok.queue.works.eq otherIn rowIn (selected.2.trans sameWork.symm)
  simp [IngressStore.actorWorks, onlyDevice, onlyConversation, onlyWork]

theorem matchingCommands_pos (decodable : ∀ command ∈ store.commands, command.kind = .cancel →
      ∃ receipt, decodeCancellationReceipt command = .ok receipt)
    (issued : Issued store event transition) :
    ∃ matching, store.matchingCommands event = .ok matching ∧ matching ≠ 0 := by
  obtain ⟨command, commandIn, kind, receipt, decoded, agrees⟩ := issued.commanded
  let answer := fun (command : ClientCommandRow) => (do
    let receipt ← decodeCancellationReceipt command
    return cancellationEventMatchesCommand event command receipt event.correlationId :
      Except StoreRefusal Bool)
  obtain ⟨results, answered⟩ : ∃ results,
      (store.commands.filter fun command => command.kind == .cancel).mapM answer = .ok results := by
    refine exists_mapM_ok fun other member => ?_
    obtain ⟨otherIn, selected⟩ := List.mem_filter.mp member
    obtain ⟨found, foundOk⟩ := decodable other otherIn (beq_iff_eq.mp selected)
    exact ⟨_, by simp only [answer, foundOk, ok_bind]; rfl⟩
  obtain ⟨result, resultIn, resultOk⟩ := (mapM_eq_ok answered).1 command
    (List.mem_filter.mpr ⟨commandIn, by simp [kind]⟩)
  have isTrue : result = true := by
    simp only [answer, decoded, ok_bind, pure, Except.pure, agrees, Except.ok.injEq] at resultOk
    exact resultOk.symm
  refine ⟨results.countP id, ?_, ?_⟩
  · simp only [IngressStore.matchingCommands]
    rw [answered]
    rfl
  · rw [Nat.ne_zero_iff_zero_lt, List.countP_pos_iff]
    exact ⟨result, resultIn, isTrue⟩

theorem LedgerHistory.last (ok : LedgerOk store.toLedger) (history : LedgerHistory store.toLedger)
    (member : event ∈ store.journal) (native : event.cancellationTransition = some transition)
    (work : event.workId = some transition.workId) :
    (store.journal.any fun candidate => decide (event.journalOffset < candidate.journalOffset) &&
      candidate.workId == event.workId && candidate.actor == event.actor &&
        candidate.cancellationTransition.any fun later =>
          later.transitionedAt == transition.transitionedAt) = false := by
  rw [List.any_eq_false]
  intro candidate candidateIn holds
  simp only [Bool.and_eq_true, decide_eq_true_eq, beq_iff_eq, Option.any_eq_true] at holds
  obtain ⟨⟨⟨before, sameWork⟩, _⟩, later, isLater, _⟩ := holds
  obtain ⟨_, _, shaped, _⟩ := history.previous ok candidateIn (Or.inl isLater)
  have different := ok.journal.counted.related history.once member candidateIn before transition later
    (Or.inl native) (Or.inl isLater)
  rw [shaped.work, work, Option.some.injEq] at sameWork
  exact different sameWork.symm

section

variable (ok : LedgerOk store.toLedger) (history : LedgerHistory store.toLedger) (devices : Keyed DeviceRow.id store.devices) (decodable : ∀ command ∈ store.commands, command.kind = .cancel → ∃ receipt, decodeCancellationReceipt command = .ok receipt)
include ok history devices decodable

theorem verifyCancellationEvent_ok
    (member : event ∈ store.journal) (native : event.cancellationTransition = some transition)
    (issued : Issued store event transition) :
    store.verifyCancellationEvent event transition = .ok () := by
  obtain ⟨before, previous, shaped, isPrevious, caused⟩ := history.previous ok member (Or.inl native)
  obtain ⟨device, deviceIn, conversation, conversationIn, actor, owner, known⟩ := issued.owned
  obtain ⟨matching, matchingOk, positive⟩ := matchingCommands_pos decodable issued
  have single := actorWorks_eq ok history devices deviceIn conversationIn owner known
  have last := history.last ok member native shaped.work
  have found : (matching != 0) = true := by simpa using positive
  simp only [IngressStore.verifyCancellationEvent, actor, isPrevious, orRefuse_some, ok_bind, single,
    shaped.stream, shaped.work, shaped.correlated, caused, shaped.recorded, shaped.notOccurred,
    shaped.shape, Option.isNone_none, beq_self_eq_true, Bool.and_self, require_true, matchingOk, found]
  simp only [actor, shaped.work] at last
  rw [last]
  rfl

theorem verifyStage9CancellationEvents_ok
    (issued : ∀ event ∈ store.journal, ∀ transition, event.cancellationTransition = some transition →
      Issued store event transition) : store.verifyStage9CancellationEvents = .ok () := by
  refine forM_ok fun event member => ?_
  cases native : event.cancellationTransition with
  | none => rfl
  | some transition =>
    exact verifyCancellationEvent_ok ok history devices decodable member native
      (issued event member transition native)

end

end Natives

/-! Runs. -/

/-- A control that finds its target already asked to stop was observed no earlier than the
request it finds. -/
def ObservedInOrder (store : IngressStore) : IngressMove → Prop
  | .classify request => ∀ next outcome effect, store.classifyInbound request =
      .ok (next, .newly outcome effect) → ∀ row ∈ store.works,
        outcome = .controlApplied request.candidates.inboundDeliveryId row.id →
          ∀ requestedAt, row.cancelRequestedAt = some requestedAt → requestedAt ≤ request.observedAt
  | _ => True

/-- What both verifiers read, in the form in which the transactions keep it. -/
structure Verifiable (store : IngressStore) : Prop where
  history : LedgerHistory store.toLedger
  deliveries : ∃ classified, Deliveries store classified
  rows : ∀ row ∈ store.inbound, RowRecorded store.toLedger row.id row.classified
  devices : Keyed DeviceRow.id store.devices
  decodable : ∀ command ∈ store.commands, command.kind = .cancel →
    ∃ receipt, decodeCancellationReceipt command = .ok receipt
  issued : ∀ event ∈ store.journal, ∀ transition, event.cancellationTransition = some transition →
    Issued store event transition

theorem Verifiable.accepted {store : IngressStore} (ok : LedgerOk store.toLedger)
    (verifiable : Verifiable store) : store.verifyChannelIngressConsistency = .ok () ∧
      store.verifyStage9CancellationEvents = .ok () := by
  obtain ⟨classified, deliveries⟩ := verifiable.deliveries
  exact ⟨verifyChannelIngressConsistency_ok ok verifiable.history deliveries verifiable.rows,
    verifyStage9CancellationEvents_ok ok verifiable.history verifiable.devices verifiable.decodable
      verifiable.issued⟩

section Steps

variable {sha256 : List UInt8 → Sha256Digest} {store next : IngressStore} {move : IngressMove}

variable {cleanup : CancellationCleanupDisposition} {receipt : CancellationCommandReceipt}
  {request : ClassifyInboundRequest} {ledger : Ledger} {cursor : Nat} {workId : WorkId}
  {workMove : WorkMove} {state : WorkState} {transition : WorkTransitionV1}

theorem tryNew_eq_some
    (answer : CancellationCommandReceipt.tryNew workId state cleanup cursor = some receipt) :
    receipt = ⟨workId, state, cleanup, cursor⟩ := by
  unfold CancellationCommandReceipt.tryNew at answer
  split at answer <;> simp_all

theorem decodeCancellationReceipt_commandRow (request : RequestCancellationRequest)
    (answer : CancellationCommandReceipt.tryNew workId state cleanup cursor = some receipt) :
    decodeCancellationReceipt (request.commandRow receipt) = .ok receipt := by
  obtain rfl := tryNew_eq_some answer
  cases cleanup <;>
    simp [decodeCancellationReceipt, RequestCancellationRequest.commandRow,
      StoredResponse.ofCancellation, CancellationCleanupDisposition.isPending, answer, pure, Except.pure]

theorem columns_admitMessage (conversations : List ConversationRow) (id : ConversationId)
    (nextOrdinal : ConversationWorkOrdinal) (nextVersion : ProjectionVersion) :
    (update (fun row : ConversationRow => row.id == id)
      (fun row => { row with nextWorkOrdinal := nextOrdinal, stateVersion := nextVersion })
      conversations).map ConversationRow.columns = conversations.map ConversationRow.columns :=
  map_update_of_kept fun _ _ _ => rfl

theorem LedgerStep.conversations {after : Ledger} (step : LedgerStep ledger after) :
    ∀ row ∈ ledger.conversations, row.columns ∈ after.conversations.map ConversationRow.columns := by
  intro row member
  cases step with
  | recorded | moved => exact List.mem_map_of_mem member
  | created => exact List.mem_map_of_mem (List.mem_append_left _ member)
  | admitted request nextOrdinal nextVersion =>
    have kept := columns_admitMessage ledger.conversations request.topology.conversationId nextOrdinal nextVersion
    exact kept ▸ List.mem_map_of_mem member

theorem columns_revoked (devices : List DeviceRow) (deviceId : DeviceId) :
    (update (fun row : DeviceRow => row.id == deviceId) (fun row => { row with revoked := true })
      devices).map DeviceRow.columns = devices.map DeviceRow.columns :=
  map_update_of_kept fun _ _ _ => rfl

theorem IngressStep.tables (ok : LedgerOk store.toLedger) (step : IngressStep sha256 store move next) :
    TablesExtend store next := by
  have conversations : ∀ row ∈ store.conversations,
      row.columns ∈ next.conversations.map ConversationRow.columns := by
    rcases step.ledger with same | ledgerStep
    · rw [same]
      exact fun row member => List.mem_map_of_mem member
    · exact ledgerStep.conversations
  refine ⟨step.extends ok, ?_, conversations, ?_⟩
  · intro row member
    cases step with
    | provisioned deviceId userId fresh => exact List.mem_map_of_mem (List.mem_append_left _ member)
    | revoked deviceId =>
      have kept := columns_revoked store.devices deviceId
      exact kept ▸ List.mem_map_of_mem member
    | accepted _ _ _ accepted => cases accepted <;> exact List.mem_map_of_mem member
    | cancelAnswered _ _ _ answered => cases answered <;> exact List.mem_map_of_mem member
    | classified _ _ _ classified => cases classified <;> exact List.mem_map_of_mem member
    | _ => exact List.mem_map_of_mem member
  · intro row member
    cases step with
    | accepted _ _ _ accepted =>
      cases accepted with
      | replayed => exact member
      | committed => exact List.mem_append_left _ member
    | cancelAnswered _ _ _ answered =>
      cases answered with
      | replayed => exact member
      | ignored => exact List.mem_append_left _ member
      | moved => exact List.mem_append_left _ member
    | classified _ _ _ classified => cases classified <;> exact member
    | _ => exact member

theorem cancellationTransition_channel
    (can : ledger.CanMove workMove) {userId : UserId} {inboundDeliveryId : InboundDeliveryId}
    (origin : workMove.origin = .user (.channel userId inboundDeliveryId)) (journal : List JournalEvent) :
    (eventFor journal workMove.intent).cancellationTransition = none := by
  have linked := channelCancellation_channel can origin journal
  unfold JournalEvent.cancellationTransition
  unfold JournalEvent.channelCancellation at linked
  split at linked
  · simp [*]
  · simp [*]
  · cases linked

theorem actor_native {deviceId : DeviceId}
    (origin : workMove.origin = .user (.native deviceId)) (journal : List JournalEvent) :
    (eventFor journal workMove.intent).actor = .user (some deviceId) := by
  have isOrigin : (eventFor journal workMove.intent).actor = workMove.origin.actor := rfl
  rw [isOrigin, origin]
  rfl

theorem matchesCommand_moved {request : RequestCancellationRequest}
    (target : workMove.row.id = request.workId)
    (origin : workMove.origin = .user (.native request.deviceId))
    (committedAt : workMove.committedAt = request.requestedAt) (can : store.CanMove workMove)
    (answer : CancellationCommandReceipt.tryNew request.workId workMove.decision.next.state
      (cleanupFor workMove.decision.next.state) (store.journal.length + 1) = some receipt)
    (native : (eventFor store.journal workMove.intent).cancellationTransition = some transition) :
    cancellationEventMatchesCommand (eventFor store.journal workMove.intent) (request.commandRow receipt)
      receipt (eventFor store.journal workMove.intent).correlationId = true := by
  have isTransition : transition = workMove.transition := (userTransition_origin can (Or.inl native)).2
  have actor := actor_native origin store.journal
  obtain rfl := tryNew_eq_some answer
  have stream : (eventFor store.journal workMove.intent).streamId = .work request.workId := by
    rw [← target]
    rfl
  have work : (eventFor store.journal workMove.intent).workId = some request.workId := by
    rw [← target]
    rfl
  have sameWork : workMove.transition.workId = request.workId := target
  have sameTime : workMove.transition.transitionedAt = request.requestedAt := committedAt
  have sameState : workMove.transition.toState = workMove.decision.next.state := rfl
  have offset : (eventFor store.journal workMove.intent).journalOffset = store.journal.length + 1 := rfl
  simp [cancellationEventMatchesCommand, native, isTransition, actor, stream, work, sameWork, sameTime,
    sameState, offset, RequestCancellationRequest.commandRow]

theorem Issued.of_moved {request : RequestCancellationRequest}
    (kept : TablesExtend store ((store.withLedger (store.toLedger.move workMove)).withCommand
      (request.commandRow receipt)))
    (cancellable : CancellableBy store request.deviceId workMove.row)
    (target : workMove.row.id = request.workId)
    (origin : workMove.origin = .user (.native request.deviceId))
    (committedAt : workMove.committedAt = request.requestedAt) (can : store.CanMove workMove)
    (answer : CancellationCommandReceipt.tryNew request.workId workMove.decision.next.state
      (cleanupFor workMove.decision.next.state) (store.journal.length + 1) = some receipt)
    (native : (eventFor store.journal workMove.intent).cancellationTransition = some transition) :
    Issued ((store.withLedger (store.toLedger.move workMove)).withCommand (request.commandRow receipt))
      (eventFor store.journal workMove.intent) transition := by
  have isTransition : transition = workMove.transition := (userTransition_origin can (Or.inl native)).2
  have actor := actor_native origin store.journal
  constructor
  · obtain ⟨device, deviceIn, conversation, conversationIn, isDevice, home, owner⟩ := cancellable.owned
    refine ⟨device, deviceIn, conversation, conversationIn, isDevice ▸ actor, owner, ?_⟩
    have known : store.WorkIn workMove.row.id conversation.id := ⟨workMove.row, can.member, rfl, home.symm⟩
    rw [isTransition]
    exact known.extend kept.ledger
  · exact ⟨request.commandRow receipt, List.mem_append_right _ (List.mem_singleton_self _), rfl, receipt,
      decodeCancellationReceipt_commandRow request answer,
      matchesCommand_moved target origin committedAt can answer native⟩

theorem IngressStep.natives (ok : LedgerOk store.toLedger) (step : IngressStep sha256 store move next)
    {event : JournalEvent} (member : event ∈ next.journal)
    (native : event.cancellationTransition = some transition) :
    event ∈ store.journal ∨ Issued next event transition := by
  have kept := step.tables ok
  have plain : ∀ {intent}, event ∈ (store.toLedger.record intent).journal →
      (eventFor store.journal intent).cancellationTransition = none → event ∈ store.journal := by
    intro intent recorded none
    rcases List.mem_append.mp recorded with old | new
    · exact old
    · rw [List.mem_singleton.mp new, none] at native
      cases native
  have admitted : ∀ {request nextOrdinal nextVersion}, event ∈
      (store.toLedger.admitMessage request nextOrdinal nextVersion).journal → event ∈ store.journal := by
    intro request nextOrdinal nextVersion recorded
    rcases mem_journal_admitMessage.mp recorded with old | rfl | rfl
    · exact old
    · cases native
    · cases native
  have notUser : ∀ {workMove : WorkMove}, store.CanMove workMove →
      (∀ origin, workMove.origin ≠ .user origin) → event ∈ (store.toLedger.move workMove).journal →
        event ∈ store.journal := by
    intro workMove can other recorded
    rcases List.mem_append.mp recorded with old | new
    · exact old
    · rw [List.mem_singleton.mp new] at native
      obtain ⟨⟨origin, user⟩, _⟩ := userTransition_origin can (Or.inl native)
      exact absurd user (other origin)
  cases step with
  | created _ _ _ _ _ _ conversation intent can =>
    exact Or.inl (plain member (by simp [JournalEvent.cancellationTransition, eventFor, can.payload]))
  | recorded intent kind evidence fresh =>
    exact Or.inl (plain member (by simp [JournalEvent.cancellationTransition, eventFor, evidence]))
  | provisioned | revoked | runtimesSet | rewired | notClaimed => exact Or.inl member
  | claimed _ _ _ workMove origin can | advanced _ _ _ _ _ workMove origin can =>
    exact Or.inl (notUser can (fun _ => by rw [origin]; simp) member)
  | accepted _ _ _ accepted =>
    cases accepted with
    | replayed => exact Or.inl member
    | committed => exact Or.inl (admitted member)
  | cancelAnswered _ _ _ answered =>
    cases answered with
    | replayed | ignored => exact Or.inl member
    | moved workMove receipt absent cancellable target origin committedAt can answer =>
      rcases List.mem_append.mp member with old | new
      · exact Or.inl old
      · rw [List.mem_singleton.mp new] at native ⊢
        exact Or.inr (.of_moved kept cancellable target origin committedAt can answer native)
  | classified _ _ _ classified =>
    cases classified with
    | duplicate | rejected | unsupported | noTarget | alreadyRequested =>
      exact Or.inl member
    | message => exact Or.inl (admitted member)
    | cancelled _ _ _ workMove _ origin _ can =>
      exact Or.inl (plain member (cancellationTransition_channel can origin _))

theorem IngressStep.devices (step : IngressStep sha256 store move next)
    (keyed : Keyed DeviceRow.id store.devices) : Keyed DeviceRow.id next.devices := by
  cases step with
  | provisioned deviceId userId fresh => exact keyed.append fresh
  | revoked deviceId => exact keyed.update fun _ => rfl
  | accepted _ _ _ accepted => cases accepted <;> exact keyed
  | cancelAnswered _ _ _ answered => cases answered <;> exact keyed
  | classified _ _ _ classified => cases classified <;> exact keyed
  | _ => exact keyed

theorem IngressStep.decodable (step : IngressStep sha256 store move next)
    (decodable : ∀ command ∈ store.commands, command.kind = .cancel →
      ∃ receipt, decodeCancellationReceipt command = .ok receipt) :
    ∀ command ∈ next.commands, command.kind = .cancel →
      ∃ receipt, decodeCancellationReceipt command = .ok receipt := by
  intro command member kind
  cases step with
  | accepted _ _ _ accepted =>
    cases accepted with
    | replayed => exact decodable command member kind
    | committed =>
      rcases List.mem_append.mp member with old | new
      · exact decodable command old kind
      · rw [List.mem_singleton.mp new] at kind
        cases kind
  | cancelAnswered request _ _ answered =>
    cases answered with
    | replayed => exact decodable command member kind
    | ignored _ _ receipt _ _ answer | moved _ receipt _ _ _ _ _ _ answer =>
      rcases List.mem_append.mp member with old | new
      · exact decodable command old kind
      · rw [List.mem_singleton.mp new]
        exact ⟨receipt, decodeCancellationReceipt_commandRow request answer⟩
  | classified _ _ _ classified => cases classified <;> exact decodable command member kind
  | _ => exact decodable command member kind

theorem unlinked_fresh {classified : List (ClassifyInboundRequest × DurableInboundOutcome)}
    (deliveries : Deliveries store classified) (fresh : FreshDelivery store request) :
    store.Unlinked request.candidates.inboundDeliveryId := by
  intro link linkIn same
  obtain ⟨row, rowIn, rowId⟩ := deliveries.link_recorded linkIn
  exact fresh.id row rowIn (rowId.trans same)

theorem rowsRecorded_deliver {classification : InboundClassification}
    (rows : ∀ row ∈ store.inbound, RowRecorded store.toLedger row.id row.classified)
    (inbound : next.inbound = store.inbound ++ [request.classifiedRow classification])
    (kept : Extends store.toLedger next.toLedger)
    (links : ∀ row ∈ store.inbound, store.Unlinked row.id → next.Unlinked row.id)
    (recorded : RowRecorded next.toLedger request.candidates.inboundDeliveryId
      (some (classification, request.observedAt))) :
    ∀ row ∈ next.inbound, RowRecorded next.toLedger row.id row.classified := by
  intro row member
  rw [inbound] at member
  rcases List.mem_append.mp member with old | new
  · exact (rows row old).extend kept (links row old)
  · rw [List.mem_singleton.mp new]
    exact recorded

theorem Verifiable.classifiedRows {result : ClassifiedInbound}
    (ok : LedgerOk store.toLedger) (verifiable : Verifiable store)
    (classified : Classified store request next result)
    (inOrder : ∀ row ∈ store.works, result.disposition = .newlyClassified →
      result.outcome = .controlApplied request.candidates.inboundDeliveryId row.id →
        ∀ requestedAt, row.cancelRequestedAt = some requestedAt → requestedAt ≤ request.observedAt) :
    ∀ row ∈ next.inbound, RowRecorded next.toLedger row.id row.classified := by
  obtain ⟨entries, deliveries⟩ := verifiable.deliveries
  have rows := verifiable.rows
  cases classified with
  | duplicate => exact rows
  | rejected fresh | unsupported fresh =>
    exact rowsRecorded_deliver rows rfl (.refl _) (fun _ _ => id) trivial
  | message fresh authorized content nextOrdinal nextVersion can =>
    have kept := (LedgerStep.admitted _ nextOrdinal nextVersion can).extends ok.queue
    refine rowsRecorded_deliver rows rfl kept ?_ ?_
    · intro row _ unlinked link linkIn
      have same : (store.toLedger.admitMessage (request.admission authorized content) nextOrdinal
        nextVersion).channelCancellations = store.channelCancellations := channelCancellations_admitMessage
      exact unlinked link (same ▸ linkIn)
    · exact ⟨request.admission authorized content, .admitted can, rfl, rfl, rfl, rfl, rfl, rfl⟩
  | noTarget fresh authorized found =>
    have unlinked := unlinked_fresh deliveries fresh
    exact rowsRecorded_deliver rows rfl (.refl _) (fun _ _ => id) (.noTarget unlinked)
  | alreadyRequested fresh authorized found row member home requested =>
    obtain ⟨requestedAt, isRequestedAt, event, eventIn, recordedAt, work, asked⟩ :=
      verifiable.history.requested row member requested
    have earlier : event.recordedAt ≤ request.observedAt := by
      rw [recordedAt]
      exact inOrder row member rfl rfl requestedAt isRequestedAt
    have unlinked := unlinked_fresh deliveries fresh
    exact rowsRecorded_deliver rows rfl (.refl _) (fun _ _ => id)
      (.alreadyRequested event row.id unlinked ⟨row, member, rfl, home⟩ eventIn earlier work asked)
  | cancelled fresh authorized found workMove home origin committedAt can effect =>
    have kept := (LedgerStep.moved workMove can).extends ok.queue
    have linkOf := channelCancellation_channel can origin store.journal
    refine rowsRecorded_deliver rows rfl kept ?_ ?_
    · intro row rowIn unlinked link linkIn
      have recorded := channelCancellations_record store.toLedger workMove.intent
      rw [linkOf] at recorded
      rcases List.mem_append.mp (recorded ▸ linkIn) with old | new
      · exact unlinked link old
      · rw [Option.toList_some, List.mem_singleton] at new
        rw [new]
        exact (fresh.id row rowIn).symm
    · rw [channelCancellation_eq, Option.map_eq_some_iff] at linkOf
      obtain ⟨⟨transition, id⟩, isLink, same⟩ := linkOf
      simp only [Prod.mk.injEq] at same
      obtain ⟨sameWork, rfl⟩ := same
      have known : store.WorkIn transition.workId authorized.conversationId :=
        ⟨workMove.row, can.member, sameWork.symm, home⟩
      have actor : (eventFor store.journal workMove.intent).actor = .userV2 authorized.userId := by
        have isOrigin : (eventFor store.journal workMove.intent).actor = workMove.origin.actor := rfl
        rw [isOrigin, origin]
        rfl
      have conversation : (eventFor store.journal workMove.intent).conversationId =
          some authorized.conversationId := by
        rw [← home]
        rfl
      rw [← sameWork]
      exact .linked (eventFor store.journal workMove.intent) transition
        (List.mem_append_right _ (List.mem_singleton_self _)) isLink (known.extend kept) actor conversation

theorem Verifiable.afterStep (ok : LedgerOk store.toLedger) (verifiable : Verifiable store)
    (inOrder : ObservedInOrder store move) (stepped : ingressStep sha256 store move = some next) :
    Verifiable next := by
  have step := ingressStep_cases ok stepped
  have history : LedgerHistory next.toLedger := by
    rcases step.ledger with same | ledgerStep
    · rw [same]
      exact verifiable.history
    · exact verifiable.history.step ok ledgerStep
  obtain ⟨classified, deliveries⟩ := verifiable.deliveries
  have delivered : Deliveries (offer (ingressStep sha256) store move) _ := deliveries.afterOffer ok move
  rw [offer_accepted stepped] at delivered
  refine ⟨history, ⟨_, delivered⟩, ?_, step.devices verifiable.devices, step.decodable verifiable.decodable,
    ?_⟩
  · by_cases isClassify : ∃ request, move = .classify request
    · obtain ⟨request, rfl⟩ := isClassify
      simp only [ingressStep, Option.map_eq_some_iff, toOption_eq_some] at stepped
      obtain ⟨⟨after, disposition, outcome, effect⟩, committed, rfl⟩ := stepped
      refine verifiable.classifiedRows ok (classifyInbound_eq_ok ok committed) ?_
      intro row member newly applied
      simp only at newly
      subst newly
      exact inOrder after outcome effect committed row member applied
    · obtain ⟨inbound, _, cancellations⟩ := step.deliveries fun request same => isClassify ⟨request, same⟩
      intro row member
      rw [inbound] at member
      refine (verifiable.rows row member).extend (step.extends ok) ?_
      rw [Ledger.Unlinked, Ledger.Unlinked, cancellations]
      exact id
  · intro event member transition native
    rcases step.natives ok member native with old | issued
    · exact (verifiable.issued event old transition native).extend (step.tables ok)
    · exact issued

end Steps

theorem Verifiable.empty (primary : ConversationId) : Verifiable (.empty primary) := by
  have deliveries := ingressAfter_deliveries (fun _ => zeroDigest) primary []
  refine ⟨LedgerHistory.empty, ⟨_, deliveries⟩, ?_, List.nodup_nil, ?_, ?_⟩
  · simp [IngressStore.empty]
  · simp [IngressStore.empty]
  · simp [IngressStore.empty, Ledger.empty]

theorem verifiers_accept_ordered_runs (sha256 : List UInt8 → Sha256Digest) (primary : ConversationId)
    (moves : List IngressMove)
    (inOrder : Admits (ingressStep sha256) ObservedInOrder (.empty primary) moves) :
    (ingressAfter sha256 primary moves).verifyChannelIngressConsistency = .ok () ∧
      (ingressAfter sha256 primary moves).verifyStage9CancellationEvents = .ok () := by
  have kept : LedgerOk (ingressAfter sha256 primary moves).toLedger ∧
      Verifiable (ingressAfter sha256 primary moves) := by
    refine replay_invariant_admitted (fun store => LedgerOk store.toLedger ∧ Verifiable store) ?_
      ⟨LedgerOk.empty, Verifiable.empty primary⟩ inOrder
    rintro store move next ⟨ok, verifiable⟩ ordered stepped
    exact ⟨ok.afterIngress (ingressStep_cases ok stepped), verifiable.afterStep ok ordered stepped⟩
  exact kept.2.accepted kept.1

def sampleControl (observedAt : UtcTimestamp) : ClassifyInboundRequest :=
  { sampleEvent (sampleExternal 1) (sampleExternal 1) zeroDigest 9 with
    observedAt := observedAt
    isControl := true }

def sampleBound : ChannelTopology where
  accounts := [⟨sampleAccount, true, "sample".toList⟩]
  activeUsers := [sampleUser]
  identities := [⟨⟨sampleUuid 1⟩, sampleAccount, sampleExternal 10, sampleUser, true⟩]
  bindings := [⟨⟨sampleUuid 1⟩, sampleAccount, sampleExternal 12, none,
    ⟨sampleUuid 1⟩, sampleUser, sampleConversation, true⟩]

def sampleCancellation (requestedAt : UtcTimestamp) : RequestCancellationRequest where
  deviceId := sampleDevice
  userId := sampleUser
  idempotencyKey := .forCancellation ⟨sampleUuid 7⟩
  clientCommandId := ⟨sampleUuid 7⟩
  workId := ⟨sampleUuid 2⟩
  requestHash := zeroDigest
  requestedAt := requestedAt
  eventId := ⟨sampleUuid 7⟩

def sampleStopped : List IngressMove :=
  sampleSetup ++ [.rewireChannels sampleBound,
    .accept (sampleMessage zeroDigest 2 2 3),
    .claim sampleRuntime ⟨sampleUuid 6⟩ 3, .cancel (sampleCancellation 10)]

theorem verifier_rejects_late_commit :
    (ingressAfter (fun _ => zeroDigest) sampleConversation
      (sampleStopped ++ [.classify (sampleControl 5)])).verifyChannelIngressConsistency =
        .error .inconsistentSchema := by
  decide +kernel

theorem verifiers_accept_ordered_runs_control :
    let moves := sampleStopped ++ [.classify (sampleControl 12)]
    Admits (ingressStep fun _ => zeroDigest) ObservedInOrder (.empty sampleConversation) moves ∧
    (ingressAfter (fun _ => zeroDigest) sampleConversation moves).inbound.length = 1 ∧
    (ingressAfter (fun _ => zeroDigest) sampleConversation moves).verifyChannelIngressConsistency =
      .ok () ∧
    (ingressAfter (fun _ => zeroDigest) sampleConversation moves).verifyStage9CancellationEvents =
      .ok () := by
  intro moves
  have stopped : Admits (ingressStep fun _ => zeroDigest) ObservedInOrder (.empty sampleConversation)
      sampleStopped := by
    exact And.intro trivial (And.intro trivial (And.intro trivial (And.intro trivial (And.intro trivial
      (And.intro trivial (And.intro trivial trivial))))))
  have ordered : Admits (ingressStep fun _ => zeroDigest) ObservedInOrder (.empty sampleConversation)
      moves := by
    refine stopped.concat ?_
    have requested : ((replay (ingressStep fun _ => zeroDigest) (.empty sampleConversation)
        sampleStopped).works.all fun row => row.cancelRequestedAt.all fun time => decide (time ≤ 12)) =
          true := by
      decide +kernel
    intro _ _ _ _ row member _ requestedAt isRequestedAt
    have bounded := List.all_eq_true.mp requested row member
    rw [isRequestedAt, Option.all_some, decide_eq_true_eq] at bounded
    exact bounded
  exact ⟨ordered, by decide +kernel, verifiers_accept_ordered_runs _ _ moves ordered⟩

end Craxii
