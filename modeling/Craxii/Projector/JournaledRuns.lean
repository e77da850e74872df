import Craxii.Projector.JournaledRunsCore
import Craxii.Projector.Replay

/-!
The projector against the writers: along every run in which no V2 message enters a conversation
created by a V1 event, it accepts the journal and its works are the stored snapshots.
-/

namespace Craxii.Projector

open ExceptRules GuardedRun

structure Matches (work : ProjectedWork) (snapshot : WorkLifecycleSnapshot) : Prop where
  state : work.state = snapshot.state
  version : work.stateVersion = snapshot.projectionVersion
  owner : work.runtimeOwner = snapshot.runtimeOwner
  attempt : work.currentAttempt = snapshot.currentAttempt
  cancellation : work.cancellationReason = snapshot.cancellationReason
  terminal : work.terminalReason = snapshot.terminalReason.map (·.journalReason)

def CreatedByV1 (events : List JournalEvent) (conversationId : ConversationId) : Prop :=
  ∃ event ∈ events, ∃ payload, event.payload = .conversationCreated payload ∧
    payload.conversationId = conversationId

def ConversationTracked (root : Option RootRow) (events : List JournalEvent)
    (conversationId : ConversationId) : Option ConversationRow → Option ProjectedConversation → Prop
  | none, none => True
  | some row, some projected =>
    projected.created.conversationId = conversationId ∧
      root.map (·.root.craxiiId) = some projected.created.craxiiId ∧
      projected.created.nextWorkOrdinal = row.nextWorkOrdinal ∧
      projected.created.stateVersion = row.stateVersion ∧
      (projected.ownerUserId = some row.ownerUserId ∨ CreatedByV1 events conversationId)
  | _, _ => False

def WorkTracked (root : Option RootRow) (workId : WorkId) :
    Option WorkRow → Option ProjectedWork → Prop
  | none, none => True
  | some row, some work =>
    row.lifecycle.workId = workId ∧ work.created.correlationId = row.correlationId ∧
      work.created.conversationId = row.conversationId ∧
      root.map (·.root.craxiiId) = some work.created.craxiiId ∧ Matches work row.lifecycle
  | _, _ => False

structure JournalTracked (sha256 : List UInt8 → Sha256Digest) (store : JournalStore)
    (replay : ReplayState) : Prop where
  replayed : replayEvents sha256 store.events = .ok replay
  heads : replay.streamHeads = store.streamHeads
  offset : ∀ prior, replay.priorOffset = some prior → ∃ event ∈ store.events, event.journalOffset = prior

structure RowsTracked (store : JournalStore) (replay : ReplayState) : Prop where
  root : replay.state.root = store.root.map (·.root)
  rootEvent : ∀ row, store.root = some row →
    ∃ observed, replay.observed row.eventId = some observed ∧
      observed.kind = .craxiiInitialized ∧ observed.correlationId = row.correlationId
  messages : replay.state.messages.map (·.message.messageId) = store.messages
  conversations : ∀ id, ConversationTracked store.root store.events id (store.conversations id)
    (replay.state.conversations id)
  works : ∀ id, WorkTracked store.root id (store.works id) (replay.state.works id)

section Append

variable {sha256 : List UInt8 → Sha256Digest} {store appended : JournalStore} {replay : ReplayState}
  {journalOffset : JournalOffset} {intent : JournalAppendIntent}

structure AppendedEvent (store : JournalStore) (journalOffset : JournalOffset)
    (intent : JournalAppendIntent) (streamSeq : StreamSeq) (appended : JournalStore) : Prop where
  fresh : ∀ event ∈ store.events, event.eventId ≠ intent.eventId
  caused : ∀ cause, intent.causationEventId = some cause → ∃ event ∈ store.events, event.eventId = cause
  above : ∀ event ∈ store.events, event.journalOffset.value < journalOffset.value
  allocated : store.allocateStreamSequence intent.streamId = some streamSeq
  result : appended = { store with
    events := store.events ++ [intent.event journalOffset streamSeq]
    streamHeads := Function.update store.streamHeads intent.streamId (some streamSeq) }

theorem appendEvent_eq_some (accepted : store.appendEvent journalOffset intent = some appended) :
    ∃ streamSeq, AppendedEvent store journalOffset intent streamSeq appended := by
  unfold JournalStore.appendEvent at accepted
  split at accepted
  · cases accepted
  · rename_i allowed
    simp only [Bool.or_eq_true, not_or] at allowed
    obtain ⟨⟨fresh, caused⟩, above⟩ := allowed
    obtain ⟨streamSeq, allocated, rfl⟩ := Option.map_eq_some_iff.mp accepted
    refine ⟨streamSeq, by simpa [JournalStore.hasEvent] using fresh, ?_, by simpa using above, allocated,
      rfl⟩
    intro cause causation
    simpa [causation, JournalStore.hasEvent] using caused

section Appended

variable {streamSeq : StreamSeq} (written : AppendedEvent store journalOffset intent streamSeq appended)

include written

theorem AppendedEvent.events :
    appended.events = store.events ++ [intent.event journalOffset streamSeq] := by
  rw [written.result]

theorem AppendedEvent.root : appended.root = store.root := by
  rw [written.result]

theorem AppendedEvent.conversations : appended.conversations = store.conversations := by
  rw [written.result]

theorem AppendedEvent.messages : appended.messages = store.messages := by
  rw [written.result]

theorem AppendedEvent.works : appended.works = store.works := by
  rw [written.result]

theorem AppendedEvent.grows : store.events ⊆ appended.events := by
  rw [written.events]
  exact List.subset_append_left _ _

end Appended

def causeOf (replay : ReplayState) (intent : JournalAppendIntent) : Option ObservedEvent :=
  intent.causationEventId.bind replay.observed

variable {event : JournalEvent} {state : ProjectedState} {streamSeq : StreamSeq}

section

variable (written : AppendedEvent store journalOffset intent streamSeq appended) (sound : Sound store.events replay)
include written sound

theorem AppendedEvent.findCause :
    replay.findCause (intent.event journalOffset streamSeq) = .ok (causeOf replay intent) := by
  cases causation : intent.causationEventId with
  | none => simp [ReplayState.findCause, JournalAppendIntent.event, causeOf, causation]
  | some cause =>
    obtain ⟨event, member, same⟩ := written.caused cause causation
    have known := (sound.observed cause).mpr ⟨event, member, same⟩
    obtain ⟨observed, found⟩ := Option.isSome_iff_exists.mp known
    have different : (cause == intent.eventId) = false := by
      rw [beq_eq_false_iff_ne, ← same]
      exact written.fresh event member
    simp [ReplayState.findCause, JournalAppendIntent.event, causeOf, causation, different, found, pure,
      Except.pure]

theorem AppendedEvent.unobserved : replay.observed intent.eventId = none := by
  rw [← Option.not_isSome_iff_eq_none]
  intro known
  obtain ⟨event, member, same⟩ := (sound.observed _).mp known
  exact written.fresh event member same

end

theorem projectEvent_eq {cause : Option ObservedEvent}
    {expected : Nat} (version : event.eventVersion = event.payload.version)
    (above : (replay.priorOffset.any fun prior =>
      decide (event.journalOffset.value ≤ prior.value)) = false)
    (fresh : replay.observed event.eventId = none)
    (numbered : replay.expectedSeq event.streamId = .ok expected)
    (next : event.streamSeq.value = expected) (caused : replay.findCause event = .ok cause)
    (links : validateStreamAndLinks event = .ok ())
    (applied : applyEvent sha256 replay.state event cause = .ok state) :
    projectEvent sha256 replay event = .ok (replay.read state event) := by
  simp only [projectEvent, version, bne_self_eq_false, above, fresh, Option.isSome_none, numbered, next,
    caused, links, applied, refuseIf_false, ok_bind]
  rfl

theorem replayEvents_concat {events : List JournalEvent}
    (replayed : replayEvents sha256 events = .ok replay) :
    replayEvents sha256 (events ++ [event]) = projectEvent sha256 replay event := by
  rw [replayEvents, foldlM_concat]
  rw [replayEvents] at replayed
  rw [replayed, ok_bind]

theorem JournalTracked.append (tracked : JournalTracked sha256 store replay)
    (written : AppendedEvent store journalOffset intent streamSeq appended)
    (links : validateStreamAndLinks (intent.event journalOffset streamSeq) = .ok ())
    (applied : applyEvent sha256 replay.state (intent.event journalOffset streamSeq)
      (causeOf replay intent) = .ok state) :
    JournalTracked sha256 appended (replay.read state (intent.event journalOffset streamSeq)) := by
  have sound := replayEvents_sound tracked.replayed
  have fresh := written.unobserved sound
  have above : (replay.priorOffset.any fun prior => decide (journalOffset.value ≤ prior.value)) = false := by
    cases prior : replay.priorOffset with
    | none => rfl
    | some offset =>
      obtain ⟨event, member, rfl⟩ := tracked.offset offset prior
      have below := written.above event member
      simp
      omega
  have numbered : replay.expectedSeq intent.streamId = .ok streamSeq.value := by
    have allocated := written.allocated
    unfold JournalStore.allocateStreamSequence at allocated
    unfold ReplayState.expectedSeq
    rw [tracked.heads]
    cases head : store.streamHeads intent.streamId with
    | none =>
      rw [head] at allocated
      cases allocated
      rfl
    | some previous =>
      rw [head] at allocated
      simp [allocated]
  have turned := projectEvent_eq rfl above fresh numbered rfl (written.findCause sound)
    links applied
  refine ⟨?_, ?_, ?_⟩
  · rw [written.result]
    exact (replayEvents_concat tracked.replayed).trans turned
  · rw [written.result, ReplayState.read, tracked.heads]
    rfl
  · intro prior last
    cases last
    rw [written.result]
    exact ⟨_, List.mem_append_right _ (List.mem_singleton_self _), rfl⟩

theorem AppendedEvent.observed_kept {id : JournalEventId}
    {observed : ObservedEvent} (written : AppendedEvent store journalOffset intent streamSeq appended)
    (sound : Sound store.events replay) (known : replay.observed id = some observed) :
    (replay.read state (intent.event journalOffset streamSeq)).observed id = some observed := by
  have different : id ≠ intent.eventId := by
    rintro rfl
    rw [written.unobserved sound] at known
    cases known
  exact (Function.update_of_ne different _ _).trans known

end Append

section Rows

variable {id : ConversationId} {events : List JournalEvent} {row : Option ConversationRow}
  {projected : Option ProjectedConversation} {work : Option ProjectedWork} {root : Option RootRow}

theorem ConversationTracked.mono {later : List JournalEvent}
    (tracked : ConversationTracked root events id row projected) (grows : events ⊆ later) :
    ConversationTracked root later id row projected := by
  cases row with
  | none => cases projected <;> exact tracked
  | some row =>
    cases projected with
    | none => exact tracked
    | some projected =>
      obtain ⟨same, craxii, ordinal, version, owner⟩ := tracked
      refine ⟨same, craxii, ordinal, version, owner.imp_right ?_⟩
      rintro ⟨event, member, payload, isV1, sameId⟩
      exact ⟨event, grows member, payload, isV1, sameId⟩

theorem ConversationTracked.of_noRoot
    (tracked : ConversationTracked none events id row projected) : row = none ∧ projected = none := by
  cases row with
  | none =>
    cases projected with
    | none => exact ⟨rfl, rfl⟩
    | some projected => exact tracked.elim
  | some row =>
    cases projected with
    | none => exact tracked.elim
    | some projected => cases tracked.2.1

theorem WorkTracked.of_noRoot {id : WorkId} {row : Option WorkRow}
    (tracked : WorkTracked none id row work) : row = none ∧ work = none := by
  cases row with
  | none =>
    cases work with
    | none => exact ⟨rfl, rfl⟩
    | some work => exact tracked.elim
  | some row =>
    cases work with
    | none => exact tracked.elim
    | some work => cases tracked.2.2.2.1

theorem ConversationTracked.of_row {row : ConversationRow}
    (tracked : ConversationTracked root events id (some row) projected) :
    ∃ found, projected = some found ∧ found.created.conversationId = id ∧
      root.map (·.root.craxiiId) = some found.created.craxiiId ∧
      found.created.nextWorkOrdinal = row.nextWorkOrdinal ∧
      found.created.stateVersion = row.stateVersion ∧
      (found.ownerUserId = some row.ownerUserId ∨ CreatedByV1 events id) := by
  cases projected with
  | none => exact tracked.elim
  | some found => exact ⟨found, rfl, tracked⟩

theorem ConversationTracked.of_noRow
    (tracked : ConversationTracked root events id none projected) : projected = none := by
  cases projected with
  | none => rfl
  | some found => exact tracked.elim

theorem WorkTracked.of_row {id : WorkId} {row : WorkRow}
    (tracked : WorkTracked root id (some row) work) :
    ∃ found, work = some found ∧ row.lifecycle.workId = id ∧
      found.created.correlationId = row.correlationId ∧
      found.created.conversationId = row.conversationId ∧
      root.map (·.root.craxiiId) = some found.created.craxiiId ∧ Matches found row.lifecycle := by
  cases work with
  | none => exact tracked.elim
  | some found => exact ⟨found, rfl, tracked⟩

theorem WorkTracked.of_noRow {id : WorkId}
    (tracked : WorkTracked root id none work) : work = none := by
  cases work with
  | none => rfl
  | some found => exact tracked.elim

end Rows

section Moves

variable {sha256 : List UInt8 → Sha256Digest} {store next : JournalStore} {replay : ReplayState}

def Tracked (sha256 : List UInt8 → Sha256Digest) (store : JournalStore) : Prop :=
  ∃ replay, JournalTracked sha256 store replay ∧ RowsTracked store replay

variable {admission : CanonicalMessageAdmission} {conversationId : ConversationId}
  {row : ConversationRow} {correlationId : CorrelationId} {craxiiId : CraxiiId}
  {root : CraxiiInitializedV1} {record : CreationRecord} {writer : DecisionWriter}
  {eventId : JournalEventId} {payload : JournalEventPayload} {journalOffset : JournalOffset}
  {streamSeq : StreamSeq} {ownerUserId : UserId}
  {createdAt transitionedAt : UtcTimestamp} {workId : WorkId}
  {after current : WorkLifecycleSnapshot}

theorem rootIntent_applied (noRoot : replay.state.root = none) :
    applyEvent sha256 replay.state ((rootIntent root eventId correlationId).event journalOffset streamSeq)
      (causeOf replay (rootIntent root eventId correlationId)) =
        .ok { replay.state with root := some root } := by
  simp [applyEvent, applyPayload, rootIntent, JournalAppendIntent.event, noRoot, JournalEventPayload.kind,
    JournalEventKind.stateBearing, pure, Except.pure]

theorem recordRoot_tracked (tracked : Tracked sha256 store)
    (accepted : store.recordRoot journalOffset root eventId correlationId = some next) :
    Tracked sha256 next := by
  obtain ⟨replay, journal, rows⟩ := tracked
  unfold JournalStore.recordRoot at accepted
  split at accepted
  · cases accepted
  · rename_i noRoot
    obtain ⟨appended, appends, rfl⟩ := Option.map_eq_some_iff.mp accepted
    obtain ⟨streamSeq, written⟩ := appendEvent_eq_some appends
    have storeRoot : store.root = none := by simpa using noRoot
    have replayRoot : replay.state.root = none := by rw [rows.root, storeRoot]; rfl
    have follows := journal.append written
      (by simp [validateStreamAndLinks, rootIntent, JournalAppendIntent.event, JournalEvent.linksMatch,
        JournalEventPayload.kind, JournalEventKind.primaryStream, JournalStreamId.family])
      (rootIntent_applied replayRoot)
    refine ⟨_, ⟨follows.replayed, follows.heads, follows.offset⟩, ?_⟩
    refine ⟨rfl, ?_, rows.messages.trans written.messages.symm, fun id => ?_, fun id => ?_⟩
    · intro row rootRow
      cases rootRow
      exact ⟨_, Function.update_self _ _ _, rfl, rfl⟩
    · have before := rows.conversations id
      rw [storeRoot] at before
      obtain ⟨noRow, noProjected⟩ := before.of_noRoot
      simp only [written.conversations, noRow]
      simp only [ReplayState.read_state, noProjected, ConversationTracked]
    · have before := rows.works id
      rw [storeRoot] at before
      obtain ⟨noRow, noWork⟩ := before.of_noRoot
      simp only [written.works, noRow]
      simp only [ReplayState.read_state, noWork, WorkTracked]

def CreationRecord.projected (root : CraxiiInitializedV1) (conversationId : ConversationId)
    (ownerUserId : UserId) (createdAt : UtcTimestamp) (event : JournalEvent) (record : CreationRecord) :
    ProjectedConversation where
  created := ⟨conversationId, root.craxiiId, .one, .one, createdAt⟩
  ownerUserId := match record with | .v1 => none | .v2 => some ownerUserId
  creationEventId := event.eventId
  creationStreamSeq := event.streamSeq

theorem creationIntent_applied {root : RootRow} (rows : RowsTracked store replay)
    (storeRoot : store.root = some root) (fresh : replay.state.conversations conversationId = none)
    (primary : record = .v1 → conversationId = root.root.primaryConversationId) :
    let intent := creationIntent root record conversationId ownerUserId eventId createdAt
    applyEvent sha256 replay.state (intent.event journalOffset streamSeq) (causeOf replay intent) =
      .ok { replay.state with
        conversations := Function.update replay.state.conversations conversationId
          (some (record.projected root.root conversationId ownerUserId createdAt
            (intent.event journalOffset streamSeq))) } := by
  intro intent
  have replayRoot : replay.state.root = some root.root := by rw [rows.root, storeRoot]; rfl
  obtain ⟨observed, found, kind, correlation⟩ := rows.rootEvent root storeRoot
  have cause : causeOf replay intent = some observed := found
  rw [cause]
  cases record with
  | v1 =>
    obtain rfl := primary rfl
    simp [intent, applyEvent, applyPayload, creationIntent, CreationRecord.payload,
      JournalAppendIntent.event, applyConversationCreated, replayRoot, kind, correlation, fresh,
      JournalEventPayload.kind, JournalEventKind.stateBearing, CreationRecord.projected, pure,
      Except.pure]
  | v2 =>
    simp [intent, applyEvent, applyPayload, creationIntent, CreationRecord.payload,
      JournalAppendIntent.event, applyConversationCreated, conversationV1FromV2, replayRoot, kind,
      correlation, fresh, JournalEventPayload.kind, JournalEventKind.stateBearing,
      CreationRecord.projected, pure, Except.pure]

theorem createConversation_tracked (tracked : Tracked sha256 store)
    (accepted : store.createConversation journalOffset record conversationId ownerUserId eventId createdAt =
      some next) : Tracked sha256 next := by
  obtain ⟨replay, journal, rows⟩ := tracked
  have sound := replayEvents_sound journal.replayed
  simp only [JournalStore.createConversation, bind, Option.bind_eq_some_iff] at accepted
  obtain ⟨root, storeRoot, written⟩ := accepted
  split at written
  · cases written
  · rename_i allowed
    obtain ⟨appended, appends, isNext⟩ := Option.bind_eq_some_iff.mp written
    cases isNext
    obtain ⟨streamSeq, written⟩ := appendEvent_eq_some appends
    simp only [Bool.or_eq_true, not_or, Bool.and_eq_true, beq_iff_eq, bne_iff_ne, not_and, not_not] at allowed
    obtain ⟨absent, primary⟩ := allowed
    have noRow : store.conversations conversationId = none := by simpa using absent
    have before := rows.conversations conversationId
    rw [noRow] at before
    have follows := journal.append written
      (by cases record <;>
        simp [validateStreamAndLinks, creationIntent, CreationRecord.payload, JournalAppendIntent.event,
          JournalEvent.linksMatch, JournalEventPayload.kind, JournalEventKind.primaryStream,
          JournalStreamId.family])
      (creationIntent_applied rows storeRoot before.of_noRow primary)
    refine ⟨_, ⟨follows.replayed, follows.heads, follows.offset⟩, ?_⟩
    refine ⟨?_, ?_, rows.messages.trans written.messages.symm, fun id => ?_, fun id => ?_⟩
    · simpa only [written.root, ReplayState.read_state] using rows.root
    · intro row rootRow
      rw [written.root] at rootRow
      obtain ⟨observed, found, facts⟩ := rows.rootEvent row rootRow
      exact ⟨observed, written.observed_kept sound found, facts⟩
    · simp only [written.conversations, written.root]
      by_cases same : conversationId = id
      · subst same
        simp only [ReplayState.read_state, Function.update_self]
        refine ⟨rfl, by rw [storeRoot]; rfl, rfl, rfl, ?_⟩
        cases record with
        | v2 => exact Or.inl rfl
        | v1 =>
          have member : (creationIntent root .v1 conversationId ownerUserId eventId createdAt).event
              journalOffset streamSeq ∈ appended.events := by
            rw [written.events]
            exact List.mem_append_right _ (List.mem_singleton_self _)
          exact Or.inr ⟨_, member, _, rfl, rfl⟩
      · simp only [ReplayState.read_state, Function.update_of_ne (Ne.symm same)]
        exact (rows.conversations id).mono written.grows
    · simpa only [written.works, written.root, ReplayState.read_state] using rows.works id

variable {projected : ProjectedConversation}

theorem acceptedIntent_applied
    (found : replay.state.conversations admission.conversationId = some projected)
    (sameId : projected.created.conversationId = admission.conversationId)
    (sameCraxii : projected.created.craxiiId = root.craxiiId)
    (owner : projected.ownerUserId = some row.ownerUserId)
    (fresh : replay.state.hasMessage admission.messageId = false) :
    let intent := admission.acceptedIntent sha256 root row
    let message := messageV1FromV2 (admission.messagePayload sha256 root row)
    applyEvent sha256 replay.state (intent.event journalOffset streamSeq) (causeOf replay intent) =
      .ok (replay.state.pushMessage (intent.event journalOffset streamSeq) message.1
        (some row.ownerUserId) message.2) := by
  simp [applyEvent, applyPayload, CanonicalMessageAdmission.acceptedIntent,
    CanonicalMessageAdmission.messagePayload, JournalAppendIntent.event, applyMessageAcceptedV2,
    MessageCommittedV2.validContract, found, sameId, sameCraxii, owner, fresh, JournalEventPayload.kind,
    JournalEventKind.stateBearing, pure, Except.pure]

def queuedProjection (payload : WorkQueuedV1) (replyBindingId : Option ConversationBindingId) :
    ProjectedWork where
  created := payload
  replyBindingId
  state := .queued
  stateVersion := payload.stateVersion
  runtimeOwner := none
  currentAttempt := .none
  cancellationReason := none
  terminalReason := none
  startedAt := none
  cancelRequestedAt := none
  terminalAt := none

theorem queuedIntent_applied {observed : ObservedEvent}
    {nextWorkOrdinal : ConversationWorkOrdinal} {stateVersion : ProjectionVersion}
    (replayRoot : replay.state.root = some root)
    (cause : replay.observed admission.acceptanceEventId = some observed)
    (causeKind : observed.kind = .messageAccepted)
    (causeCorrelation : observed.correlationId = correlationForWork admission.workId)
    (causeConversation : observed.conversationId = some admission.conversationId)
    (causeWork : observed.workId = none)
    (found : replay.state.conversations admission.conversationId = some projected)
    (sameId : projected.created.conversationId = admission.conversationId)
    (sameCraxii : projected.created.craxiiId = root.craxiiId)
    (ordinal : projected.created.nextWorkOrdinal = row.nextWorkOrdinal)
    (version : projected.created.stateVersion = row.stateVersion)
    (nextOrdinal : row.nextWorkOrdinal.checkedIncrement = some nextWorkOrdinal)
    (nextVersion : row.stateVersion.checkedIncrement = some stateVersion)
    (fresh : replay.state.works admission.workId = none) :
    let intent := admission.queuedIntent root row
    applyEvent sha256 replay.state (intent.event journalOffset streamSeq) (causeOf replay intent) =
      .ok { replay.state with
        conversations := Function.update replay.state.conversations admission.conversationId (some
          { projected with created := { projected.created with nextWorkOrdinal, stateVersion } })
        works := Function.update replay.state.works admission.workId
          (some (queuedProjection (admission.queuedPayload root row) admission.replyBindingId)) } := by
  intro intent
  have caused : causeOf replay intent = some observed := cause
  rw [caused]
  simp [intent, applyEvent, applyPayload, CanonicalMessageAdmission.queuedIntent,
    CanonicalMessageAdmission.queuedPayload, workV1FromV2, JournalAppendIntent.event, applyWorkQueued,
    replayRoot, causeKind, causeCorrelation, causeConversation, causeWork, found, sameId, sameCraxii,
    ordinal, version, nextOrdinal, nextVersion, fresh, JournalEventPayload.kind,
    JournalEventKind.stateBearing, queuedProjection, PositiveInteger.one, pure, Except.pure]

theorem admitMessage_tracked {acceptedOffset queuedOffset : JournalOffset}
    (tracked : Tracked sha256 store) (owned : ¬CreatedByV1 store.events admission.conversationId)
    (admitted : store.admitMessage sha256 acceptedOffset queuedOffset admission = some next) :
    Tracked sha256 next := by
  obtain ⟨replay, journal, rows⟩ := tracked
  have sound := replayEvents_sound journal.replayed
  simp only [JournalStore.admitMessage, bind, Option.bind_eq_some_iff] at admitted
  obtain ⟨root, storeRoot, row, storeRow, admitted⟩ := admitted
  split at admitted
  · cases admitted
  · rename_i allowed
    simp only [Bool.or_eq_true, not_or, decide_eq_true_eq] at allowed
    obtain ⟨newMessage, newWork⟩ := allowed
    simp only [Option.bind_eq_some_iff, Option.some.injEq] at admitted
    obtain ⟨accepted, accepts, queued, queues, nextWorkOrdinal, nextOrdinal, stateVersion, nextVersion,
      rfl⟩ := admitted
    obtain ⟨acceptedSeq, acceptedWritten⟩ := appendEvent_eq_some accepts
    obtain ⟨queuedSeq, queuedWritten⟩ := appendEvent_eq_some queues
    have replayRoot : replay.state.root = some root.root := by rw [rows.root, storeRoot]; rfl
    have conversation := rows.conversations admission.conversationId
    rw [storeRow] at conversation
    obtain ⟨projected, found, sameId, craxii, ordinal, version, owner⟩ := conversation.of_row
    have sameCraxii : projected.created.craxiiId = root.root.craxiiId := by
      rw [storeRoot] at craxii
      simpa using craxii.symm
    have fresh : replay.state.hasMessage admission.messageId = false := by
      rw [ProjectedState.hasMessage, Bool.eq_false_iff]
      intro present
      obtain ⟨message, member, same⟩ := List.any_eq_true.mp present
      rw [← rows.messages] at newMessage
      exact newMessage (List.mem_map.mpr ⟨message, member, by simpa using same⟩)
    have work := rows.works admission.workId
    have noWork : store.works admission.workId = none := by simpa using newWork
    rw [noWork] at work
    -- the message is read first; it is the cause of the work
    have afterMessage := journal.append acceptedWritten
      (by simp [validateStreamAndLinks, CanonicalMessageAdmission.acceptedIntent,
        CanonicalMessageAdmission.messagePayload, JournalAppendIntent.event, JournalEvent.linksMatch,
        JournalEventPayload.kind, JournalEventKind.primaryStream, JournalStreamId.family])
      (acceptedIntent_applied found sameId sameCraxii (owner.resolve_right owned) fresh)
    have messageSound := replayEvents_sound afterMessage.replayed
    have afterWork := afterMessage.append queuedWritten
      (by simp [validateStreamAndLinks, CanonicalMessageAdmission.queuedIntent,
        CanonicalMessageAdmission.queuedPayload, JournalAppendIntent.event, JournalEvent.linksMatch,
        JournalEventPayload.kind, JournalEventKind.primaryStream, JournalStreamId.family])
      (queuedIntent_applied replayRoot (Function.update_self _ _ _) rfl rfl rfl rfl found sameId sameCraxii
        ordinal version nextOrdinal nextVersion work.of_noRow)
    refine ⟨_, ⟨afterWork.replayed, afterWork.heads, afterWork.offset⟩, ?_⟩
    refine ⟨?_, ?_, ?_, fun id => ?_, fun id => ?_⟩
    · simpa only [queuedWritten.root, acceptedWritten.root, ReplayState.read_state,
        ProjectedState.pushMessage] using rows.root
    · intro rootRow isRoot
      rw [queuedWritten.root, acceptedWritten.root] at isRoot
      obtain ⟨observed, known, facts⟩ := rows.rootEvent rootRow isRoot
      exact ⟨observed, queuedWritten.observed_kept messageSound
        (acceptedWritten.observed_kept sound known), facts⟩
    · simp only [queuedWritten.messages, acceptedWritten.messages, ReplayState.read_state,
        ProjectedState.pushMessage, List.map_append, List.map_singleton, rows.messages,
        messageV1FromV2_messageId, CanonicalMessageAdmission.messagePayload]
    · simp only [queuedWritten.conversations, acceptedWritten.conversations, queuedWritten.root,
        acceptedWritten.root, ReplayState.read_state, ProjectedState.pushMessage]
      by_cases same : admission.conversationId = id
      · subst same
        simp only [Function.update_self]
        refine ⟨sameId, ?_, rfl, rfl, Or.inl (owner.resolve_right owned)⟩
        rw [storeRoot, sameCraxii]
        rfl
      · simp only [Function.update_of_ne (Ne.symm same)]
        exact ((rows.conversations id).mono acceptedWritten.grows).mono queuedWritten.grows
    · simp only [queuedWritten.works, acceptedWritten.works, queuedWritten.root, acceptedWritten.root,
        ReplayState.read_state, ProjectedState.pushMessage]
      by_cases same : admission.workId = id
      · subst same
        simp only [Function.update_self]
        refine ⟨rfl, rfl, rfl, ?_, rfl, rfl, rfl, rfl, rfl, rfl⟩
        rw [storeRoot]
        rfl
      · simp only [Function.update_of_ne (Ne.symm same)]
        exact rows.works id

theorem between_shape (shape : after.shapeOk = true) (moved : after.state ≠ .queued) :
    validateProjectedWorkShape (.between current after transitionedAt) = .ok () := by
  simp only [WorkLifecycleSnapshot.shapeOk] at shape
  simp only [validateProjectedWorkShape, WorkTransitionV1.between, refuseIf_eq_ok]
  cases state : after.state with
  | queued => exact absurd state moved
  | running | waitingOnModel | waitingOnTool | cancelRequested =>
    simp only [state, workShapeOk] at shape
    cases attempt : after.currentAttempt <;> simp_all
  | completed | failed | cancelled | interrupted =>
    cases terminal : after.terminalReason with
    | none => simp [state, workShapeOk, terminal] at shape
    | some reason =>
      simp only [state, workShapeOk, terminal, Bool.and_eq_true] at shape
      cases reason with
      | completion reason | failure reason | cancellation reason | interruption reason =>
        cases reason <;> simp_all [WorkTerminalReason.journalReason]

theorem workPayload_eq_some (written : workPayload current after transitionedAt = some payload) :
    ∃ kind, payload = .workTransition kind (.between current after transitionedAt) := by
  unfold workPayload at written
  cases state : after.state with
  | queued => simp [state] at written
  | running | waitingOnModel | waitingOnTool | cancelRequested | completed | failed | cancelled
  | interrupted =>
    rw [state] at written
    cases written
    exact ⟨_, rfl⟩

theorem recoveryTerminalReason_eq (shape : after.shapeOk = true)
    (written : after.state = .running ∨ after.state = .cancelRequested ∨ after.state = .cancelled ∨
      after.state = .interrupted) :
    recoveryTerminalReason after.terminalReason = after.terminalReason.map (·.journalReason) := by
  cases terminal : after.terminalReason with
  | none => rfl
  | some reason =>
    simp only [WorkLifecycleSnapshot.shapeOk, terminal] at shape
    rcases written with state | state | state | state <;> simp only [state, workShapeOk] at shape
    · simp at shape
    · simp at shape
    · cases reason with
      | cancellation reason => cases reason <;> rfl
      | completion reason | failure reason | interruption reason => simp at shape
    · cases reason with
      | interruption reason => cases reason <;> rfl
      | completion reason | failure reason | cancellation reason => simp at shape

theorem recoveryPayload_eq_some (shape : after.shapeOk = true)
    (written : recoveryPayload current after transitionedAt = some payload) :
    ∃ kind, payload = .workTransition kind (.between current after transitionedAt) := by
  have same : (after.state = .running ∨ after.state = .cancelRequested ∨ after.state = .cancelled ∨
      after.state = .interrupted) →
      transitionPayload current after transitionedAt = .between current after transitionedAt := by
    intro states
    rw [transitionPayload, recoveryTerminalReason_eq shape states]
    rfl
  unfold recoveryPayload at written
  cases state : after.state with
  | running | cancelRequested | cancelled | interrupted =>
    rw [state] at written
    cases written
    exact ⟨_, by rw [same (by simp [state])]⟩
  | queued | waitingOnModel | waitingOnTool | completed | failed => simp [state] at written

theorem journalDecision_eq_some {row : WorkRow} (shape : after.shapeOk = true)
    (journaled : store.journalDecision journalOffset craxiiId workId row after transitionedAt writer =
      some next) :
    ∃ eventId causation actor kind, store.appendEvent journalOffset
      (decisionIntent craxiiId workId row after eventId causation actor
        (.workTransition kind (.between row.lifecycle after transitionedAt))) = some next := by
  cases writer with
  | stage8 intent =>
    simp only [JournalStore.journalDecision, bind, Option.bind_eq_some_iff] at journaled
    obtain ⟨payload, payloadOk, appended⟩ := journaled
    obtain ⟨kind, rfl⟩ := workPayload_eq_some payloadOk
    unfold JournalStore.appendWorkEvent at appended
    split at appended
    · cases appended
    · exact ⟨_, _, _, kind, appended⟩
  | stage10 currentRuntime eventId =>
    simp only [JournalStore.journalDecision, bind, Option.bind_eq_some_iff] at journaled
    obtain ⟨cause, _, payload, payloadOk, appended⟩ := journaled
    obtain ⟨kind, rfl⟩ := recoveryPayload_eq_some shape payloadOk
    exact ⟨_, _, _, kind, appended⟩

theorem decisionIntent_applied {row : WorkRow} {guard : WorkTransitionGuard}
    {request : WorkTransitionRequest}
    {causation : Option JournalEventId} {actor : JournalActor} {kind : WorkEventKind} {work : ProjectedWork}
    (decided : AcceptedWork row.lifecycle guard request after)
    (found : replay.state.works workId = some work) (sameWork : row.lifecycle.workId = workId)
    (correlation : work.created.correlationId = row.correlationId)
    (conversation : work.created.conversationId = row.conversationId)
    (craxii : work.created.craxiiId = craxiiId) (projected : Matches work row.lifecycle) :
    let payload := WorkTransitionV1.between row.lifecycle after transitionedAt
    let intent := decisionIntent craxiiId workId row after eventId causation actor
      (.workTransition kind payload)
    applyEvent sha256 replay.state (intent.event journalOffset streamSeq) (causeOf replay intent) =
      .ok { replay.state with
        works := Function.update replay.state.works workId (some (work.advance payload)) } := by
  intro payload intent
  have moved : after.state ≠ .queued := by
    rw [decided.target]
    cases request <;> simp [WorkTransitionRequest.targetState]
  have context : requireWorkContext replay.state (intent.event journalOffset streamSeq) payload.workId =
      .ok () := by
    simp [requireWorkContext, payload, intent, WorkTransitionV1.between, decisionIntent,
      JournalAppendIntent.event, sameWork, found, correlation, conversation, craxii]
  have transition : applyWorkTransition replay.state row.correlationId payload =
      .ok { replay.state with
        works := Function.update replay.state.works workId (some (work.advance payload)) } := by
    have shape : validateProjectedWorkShape payload = .ok () := between_shape decided.nextShape moved
    have legal := decided.legal
    rw [← decided.target] at legal
    simp only [applyWorkTransition, shape]
    simp [payload, WorkTransitionV1.between, sameWork, found, correlation, projected.state,
      projected.version, projected.owner, projected.attempt, projected.cancellation, decided.version,
      legal, decided.live, pure, Except.pure]
  have applied : applyPayload sha256 replay.state (intent.event journalOffset streamSeq)
      (causeOf replay intent) = .ok { replay.state with
        works := Function.update replay.state.works workId (some (work.advance payload)) } := by
    change (do
      requireWorkContext replay.state (intent.event journalOffset streamSeq) payload.workId
      refuseIf (after.runtimeOwner != after.runtimeOwner) .invalidEnvelope
      applyWorkTransition replay.state row.correlationId payload) = _
    rw [context, transition, bne_self_eq_false]
    rfl
  rw [applyEvent, applied]
  rfl

theorem decide_tracked {input : WorkInput} (tracked : Tracked sha256 store)
    (accepted : store.decide journalOffset workId input transitionedAt writer = some next) :
    Tracked sha256 next := by
  obtain ⟨replay, journal, rows⟩ := tracked
  have sound := replayEvents_sound journal.replayed
  simp only [JournalStore.decide, bind, Option.bind_eq_some_iff, Option.some.injEq] at accepted
  obtain ⟨root, storeRoot, row, storeRow, after, stepped, appended, journaled, rfl⟩ := accepted
  have decided := (stepWork_eq_some_iff row.lifecycle input.1 input.2 after).mp stepped
  obtain ⟨eventId, causation, actor, kind, appends⟩ := journalDecision_eq_some decided.nextShape journaled
  obtain ⟨streamSeq, written⟩ := appendEvent_eq_some appends
  have before := rows.works workId
  rw [storeRow] at before
  obtain ⟨work, found, sameWork, correlation, conversation, craxii, projected⟩ := before.of_row
  have sameCraxii : work.created.craxiiId = root.root.craxiiId := by
    rw [storeRoot] at craxii
    simpa using craxii.symm
  have follows := journal.append written
    (by simp [validateStreamAndLinks, decisionIntent, WorkTransitionV1.between, JournalAppendIntent.event,
      JournalEvent.linksMatch, JournalEventPayload.kind, JournalEventKind.primaryStream,
      JournalStreamId.family, sameWork])
    (decisionIntent_applied decided found sameWork correlation conversation sameCraxii projected)
  refine ⟨_, ⟨follows.replayed, follows.heads, follows.offset⟩, ?_⟩
  refine ⟨?_, ?_, rows.messages.trans written.messages.symm, fun id => ?_, fun id => ?_⟩
  · simpa only [written.root, ReplayState.read_state] using rows.root
  · intro rootRow isRoot
    rw [written.root] at isRoot
    obtain ⟨observed, known, facts⟩ := rows.rootEvent rootRow isRoot
    exact ⟨observed, written.observed_kept sound known, facts⟩
  · simp only [written.conversations, written.root, ReplayState.read_state]
    exact (rows.conversations id).mono written.grows
  · simp only [written.works, written.root, ReplayState.read_state]
    by_cases same : workId = id
    · subst same
      simp only [Function.update_self]
      exact ⟨decided.sameWork.trans sameWork, correlation, conversation, craxii, rfl, rfl, rfl, rfl, rfl,
        rfl⟩
    · simp only [Function.update_of_ne (Ne.symm same)]
      exact rows.works id

end Moves

def OwnerRecorded (store : JournalStore) : JournalMove → Prop
  | .admitMessage _ _ admission => ¬CreatedByV1 store.events admission.conversationId
  | _ => True

theorem Tracked.empty (sha256 : List UInt8 → Sha256Digest) : Tracked sha256 .empty :=
  ⟨.initial, ⟨rfl, rfl, nofun⟩, ⟨rfl, nofun, rfl, fun _ => trivial, fun _ => trivial⟩⟩

theorem Tracked.afterStep (sha256 : List UInt8 → Sha256Digest) (store : JournalStore)
    (move : JournalMove)
    (next : JournalStore) (tracked : Tracked sha256 store) (owned : OwnerRecorded store move)
    (stepped : journalStep sha256 store move = some next) : Tracked sha256 next := by
  cases move with
  | recordRoot journalOffset root eventId correlationId => exact recordRoot_tracked tracked stepped
  | createConversation journalOffset record conversationId ownerUserId eventId createdAt =>
    exact createConversation_tracked tracked stepped
  | admitMessage acceptedOffset queuedOffset admission => exact admitMessage_tracked tracked owned stepped
  | decide journalOffset workId input transitionedAt writer => exact decide_tracked tracked stepped

theorem journaled_runs_projected (sha256 : List UInt8 → Sha256Digest) (moves : List JournalMove)
    (owned : Admits (journalStep sha256) OwnerRecorded .empty moves) :
    let store := GuardedRun.replay (journalStep sha256) .empty moves
    ∃ state, project sha256 store.events = .ok state ∧
      ∀ workId row, store.works workId = some row →
        row.lifecycle.workId = workId ∧
          ∃ work, state.works workId = some work ∧ Matches work row.lifecycle := by
  intro store
  obtain ⟨replay, journal, rows⟩ := replay_invariant_admitted (Tracked sha256)
    (Tracked.afterStep sha256) (Tracked.empty sha256) owned
  refine ⟨replay.state, ?_, ?_⟩
  · rw [project, journal.replayed]
    rfl
  · intro workId row found
    have tracked := rows.works workId
    rw [found] at tracked
    obtain ⟨work, projected, sameWork, _, _, _, same⟩ := tracked.of_row
    exact ⟨sameWork, work, projected, same⟩

theorem not_createdByV1 {events : List JournalEvent} {conversationId : ConversationId}
    (absent : (events.all fun event => match event.payload with
      | .conversationCreated payload => payload.conversationId != conversationId
      | _ => true) = true) : ¬CreatedByV1 events conversationId := by
  rintro ⟨event, member, payload, isV1, same⟩
  have other := List.all_eq_true.mp absent event member
  simp [isV1, same] at other

def sampleMoves (record : CreationRecord) : List JournalMove :=
  [.recordRoot .one ⟨⟨sampleUuid 1⟩, ⟨sampleUuid 1⟩, ⟨sampleUuid 1⟩, sampleConversation⟩
      ⟨sampleUuid 1⟩ ⟨sampleUuid 0⟩,
    .createConversation (sampleNumber 2) record sampleConversation sampleUser
      ⟨sampleUuid 2⟩ 1,
    .admitMessage (sampleNumber 3) (sampleNumber 4) {
      conversationId := sampleConversation
      origin := .native ⟨sampleUuid 1⟩ ⟨sampleUuid 1⟩
      content := sampleContent
      replyBindingId := none
      admittedAt := 2
      messageId := ⟨sampleUuid 1⟩
      workId := sampleWork
      acceptanceEventId := ⟨sampleUuid 3⟩
      queuedEventId := ⟨sampleUuid 4⟩ }]

theorem legacy_conversation_not_projected :
    let store := GuardedRun.replay (journalStep fun _ => zeroDigest) .empty (sampleMoves .v1)
    (store.works sampleWork).isSome = true ∧ store.events.length = 4 ∧
      (project (fun _ => zeroDigest) store.events).map (fun _ => ()) = .error .invalidEnvelope := by
  decide +kernel

def sampleStart : JournalMove :=
  .decide (sampleNumber 5) sampleWork
    (.forSnapshot (.initial sampleWork), .start ⟨sampleUuid 1⟩) 3
    (.stage10 ⟨sampleUuid 1⟩ ⟨sampleUuid 5⟩)

theorem journaled_runs_projected_started :
    let store := GuardedRun.replay (journalStep fun _ => zeroDigest) .empty (sampleMoves .v2 ++ [sampleStart])
    ∃ state row work, project (fun _ => zeroDigest) store.events = .ok state ∧
      store.works sampleWork = some row ∧ row.lifecycle.state = .running ∧
      state.works sampleWork = some work ∧ Matches work row.lifecycle := by
  intro store
  have owned : Admits (journalStep fun _ => zeroDigest) OwnerRecorded .empty
      (sampleMoves .v2 ++ [sampleStart]) :=
    ⟨trivial, trivial, not_createdByV1 (by decide +kernel), trivial, trivial⟩
  have started : (store.works sampleWork).map (·.lifecycle.state) = some .running := by decide +kernel
  obtain ⟨row, found, running⟩ := Option.map_eq_some_iff.mp started
  obtain ⟨state, accepted, works⟩ := journaled_runs_projected (fun _ => zeroDigest) _ owned
  obtain ⟨_, work, projected, same⟩ := works sampleWork row found
  exact ⟨state, row, work, accepted, found, running, projected, same⟩

end Craxii.Projector
