import Craxii.Store.LedgerInvariants

/-!
The transactions refine the ledger: each one that commits takes one step of it or leaves it alone.
-/

namespace Craxii

open ExceptRules Tables NumberedLog

def IngressStore.withLedger (store : IngressStore) (ledger : Ledger) : IngressStore :=
  { store with toLedger := ledger }

section Writes

variable {store next : IngressStore}

@[simp] theorem withLedger_toLedger (ledger : Ledger) :
    (store.withLedger ledger).toLedger = ledger := rfl

theorem appendEvent_eq_ok {intent : JournalAppendIntent} {offset : Nat} :
    store.appendEvent intent = .ok (next, offset) ↔ intent.isPreparable = true ∧
      store.FreshEvent intent.eventId ∧
      next = store.withLedger (store.toLedger.record intent) ∧
      offset = store.journal.length + 1 := by
  simp only [IngressStore.appendEvent, bind_eq_ok, refuseIf_eq_ok, pure_eq_ok,
    Prod.mk.injEq, exists_const, Bool.not_eq_false', List.any_eq_false, beq_iff_eq, Ledger.FreshEvent,
    Ledger.record, ne_eq]
  constructor
  · rintro ⟨prepared, fresh, rfl, rfl⟩
    exact ⟨prepared, fresh, rfl, rfl⟩
  · rintro ⟨prepared, fresh, rfl, rfl⟩
    exact ⟨prepared, fresh, rfl, rfl⟩

theorem latestWorkEvent_eq_ok {workId : WorkId} {cause : JournalEventId} :
    store.latestWorkEvent workId = .ok cause ↔
      (latestEvent store.journal (.work workId)).map (fun event => event.eventId) = some cause := by
  rw [IngressStore.latestWorkEvent, orRefuse_eq_ok]

theorem guardedWorkUpdate_eq_ok (keyed : Keyed WorkItemRow.id store.works) {row : WorkItemRow}
    (member : row ∈ store.works) {target : WorkLifecycleSnapshot} {times : WorkProjectionTimes}
    (updated : store.guardedWorkUpdate row.work target times = .ok next) :
    validTimeShape target.state times = true ∧ next = store.withLedger { store.toLedger with
      works := update (fun other => other.id == row.id) (fun _ => row.project target times) store.works } := by
  simp only [IngressStore.guardedWorkUpdate, bind_eq_ok, refuseIf_eq_ok, pure_eq_ok, exists_const, Bool.or_eq_false_iff, Bool.not_eq_false'] at updated
  obtain ⟨⟨_, timed⟩, _, rfl⟩ := updated
  refine ⟨timed, ?_⟩
  have selected : ∀ other ∈ store.works,
      other.work.matchesGuard row.work = (other.id == row.id) := by
    intro other otherIn
    by_cases same : other.id = row.id
    · rw [keyed.eq otherIn member same]
      simp [WorkLifecycleSnapshot.matchesGuard]
    · have different : (other.work.workId == row.work.workId) = false := beq_false_of_ne same
      simp [WorkLifecycleSnapshot.matchesGuard, different]
  have projected : ∀ other ∈ store.works, other.work.matchesGuard row.work = true →
      other.project target times = row.project target times := by
    intro other otherIn matching
    rw [selected other otherIn, beq_iff_eq] at matching
    rw [keyed.eq otherIn member matching]
  rw [update_congr selected projected]
  rfl

theorem commit_move (keyed : Keyed WorkItemRow.id store.works) (move : WorkMove)
    (member : move.row ∈ store.works) {times : WorkProjectionTimes} {updated : IngressStore}
    {offset : Nat} (projects : move.row.project move.decision.next times = move.moved)
    (projected : store.guardedWorkUpdate move.row.work move.decision.next times = .ok updated)
    (latest : updated.latestWorkEvent move.row.id = .ok move.cause)
    (appended : updated.appendEvent move.intent = .ok (next, offset)) :
    next = store.withLedger (store.toLedger.move move) ∧ store.FreshEvent move.eventId ∧
      (latestEvent store.journal (.work move.row.id)).map (fun event => event.eventId) =
        some move.cause ∧ offset = store.journal.length + 1 := by
  obtain ⟨_, rfl⟩ := guardedWorkUpdate_eq_ok keyed member projected
  obtain ⟨_, fresh, rfl, rfl⟩ := appendEvent_eq_ok.mp appended
  rw [latestWorkEvent_eq_ok] at latest
  refine ⟨?_, fresh, latest, rfl⟩
  rw [projects]
  rfl

end Writes

section Transactions

variable {store next : IngressStore}

variable {origin : CancellationJournalOrigin} {conversationId : ConversationId}
  {eventId : JournalEventId} {row : WorkItemRow} {request : WorkTransitionRequest}

theorem decodeLoadedCancellationWork_eq_ok {snapshot : WorkLifecycleSnapshot}
    (decoded : decodeLoadedCancellationWork row = .ok snapshot) :
    snapshot.state = row.work.state ∧ (row.work.state.isTerminal = false → snapshot = row.work) := by
  simp only [decodeLoadedCancellationWork, bind_eq_ok, refuseIf_eq_ok, pure_eq_ok] at decoded
  obtain ⟨reason, represented, _, _, rfl⟩ := decoded
  refine ⟨rfl, fun live => ?_⟩
  have sameReason : reason = row.work.terminalReason := by
    unfold representativeTerminalReason at represented
    split at represented <;> simp_all [WorkState.isTerminal]
  rw [sameReason]

theorem cancellationRequest_eq_some {state : WorkState}
    (asked : cancellationRequest state .userRequest = some request) :
    state = .queued ∧ request = .cancel .userRequest .notRequired ∨
      (state = .running ∨ state = .waitingOnModel ∨ state = .waitingOnTool) ∧
        request = .requestCancellation .userRequest := by
  cases state <;> simp_all [cancellationRequest]

theorem cancellationPayload_eq_ok
    {current target : WorkLifecycleSnapshot} {committedAt : UtcTimestamp} {payload : JournalEventPayload}
    (asked : cancellationRequest current.state .userRequest = some request)
    (reaches : target.state = request.targetState)
    (written : origin.payload (.between current target committedAt) = .ok payload) :
    payload = (TransitionOrigin.user origin).payload request.eventKind
      (.between current target committedAt) := by
  have toState : (WorkTransitionV1.between current target committedAt).toState = target.state := rfl
  rcases cancellationRequest_eq_some asked with ⟨_, rfl⟩ | ⟨_, rfl⟩ <;> cases origin <;>
    simp_all [CancellationJournalOrigin.payload, TransitionOrigin.payload,
      WorkTransitionRequest.targetState, WorkTransitionRequest.eventKind]

theorem applyCancellation_eq_ok {requestedAt : UtcTimestamp} {mutation : CancellationMutation}
    (applied : store.applyCancellation row requestedAt eventId origin = .ok (next, mutation))
    (keyed : Keyed WorkItemRow.id store.works) (member : row ∈ store.works) :
    cancellationRequest row.work.state .userRequest = none ∧ next = store ∧
        mutation = ⟨row.work.state, none⟩ ∨
      ∃ move : WorkMove, move.row = row ∧ move.origin = .user origin ∧ move.eventId = eventId ∧
        move.committedAt = requestedAt ∧ store.CanMove move ∧
        next = store.withLedger (store.toLedger.move move) ∧
        mutation = ⟨move.decision.next.state, some (store.journal.length + 1)⟩ := by
  simp only [IngressStore.applyCancellation, bind_eq_ok] at applied
  obtain ⟨snapshot, decoded, branch⟩ := applied
  obtain ⟨sameState, same⟩ := decodeLoadedCancellationWork_eq_ok decoded
  split at branch
  · rename_i unasked
    simp only [pure_eq_ok, Prod.mk.injEq] at branch
    obtain ⟨rfl, rfl⟩ := branch
    rw [sameState] at unasked ⊢
    exact Or.inl ⟨unasked, rfl, rfl⟩
  · rename_i request asked
    simp only [bind_eq_ok, orRefuse_eq_ok, toOption_eq_some, mapError_eq_ok, pure_eq_ok, Prod.mk.injEq] at branch
    obtain ⟨decision, decided, updated, projected, cause, latest, payload, written, ⟨after, offset⟩,
      appended, rfl, rfl⟩ := branch
    have accepted := decided_accepted decided
    have live : row.work.state.isTerminal = false := by
      rw [← sameState]
      exact accepted.live
    obtain rfl := same live
    have payloadIs := cancellationPayload_eq_ok asked accepted.target written
    rw [← decided_eventKind decided] at payloadIs
    subst payloadIs
    let move : WorkMove := ⟨row, .user origin, request, decision, eventId, cause, requestedAt⟩
    obtain ⟨afterIs, fresh, latestIs, rfl⟩ := commit_move keyed move member rfl projected latest appended
    exact Or.inr ⟨move, rfl, rfl, rfl, rfl, ⟨member, asked, decided, fresh, latestIs⟩, afterIs, rfl⟩

theorem isConversationHead_iff :
    store.isConversationHead row = true ↔ row.work.state = .queued ∧
      ∀ other ∈ store.works, other.work.state = .queued → other.conversationId = row.conversationId →
        row.ordinal.value ≤ other.ordinal.value := by
  simp only [IngressStore.isConversationHead, Bool.and_eq_true, beq_iff_eq, List.all_eq_true,
    Bool.or_eq_true, Bool.not_eq_true', Bool.and_eq_false_iff, beq_eq_false_iff_ne, decide_eq_true_eq]
  refine and_congr_right fun _ => forall₂_congr fun other _ => ?_
  constructor
  · rintro ((notQueued | elsewhere) | least) queued sameConversation
    · exact absurd queued notQueued
    · exact absurd sameConversation elsewhere
    · exact least
  · intro least
    by_cases queued : other.work.state = .queued
    · by_cases sameConversation : other.conversationId = row.conversationId
      · exact Or.inr (least queued sameConversation)
      · exact Or.inl (Or.inr sameConversation)
    · exact Or.inl (Or.inl queued)

/-- The work a claim picks: the head whose one queued event comes first. -/
structure FirstCandidate (store : IngressStore) (row : WorkItemRow) (queuedOffset : Nat) : Prop where
  member : row ∈ store.works
  head : store.isConversationHead row = true
  offset : store.queuedOffsets row.id = [queuedOffset]
  least : ∀ other ∈ store.works, store.isConversationHead other = true →
    ∃ otherOffset, store.queuedOffsets other.id = [otherOffset] ∧ queuedOffset ≤ otherOffset

theorem claimCandidates_eq_ok {candidate : IngressStore.ClaimCandidate}
    {rest : List IngressStore.ClaimCandidate}
    (listed : store.claimCandidates = .ok (candidate :: rest)) :
    FirstCandidate store candidate.row candidate.queuedOffset := by
  simp only [IngressStore.claimCandidates, bind_eq_ok, pure_eq_ok] at listed
  obtain ⟨candidates, traversed, sorted⟩ := listed
  obtain ⟨answered, asked⟩ := mapM_eq_ok traversed
  obtain ⟨inCandidates, least⟩ := measure_le_of_first
    (fun candidate : IngressStore.ClaimCandidate => candidate.queuedOffset)
    (by rintro first second (less | ⟨same, _⟩) <;> omega)
    (by
      intro first second notBefore
      exact Nat.le_of_not_lt fun less => notBefore (Or.inl less)) sorted
  obtain ⟨row, rowIn, single⟩ := asked candidate inCandidates
  obtain ⟨member, head⟩ := List.mem_filter.mp rowIn
  split at single
  · rename_i queuedOffset only
    cases single
    refine ⟨member, head, only, ?_⟩
    intro other otherIn otherHead
    obtain ⟨found, foundIn, otherSingle⟩ := answered other (List.mem_filter.mpr ⟨otherIn, otherHead⟩)
    split at otherSingle
    · rename_i otherOnly
      cases otherSingle
      exact ⟨_, otherOnly, least _ foundIn⟩
    · cases otherSingle
  · cases single

theorem claimNext_eq_ok (ok : LedgerOk store.toLedger) {runtimeId : RuntimeInstanceId}
    {claimedAt : UtcTimestamp} {claimed : Option IngressStore.ClaimedWork}
    (committed : store.claimNext runtimeId eventId claimedAt = .ok (next, claimed)) :
    (∃ runtime ∈ store.runtimes, runtime.id = runtimeId ∧ runtime.state = .running) ∧
      (claimed = none ∧ next = store ∨
        ∃ (move : WorkMove) (queuedOffset : Nat), move.origin = .claim runtimeId ∧
          move.eventId = eventId ∧ move.committedAt = claimedAt ∧
          FirstCandidate store move.row queuedOffset ∧ store.CanMove move ∧
          next = store.withLedger (store.toLedger.move move) ∧
          claimed = some ⟨move.row, move.decision.next, store.journal.length + 1⟩) := by
  simp only [IngressStore.claimNext, bind_eq_ok, orRefuse_eq_ok, refuseIf_eq_ok, bne_eq_false_iff_eq,
    exists_const] at committed
  obtain ⟨runtime, found, running, branch⟩ := committed
  obtain ⟨runtimeIn, sameRuntime⟩ := mem_of_lookup found
  refine ⟨⟨runtime, runtimeIn, sameRuntime, running⟩, ?_⟩
  split at branch
  · simp only [pure_eq_ok, Prod.mk.injEq] at branch
    exact Or.inl ⟨branch.2.symm, branch.1.symm⟩
  · rename_i idle
    obtain ⟨candidates, listed, branch⟩ := bind_eq_ok.mp branch
    split at branch
    · simp only [pure_eq_ok, Prod.mk.injEq] at branch
      exact Or.inl ⟨branch.2.symm, branch.1.symm⟩
    · rename_i candidate rest
      have first := claimCandidates_eq_ok listed
      simp only [bind_eq_ok, IngressStore.claimCandidate, orRefuse_eq_ok, refuseIf_eq_ok,
        toOption_eq_some, mapError_eq_ok, pure_eq_ok, Prod.mk.injEq,
        exists_const] at branch
      obtain ⟨_, ⟨row, rowFound, lifecycle, decoded, checked, decision, decided, updated, projected, cause,
        latest, ⟨after, offset⟩, appended, rfl⟩, rfl, rfl⟩ := branch
      obtain ⟨rowIn, sameId⟩ := mem_of_lookup rowFound
      obtain rfl : row = candidate.row := ok.queue.works.eq rowIn first.member sameId
      obtain ⟨queued, least⟩ := isConversationHead_iff.mp first.head
      have unended : candidate.row.work.terminalReason = none := by
        have shape := ok.activity.shaped candidate.row rowIn
        simp only [WorkLifecycleSnapshot.shapeOk, queued, workShapeOk, Bool.and_eq_true,
          Option.isNone_iff_eq_none] at shape
        exact shape.2
      obtain ⟨rfl, _⟩ := decodeActiveWorkRow_eq_ok decoded
      have sameWork : { candidate.row.work with terminalReason := none } = candidate.row.work := by
        rw [← unended]
      rw [sameWork] at decided projected appended
      let move : WorkMove :=
        ⟨candidate.row, .claim runtimeId, .start runtimeId, decision, eventId, cause, claimedAt⟩
      have kind : decision.eventKind = .workStarted := decided_eventKind decided
      have state : decision.next.state = .running := (decided_accepted decided).target
      have projects : move.row.project move.decision.next ⟨some claimedAt, none, none⟩ = move.moved := by
        simp [WorkItemRow.project, WorkMove.moved, move, state]
      have intentIs : move.intent = transitionIntent candidate.row decision.next eventId cause
          (.runtime runtimeId) (IngressStore.startPayload candidate.row.work decision.next claimedAt)
          claimedAt := by
        simp [WorkMove.intent, move, kind, TransitionOrigin.payload, TransitionOrigin.actor,
          IngressStore.startPayload, WorkMove.transition]
      rw [← intentIs] at appended
      obtain ⟨afterIs, fresh, latestIs, rfl⟩ :=
        commit_move ok.queue.works move rowIn projects projected latest appended
      have inactive : ∀ other ∈ store.works, other.work.state.isActive = false := by
        simpa using idle
      exact Or.inr ⟨move, candidate.queuedOffset, rfl, rfl, rfl, first,
        ⟨rowIn, ⟨rfl, queued, inactive, least⟩, decided, fresh, latestIs⟩, afterIs, rfl⟩

theorem advanceWork_eq_ok (keyed : Keyed WorkItemRow.id store.works) {workId : WorkId}
    {actor : JournalActor} {recordedAt : UtcTimestamp}
    (committed : store.advanceWork workId request actor eventId recordedAt = .ok next) :
    ∃ move : WorkMove, move.row.id = workId ∧ move.origin = .owner actor ∧ move.request = request ∧
      move.committedAt = recordedAt ∧ store.CanMove move ∧
      next = store.withLedger (store.toLedger.move move) := by
  simp only [IngressStore.advanceWork, bind_eq_ok, orRefuse_eq_ok, refuseIf_eq_ok, toOption_eq_some,
    Bool.not_eq_false', pure_eq_ok, exists_const] at committed
  obtain ⟨owned, row, found, active, decision, decided, updated, projected, cause, latest,
    ⟨after, offset⟩, appended, rfl⟩ := committed
  obtain ⟨rowIn, sameId⟩ := mem_of_lookup found
  let move : WorkMove := ⟨row, .owner actor, request, decision, eventId, cause, recordedAt⟩
  obtain ⟨afterIs, fresh, latestIs, _⟩ := commit_move keyed move rowIn rfl projected latest appended
  exact ⟨move, sameId, rfl, rfl, rfl, ⟨rowIn, ⟨owned, active⟩, decided, fresh, latestIs⟩, afterIs⟩

structure TopologyFound (ledger : Ledger) (topology : CanonicalMessageTopology) : Prop where
  conversation : ∃ row ∈ ledger.conversations, row.id = topology.conversationId ∧
    row.nextWorkOrdinal = topology.nextOrdinal ∧ row.ownerUserId = topology.userId
  created : ∃ event ∈ ledger.journal, event.eventId = topology.conversationCreatedEventId ∧
    event.streamId = .conversation topology.conversationId ∧
    ∃ id, event.payload = .conversationCreated id

theorem conversationCreatedEvent_eq_ok
    (found : store.conversationCreatedEvent conversationId = .ok eventId) :
    ∃ event ∈ store.journal, event.eventId = eventId ∧
      event.streamId = .conversation conversationId ∧ ∃ id, event.payload = .conversationCreated id := by
  unfold IngressStore.conversationCreatedEvent at found
  split at found
  · rename_i created only
    cases found
    have listed : created ∈ store.journal.filter _ := only ▸ List.mem_singleton_self created
    obtain ⟨member, selected⟩ := List.mem_filter.mp listed
    simp only [Bool.and_eq_true, beq_iff_eq] at selected
    refine ⟨created, member, rfl, selected.1, ?_⟩
    cases payload : created.payload with
    | conversationCreated id => exact ⟨id, rfl⟩
    | _ => simp [payload] at selected
  · cases found

theorem insertMessage_eq_ok {row : MessageRow} (inserted : store.insertMessage row = .ok next) :
    (∀ other ∈ store.messages, other.id ≠ row.id ∧ other.origin ≠ row.origin) ∧
      next = store.withLedger { store.toLedger with messages := store.messages ++ [row] } := by
  simp only [IngressStore.insertMessage, bind_eq_ok, refuseIf_eq_ok, pure_eq_ok,
    exists_const, List.any_eq_false, Bool.or_eq_true, beq_iff_eq, not_or] at inserted
  exact ⟨inserted.1, inserted.2.symm⟩

theorem insertWork_eq_ok (inserted : store.insertWork row = .ok next) :
    (∀ other ∈ store.works, other.id ≠ row.id) ∧
      next = store.withLedger { store.toLedger with works := store.works ++ [row] } := by
  simp only [IngressStore.insertWork, bind_eq_ok, refuseIf_eq_ok, pure_eq_ok,
    exists_const, List.any_eq_false, Bool.or_eq_true, beq_iff_eq, not_or] at inserted
  exact ⟨fun other member => (inserted.1 other member).1, inserted.2.symm⟩

theorem advanceConversationOrdinal_eq_ok {version : ProjectionVersion}
    {ordinal : ConversationWorkOrdinal}
    (advanced : store.advanceConversationOrdinal conversationId version ordinal = .ok next)
    (keyed : Keyed ConversationRow.id store.conversations) :
    ∃ (nextOrdinal : ConversationWorkOrdinal) (nextVersion : ProjectionVersion),
      nextOrdinal.value = ordinal.value + 1 ∧ next = store.withLedger { store.toLedger with
        conversations := update (fun row => row.id == conversationId)
          (fun row => { row with nextWorkOrdinal := nextOrdinal, stateVersion := nextVersion })
          store.conversations } := by
  simp only [IngressStore.advanceConversationOrdinal, bind_eq_ok, orRefuse_eq_ok, refuseIf_eq_ok, pure_eq_ok, exists_const, Bool.not_eq_false', List.any_eq_true, Bool.and_eq_true,
    beq_iff_eq] at advanced
  obtain ⟨nextVersion, _, nextOrdinal, incremented, ⟨row, rowIn, ⟨same, sameVersion⟩, sameOrdinal⟩, rfl⟩ :=
    advanced
  refine ⟨nextOrdinal, nextVersion, PositiveInteger.checkedIncrement_some incremented, ?_⟩
  have sameRows : ∀ other ∈ store.conversations, (other.id == conversationId &&
      other.stateVersion == version && other.nextWorkOrdinal == ordinal) = (other.id == conversationId) := by
    intro other otherIn
    by_cases sameId : other.id = conversationId
    · rw [keyed.eq otherIn rowIn (sameId.trans same.symm)]
      simp [same, sameVersion, sameOrdinal]
    · simp [beq_false_of_ne sameId]
  rw [update_congr sameRows fun _ _ _ => rfl]
  rfl

theorem admitCanonicalMessage_eq_ok {request : CanonicalMessageAdmission}
    {receipt : CanonicalMessageAdmissionReceipt}
    (admitted : store.admitCanonicalMessage request = .ok (next, receipt))
    (keyed : Keyed ConversationRow.id store.conversations)
    (found : TopologyFound store.toLedger request.topology) :
    ∃ (nextOrdinal : ConversationWorkOrdinal) (nextVersion : ProjectionVersion),
      store.CanAdmit request nextOrdinal ∧
      next = store.withLedger (store.toLedger.admitMessage request nextOrdinal nextVersion) ∧
      receipt = ⟨request.candidates.messageId, request.candidates.workId, request.topology.nextOrdinal,
        store.journal.length + 2⟩ := by
  simp only [IngressStore.admitCanonicalMessage, bind_eq_ok, mapError_eq_ok, pure_eq_ok, Prod.mk.injEq] at admitted
  obtain ⟨inserted, messageOk, ⟨accepted, _⟩, acceptedOk, worked, workOk, ⟨queued, queuedOffset⟩, queuedOk,
    advanced, advancedOk, rfl, rfl⟩ := admitted
  obtain ⟨freshMessage, rfl⟩ := insertMessage_eq_ok messageOk
  obtain ⟨_, freshAccepted, rfl, _⟩ := appendEvent_eq_ok.mp acceptedOk
  obtain ⟨freshWork, rfl⟩ := insertWork_eq_ok workOk
  obtain ⟨_, freshQueued, rfl, rfl⟩ := appendEvent_eq_ok.mp queuedOk
  obtain ⟨nextOrdinal, nextVersion, incremented, rfl⟩ := advanceConversationOrdinal_eq_ok advancedOk keyed
  have lastIn : eventFor store.journal request.acceptedIntent ∈
      (store.toLedger.record request.acceptedIntent).journal :=
    List.mem_append_right _ (List.mem_singleton_self _)
  refine ⟨nextOrdinal, nextVersion, ?_, rfl, ?_⟩
  · exact ⟨freshMessage, freshWork, freshAccepted,
      fun event member => freshQueued event (List.mem_append_left _ member),
      freshQueued _ lastIn, found.conversation, found.created, incremented⟩
  · simp [Ledger.record]

theorem recordEvidence_eq_ok {intent : JournalAppendIntent}
    (recorded : store.recordEvidence intent = .ok next) :
    (∃ kind, intent.payload = .evidence kind) ∧ store.FreshEvent intent.eventId ∧
      next = store.withLedger (store.toLedger.record intent) := by
  simp only [IngressStore.recordEvidence, bind_eq_ok, refuseIf_eq_ok, pure_eq_ok,
    exists_const] at recorded
  obtain ⟨evidence, ⟨after, offset⟩, appended, rfl⟩ := recorded
  obtain ⟨_, fresh, rfl, _⟩ := appendEvent_eq_ok.mp appended
  refine ⟨?_, fresh, rfl⟩
  cases payload : intent.payload with
  | evidence kind => exact ⟨kind, rfl⟩
  | _ => simp [payload] at evidence

theorem createConversation_eq_ok {ownerUserId : UserId}
    {cause : JournalEventId} {correlationId : CorrelationId} {createdAt : UtcTimestamp}
    (created : store.createConversation conversationId ownerUserId eventId cause correlationId createdAt =
      .ok next) :
    ∃ conversation intent, store.CanCreate conversation intent ∧
      next = store.withLedger (store.toLedger.create conversation intent) := by
  simp only [IngressStore.createConversation, bind_eq_ok, refuseIf_eq_ok, pure_eq_ok, exists_const, List.any_eq_false, Bool.or_eq_true, beq_iff_eq, not_or] at created
  obtain ⟨fresh, ⟨after, offset⟩, appended, rfl⟩ := created
  obtain ⟨_, freshEvent, rfl, _⟩ := appendEvent_eq_ok.mp appended
  refine ⟨_, _, ⟨?_, ?_, ?_, freshEvent, rfl, rfl⟩, rfl⟩
  · exact fun row member => (fresh row member).1
  · exact fun row member => (fresh row member).2
  · rfl

end Transactions

end Craxii
