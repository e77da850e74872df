import Craxii.Store.IngressSteps

/-!
Claims take works in the order in which they were queued.
-/

namespace Craxii

open ExceptRules Tables NumberedLog

section Offsets

variable {store : IngressStore}

variable {event : JournalEvent} {first row second : WorkItemRow}

theorem JournalEvent.queuedFact_eq_some {fact : QueuedFact}
    (found : event.queuedFact = some fact) : event.payload.isWorkQueued = true ∧
      ∃ value, event.payload = .workQueuedV2 value ∧
        fact = ⟨value.workId, value.conversationId, value.conversationWorkOrdinal⟩ := by
  unfold JournalEvent.queuedFact at found
  split at found
  · rename_i value payload
    cases found
    exact ⟨by rw [payload]; rfl, value, payload, rfl⟩
  · cases found

theorem JournalEvent.isWorkQueued_iff :
    event.payload.isWorkQueued = true ↔ ∃ value, event.payload = .workQueuedV2 value := by
  cases payload : event.payload <;> simp [JournalEventPayload.isWorkQueued]

section

variable (ok : LedgerOk store.toLedger)
include ok

theorem LedgerOk.queuedEvent (member : row ∈ store.works) :
    ∃ event ∈ store.journal, event.queuedFact = some row.queuedFact ∧
      ∀ other ∈ store.journal, ∀ value, other.payload = .workQueuedV2 value → value.workId = row.id →
        other = event := by
  have listed : row.queuedFact ∈ store.journal.filterMap JournalEvent.queuedFact := by
    rw [ok.queue.queued]
    exact List.mem_map_of_mem member
  obtain ⟨event, eventIn, fact⟩ := List.mem_filterMap.mp listed
  refine ⟨event, eventIn, fact, ?_⟩
  intro other otherIn value payload sameWork
  have workIds : (store.journal.filterMap JournalEvent.queuedFact).Pairwise
      fun first second => first.workId ≠ second.workId := by
    rw [ok.queue.queued, List.pairwise_map]
    exact List.pairwise_map.mp ok.queue.works
  have distinct := List.pairwise_filterMap.mp workIds
  have otherFact : other.queuedFact =
      some ⟨value.workId, value.conversationId, value.conversationWorkOrdinal⟩ := by
    simp [JournalEvent.queuedFact, payload]
  refine ok.journal.counted.eq otherIn eventIn ?_
  rcases Nat.lt_trichotomy other.journalOffset event.journalOffset with earlier | same | later
  · have different := ok.journal.counted.related distinct otherIn eventIn earlier
    exact absurd sameWork (different _ otherFact _ fact)
  · exact same
  · have different := ok.journal.counted.related distinct eventIn otherIn later
    exact absurd sameWork.symm (different _ fact _ otherFact)

theorem LedgerOk.queuedOffsets (member : row ∈ store.works) :
    ∃ event ∈ store.journal, event.queuedFact = some row.queuedFact ∧
      store.queuedOffsets row.id = [event.journalOffset] := by
  obtain ⟨event, eventIn, fact, only⟩ := ok.queuedEvent member
  obtain ⟨queued, value, payload, sameFact⟩ := JournalEvent.queuedFact_eq_some fact
  have sameWork : row.id = value.workId := congrArg QueuedFact.workId sameFact
  refine ⟨event, eventIn, fact, ?_⟩
  have single : store.journal.filter (fun other => other.workId == some row.id &&
      other.payload.isWorkQueued) = [event] := by
    refine ok.journal.keyed.filter_eq_singleton eventIn ?_ ?_
    · simp [queued, (ok.queue.placed event eventIn value payload).2, sameWork]
    · intro other otherIn selected
      simp only [Bool.and_eq_true, beq_iff_eq] at selected
      obtain ⟨otherValue, otherPayload⟩ := JournalEvent.isWorkQueued_iff.mp selected.2
      have placed := (ok.queue.placed other otherIn otherValue otherPayload).2
      rw [selected.1, Option.some.injEq] at placed
      exact only other otherIn otherValue otherPayload placed.symm
  rw [IngressStore.queuedOffsets, single, List.map_singleton]

theorem LedgerOk.offset_lt {firstEvent secondEvent : JournalEvent} (firstRow : first ∈ store.works)
    (firstIn : firstEvent ∈ store.journal) (secondIn : secondEvent ∈ store.journal)
    (firstFact : firstEvent.queuedFact = some first.queuedFact)
    (secondFact : secondEvent.queuedFact = some second.queuedFact)
    (sameConversation : first.conversationId = second.conversationId)
    (before : first.ordinal.value < second.ordinal.value) :
    firstEvent.journalOffset < secondEvent.journalOffset := by
  obtain ⟨conversation, found, home⟩ := ok.queue.homed first firstRow
  have increasing : (store.ordinals conversation.id).Pairwise (· < ·) := by
    rw [ok.queue.ordinals conversation found]
    exact List.pairwise_lt_range'
  rw [Ledger.ordinals, List.pairwise_map, List.pairwise_filter, ← ok.queue.queued,
    List.pairwise_filterMap] at increasing
  refine Nat.lt_of_not_le fun notBefore => ?_
  rcases Nat.lt_or_eq_of_le notBefore with later | same
  · have reversed := ok.journal.counted.related increasing secondIn firstIn later _ secondFact _ firstFact
      (by simpa [WorkItemRow.queuedFact] using (home.trans sameConversation).symm)
      (by simpa [WorkItemRow.queuedFact] using home.symm)
    exact Nat.lt_asymm before reversed
  · have sameEvent := ok.journal.counted.eq secondIn firstIn same
    rw [sameEvent, firstFact, Option.some.injEq] at secondFact
    exact Nat.ne_of_lt before (congrArg (fun fact => fact.ordinal.value) secondFact)

theorem FirstCandidate.le_queued {queuedOffset : Nat}
    (first : FirstCandidate store row queuedOffset) :
    ∀ other ∈ store.works, other.work.state = .queued →
      ∃ otherOffset, store.queuedOffsets other.id = [otherOffset] ∧ queuedOffset ≤ otherOffset := by
  intro other
  -- Down to the head of the conversation: a smaller ordinal has a smaller offset.
  induction ordinal : other.ordinal.value using Nat.strongRecOn generalizing other with
  | ind ordinal ih =>
    intro member queued
    by_cases head : store.isConversationHead other = true
    · exact first.least other member head
    · obtain ⟨earlier, earlierIn, earlierQueued, sameConversation, smaller⟩ :
          ∃ earlier ∈ store.works, earlier.work.state = .queued ∧
            earlier.conversationId = other.conversationId ∧
            earlier.ordinal.value < other.ordinal.value := by
        rw [isConversationHead_iff] at head
        push Not at head
        exact head queued
      obtain ⟨earlierOffset, earlierOnly, least⟩ :=
        ih _ (ordinal ▸ smaller) earlier rfl earlierIn earlierQueued
      obtain ⟨earlierEvent, earlierEventIn, earlierFact, earlierOffsets⟩ := ok.queuedOffsets earlierIn
      obtain ⟨event, eventIn, fact, offsets⟩ := ok.queuedOffsets member
      have before := ok.offset_lt earlierIn earlierEventIn eventIn earlierFact fact sameConversation
        smaller
      rw [earlierOffsets, List.cons.injEq] at earlierOnly
      exact ⟨event.journalOffset, offsets, by omega⟩

theorem LedgerOk.queuedOffset_inj {offset : Nat}
    (firstIn : first ∈ store.works) (secondIn : second ∈ store.works)
    (firstOffset : store.queuedOffsets first.id = [offset])
    (secondOffset : store.queuedOffsets second.id = [offset]) : first = second := by
  obtain ⟨firstEvent, firstEventIn, firstFact, firstOnly⟩ := ok.queuedOffsets firstIn
  obtain ⟨secondEvent, secondEventIn, secondFact, secondOnly⟩ := ok.queuedOffsets secondIn
  rw [firstOnly, List.cons.injEq] at firstOffset
  rw [secondOnly, List.cons.injEq] at secondOffset
  have sameEvent := ok.journal.counted.eq firstEventIn secondEventIn
    (firstOffset.1.trans secondOffset.1.symm)
  rw [sameEvent, secondFact, Option.some.injEq] at firstFact
  exact ok.queue.works.eq firstIn secondIn (congrArg QueuedFact.workId firstFact).symm

end

end Offsets

theorem claims_in_queue_order (sha256 : List UInt8 → Sha256Digest) (primary : ConversationId)
    (moves : List IngressMove) :
    let store := ingressAfter sha256 primary moves
    (∀ first ∈ store.works, ∀ second ∈ store.works, first.work.state.isActive = true →
      second.work.state.isActive = true → first = second) ∧
    (∀ runtimeId eventId claimedAt next claimed,
      store.claimNext runtimeId eventId claimedAt = .ok (next, some claimed) →
        (∃ runtime ∈ store.runtimes, runtime.id = runtimeId ∧ runtime.state = .running) ∧
        claimed.row ∈ store.works ∧ claimed.row.work.state = .queued ∧
        ∃ queuedOffset, store.queuedOffsets claimed.row.id = [queuedOffset] ∧
          ∀ other ∈ store.works, other.work.state = .queued → other ≠ claimed.row →
            ∃ otherOffset, store.queuedOffsets other.id = [otherOffset] ∧ queuedOffset < otherOffset) ∧
    ∀ first ∈ store.journal, ∀ second ∈ store.journal, first.journalOffset < second.journalOffset →
      ∀ earlier ∈ store.works, ∀ later ∈ store.works, first.startedWork = some earlier.id →
        second.startedWork = some later.id → earlier.conversationId = later.conversationId →
          earlier.ordinal.value < later.ordinal.value := by
  intro store
  have ok : LedgerOk store.toLedger := ingressAfter_ok sha256 primary moves
  refine ⟨ok.activity.single, ?_, ?_⟩
  · intro runtimeId eventId claimedAt next claimed committed
    obtain ⟨running, ⟨nothing, _⟩ | ⟨move, queuedOffset, _, _, _, first, _, _, claimedIs⟩⟩ :=
      claimNext_eq_ok ok committed
    · cases nothing
    · cases claimedIs
      refine ⟨running, first.member, (isConversationHead_iff.mp first.head).1, queuedOffset,
        first.offset, ?_⟩
      intro other otherIn queued different
      obtain ⟨otherOffset, only, least⟩ := first.le_queued ok other otherIn queued
      refine ⟨otherOffset, only, Nat.lt_of_le_of_ne least ?_⟩
      rintro rfl
      exact different (ok.queuedOffset_inj otherIn first.member only first.offset)
  · intro first firstIn second secondIn before earlier earlierIn later laterIn
    exact ok.journal.counted.related ok.activity.starts firstIn secondIn before earlier.queuedFact
      (List.mem_map_of_mem earlierIn) later.queuedFact (List.mem_map_of_mem laterIn)

def sampleConversation : ConversationId := ⟨sampleUuid 1⟩

def sampleUser : UserId := ⟨sampleUuid 1⟩

def sampleDevice : DeviceId := ⟨sampleUuid 1⟩

def sampleRuntime : RuntimeInstanceId := ⟨sampleUuid 1⟩

def sampleMessage (hash : Sha256Digest) (digit accepted queued : Nat) : AcceptUserMessageRequest where
  deviceId := sampleDevice
  userId := sampleUser
  idempotencyKey := .forMessage ⟨sampleUuid digit⟩
  clientMessageId := ⟨sampleUuid digit⟩
  conversationId := sampleConversation
  content := sampleContent
  requestHash := hash
  acceptedAt := 2
  candidates := {
    messageId := ⟨sampleUuid digit⟩
    workId := ⟨sampleUuid digit⟩
    acceptanceEventId := ⟨sampleUuid accepted⟩
    queuedEventId := ⟨sampleUuid queued⟩ }

def sampleSetup : List IngressMove :=
  [.createConversation sampleConversation sampleUser ⟨sampleUuid 1⟩ ⟨sampleUuid 0⟩
      ⟨sampleUuid 0⟩ 1,
    .provisionDevice sampleDevice sampleUser, .setRuntimes [⟨sampleRuntime, .running, 1⟩]]

theorem claims_in_queue_order_two_messages :
    let store := ingressAfter (fun _ => zeroDigest) sampleConversation (sampleSetup ++
      [.accept (sampleMessage zeroDigest 2 2 3),
        .accept (sampleMessage zeroDigest 3 4 5)])
    ∃ next claimed, store.claimNext sampleRuntime ⟨sampleUuid 6⟩ 3 = .ok (next, some claimed) ∧
      claimed.row.ordinal.value = 1 ∧ claimed.row.work.state = .queued := by
  intro store
  have claims : ((store.claimNext sampleRuntime ⟨sampleUuid 6⟩ 3).toOption.bind fun answer =>
      answer.2.map fun claimed => claimed.row.ordinal.value) = some 1 := by
    decide +kernel
  simp only [Option.bind_eq_some_iff, Option.map_eq_some_iff, toOption_eq_some] at claims
  obtain ⟨⟨next, _⟩, committed, claimed, rfl, ordinal⟩ := claims
  exact ⟨next, claimed, committed, ordinal,
    ((claims_in_queue_order _ _ _).2.1 _ _ _ _ _ committed).2.2.1⟩

end Craxii
