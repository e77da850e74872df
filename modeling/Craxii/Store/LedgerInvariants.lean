import Craxii.Store.Ledger

/-!
What every step of the ledger keeps: the numbering of the journal, the queued events, the
ordinals, and which works may be active or started.
-/

namespace Craxii

open ExceptRules Tables NumberedLog

structure JournalOk (journal : List JournalEvent) : Prop where
  keyed : Keyed (fun event : JournalEvent => event.eventId) journal
  counted : Counted (fun event : JournalEvent => event.journalOffset) journal
  streams : StreamCounted (fun event : JournalEvent => event.streamId)
    (fun event => event.streamSeq) journal

theorem JournalOk.append {journal : List JournalEvent} (ok : JournalOk journal)
    {intent : JournalAppendIntent} (fresh : ∀ event ∈ journal, event.eventId ≠ intent.eventId) :
    JournalOk (journal ++ [eventFor journal intent]) where
  keyed := ok.keyed.append fresh
  counted := ok.counted.append rfl
  streams := ok.streams.append rfl

section Steps

variable {ledger next : Ledger}

theorem JournalOk.step (ok : JournalOk ledger.journal) (step : LedgerStep ledger next) :
    JournalOk next.journal := by
  cases step with
  | recorded intent kind evidence fresh => exact ok.append fresh
  | created conversation intent can => exact ok.append can.freshEvent
  | admitted request nextOrdinal nextVersion can =>
    have accepted : JournalOk (ledger.record request.acceptedIntent).journal :=
      ok.append can.freshAccepted
    exact accepted.append (forall_mem_concat can.freshQueued can.distinctEvents)
  | moved move can => exact ok.append can.freshEvent

structure QueuedFact where
  workId : WorkId
  conversationId : ConversationId
  ordinal : ConversationWorkOrdinal

def JournalEvent.queuedFact (event : JournalEvent) : Option QueuedFact :=
  match event.payload with
  | .workQueuedV2 value => some ⟨value.workId, value.conversationId, value.conversationWorkOrdinal⟩
  | _ => none

def WorkItemRow.queuedFact (row : WorkItemRow) : QueuedFact :=
  ⟨row.id, row.conversationId, row.ordinal⟩

def Ledger.ordinals (ledger : Ledger) (conversationId : ConversationId) : List Nat :=
  ((ledger.works.map WorkItemRow.queuedFact).filter fun fact =>
    fact.conversationId == conversationId).map fun fact => fact.ordinal.value

structure QueueOk (ledger : Ledger) : Prop where
  works : Keyed WorkItemRow.id ledger.works
  conversations : Keyed ConversationRow.id ledger.conversations
  queued : ledger.journal.filterMap JournalEvent.queuedFact = ledger.works.map WorkItemRow.queuedFact
  placed : ∀ event ∈ ledger.journal, ∀ value, event.payload = .workQueuedV2 value →
    event.streamId = .work value.workId ∧ event.workId = some value.workId
  homed : ∀ row ∈ ledger.works, ∃ conversation ∈ ledger.conversations,
    conversation.id = row.conversationId
  ordinals : ∀ conversation ∈ ledger.conversations,
    ledger.ordinals conversation.id = List.range' 1 (conversation.nextWorkOrdinal.value - 1)

variable {intent : JournalAppendIntent} {move : WorkMove}

theorem moved_id (can : ledger.CanMove move) : move.moved.id = move.row.id :=
  (decided_accepted can.decided).sameWork

theorem map_works_move {Column : Type} {column : WorkItemRow → Column}
    (keyed : Keyed WorkItemRow.id ledger.works) (can : ledger.CanMove move)
    (kept : column move.moved = column move.row) :
    (ledger.move move).works.map column = ledger.works.map column := by
  refine map_update_of_kept fun row member selected => ?_
  have same : row = move.row := keyed.eq member can.member (by simpa using selected)
  rw [kept, same]

theorem queuedFact_moved (can : ledger.CanMove move) :
    move.moved.queuedFact = move.row.queuedFact := by
  have same := moved_id can
  simp only [WorkItemRow.queuedFact, same]
  rfl

theorem queuedFact_move (move : WorkMove) (journal : List JournalEvent) :
    (eventFor journal move.intent).queuedFact = none := by
  have payload : (eventFor journal move.intent).payload =
      move.origin.payload move.decision.eventKind move.transition := rfl
  rcases move.origin.payload_cases move.decision.eventKind move.transition with plain |
    ⟨_, _, _, ⟨_, requested⟩ | ⟨_, cancelled⟩⟩
  · simp [JournalEvent.queuedFact, payload, plain]
  · simp [JournalEvent.queuedFact, payload, requested]
  · simp [JournalEvent.queuedFact, payload, cancelled]

theorem queuedFact_none {event : JournalEvent} (absent : event.queuedFact = none)
    (value : WorkQueuedV2) : event.payload ≠ .workQueuedV2 value := by
  intro payload
  simp [JournalEvent.queuedFact, payload] at absent

theorem QueueOk.ordinals_unknown (ok : QueueOk ledger) {conversationId : ConversationId}
    (unknown : ∀ row ∈ ledger.conversations, row.id ≠ conversationId) :
    ledger.ordinals conversationId = [] := by
  simp only [Ledger.ordinals, List.map_eq_nil_iff, List.filter_eq_nil_iff, List.mem_map]
  rintro _ ⟨row, member, rfl⟩
  obtain ⟨conversation, found, same⟩ := ok.homed row member
  have different := unknown conversation found
  rw [same] at different
  simpa [WorkItemRow.queuedFact] using different

theorem QueueOk.record (ok : QueueOk ledger)
    (plain : (eventFor ledger.journal intent).queuedFact = none) : QueueOk (ledger.record intent) where
  works := ok.works
  conversations := ok.conversations
  queued := by
    simp only [Ledger.record, List.filterMap_append, List.filterMap_cons, plain, List.filterMap_nil,
      List.append_nil]
    exact ok.queued
  placed := by
    intro event member value payload
    rcases mem_concat member with old | rfl
    · exact ok.placed event old value payload
    · exact absurd payload (queuedFact_none plain value)
  homed := ok.homed
  ordinals := ok.ordinals

theorem QueueOk.create (ok : QueueOk ledger) {conversation : ConversationRow}
    (can : ledger.CanCreate conversation intent) : QueueOk (ledger.create conversation intent) := by
  have recorded : QueueOk (ledger.record intent) :=
    ok.record (by simp [JournalEvent.queuedFact, eventFor, can.payload])
  refine ⟨recorded.works, ok.conversations.append can.fresh, recorded.queued, recorded.placed, ?_, ?_⟩
  · intro row member
    obtain ⟨home, found, same⟩ := ok.homed row member
    exact ⟨home, List.mem_append_left _ found, same⟩
  · refine forall_mem_concat ok.ordinals ?_
    rw [can.first]
    exact ok.ordinals_unknown can.fresh

section Admission

variable {request : CanonicalMessageAdmission} {nextOrdinal : ConversationWorkOrdinal}
  {nextVersion : ProjectionVersion}

theorem mem_journal_admitMessage {event : JournalEvent} :
    event ∈ (ledger.admitMessage request nextOrdinal nextVersion).journal ↔ event ∈ ledger.journal ∨
      event = eventFor ledger.journal request.acceptedIntent ∨
      event = eventFor (ledger.record request.acceptedIntent).journal request.queuedIntent := by
  simp [Ledger.admitMessage, Ledger.record]

theorem ordinals_admitMessage (conversationId : ConversationId) :
    (ledger.admitMessage request nextOrdinal nextVersion).ordinals conversationId =
      ledger.ordinals conversationId ++
        if request.topology.conversationId = conversationId then [request.topology.nextOrdinal.value]
        else [] := by
  simp only [Ledger.ordinals, Ledger.admitMessage, List.map_append, List.filter_append, List.map_cons,
    List.map_nil]
  by_cases same : request.topology.conversationId = conversationId
  · simp [same, WorkItemRow.queuedFact, CanonicalMessageAdmission.work]
  · simp [same, WorkItemRow.queuedFact, CanonicalMessageAdmission.work]

theorem QueueOk.admitMessage (ok : QueueOk ledger) (can : ledger.CanAdmit request nextOrdinal) :
    QueueOk (ledger.admitMessage request nextOrdinal nextVersion) where
  works := ok.works.append can.freshWork
  conversations := ok.conversations.update fun _ => rfl
  queued := by
    have accepted : (eventFor ledger.journal request.acceptedIntent).queuedFact = none := rfl
    have queued : (eventFor (ledger.record request.acceptedIntent).journal
        request.queuedIntent).queuedFact = some request.work.queuedFact := rfl
    simp only [Ledger.record] at queued
    simp only [Ledger.admitMessage, Ledger.record, List.filterMap_append, ok.queued, List.map_append,
      List.filterMap_cons, List.filterMap_nil, accepted, queued, List.append_nil, List.map_cons,
      List.map_nil]
  placed := by
    intro event member value payload
    rcases mem_journal_admitMessage.mp member with old | rfl | rfl
    · exact ok.placed event old value payload
    · cases payload
    · cases payload
      exact ⟨rfl, rfl⟩
  homed := by
    have kept : ∀ {id}, (∃ row ∈ ledger.conversations, row.id = id) →
        ∃ row ∈ (ledger.admitMessage request nextOrdinal nextVersion).conversations, row.id = id := by
      intro id known
      have ids : (ledger.admitMessage request nextOrdinal nextVersion).conversations.map ConversationRow.id =
          ledger.conversations.map ConversationRow.id := map_key_update fun _ => rfl
      simpa [← List.mem_map, ids] using known
    obtain ⟨home, found, same, _⟩ := can.conversation
    exact forall_mem_concat (fun row old => kept (ok.homed row old)) (kept ⟨home, found, same⟩)
  ordinals := by
    intro row member
    obtain ⟨old, oldIn, rfl⟩ := mem_update.mp member
    rw [ordinals_admitMessage]
    by_cases selected : old.id = request.topology.conversationId
    · obtain ⟨home, found, same, expected, _⟩ := can.conversation
      have isHome : old = home := ok.conversations.eq oldIn found (selected.trans same.symm)
      have positive := request.topology.nextOrdinal.positive
      have before := ok.ordinals old oldIn
      simp only [selected, beq_self_eq_true, if_true] at before ⊢
      rw [before, isHome, expected, can.increment, Nat.add_sub_cancel]
      obtain ⟨count, countEq⟩ := Nat.exists_eq_add_of_lt positive
      simp only [Nat.zero_add] at countEq
      rw [countEq, Nat.add_sub_cancel, List.range'_1_concat, Nat.add_comm count 1]
    · have unselected : (old.id == request.topology.conversationId) = false := by simpa using selected
      simp only [unselected, Bool.false_eq_true, if_false]
      rw [if_neg fun same => selected same.symm, List.append_nil]
      exact ok.ordinals old oldIn

end Admission

theorem QueueOk.afterMove (ok : QueueOk ledger) {move : WorkMove} (can : ledger.CanMove move) :
    QueueOk (ledger.move move) := by
  have recorded := ok.record (queuedFact_move move ledger.journal)
  have facts := map_works_move ok.works can (queuedFact_moved can)
  have ids := map_works_move ok.works can (moved_id can)
  have homes : (ledger.move move).works.map (fun row => row.conversationId) =
      ledger.works.map fun row => row.conversationId := map_works_move ok.works can rfl
  refine ⟨?_, ok.conversations, ?_, recorded.placed, ?_, ?_⟩
  · rw [Keyed, ids]
    exact ok.works
  · rw [facts]
    exact recorded.queued
  · intro row member
    have home : row.conversationId ∈ ledger.works.map fun row => row.conversationId := by
      rw [← homes]
      exact List.mem_map_of_mem member
    obtain ⟨old, oldIn, same⟩ := List.mem_map.mp home
    rw [← same]
    exact ok.homed old oldIn
  · intro row member
    rw [Ledger.ordinals, facts]
    exact ok.ordinals row member

theorem QueueOk.step (ok : QueueOk ledger) (step : LedgerStep ledger next) : QueueOk next := by
  cases step with
  | recorded intent kind evidence fresh =>
    exact ok.record (by simp [JournalEvent.queuedFact, eventFor, evidence])
  | created conversation intent can => exact ok.create can
  | admitted request nextOrdinal nextVersion can => exact ok.admitMessage can
  | moved move can => exact ok.afterMove can

theorem mem_works_move {move : WorkMove} {row : WorkItemRow}
    (member : row ∈ (ledger.move move).works) :
    row = move.moved ∨ row ∈ ledger.works ∧ row.id ≠ move.row.id := by
  obtain ⟨old, oldIn, rfl⟩ := mem_update.mp member
  by_cases selected : old.id = move.row.id
  · simp [selected]
  · simp [selected, oldIn]

theorem QueueOk.eq_of_ordinal (ok : QueueOk ledger) {first second : WorkItemRow}
    (firstIn : first ∈ ledger.works) (secondIn : second ∈ ledger.works)
    (sameConversation : first.conversationId = second.conversationId)
    (sameOrdinal : first.ordinal.value = second.ordinal.value) : first = second := by
  obtain ⟨conversation, found, home⟩ := ok.homed first firstIn
  have distinct : (ledger.ordinals conversation.id).Nodup := by
    rw [ok.ordinals conversation found]
    exact List.nodup_range'
  have inOrder : ∀ {row}, row ∈ ledger.works → row.conversationId = conversation.id →
      row.queuedFact ∈ (ledger.works.map WorkItemRow.queuedFact).filter fun fact =>
        fact.conversationId == conversation.id := by
    intro row member same
    exact List.mem_filter.mpr ⟨List.mem_map_of_mem member, by simpa [WorkItemRow.queuedFact] using same⟩
  have facts := List.inj_on_of_nodup_map distinct (inOrder firstIn home.symm)
    (inOrder secondIn (sameConversation ▸ home.symm)) sameOrdinal
  exact ok.works.eq firstIn secondIn (congrArg QueuedFact.workId facts)

theorem QueueOk.ordinal_lt (ok : QueueOk ledger) {row : WorkItemRow} (member : row ∈ ledger.works)
    {conversation : ConversationRow} (found : conversation ∈ ledger.conversations)
    (home : row.conversationId = conversation.id) :
    row.ordinal.value < conversation.nextWorkOrdinal.value := by
  have listed : row.ordinal.value ∈ ledger.ordinals conversation.id := by
    refine List.mem_map.mpr ⟨row.queuedFact, List.mem_filter.mpr ⟨List.mem_map_of_mem member, ?_⟩, rfl⟩
    simpa [WorkItemRow.queuedFact] using home
  rw [ok.ordinals conversation found, List.mem_range'_1] at listed
  omega

def JournalEvent.startedWork (event : JournalEvent) : Option WorkId :=
  match event.payload with
  | .workTransition .workStarted transition => some transition.workId
  | _ => none

def StartsBefore (facts : List QueuedFact) (first second : JournalEvent) : Prop :=
  ∀ earlier ∈ facts, ∀ later ∈ facts, first.startedWork = some earlier.workId →
    second.startedWork = some later.workId → earlier.conversationId = later.conversationId →
    earlier.ordinal.value < later.ordinal.value

structure ActivityOk (ledger : Ledger) : Prop where
  shaped : ∀ row ∈ ledger.works, row.work.shapeOk = true
  correlated : ∀ row ∈ ledger.works, row.correlationId = correlationForWork row.id
  single : ∀ first ∈ ledger.works, ∀ second ∈ ledger.works, first.work.state.isActive = true →
    second.work.state.isActive = true → first = second
  startedKnown : ∀ event ∈ ledger.journal, ∀ workId, event.startedWork = some workId →
    ∃ row ∈ ledger.works, row.id = workId
  startedFirst : ∀ event ∈ ledger.journal, ∀ row ∈ ledger.works, event.startedWork = some row.id →
    ∀ other ∈ ledger.works, other.conversationId = row.conversationId → other.work.state = .queued →
      row.ordinal.value < other.ordinal.value
  starts : ledger.journal.Pairwise (StartsBefore (ledger.works.map WorkItemRow.queuedFact))

theorem StartsBefore.of_not_started {facts : List QueuedFact} {first second : JournalEvent}
    (idle : second.startedWork = none) : StartsBefore facts first second := by
  intro _ _ _ _ _ started
  rw [idle] at started
  cases started

theorem ActivityOk.record (ok : ActivityOk ledger) {intent : JournalAppendIntent}
    (idle : (eventFor ledger.journal intent).startedWork = none) : ActivityOk (ledger.record intent) := by
  have notStarted : ∀ {event}, event ∈ (ledger.record intent).journal → ∀ {workId},
      event.startedWork = some workId → event ∈ ledger.journal := by
    intro event member workId started
    rcases mem_concat member with old | rfl
    · exact old
    · rw [idle] at started
      cases started
  refine ⟨ok.shaped, ok.correlated, ok.single, ?_, ?_, ?_⟩
  · intro event member workId started
    exact ok.startedKnown event (notStarted member started) workId started
  · intro event member row rowIn started
    exact ok.startedFirst event (notStarted member started) row rowIn started
  · refine List.pairwise_append.mpr ⟨ok.starts, List.pairwise_singleton _ _, ?_⟩
    intro first _ second secondIn
    rw [List.mem_singleton.mp secondIn]
    exact StartsBefore.of_not_started idle

section Admission

variable {request : CanonicalMessageAdmission} {nextOrdinal : ConversationWorkOrdinal}
  {nextVersion : ProjectionVersion}

theorem ActivityOk.admitMessage (ok : ActivityOk ledger) (queue : QueueOk ledger)
    (can : ledger.CanAdmit request nextOrdinal) :
    ActivityOk (ledger.admitMessage request nextOrdinal nextVersion) := by
  have known : ∀ {event}, event ∈ (ledger.admitMessage request nextOrdinal nextVersion).journal → ∀ {workId},
      event.startedWork = some workId → event ∈ ledger.journal := by
    intro event member workId started
    rcases mem_journal_admitMessage.mp member with old | rfl | rfl
    · exact old
    · cases started
    · cases started
  have notNew : ∀ {event}, event ∈ ledger.journal → event.startedWork ≠ some request.work.id := by
    intro event member started
    obtain ⟨row, rowIn, same⟩ := ok.startedKnown event member _ started
    exact can.freshWork row rowIn same
  refine ⟨?_, ?_, ?_, ?_, ?_, ?_⟩
  · exact forall_mem_concat ok.shaped rfl
  · exact forall_mem_concat ok.correlated rfl
  · intro first firstIn second secondIn firstActive secondActive
    rcases mem_concat firstIn with oldFirst | rfl
    · rcases mem_concat secondIn with oldSecond | rfl
      · exact ok.single first oldFirst second oldSecond firstActive secondActive
      · cases secondActive
    · cases firstActive
  · intro event member workId started
    obtain ⟨row, rowIn, same⟩ := ok.startedKnown event (known member started) workId started
    exact ⟨row, List.mem_append_left _ rowIn, same⟩
  · intro event member row rowIn started other otherIn sameConversation queued
    have old := known member started
    rcases mem_concat rowIn with oldRow | rfl
    · rcases mem_concat otherIn with oldOther | rfl
      · exact ok.startedFirst event old row oldRow started other oldOther sameConversation queued
      · obtain ⟨home, found, sameHome, expected, _⟩ := can.conversation
        have behind := queue.ordinal_lt oldRow found (sameConversation.symm.trans sameHome.symm)
        rwa [expected] at behind
    · exact absurd started (notNew old)
  · have extended : ledger.journal.Pairwise (StartsBefore
        ((ledger.admitMessage request nextOrdinal nextVersion).works.map WorkItemRow.queuedFact)) := by
      refine ok.starts.imp_of_mem fun {first second} firstIn secondIn ordered => ?_
      intro earlier earlierIn later laterIn startedEarlier startedLater
      simp only [Ledger.admitMessage, List.map_append, List.mem_append, List.map_cons, List.map_nil,
        List.mem_singleton] at earlierIn laterIn
      rcases earlierIn with oldEarlier | rfl
      · rcases laterIn with oldLater | rfl
        · exact ordered earlier oldEarlier later oldLater startedEarlier startedLater
        · exact absurd startedLater (notNew secondIn)
      · exact absurd startedEarlier (notNew firstIn)
    simp only [Ledger.admitMessage, Ledger.record, List.append_assoc]
    refine List.pairwise_append.mpr ⟨extended, ?_, ?_⟩
    · exact List.pairwise_pair.mpr (StartsBefore.of_not_started rfl)
    · intro first _ second secondIn
      simp only [List.cons_append, List.nil_append, List.mem_cons, List.not_mem_nil, or_false] at secondIn
      rcases secondIn with rfl | rfl
      · exact StartsBefore.of_not_started rfl
      · exact StartsBefore.of_not_started rfl

end Admission

section Moves

variable {move : WorkMove}

section

variable (can : ledger.CanMove move)
include can

theorem not_start_of_not_claim
    (other : ∀ runtimeId, move.origin ≠ .claim runtimeId) (runtimeId : RuntimeInstanceId) :
    move.request ≠ .start runtimeId := by
  intro start
  have allowed := can.allowed
  cases origin : move.origin with
  | claim claimer => exact other claimer origin
  | user =>
    rw [origin, start] at allowed
    cases state : move.row.work.state <;>
      simp [TransitionOrigin.Allows, cancellationRequest, state] at allowed
  | owner =>
    rw [origin, start] at allowed
    cases allowed.1

theorem startedWork_claim {runtimeId : RuntimeInstanceId}
    (claim : move.origin = .claim runtimeId) (journal : List JournalEvent) :
    (eventFor journal move.intent).startedWork = some move.row.id := by
  have allowed := can.allowed
  rw [claim] at allowed
  have kind : move.decision.eventKind = .workStarted := by
    rw [decided_eventKind can.decided, allowed.1]
    rfl
  have payload : (eventFor journal move.intent).payload =
      move.origin.payload move.decision.eventKind move.transition := rfl
  simp [JournalEvent.startedWork, payload, TransitionOrigin.payload, claim, kind, WorkMove.transition,
    WorkTransitionV1.between]

theorem startedWork_other
    (other : ∀ runtimeId, move.origin ≠ .claim runtimeId) (journal : List JournalEvent) :
    (eventFor journal move.intent).startedWork = none := by
  have kind : move.decision.eventKind ≠ .workStarted := by
    rw [decided_eventKind can.decided]
    cases request : move.request with
    | start runtimeId => exact absurd request (not_start_of_not_claim can other runtimeId)
    | _ => simp [WorkTransitionRequest.eventKind]
  have payload : (eventFor journal move.intent).payload =
      move.origin.payload move.decision.eventKind move.transition := rfl
  rcases move.origin.payload_cases move.decision.eventKind move.transition with plain |
    ⟨_, _, _, ⟨_, requested⟩ | ⟨_, cancelled⟩⟩
  · unfold JournalEvent.startedWork
    rw [payload, plain]
    cases named : move.decision.eventKind <;> simp_all
  · simp [JournalEvent.startedWork, payload, requested]
  · simp [JournalEvent.startedWork, payload, cancelled]

theorem moved_not_queued : move.moved.work.state ≠ .queued := by
  have target := (decided_accepted can.decided).target
  have state : move.moved.work.state = move.request.targetState := target
  rw [state]
  cases move.request <;> simp [WorkTransitionRequest.targetState]

theorem active_before (other : ∀ runtimeId, move.origin ≠ .claim runtimeId)
    (active : move.moved.work.state.isActive = true) : move.row.work.state.isActive = true := by
  have accepted := decided_accepted can.decided
  have allowed := can.allowed
  cases origin : move.origin with
  | claim claimer => exact absurd origin (other claimer)
  | owner =>
    rw [origin] at allowed
    exact allowed.2
  | user =>
    rw [origin] at allowed
    have state : move.moved.work.state = move.request.targetState := accepted.target
    rw [state] at active
    cases before : move.row.work.state <;>
      simp_all [TransitionOrigin.Allows, cancellationRequest, WorkState.isActive]
    rw [← allowed] at active
    cases active

theorem startedWork_cases (journal : List JournalEvent) :
    (∃ runtimeId, move.origin = .claim runtimeId ∧
        (eventFor journal move.intent).startedWork = some move.row.id) ∨
      ((∀ runtimeId, move.origin ≠ .claim runtimeId) ∧
        (eventFor journal move.intent).startedWork = none) := by
  by_cases claim : ∃ runtimeId, move.origin = .claim runtimeId
  · obtain ⟨runtimeId, claim⟩ := claim
    exact .inl ⟨runtimeId, claim, startedWork_claim can claim journal⟩
  · have other : ∀ runtimeId, move.origin ≠ .claim runtimeId := fun runtimeId is => claim ⟨runtimeId, is⟩
    exact .inr ⟨other, startedWork_other can other journal⟩

theorem claimed {runtimeId : RuntimeInstanceId} (claim : move.origin = .claim runtimeId) :
    move.row.work.state = .queued ∧ (∀ row ∈ ledger.works, row.work.state.isActive = false) ∧
      ∀ row ∈ ledger.works, row.work.state = .queued → row.conversationId = move.row.conversationId →
        move.row.ordinal.value ≤ row.ordinal.value := by
  have allowed := can.allowed
  rw [claim] at allowed
  exact allowed.2

end

theorem ActivityOk.single_moved (ok : ActivityOk ledger) (can : ledger.CanMove move) {row : WorkItemRow}
    (rowIn : row ∈ ledger.works) (different : row.id ≠ move.row.id)
    (active : row.work.state.isActive = true) : move.moved.work.state.isActive ≠ true := by
  intro movedActive
  -- After a claim the moved work is the only active one; otherwise it was active before.
  rcases startedWork_cases can ledger.journal with ⟨_, claim, _⟩ | ⟨other, _⟩
  · rw [(claimed can claim).2.1 row rowIn] at active
    cases active
  · have before := active_before can other movedActive
    exact different (congrArg WorkItemRow.id (ok.single row rowIn move.row can.member active before))

section Afterwards

variable (ok : ActivityOk ledger) (queue : QueueOk ledger) (can : ledger.CanMove move)

include can

theorem queued_before {row : WorkItemRow} (member : row ∈ (ledger.move move).works)
    (queued : row.work.state = .queued) : row ∈ ledger.works ∧ row.id ≠ move.row.id := by
  rcases mem_works_move member with rfl | old
  · exact absurd queued (moved_not_queued can)
  · exact old

include queue

theorem queuedFact_before {row : WorkItemRow} (member : row ∈ (ledger.move move).works) :
    ∃ old ∈ ledger.works, old.queuedFact = row.queuedFact := by
  have listed := List.mem_map_of_mem (f := WorkItemRow.queuedFact) member
  rw [map_works_move queue.works can (queuedFact_moved can)] at listed
  exact List.mem_map.mp listed

include ok

theorem ActivityOk.startedFirst_moved {event : JournalEvent} (member : event ∈ (ledger.move move).journal)
    {old : WorkItemRow} (oldIn : old ∈ ledger.works) (started : event.startedWork = some old.id)
    {other : WorkItemRow} (otherIn : other ∈ ledger.works) (otherId : other.id ≠ move.row.id)
    (sameConversation : other.conversationId = old.conversationId)
    (queued : other.work.state = .queued) : old.ordinal.value < other.ordinal.value := by
  rcases mem_concat member with before | rfl
  · exact ok.startedFirst event before old oldIn started other otherIn sameConversation queued
  · rcases startedWork_cases can ledger.journal with ⟨_, claim, isStarted⟩ | ⟨_, idle⟩
    · rw [isStarted, Option.some.injEq] at started
      obtain rfl := queue.works.eq oldIn can.member started.symm
      have least := (claimed can claim).2.2 other otherIn queued sameConversation
      have different : move.row.ordinal.value ≠ other.ordinal.value := fun equal =>
        otherId (congrArg WorkItemRow.id
          (queue.eq_of_ordinal can.member otherIn sameConversation.symm equal).symm)
      omega
    · rw [idle] at started
      cases started

theorem ActivityOk.afterMove : ActivityOk (ledger.move move) := by
  have facts := map_works_move queue.works can (queuedFact_moved can)
  refine ⟨?_, ?_, ?_, ?_, ?_, ?_⟩
  · intro row member
    rcases mem_works_move member with rfl | old
    · exact (decided_accepted can.decided).nextShape
    · exact ok.shaped row old.1
  · intro row member
    rcases mem_works_move member with rfl | old
    · rw [moved_id can]
      exact ok.correlated move.row can.member
    · exact ok.correlated row old.1
  · intro first firstIn second secondIn firstActive secondActive
    rcases mem_works_move firstIn with rfl | firstOld
    · rcases mem_works_move secondIn with rfl | secondOld
      · rfl
      · exact absurd firstActive (ok.single_moved can secondOld.1 secondOld.2 secondActive)
    · rcases mem_works_move secondIn with rfl | secondOld
      · exact absurd secondActive (ok.single_moved can firstOld.1 firstOld.2 firstActive)
      · exact ok.single first firstOld.1 second secondOld.1 firstActive secondActive
  · intro event member workId started
    have known : ∃ row ∈ ledger.works, row.id = workId := by
      rcases mem_concat member with old | rfl
      · exact ok.startedKnown event old workId started
      · rcases startedWork_cases can ledger.journal with ⟨_, _, isStarted⟩ | ⟨_, idle⟩
        · exact ⟨move.row, can.member, Option.some.inj (isStarted.symm.trans started)⟩
        · rw [idle] at started
          cases started
    refine List.mem_map.mp ?_
    rw [map_works_move queue.works can (moved_id can)]
    exact List.mem_map.mpr known
  · intro event member row rowIn started other otherIn sameConversation queued
    obtain ⟨old, oldIn, same⟩ := queuedFact_before queue can rowIn
    obtain ⟨otherOld, otherId⟩ := queued_before can otherIn queued
    simp only [WorkItemRow.queuedFact, QueuedFact.mk.injEq] at same
    rw [← same.2.2]
    exact ok.startedFirst_moved queue can member oldIn (started.trans (congrArg some same.1.symm))
      otherOld otherId (sameConversation.trans same.2.1.symm) queued
  · rw [facts]
    refine List.pairwise_append.mpr ⟨ok.starts, List.pairwise_singleton _ _, ?_⟩
    intro first firstIn second secondIn
    rw [List.mem_singleton.mp secondIn]
    rcases startedWork_cases can ledger.journal with ⟨_, claim, isStarted⟩ | ⟨_, idle⟩
    · intro earlier earlierIn later laterIn startedEarlier startedLater sameConversation
      obtain ⟨row, rowIn, rfl⟩ := List.mem_map.mp earlierIn
      obtain ⟨source, sourceIn, rfl⟩ := List.mem_map.mp laterIn
      rw [isStarted, Option.some.injEq] at startedLater
      obtain rfl := queue.works.eq sourceIn can.member startedLater.symm
      exact ok.startedFirst first firstIn row rowIn startedEarlier _ sourceIn sameConversation.symm
        (claimed can claim).1
    · exact StartsBefore.of_not_started idle

end Afterwards

end Moves

theorem ActivityOk.step (ok : ActivityOk ledger) (queue : QueueOk ledger)
    (step : LedgerStep ledger next) : ActivityOk next := by
  cases step with
  | recorded intent kind evidence fresh =>
    exact ok.record (by simp [JournalEvent.startedWork, eventFor, evidence])
  | created conversation intent can =>
    have recorded : ActivityOk (ledger.record intent) :=
      ok.record (by simp [JournalEvent.startedWork, eventFor, can.payload])
    exact ⟨recorded.shaped, recorded.correlated, recorded.single, recorded.startedKnown,
      recorded.startedFirst, recorded.starts⟩
  | admitted request nextOrdinal nextVersion can => exact ok.admitMessage queue can
  | moved move can => exact ok.afterMove queue can

structure LedgerOk (ledger : Ledger) : Prop where
  journal : JournalOk ledger.journal
  queue : QueueOk ledger
  activity : ActivityOk ledger

theorem LedgerOk.step (ok : LedgerOk ledger) (step : LedgerStep ledger next) : LedgerOk next :=
  ⟨ok.journal.step step, ok.queue.step step, ok.activity.step ok.queue step⟩

theorem LedgerOk.empty : LedgerOk .empty where
  journal := ⟨List.nodup_nil, Counted.nil, StreamCounted.nil⟩
  queue := by
    refine ⟨List.nodup_nil, List.nodup_nil, rfl, ?_, ?_, ?_⟩ <;> simp [Ledger.empty]
  activity := by
    refine ⟨?_, ?_, ?_, ?_, ?_, List.Pairwise.nil⟩ <;> simp [Ledger.empty]

end Steps

end Craxii
