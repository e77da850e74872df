import Craxii.Store.CommandVerifyCore
import Craxii.Store.IngressVerify

/-!
The startup check accepts the recorded commands, with one exception: a device that cancels a work
twice at one time, with an event in between.
-/

namespace Craxii

open ExceptRules Tables NumberedLog GuardedRun

/-! Works that are stopping. -/

structure JournalEvent.RecordsStop (event : JournalEvent) (workId : WorkId) (state : WorkState) :
    Prop where
  work : event.workId = some workId
  requested : state = .cancelRequested → event.requestsCancellation workId = true
  ended : state ≠ .cancelRequested → event.endsIn state = true

def StopsRecorded (ledger : Ledger) : Prop :=
  ∀ row ∈ ledger.works, row.work.state.isStopping = true →
    ∃ event ∈ ledger.journal, event.RecordsStop row.id row.work.state

def Ledger.Reached (ledger : Ledger) (workId : WorkId) (state : WorkState) : Prop :=
  ∃ row ∈ ledger.works, row.id = workId ∧ row.work.state.isStopping = true ∧
    (state = .cancelRequested ∨ state.isTerminal = true ∧ row.work.state = state)

section Stops

variable {ledger next : Ledger} {move : WorkMove}

theorem recordsStop_move (can : ledger.CanMove move) (journal : List JournalEvent)
    (stopping : move.moved.work.state.isStopping = true) :
    (eventFor journal move.intent).RecordsStop move.row.id move.moved.work.state := by
  have target : move.moved.work.state = move.request.targetState := (decided_accepted can.decided).target
  have kind := decided_eventKind can.decided
  have sameWork : move.transition.workId = move.row.id := rfl
  have sameState : move.transition.toState = move.request.targetState := target
  have payload : (eventFor journal move.intent).payload =
    move.origin.payload move.decision.eventKind move.transition := rfl
  rw [target] at stopping ⊢
  refine ⟨rfl, ?_, ?_⟩
  · intro requested
    have isRequest : move.decision.eventKind = .workCancelRequested := by
      rw [kind]
      cases request : move.request <;> rw [request] at requested <;> first | cases requested; done | rfl
    rw [requested] at sameState
    rcases move.origin.payload_cases move.decision.eventKind move.transition with plain |
      ⟨_, _, _, ⟨_, channel⟩ | ⟨other, _⟩⟩
    · rw [plain, isRequest] at payload
      simp [JournalEvent.requestsCancellation, payload, sameWork, sameState]
    · simp [JournalEvent.requestsCancellation, payload, channel, sameWork, sameState]
    · rw [isRequest] at other
      cases other
  · intro ended
    rcases move.origin.payload_cases move.decision.eventKind move.transition with plain |
      ⟨_, _, _, ⟨other, _⟩ | ⟨_, channel⟩⟩
    · rw [plain, kind] at payload
      cases request : move.request <;> rw [request] at stopping ended sameState payload <;>
        first
          | exact absurd rfl ended
          | cases stopping; done
          | simp [JournalEvent.endsIn, payload, WorkTransitionRequest.eventKind, sameState,
              WorkTransitionRequest.targetState]
    · rw [kind] at other
      cases request : move.request <;> rw [request] at other ended <;>
        first
          | cases other; done
          | exact absurd rfl ended
    · simp [JournalEvent.endsIn, payload, channel, sameState]

theorem StopsRecorded.step (stops : StopsRecorded ledger) (step : LedgerStep ledger next) :
    StopsRecorded next := by
  cases step with
  | recorded | created =>
    intro row member stopping
    obtain ⟨event, eventIn, records⟩ := stops row member stopping
    exact ⟨event, List.mem_append_left _ eventIn, records⟩
  | admitted request nextOrdinal nextVersion can =>
    intro row member stopping
    rcases List.mem_append.mp member with old | new
    · obtain ⟨event, eventIn, records⟩ := stops row old stopping
      exact ⟨event, mem_journal_admitMessage.mpr (Or.inl eventIn), records⟩
    · rw [List.mem_singleton.mp new] at stopping
      cases stopping
  | moved move can =>
    intro row member stopping
    rcases mem_works_move member with rfl | ⟨old, _⟩
    · refine ⟨eventFor ledger.journal move.intent,
        List.mem_append_right _ (List.mem_singleton_self _), ?_⟩
      rw [moved_id can]
      exact recordsStop_move can ledger.journal stopping
    · obtain ⟨event, eventIn, records⟩ := stops row old stopping
      exact ⟨event, List.mem_append_left _ eventIn, records⟩

theorem Ledger.Reached.step {workId : WorkId} {state : WorkState} (reached : ledger.Reached workId state)
    (queue : QueueOk ledger) (step : LedgerStep ledger next) : next.Reached workId state := by
  obtain ⟨row, rowIn, sameWork, stopping, reaches⟩ := reached
  cases step with
  | recorded | created => exact ⟨row, rowIn, sameWork, stopping, reaches⟩
  | admitted => exact ⟨row, List.mem_append_left _ rowIn, sameWork, stopping, reaches⟩
  | moved move can =>
    by_cases same : row.id = move.row.id
    · have isRow := queue.works.eq rowIn can.member same
      subst isRow
      refine ⟨move.moved, mem_update_of_selected can.member (by simp), (moved_id can).trans sameWork,
        stopping_moved can stopping, ?_⟩
      -- A work that has ended does not move any more.
      refine reaches.imp_right fun ended => ?_
      have live := (decided_accepted can.decided).live
      rw [ended.2, ended.1] at live
      cases live
    · exact ⟨row, mem_update_of_unselected rowIn (by simpa using same), sameWork, stopping, reaches⟩

theorem LedgerStep.userTransition (step : LedgerStep ledger next) {event : JournalEvent}
    {transition : WorkTransitionV1} (member : event ∈ next.journal)
    (isUser : event.IsUserTransition transition) : event ∈ ledger.journal ∨
      ∃ row ∈ ledger.works, row.id = transition.workId ∧ row.work.state.isStopping = false := by
  cases step with
  | recorded intent kind evidence fresh =>
    rcases List.mem_append.mp member with old | new
    · exact Or.inl old
    · rw [List.mem_singleton.mp new] at isUser
      refine absurd isUser (not_userTransition_of_plain ?_ ?_)
      · simp [JournalEvent.cancellationTransition, eventFor, evidence]
      · simp [JournalEvent.asChannelCancellation, eventFor, evidence]
  | created conversation intent can =>
    rcases List.mem_append.mp member with old | new
    · exact Or.inl old
    · rw [List.mem_singleton.mp new] at isUser
      refine absurd isUser (not_userTransition_of_plain ?_ ?_)
      · simp [JournalEvent.cancellationTransition, eventFor, can.payload]
      · simp [JournalEvent.asChannelCancellation, eventFor, can.payload]
  | admitted request nextOrdinal nextVersion can =>
    rcases mem_journal_admitMessage.mp member with old | rfl | rfl
    · exact Or.inl old
    · exact absurd isUser (not_userTransition_of_plain rfl rfl)
    · exact absurd isUser (not_userTransition_of_plain rfl rfl)
  | moved move can =>
    rcases List.mem_append.mp member with old | new
    · exact Or.inl old
    · rw [List.mem_singleton.mp new] at isUser
      obtain ⟨⟨origin, user⟩, rfl⟩ := userTransition_origin can isUser
      exact Or.inr ⟨move.row, can.member, rfl, (stopping_user can user).1⟩

theorem originKeyed_step (keyed : Keyed MessageRow.origin ledger.messages)
    (step : LedgerStep ledger next) : Keyed MessageRow.origin next.messages := by
  cases step with
  | recorded | created | moved => exact keyed
  | admitted request _ _ can => exact keyed.append fun row member => (can.freshMessage row member).2

theorem cancellationTransition_native (can : ledger.CanMove move) {deviceId : DeviceId}
    (origin : move.origin = .user (.native deviceId)) (journal : List JournalEvent) :
    (eventFor journal move.intent).cancellationTransition = some move.transition := by
  have target : move.transition.toState = move.request.targetState := (decided_accepted can.decided).target
  have kind := decided_eventKind can.decided
  have asked := can.allowed
  have sameFrom : move.transition.fromState = move.row.work.state := rfl
  have payload : (eventFor journal move.intent).payload =
      .workTransition move.decision.eventKind move.transition := by
    rw [payload_moveEvent, origin]
    rfl
  rw [origin] at asked
  rcases cancellationRequest_eq_some asked with ⟨queued, request⟩ | ⟨active, request⟩
  · rw [request] at kind target
    simp [JournalEvent.cancellationTransition, payload, kind, WorkTransitionRequest.eventKind, sameFrom,
      queued, target, WorkTransitionRequest.targetState]
  · have reason : move.transition.cancellationReason = some .userRequest :=
      decided_cancellationReason can request
    rw [request] at kind target
    rcases active with state | state | state <;>
      simp [JournalEvent.cancellationTransition, payload, kind, WorkTransitionRequest.eventKind, sameFrom,
        state, target, WorkTransitionRequest.targetState, reason]

end Stops

/-! Recorded commands. -/

inductive CommandRecorded (sha256 : List UInt8 → Sha256Digest) (store : IngressStore) :
    ClientCommandRow → Prop
  | message (request : AcceptUserMessageRequest) (topology : CanonicalMessageTopology)
      (queued : JournalEvent) (valid : request.Valid sha256)
      (home : topology.conversationId = request.conversationId)
      (recorded : AdmissionRecorded store.toLedger (request.admission topology))
      (member : queued ∈ store.journal)
      (isQueued : queued.toJournalAppendIntent = (request.admission topology).queuedIntent) :
      CommandRecorded sha256 store
        (request.commandRow (request.receipt topology queued.journalOffset))
  | cancelled (request : RequestCancellationRequest) (receipt : CancellationCommandReceipt)
      (event : JournalEvent) (valid : request.Valid sha256) (target : receipt.workId = request.workId)
      (decoded : decodeCancellationReceipt (request.commandRow receipt) = .ok receipt)
      (known : ∃ row ∈ store.works, row.id = request.workId) (member : event ∈ store.journal)
      (agrees : cancellationEventMatchesCommand event (request.commandRow receipt) receipt
        (correlationForWork request.workId) = true) :
      CommandRecorded sha256 store (request.commandRow receipt)
  | repeated (request : RequestCancellationRequest) (receipt : CancellationCommandReceipt)
      (head event : JournalEvent) (valid : request.Valid sha256)
      (target : receipt.workId = request.workId)
      (decoded : decodeCancellationReceipt (request.commandRow receipt) = .ok receipt)
      (reached : store.Reached request.workId receipt.resultingWorkState)
      (headIn : head ∈ store.journal) (atHead : head.journalOffset = receipt.committedCursor)
      (member : event ∈ store.journal) (earlier : event.journalOffset ≤ receipt.committedCursor)
      (records : event.RecordsStop request.workId receipt.resultingWorkState)
      (unmatched : ∀ other ∈ store.journal, cancellationEventMatchesMaterial other
        (request.commandRow receipt) receipt (correlationForWork request.workId) = true →
          other = head) :
      CommandRecorded sha256 store (request.commandRow receipt)

/-- What the check reads, in the form in which the transactions keep it. -/
structure Commanded (sha256 : List UInt8 → Sha256Digest) (store : IngressStore) : Prop where
  history : LedgerHistory store.toLedger
  stops : StopsRecorded store.toLedger
  origins : Keyed MessageRow.origin store.messages
  devices : Keyed DeviceRow.id store.devices
  decodable : ∀ command ∈ store.commands, command.kind = .cancel →
    ∃ receipt, decodeCancellationReceipt command = .ok receipt
  issued : ∀ event ∈ store.journal, ∀ transition, event.cancellationTransition = some transition →
    Issued store event transition
  provisioned : ∀ command ∈ store.commands, ∃ device ∈ store.devices, device.id = command.deviceId
  commands : ∀ command ∈ store.commands, CommandRecorded sha256 store command

section Checks

variable {sha256 : List UInt8 → Sha256Digest} {store : IngressStore}

theorem LedgerOk.findOffset (ok : LedgerOk store.toLedger) {event : JournalEvent}
    (member : event ∈ store.journal) (keeps : JournalEvent → Bool) (kept : keeps event = true) :
    store.journal.find? (fun other => other.journalOffset == event.journalOffset && keeps other) =
      some event := by
  cases found : store.journal.find? (fun other => other.journalOffset == event.journalOffset &&
      keeps other) with
  | none =>
    have absent := List.find?_eq_none.mp found event member
    simp [kept] at absent
  | some other =>
    have same := List.find?_some found
    simp only [Bool.and_eq_true, beq_iff_eq] at same
    rw [ok.journal.counted.eq (List.mem_of_find?_eq_some found) member same.1]

theorem work_of_known (ok : LedgerOk store.toLedger) {row : WorkItemRow} {workId : WorkId}
    (rowIn : row ∈ store.works) (sameWork : row.id = workId) :
    store.works.find? (fun other => other.id == workId) = some row :=
  sameWork ▸ ok.queue.works.lookup rowIn

theorem matchesCommand_eq (event : JournalEvent) (command : ClientCommandRow)
    (receipt : CancellationCommandReceipt) (correlationId : CorrelationId) :
    cancellationEventMatchesCommand event command receipt correlationId =
      (event.journalOffset == receipt.committedCursor &&
        cancellationEventMatchesMaterial event command receipt correlationId) := rfl

section Messages

variable {request : AcceptUserMessageRequest} {topology : CanonicalMessageTopology}

theorem verifyCommandAcceptance_ok (ok : LedgerOk store.toLedger)
    (recorded : AdmissionRecorded store.toLedger (request.admission topology)) (cursor : Nat) :
    store.verifyCommandAcceptance (request.commandRow (request.receipt topology cursor))
      request.clientMessageId (request.receipt topology cursor) (request.admission topology).message
        (request.admission topology).input = .ok () := by
  obtain ⟨accepted, acceptedIn, acceptedIs⟩ := recorded.accepted
  obtain ⟨created, createdIn, createdId, createdStream, conversationId, createdPayload⟩ := recorded.created
  have eventId : accepted.eventId = (request.admission topology).input.inputEventId := by
    rw [acceptedIs]
    rfl
  have found := ok.findEvent acceptedIn
  have cause := ok.findEvent createdIn
  rw [eventId] at found
  rw [createdId] at cause
  simp only [IngressStore.verifyCommandAcceptance, found, orRefuse_some, ok_bind, acceptedIs,
    CanonicalMessageAdmission.acceptedIntent, Option.bind_some, cause]
  simp [JournalEvent.isConversationCreated, createdPayload, createdStream, CanonicalMessageAdmission.message,
    CanonicalMessageAdmission.input, AcceptUserMessageRequest.admission, AcceptUserMessageRequest.commandRow,
    AcceptUserMessageRequest.receipt]

theorem verifyCommandQueued_ok (ok : LedgerOk store.toLedger) {queued : JournalEvent}
    (member : queued ∈ store.journal)
    (isQueued : queued.toJournalAppendIntent = (request.admission topology).queuedIntent) :
    store.verifyCommandQueued (request.receipt topology queued.journalOffset)
      (request.admission topology).input.inputEventId = .ok () := by
  have sameWork : queued.workId = some (request.receipt topology queued.journalOffset).workId := by
    rw [isQueued]
    rfl
  have found := ok.findOffset member
    (fun other => other.workId == some (request.receipt topology queued.journalOffset).workId)
    (by simp [sameWork])
  have cursor : (request.receipt topology queued.journalOffset).committedCursor = queued.journalOffset := rfl
  simp only [IngressStore.verifyCommandQueued, cursor, found, orRefuse_some, ok_bind, isQueued,
    CanonicalMessageAdmission.queuedIntent]
  simp [AcceptUserMessageRequest.admission, AcceptUserMessageRequest.receipt,
    CanonicalMessageAdmission.input]

theorem verifyMessageCommand_ok (ok : LedgerOk store.toLedger) (history : LedgerHistory store.toLedger)
    (origins : Keyed MessageRow.origin store.messages) {queued : JournalEvent}
    (valid : request.Valid sha256) (home : topology.conversationId = request.conversationId)
    (recorded : AdmissionRecorded store.toLedger (request.admission topology))
    (member : queued ∈ store.journal)
    (isQueued : queued.toJournalAppendIntent = (request.admission topology).queuedIntent) :
    store.verifyMessageCommand sha256
      (request.commandRow (request.receipt topology queued.journalOffset)) = .ok () := by
  have accepted := verifyCommandAcceptance_ok ok recorded queued.journalOffset
  have queuedOk := verifyCommandQueued_ok ok member isQueued
  obtain ⟨row, rowIn, sameColumns⟩ := List.mem_map.mp recorded.work
  simp only [WorkItemRow.columns, Prod.mk.injEq, WorkItemRow.queuedFact, QueuedFact.mk.injEq] at sameColumns
  obtain ⟨⟨sameWork, sameConversation, sameOrdinal⟩, _, sameCorrelation⟩ := sameColumns
  have sameId : (⟨request.idempotencyKey.uuid⟩ : ClientMessageId) = request.clientMessageId := by
    rw [valid.key]
    rfl
  have message : store.messages.filter (fun row => row.origin ==
      .native request.deviceId request.clientMessageId) = [(request.admission topology).message] := by
    refine origins.filter_eq_singleton recorded.message (beq_self_eq_true _) ?_
    intro other otherIn selected
    exact origins.eq otherIn recorded.message (beq_iff_eq.mp selected)
  have work : store.works.find? (fun other => other.id == request.candidates.workId) = some row :=
    work_of_known ok rowIn sameWork
  have keyed : Keyed WorkInputRow.workId store.inputs := by
    rw [Keyed, history.inputs]
    exact ok.queue.works
  have input : store.inputs.filter (fun other => other.workId == request.candidates.workId) =
      [(request.admission topology).input] := by
    refine keyed.filter_eq_singleton recorded.input (beq_self_eq_true _) ?_
    intro other otherIn selected
    exact keyed.eq otherIn recorded.input (beq_iff_eq.mp selected)
  have hash : request.requestHash = sha256 (messageMaterial topology.conversationId
      request.clientMessageId request.content) := by
    rw [home]
    exact valid.hash
  have decoded : decodeMessageReceipt (request.commandRow (request.receipt topology queued.journalOffset)) =
      .ok (request.receipt topology queued.journalOffset) := by
    simp [decodeMessageReceipt, AcceptUserMessageRequest.commandRow, StoredResponse.ofMessage, pure,
      Except.pure]
  simp only [IngressStore.verifyMessageCommand, decoded, ok_bind]
  simp only [AcceptUserMessageRequest.commandRow, AcceptUserMessageRequest.receipt, sameId, message, work,
    input, orRefuse_some, ok_bind, sameConversation, sameOrdinal, sameCorrelation,
    hash] at accepted queuedOk ⊢
  simp only [CanonicalMessageAdmission.message, CanonicalMessageAdmission.work,
    AcceptUserMessageRequest.admission, beq_self_eq_true, Bool.and_self, require_true, ok_bind]
    at accepted queuedOk ⊢
  rw [accepted, ok_bind, queuedOk]

end Messages

section Cancellations

variable {request : RequestCancellationRequest} {receipt : CancellationCommandReceipt}

theorem verifyCancellationCommand_eq (ok : LedgerOk store.toLedger) (valid : request.Valid sha256)
    (target : receipt.workId = request.workId)
    (decoded : decodeCancellationReceipt (request.commandRow receipt) = .ok receipt) {row : WorkItemRow}
    (rowIn : row ∈ store.works) (sameWork : row.id = request.workId) {head : JournalEvent}
    (headIn : head ∈ store.journal) (atHead : head.journalOffset = receipt.committedCursor) :
    store.verifyCancellationCommand sha256 (request.commandRow receipt) =
      if cancellationEventMatchesCommand head (request.commandRow receipt) receipt
          (correlationForWork request.workId) then .ok ()
      else (require (!store.journal.any fun event => cancellationEventMatchesMaterial event
          (request.commandRow receipt) receipt (correlationForWork request.workId))).bind
        fun _ => require (store.compatibleNoOp receipt row.work.state) := by
  have sameId : (⟨(request.commandRow receipt).idempotencyKey.uuid⟩ : ClientCommandId) =
      request.clientCommandId := by
    simp [RequestCancellationRequest.commandRow, valid.key, IdempotencyKey.forCancellation]
  have hash : ((request.commandRow receipt).requestHash ==
      sha256 (cancellationMaterial request.clientCommandId receipt.workId)) = true := by
    rw [target, beq_iff_eq]
    exact valid.hash
  have work : store.works.find? (fun other => other.id == receipt.workId) = some row := by
    rw [target]
    exact work_of_known ok rowIn sameWork
  have found : store.journal.find? (fun event => event.journalOffset == receipt.committedCursor) =
      some head := by
    have unique := ok.findOffset headIn (fun _ => true) rfl
    simpa [atHead] using unique
  have correlated : row.correlationId = correlationForWork request.workId := by
    rw [← sameWork]
    exact ok.activity.correlated row rowIn
  simp only [IngressStore.verifyCancellationCommand, decoded, ok_bind, sameId, hash, require_true, work,
    found, orRefuse_some, correlated]
  rfl

theorem compatibleNoOp_ok {row : WorkItemRow}
    (reaches : row.work.state.isStopping = true ∧ (receipt.resultingWorkState = .cancelRequested ∨
      receipt.resultingWorkState.isTerminal = true ∧ row.work.state = receipt.resultingWorkState))
    {event : JournalEvent} (member : event ∈ store.journal)
    (earlier : event.journalOffset ≤ receipt.committedCursor)
    (records : event.RecordsStop receipt.workId receipt.resultingWorkState) :
    store.compatibleNoOp receipt row.work.state = true := by
  have found : ∀ keeps : JournalEvent → Bool, keeps event = true → (store.journal.any fun other =>
      decide (other.journalOffset ≤ receipt.committedCursor) &&
        other.workId == some receipt.workId && keeps other) = true := by
    intro keeps kept
    rw [List.any_eq_true]
    exact ⟨event, member, by simp [earlier, records.work, kept]⟩
  obtain ⟨stopping, isRequested | ⟨terminal, same⟩⟩ := reaches
  · have asked := found (fun other => other.requestsCancellation receipt.workId)
      (records.requested isRequested)
    simp only [IngressStore.compatibleNoOp, isRequested, asked, Bool.and_true]
    exact stopping
  · have isEnd : receipt.resultingWorkState ≠ .cancelRequested := by
      intro requested
      rw [requested] at terminal
      cases terminal
    have ended := found (fun other => other.endsIn receipt.resultingWorkState) (records.ended isEnd)
    unfold IngressStore.compatibleNoOp
    split
    · exact absurd ‹_› isEnd
    · rw [ended, terminal, same]
      simp

theorem CommandRecorded.verified (ok : LedgerOk store.toLedger) (commanded : Commanded sha256 store)
    {command : ClientCommandRow} (member : command ∈ store.commands) :
    store.verifyCommand sha256 command = .ok () := by
  have known : ((store.devices.filter fun device => device.id == command.deviceId).length == 1) = true := by
    obtain ⟨device, deviceIn, same⟩ := commanded.provisioned command member
    have only : store.devices.filter (fun other => other.id == command.deviceId) = [device] := by
      refine commanded.devices.filter_eq_singleton deviceIn (by simp [same]) ?_
      intro other otherIn selected
      exact commanded.devices.eq otherIn deviceIn ((beq_iff_eq.mp selected).trans same.symm)
    rw [only]
    rfl
  have atCursor : ∀ event ∈ store.journal, event.journalOffset = command.committedCursor →
      (store.journal.any fun event => event.journalOffset == command.committedCursor) = true := by
    intro event eventIn same
    rw [List.any_eq_true]
    exact ⟨event, eventIn, by simp [same]⟩
  have recorded := commanded.commands command member
  cases recorded with
  | message request topology queued valid home admitted queuedIn isQueued =>
    have cursor := atCursor queued queuedIn rfl
    have checked := verifyMessageCommand_ok ok commanded.history commanded.origins valid home admitted
      queuedIn isQueued
    simp only [IngressStore.verifyCommand, known, cursor, Bool.and_self, require_true, ok_bind]
    exact checked
  | cancelled request receipt event valid target decoded work eventIn agrees =>
    obtain ⟨row, rowIn, sameWork⟩ := work
    have atHead : event.journalOffset = receipt.committedCursor := by
      rw [matchesCommand_eq, Bool.and_eq_true, beq_iff_eq] at agrees
      exact agrees.1
    have cursor := atCursor event eventIn atHead
    have checked := verifyCancellationCommand_eq ok valid target decoded rowIn sameWork eventIn atHead
    rw [if_pos agrees] at checked
    simp only [IngressStore.verifyCommand, known, cursor, Bool.and_self, require_true, ok_bind]
    exact checked
  | repeated request receipt head event valid target decoded reached headIn atHead eventIn earlier records
      unmatched =>
    obtain ⟨row, rowIn, sameWork, reaches⟩ := reached
    have cursor := atCursor head headIn atHead
    have checked := verifyCancellationCommand_eq ok valid target decoded rowIn sameWork headIn atHead
    simp only [IngressStore.verifyCommand, known, cursor, Bool.and_self, require_true, ok_bind]
    refine checked.trans ?_
    split
    · rfl
    · rename_i differs
      have unmatchedEvents : (store.journal.any fun event => cancellationEventMatchesMaterial event
          (request.commandRow receipt) receipt (correlationForWork request.workId)) = false := by
        rw [List.any_eq_false]
        intro other otherIn agrees
        rw [unmatched other otherIn agrees] at agrees
        simp [matchesCommand_eq, atHead, agrees] at differs
      have compatible := compatibleNoOp_ok reaches eventIn earlier (target ▸ records)
      rw [unmatchedEvents, compatible]
      rfl

end Cancellations

theorem Commanded.accepted (ok : LedgerOk store.toLedger) (commanded : Commanded sha256 store) :
    store.verifyClientCommands sha256 = .ok () := by
  have commands : store.commands.forM (store.verifyCommand sha256) = .ok () :=
    forM_ok fun command member => CommandRecorded.verified ok commanded member
  have events := verifyStage9CancellationEvents_ok ok commanded.history commanded.devices
    commanded.decodable commanded.issued
  rw [IngressStore.verifyClientCommands, commands, ok_bind, events]

end Checks

/-! Runs. -/

/-- A cancellation command that is not a retry finds no earlier cancellation of the work to the
state it is in by the same device at the same time, unless that one is the latest event. -/
def RepeatsOnlyAtHead (store : IngressStore) : IngressMove → Prop
  | .cancel request =>
    store.loadCommandRow request.deviceId request.idempotencyKey = none →
      ∀ row ∈ store.works, row.id = request.workId →
        ∀ event ∈ store.journal, ∀ transition, event.cancellationTransition = some transition →
          transition.workId = row.id → transition.toState = row.work.state →
            transition.transitionedAt = request.requestedAt →
              event.actor = .user (some request.deviceId) →
                event.journalOffset = store.journal.length
  | _ => True

section Steps

variable {sha256 : List UInt8 → Sha256Digest} {store next : IngressStore} {move : IngressMove}

theorem CommandRecorded.extend {command : ClientCommandRow}
    (recorded : CommandRecorded sha256 store command) (ok : LedgerOk store.toLedger)
    (step : IngressStep sha256 store move next) : CommandRecorded sha256 next command := by
  have kept := step.extends ok
  cases recorded with
  | message request topology queued valid home admitted queuedIn isQueued =>
    exact .message request topology queued valid home (admitted.extend kept) (kept.events _ queuedIn)
      isQueued
  | cancelled request receipt event valid target decoded known eventIn agrees =>
    obtain ⟨row, rowIn, sameWork⟩ := known
    have found : next.WorkIn row.id row.conversationId :=
      Ledger.WorkIn.extend ⟨row, rowIn, rfl, rfl⟩ kept
    obtain ⟨after, afterIn, same, _⟩ := found
    exact .cancelled request receipt event valid target decoded ⟨after, afterIn, same.trans sameWork⟩
      (kept.events _ eventIn) agrees
  | repeated request receipt head event valid target decoded reached headIn atHead eventIn earlier records
      unmatched =>
    have reachedAfter : next.Reached request.workId receipt.resultingWorkState := by
      rcases step.ledger with same | ledgerStep
      · rw [same]
        exact reached
      · exact reached.step ok.queue ledgerStep
    refine .repeated request receipt head event valid target decoded reachedAfter
      (kept.events _ headIn) atHead (kept.events _ eventIn) earlier records ?_
    intro other otherIn agrees
    refine unmatched other ?_ agrees
    rcases step.ledger with same | ledgerStep
    · exact same ▸ otherIn
    · -- A new cancellation of the work would have found it not yet stopping.
      simp only [cancellationEventMatchesMaterial, Option.any_eq_true, Bool.and_eq_true,
        beq_iff_eq] at agrees
      obtain ⟨transition, native, ⟨⟨⟨⟨⟨⟨sameWork, _⟩, _⟩, _⟩, _⟩, _⟩, _⟩⟩ := agrees
      rcases ledgerStep.userTransition otherIn (Or.inl native) with old | ⟨row, rowIn, rowWork, open_⟩
      · exact old
      · obtain ⟨stopped, stoppedIn, stoppedWork, stopping, _⟩ := reached
        have sameRow : row = stopped := ok.queue.works.eq rowIn stoppedIn
          (rowWork.trans (sameWork.trans (target.trans stoppedWork.symm)))
        rw [sameRow, stopping] at open_
        cases open_

theorem IngressStep.commands_kept (step : IngressStep sha256 store move next)
    (notMessage : ∀ request, move ≠ .accept request) (notCancel : ∀ request, move ≠ .cancel request) :
    next.commands = store.commands := by
  cases step with
  | accepted request => exact absurd rfl (notMessage request)
  | cancelAnswered request => exact absurd rfl (notCancel request)
  | classified _ _ _ classified => cases classified <;> rfl
  | _ => rfl

variable {request : AcceptUserMessageRequest} {receipt : MessageCommandReceipt}

theorem acceptMessage_committed
    (committed : acceptMessage sha256 store request = .ok (next, .committed receipt)) :
    receipt.conversationId = request.conversationId ∧
      ∃ device ∈ store.devices, device.id = request.deviceId := by
  simp only [acceptMessage, bind_eq_ok, refuseIf_eq_ok, exists_const] at committed
  obtain ⟨_, _, branch⟩ := committed
  split at branch
  · simp only [bind_eq_ok, pure_eq_ok, Prod.mk.injEq, reduceCtorEq, and_false,
      exists_false] at branch
  · simp only [bind_eq_ok, mapError_eq_ok, pure_eq_ok, Prod.mk.injEq,
      CommandOutcome.committed.injEq] at branch
    obtain ⟨topology, loaded, _, _, _, _, _, rfl⟩ := branch
    simp only [IngressStore.loadMessageTopology, bind_eq_ok, orRefuse_eq_ok, refuseIf_eq_ok, pure_eq_ok, exists_const, Bool.or_eq_false_iff, bne_eq_false_iff_eq] at loaded
    obtain ⟨device, deviceFound, conversation, _, ⟨⟨⟨home, _⟩, _⟩, _⟩, created, _, rfl⟩ := loaded
    have isDevice := List.find?_some deviceFound
    simp only [Bool.and_eq_true, beq_iff_eq] at isDevice
    exact ⟨home, device, List.mem_of_find?_eq_some deviceFound, isDevice.1⟩

theorem journalHead_eq_ok (ok : LedgerOk store.toLedger) {cursor : Nat}
    (head : store.journalHead = .ok cursor) :
    cursor = store.journal.length ∧ ∃ event ∈ store.journal, event.journalOffset = cursor := by
  simp only [IngressStore.journalHead, orRefuse_eq_ok, Option.map_eq_some_iff] at head
  obtain ⟨event, isLast, rfl⟩ := head
  obtain ⟨before, split⟩ := List.getLast?_eq_some_iff.mp isLast
  have number := ok.journal.counted.number_of_split split
  refine ⟨?_, event, List.mem_of_getLast? isLast, rfl⟩
  rw [number, split, List.length_append, List.length_singleton]

theorem requestCancellation_committed {request : RequestCancellationRequest}
    {receipt : CancellationCommandReceipt}
    (committed : requestCancellation sha256 store request = .ok (next, .committed receipt)) :
    request.Valid sha256 ∧ store.loadCommandRow request.deviceId request.idempotencyKey = none ∧
      ∃ row after mutation cursor,
        store.loadCancellationWork request.workId request.deviceId request.userId = .ok row ∧
        store.applyCancellation row request.requestedAt request.eventId (.native request.deviceId) =
          .ok (after, mutation) ∧
        (mutation.committedCursor = some cursor ∨
          mutation.committedCursor = none ∧ after.journalHead = .ok cursor) ∧
        CancellationCommandReceipt.tryNew request.workId mutation.resultingState
          (cleanupFor mutation.resultingState) cursor = some receipt ∧
        next = after.withCommand (request.commandRow receipt) := by
  simp only [requestCancellation, bind_eq_ok, refuseIf_eq_ok, bne_eq_false_iff_eq, exists_const] at committed
  obtain ⟨key, hash, branch⟩ := committed
  split at branch
  · simp only [bind_eq_ok, pure_eq_ok, Prod.mk.injEq, reduceCtorEq, and_false,
      exists_false] at branch
  · rename_i absent
    obtain ⟨row, loaded, branch⟩ := bind_eq_ok.mp branch
    obtain ⟨⟨after, mutation⟩, applied, branch⟩ := bind_eq_ok.mp branch
    split at branch
    · rename_i cursor placed
      simp only [bind_eq_ok, orRefuse_eq_ok, pure_eq_ok, Except.ok.injEq, Prod.mk.injEq,
        CommandOutcome.committed.injEq, exists_eq_left'] at branch
      obtain ⟨receipt', answer, inserted, insertedOk, rfl, rfl⟩ := branch
      exact ⟨⟨key, hash⟩, absent, row, after, mutation, cursor, loaded, mapError_eq_ok.mp applied,
        Or.inl placed, answer, insertCommandRow_eq_ok insertedOk⟩
    · rename_i placed
      simp only [bind_eq_ok, mapError_eq_ok, orRefuse_eq_ok, pure_eq_ok,
        Prod.mk.injEq, CommandOutcome.committed.injEq] at branch
      obtain ⟨cursor, head, receipt', answer, inserted, insertedOk, rfl, rfl⟩ := branch
      exact ⟨⟨key, hash⟩, absent, row, after, mutation, cursor, loaded, mapError_eq_ok.mp applied,
        Or.inr ⟨placed, head⟩, answer, insertCommandRow_eq_ok insertedOk⟩

theorem CommandRecorded.accepted (ok : LedgerOk store.toLedger)
    (committed : acceptMessage sha256 store request = .ok (next, .committed receipt)) :
    next.commands = store.commands ++ [request.commandRow receipt] ∧
      CommandRecorded sha256 next (request.commandRow receipt) := by
  have home := (acceptMessage_committed committed).1
  cases acceptMessage_eq_ok ok committed with
  | committed topology nextOrdinal nextVersion valid absent can =>
    refine ⟨rfl, ?_⟩
    let admission := request.admission topology
    let queued := eventFor (store.toLedger.record admission.acceptedIntent).journal admission.queuedIntent
    have offset : queued.journalOffset = store.journal.length + 2 := by
      simp [queued, eventFor, Ledger.record]
    rw [← offset]
    exact .message request topology queued valid home (AdmissionRecorded.admitted can)
      (mem_journal_admitMessage.mpr (Or.inr (Or.inr rfl))) rfl

theorem CommandRecorded.answered (ok : LedgerOk store.toLedger) (stops : StopsRecorded store.toLedger)
    {request : RequestCancellationRequest} {receipt : CancellationCommandReceipt}
    (distinct : RepeatsOnlyAtHead store (.cancel request))
    (committed : requestCancellation sha256 store request = .ok (next, .committed receipt)) :
    next.commands = store.commands ++ [request.commandRow receipt] ∧
      CommandRecorded sha256 next (request.commandRow receipt) ∧
      ∃ device ∈ store.devices, device.id = request.deviceId := by
  obtain ⟨valid, absent, row, after, mutation, cursor, loaded, applied, placed, answer, rfl⟩ :=
    requestCancellation_committed committed
  obtain ⟨cancellable, sameWork⟩ := loadCancellationWork_eq_ok loaded
  obtain ⟨device, deviceIn, _, _, isDevice, _, _⟩ := cancellable.owned
  have decoded := decodeCancellationReceipt_commandRow request answer
  obtain rfl := tryNew_eq_some answer
  rcases applyCancellation_eq_ok applied ok.queue.works cancellable.member with
    ⟨unasked, unchanged, rfl⟩ | ⟨move, rfl, origin, _, committedAt, can, rfl, rfl⟩
  · obtain rfl := unchanged.symm
    refine ⟨rfl, ?_, device, deviceIn, isDevice⟩
    obtain ⟨atEnd, head, headIn, atHead⟩ : cursor = store.journal.length ∧
        ∃ event ∈ store.journal, event.journalOffset = cursor := by
      rcases placed with impossible | ⟨_, head⟩
      · cases impossible
      · exact journalHead_eq_ok ok head
    have stopping : row.work.state.isStopping = true := by
      cases state : row.work.state <;> rw [state] at unasked <;> first | rfl | cases unasked
    obtain ⟨event, eventIn, records⟩ := stops row cancellable.member stopping
    have earlier : event.journalOffset ≤ cursor := by
      rw [atEnd]
      exact ok.journal.counted.number_le eventIn
    have reached : store.Reached request.workId row.work.state := by
      refine ⟨row, cancellable.member, sameWork, stopping, ?_⟩
      simp only [WorkState.isStopping, Bool.or_eq_true, beq_iff_eq] at stopping
      exact stopping.imp_right fun terminal => ⟨terminal, rfl⟩
    refine .repeated request _ head event valid rfl decoded reached headIn atHead eventIn earlier
      (sameWork ▸ records) ?_
    intro other otherIn agrees
    simp only [cancellationEventMatchesMaterial, Option.any_eq_true, Bool.and_eq_true,
      beq_iff_eq] at agrees
    obtain ⟨transition, native, ⟨⟨⟨⟨⟨⟨ofWork, toState⟩, atTime⟩, _⟩, _⟩, _⟩, actor⟩⟩ := agrees
    have last := distinct absent row cancellable.member sameWork other otherIn transition native
      (ofWork.trans sameWork.symm) toState atTime actor
    exact ok.journal.counted.eq otherIn headIn (last.trans (atEnd.symm.trans atHead.symm))
  · refine ⟨rfl, ?_, device, deviceIn, isDevice⟩
    have isCursor : cursor = store.journal.length + 1 := by
      rcases placed with placed | ⟨impossible, _⟩
      · exact (Option.some.inj placed).symm
      · cases impossible
    subst isCursor
    have native := cancellationTransition_native can origin store.journal
    have agrees := matchesCommand_moved sameWork origin committedAt can answer native
    have correlated : (eventFor store.journal move.intent).correlationId =
        correlationForWork request.workId := by
      rw [← sameWork]
      exact ok.activity.correlated move.row can.member
    rw [correlated] at agrees
    exact .cancelled request _ _ valid rfl decoded
      ⟨move.moved, mem_update_of_selected can.member (by simp), (moved_id can).trans sameWork⟩
      (List.mem_append_right _ (List.mem_singleton_self _)) agrees

theorem newCommand_step (ok : LedgerOk store.toLedger) (stops : StopsRecorded store.toLedger)
    (distinct : RepeatsOnlyAtHead store move) (stepped : ingressStep sha256 store move = some next) :
    next.commands = store.commands ∨ ∃ command, next.commands = store.commands ++ [command] ∧
      CommandRecorded sha256 next command ∧ ∃ device ∈ store.devices, device.id = command.deviceId := by
  have step := ingressStep_cases ok stepped
  cases isMove : move with
  | accept request =>
    subst isMove
    simp only [ingressStep, Option.map_eq_some_iff, toOption_eq_some] at stepped
    obtain ⟨⟨after, outcome⟩, committed, rfl⟩ := stepped
    cases outcome with
    | replayed receipt =>
      cases acceptMessage_eq_ok ok committed with
      | replayed => exact Or.inl rfl
    | committed receipt =>
      obtain ⟨appended, recorded⟩ := CommandRecorded.accepted ok committed
      exact Or.inr ⟨_, appended, recorded, (acceptMessage_committed committed).2⟩
  | cancel request =>
    subst isMove
    simp only [ingressStep, Option.map_eq_some_iff, toOption_eq_some] at stepped
    obtain ⟨⟨after, outcome⟩, committed, rfl⟩ := stepped
    cases outcome with
    | replayed receipt =>
      cases requestCancellation_eq_ok ok committed with
      | replayed => exact Or.inl rfl
    | committed receipt =>
      exact Or.inr ⟨_, CommandRecorded.answered ok stops distinct committed⟩
  | _ =>
    subst isMove
    exact Or.inl (step.commands_kept (by simp) (by simp))

theorem Commanded.afterStep (ok : LedgerOk store.toLedger) (commanded : Commanded sha256 store)
    (distinct : RepeatsOnlyAtHead store move) (stepped : ingressStep sha256 store move = some next) :
    Commanded sha256 next := by
  have step := ingressStep_cases ok stepped
  have ledgerKept : LedgerHistory next.toLedger ∧ StopsRecorded next.toLedger ∧
      Keyed MessageRow.origin next.messages := by
    rcases step.ledger with same | ledgerStep
    · rw [same]
      exact ⟨commanded.history, commanded.stops, commanded.origins⟩
    · exact ⟨commanded.history.step ok ledgerStep, commanded.stops.step ledgerStep,
        originKeyed_step commanded.origins ledgerStep⟩
  have device : ∀ {command : ClientCommandRow}, (∃ device ∈ store.devices, device.id = command.deviceId) →
      ∃ device ∈ next.devices, device.id = command.deviceId := by
    rintro command ⟨device, deviceIn, same⟩
    obtain ⟨after, afterIn, columns⟩ := List.mem_map.mp ((step.tables ok).devices device deviceIn)
    exact ⟨after, afterIn, (congrArg Prod.fst columns).trans same⟩
  have found : ∀ command ∈ next.commands, CommandRecorded sha256 next command ∧
      ∃ device ∈ next.devices, device.id = command.deviceId := by
    intro command member
    have old : command ∈ store.commands → CommandRecorded sha256 next command ∧
        ∃ device ∈ next.devices, device.id = command.deviceId := fun before =>
      ⟨(commanded.commands command before).extend ok step, device (commanded.provisioned command before)⟩
    rcases newCommand_step ok commanded.stops distinct stepped with same |
      ⟨added, appended, recorded, provisioned⟩
    · exact old (same ▸ member)
    · rcases List.mem_append.mp (appended ▸ member) with before | new
      · exact old before
      · rw [List.mem_singleton.mp new]
        exact ⟨recorded, device provisioned⟩
  refine ⟨ledgerKept.1, ledgerKept.2.1, ledgerKept.2.2, step.devices commanded.devices,
    step.decodable commanded.decodable, ?_, fun command member => (found command member).2,
    fun command member => (found command member).1⟩
  intro event member transition native
  rcases step.natives ok member native with old | issued
  · exact (commanded.issued event old transition native).extend (step.tables ok)
  · exact issued

end Steps

theorem Commanded.empty (sha256 : List UInt8 → Sha256Digest) (primary : ConversationId) :
    Commanded sha256 (.empty primary) := by
  refine ⟨LedgerHistory.empty, ?_, List.nodup_nil, List.nodup_nil, ?_, ?_, ?_, ?_⟩ <;>
    simp [IngressStore.empty, Ledger.empty, StopsRecorded]

theorem client_commands_verified (sha256 : List UInt8 → Sha256Digest) (primary : ConversationId)
    (moves : List IngressMove)
    (distinct : Admits (ingressStep sha256) RepeatsOnlyAtHead (.empty primary) moves) :
    (ingressAfter sha256 primary moves).verifyClientCommands sha256 = .ok () := by
  have kept : LedgerOk (ingressAfter sha256 primary moves).toLedger ∧
      Commanded sha256 (ingressAfter sha256 primary moves) := by
    refine replay_invariant_admitted (fun store => LedgerOk store.toLedger ∧ Commanded sha256 store) ?_
      ⟨LedgerOk.empty, Commanded.empty sha256 primary⟩ distinct
    rintro store move next ⟨ok, commanded⟩ allowed stepped
    exact ⟨ok.afterIngress (ingressStep_cases ok stepped), commanded.afterStep ok allowed stepped⟩
  exact kept.2.accepted kept.1

def sampleRepeated (requestedAt : UtcTimestamp) : RequestCancellationRequest :=
  { sampleCancellation requestedAt with
    idempotencyKey := .forCancellation ⟨sampleUuid 8⟩
    clientCommandId := ⟨sampleUuid 8⟩
    eventId := ⟨sampleUuid 8⟩ }

theorem repeated_cancellation_rejected :
    (ingressAfter (fun _ => zeroDigest) sampleConversation (sampleStopped ++
      [.accept (sampleMessage zeroDigest 3 4 5),
        .cancel (sampleRepeated 10)])).verifyClientCommands (fun _ => zeroDigest) =
      .error .inconsistentSchema := by
  decide +kernel

theorem repeatsOnlyAtHead_of_head {store : IngressStore} (move : IngressMove)
    (onlyHead : (store.journal.all fun event => event.cancellationTransition.isNone ||
      event.journalOffset == store.journal.length) = true) : RepeatsOnlyAtHead store move := by
  cases move with
  | cancel request =>
    intro _ row _ _ event eventIn transition native _ _ _ _
    have atHead := List.all_eq_true.mp onlyHead event eventIn
    simpa [native] using atHead
  | _ => trivial

theorem client_commands_verified_repeated :
    let moves := sampleStopped ++ [.cancel (sampleRepeated 10)]
    Admits (ingressStep fun _ => zeroDigest) RepeatsOnlyAtHead (.empty sampleConversation) moves ∧
    (ingressAfter (fun _ => zeroDigest) sampleConversation moves).commands.length = 3 ∧
    (ingressAfter (fun _ => zeroDigest) sampleConversation moves).verifyClientCommands
      (fun _ => zeroDigest) = .ok () := by
  intro moves
  have setup : Admits (ingressStep fun _ => zeroDigest) RepeatsOnlyAtHead (.empty sampleConversation)
      sampleStopped.dropLast := by
    exact And.intro trivial (And.intro trivial (And.intro trivial (And.intro trivial (And.intro trivial
      (And.intro trivial trivial)))))
  have split : sampleStopped = sampleStopped.dropLast ++ [.cancel (sampleCancellation 10)] := rfl
  have stopped : Admits (ingressStep fun _ => zeroDigest) RepeatsOnlyAtHead (.empty sampleConversation)
      sampleStopped := by
    rw [split]
    exact setup.concat (repeatsOnlyAtHead_of_head _ (by decide +kernel))
  have distinct : Admits (ingressStep fun _ => zeroDigest) RepeatsOnlyAtHead (.empty sampleConversation)
      moves :=
    stopped.concat (repeatsOnlyAtHead_of_head _ (by decide +kernel))
  exact ⟨distinct, by decide +kernel, client_commands_verified _ _ moves distinct⟩

end Craxii
