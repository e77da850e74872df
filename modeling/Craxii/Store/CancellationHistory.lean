import Craxii.Store.IngressSteps
import Craxii.Store.IngressVerifyCore

/-!
What the ledger keeps of the cancellations users asked for: the exact event of each, at most one
for each work, and the state the work is in from then on.
-/

namespace Craxii

open ExceptRules Tables NumberedLog

def JournalEvent.IsUserTransition (event : JournalEvent) (transition : WorkTransitionV1) : Prop :=
  event.cancellationTransition = some transition ∨
    ∃ inboundDeliveryId, event.asChannelCancellation = some (transition, inboundDeliveryId)

structure CancellationShaped (before : List JournalEvent) (event : JournalEvent)
    (transition : WorkTransitionV1) : Prop where
  stream : event.streamId = .work transition.workId
  work : event.workId = some transition.workId
  correlated : event.correlationId = correlationForWork transition.workId
  caused : ∃ previous, latestEvent before event.streamId = some previous ∧
    event.causationEventId = some previous.eventId
  recorded : event.recordedAt = transition.transitionedAt
  notOccurred : event.occurredAt = none
  shape : exactCancellationShape transition = true

section Events

variable {ledger : Ledger} {move : WorkMove} {journal : List JournalEvent} {transition : WorkTransitionV1}

theorem decided_cancellationReason {reason : WorkCancellationReason} (can : ledger.CanMove move)
    (asked : move.request = .requestCancellation reason) :
    move.decision.next.cancellationReason = some reason := by
  obtain ⟨_, _, fields⟩ := (decided_accepted can.decided).fields
  rw [asked] at fields
  simp only [transitionFields, Except.ok.injEq, WorkTransitionFields.mk.injEq] at fields
  exact fields.2.2.1.symm

theorem payload_moveEvent : (eventFor journal move.intent).payload =
    move.origin.payload move.decision.eventKind move.transition := rfl

theorem userTransition_origin (can : ledger.CanMove move)
    (isUser : (eventFor journal move.intent).IsUserTransition transition) :
    (∃ origin, move.origin = .user origin) ∧ transition = move.transition := by
  have kind := decided_eventKind can.decided
  have allowed := can.allowed
  have plainEvent : ∀ {kind}, move.origin.payload move.decision.eventKind move.transition =
      .workTransition kind move.transition → transition = move.transition := by
    intro kind plain
    rcases isUser with native | ⟨_, channel⟩
    · simp only [JournalEvent.cancellationTransition, payload_moveEvent, plain] at native
      split at native <;> simp_all
    · simp [JournalEvent.asChannelCancellation, payload_moveEvent, plain] at channel
  cases origin : move.origin with
  | user user =>
    refine ⟨⟨user, rfl⟩, ?_⟩
    rcases move.origin.payload_cases move.decision.eventKind move.transition with plain |
      ⟨_, _, _, ⟨_, requested⟩ | ⟨_, cancelled⟩⟩
    · exact plainEvent plain
    · rcases isUser with native | ⟨_, channel⟩
      · simp [JournalEvent.cancellationTransition, payload_moveEvent, requested] at native
      · simp only [JournalEvent.asChannelCancellation, payload_moveEvent, requested, Option.some.injEq,
          Prod.mk.injEq] at channel
        exact channel.1.symm
    · rcases isUser with native | ⟨_, channel⟩
      · simp [JournalEvent.cancellationTransition, payload_moveEvent, cancelled] at native
      · simp only [JournalEvent.asChannelCancellation, payload_moveEvent, cancelled, Option.some.injEq,
          Prod.mk.injEq] at channel
        exact channel.1.symm
  | claim runtimeId =>
    exfalso
    rw [origin] at allowed
    rw [allowed.1] at kind
    rcases isUser with native | ⟨_, channel⟩
    · simp [JournalEvent.cancellationTransition, payload_moveEvent, origin, TransitionOrigin.payload, kind,
        WorkTransitionRequest.eventKind] at native
    · simp [JournalEvent.asChannelCancellation, payload_moveEvent, origin, TransitionOrigin.payload]
        at channel
  | owner actor =>
    exfalso
    rw [origin] at allowed
    obtain ⟨owned, active⟩ := allowed
    have plain : move.origin.payload move.decision.eventKind move.transition =
        .workTransition move.decision.eventKind move.transition := by
      rw [origin]
      rfl
    rcases isUser with native | ⟨_, channel⟩
    · simp only [JournalEvent.cancellationTransition, payload_moveEvent, plain] at native
      cases request : move.request with
      | requestCancellation reason =>
        have sameReason := decided_cancellationReason can request
        rw [request] at kind owned
        have shutdown : reason = .gracefulShutdown := by
          simpa [IngressStore.isOwnerRequest] using owned
        simp [kind, WorkTransitionRequest.eventKind, WorkMove.transition, WorkTransitionV1.between,
          sameReason, shutdown] at native
      | cancel reason cleanup =>
        rw [request] at kind
        have notQueued : move.transition.fromState ≠ .queued := by
          intro queued
          have state : move.row.work.state = .queued := queued
          rw [state] at active
          cases active
        simp [kind, WorkTransitionRequest.eventKind, notQueued] at native
      | _ =>
        rw [request] at kind
        simp [kind, WorkTransitionRequest.eventKind] at native
    · simp [JournalEvent.asChannelCancellation, payload_moveEvent, plain] at channel

theorem exactShape_user (can : ledger.CanMove move) {origin : CancellationJournalOrigin}
    (user : move.origin = .user origin) : exactCancellationShape move.transition = true := by
  have accepted := decided_accepted can.decided
  obtain ⟨_, _, fields⟩ := accepted.fields
  have target := accepted.target
  have shape := accepted.shape
  have asked := can.allowed
  rw [user] at asked
  rcases cancellationRequest_eq_some asked with ⟨queued, request⟩ | ⟨active, request⟩
  · rw [request] at fields target
    simp only [transitionFields, queued] at fields
    split at fields
    · cases fields
    · simp only [Except.ok.injEq, WorkTransitionFields.mk.injEq] at fields
      simp only [WorkLifecycleSnapshot.shapeOk, queued, workShapeOk, Bool.and_eq_true, beq_iff_eq,
        Option.isNone_iff_eq_none] at shape
      obtain ⟨⟨⟨owner, attempt⟩, reason⟩, _⟩ := shape
      simp [exactCancellationShape, WorkMove.transition, WorkTransitionV1.between, queued, target, owner,
        attempt, reason, ← fields.1, ← fields.2.1, ← fields.2.2.1, ← fields.2.2.2.1,
        WorkTransitionRequest.targetState, WorkTerminalReason.journalReason]
  · rw [request] at fields target
    simp only [transitionFields, Except.ok.injEq, WorkTransitionFields.mk.injEq] at fields
    rcases active with state | state | state <;>
      simp_all [exactCancellationShape, WorkMove.transition, WorkTransitionV1.between,
        WorkLifecycleSnapshot.shapeOk, workShapeOk, WorkTransitionRequest.targetState]

theorem CancellationShaped.of_move (can : ledger.CanMove move)
    (correlated : move.row.correlationId = correlationForWork move.row.id)
    (isUser : (eventFor ledger.journal move.intent).IsUserTransition transition) :
    CancellationShaped ledger.journal (eventFor ledger.journal move.intent) transition := by
  obtain ⟨⟨origin, user⟩, rfl⟩ := userTransition_origin can isUser
  refine ⟨rfl, rfl, correlated, ?_, rfl, rfl, exactShape_user can user⟩
  obtain ⟨previous, latest, cause⟩ := Option.map_eq_some_iff.mp can.latest
  exact ⟨previous, latest, by rw [cause]; rfl⟩

def WorkState.isStopping (state : WorkState) : Bool :=
  state == .cancelRequested || state.isTerminal

theorem stopping_user (can : ledger.CanMove move) {origin : CancellationJournalOrigin}
    (user : move.origin = .user origin) :
    move.row.work.state.isStopping = false ∧ move.moved.work.state.isStopping = true := by
  have target : move.moved.work.state = move.request.targetState := (decided_accepted can.decided).target
  have asked := can.allowed
  rw [user] at asked
  rcases cancellationRequest_eq_some asked with ⟨queued, request⟩ | ⟨active, request⟩
  · rw [target, request, queued]
    exact ⟨rfl, rfl⟩
  · rw [target, request]
    refine ⟨?_, rfl⟩
    rcases active with state | state | state <;> rw [state] <;> rfl

theorem stopping_moved (can : ledger.CanMove move) (stopping : move.row.work.state.isStopping = true) :
    move.moved.work.state.isStopping = true := by
  have accepted := decided_accepted can.decided
  have target : move.moved.work.state = move.request.targetState := accepted.target
  have legal := accepted.legal
  have live := accepted.live
  rw [target]
  cases state : move.row.work.state <;> rw [state] at stopping legal live <;>
    first
      | cases stopping; done
      | cases live; done
      | cases reached : move.request.targetState <;> rw [reached] at legal <;>
          first
            | cases legal; done
            | rfl

end Events

/-- The history of users' cancellations, with the tables the verifiers look rows up in. -/
structure LedgerHistory (ledger : Ledger) : Prop where
  owners : Keyed ConversationRow.ownerUserId ledger.conversations
  messages : Keyed MessageRow.id ledger.messages
  inputs : ledger.inputs.map WorkInputRow.workId = ledger.works.map WorkItemRow.id
  built : Built (fun before event => ∀ transition, event.IsUserTransition transition →
    CancellationShaped before event transition) ledger.journal
  known : ∀ event ∈ ledger.journal, ∀ transition, event.IsUserTransition transition →
    ∃ row ∈ ledger.works, row.id = transition.workId ∧ row.work.state.isStopping = true
  once : ledger.journal.Pairwise fun first second => ∀ earlier later,
    first.IsUserTransition earlier → second.IsUserTransition later → earlier.workId ≠ later.workId
  requested : ∀ row ∈ ledger.works, row.work.state = .cancelRequested → ∃ requestedAt,
    row.cancelRequestedAt = some requestedAt ∧ ∃ event ∈ ledger.journal,
      event.recordedAt = requestedAt ∧ event.workId = some row.id ∧ event.anyCancelRequested row.id = true

section Steps

variable {ledger next : Ledger}

theorem not_userTransition_of_plain {event : JournalEvent} {transition : WorkTransitionV1}
    (native : event.cancellationTransition = none) (channel : event.asChannelCancellation = none) :
    ¬event.IsUserTransition transition := by
  rintro (isNative | ⟨_, isChannel⟩)
  · rw [native] at isNative
    cases isNative
  · rw [channel] at isChannel
    cases isChannel

theorem LedgerHistory.record (history : LedgerHistory ledger) {intent : JournalAppendIntent}
    (plain : ∀ transition, ¬(eventFor ledger.journal intent).IsUserTransition transition) :
    LedgerHistory (ledger.record intent) := by
  have old : ∀ {event}, event ∈ (ledger.record intent).journal → ∀ {transition},
      event.IsUserTransition transition → event ∈ ledger.journal := by
    intro event member transition isUser
    rcases List.mem_append.mp member with old | new
    · exact old
    · rw [List.mem_singleton.mp new] at isUser
      exact absurd isUser (plain transition)
  refine ⟨history.owners, history.messages, history.inputs, history.built.append ?_, ?_, ?_, ?_⟩
  · intro transition isUser
    exact absurd isUser (plain transition)
  · intro event member transition isUser
    exact history.known event (old member isUser) transition isUser
  · refine List.pairwise_append.mpr ⟨history.once, List.pairwise_singleton _ _, ?_⟩
    intro first _ second secondIn earlier later _ isUser
    rw [List.mem_singleton.mp secondIn] at isUser
    exact absurd isUser (plain later)
  · intro row member requested
    obtain ⟨requestedAt, at_, event, eventIn, facts⟩ := history.requested row member requested
    exact ⟨requestedAt, at_, event, List.mem_append_left _ eventIn, facts⟩

theorem LedgerHistory.admitMessage (history : LedgerHistory ledger) {request : CanonicalMessageAdmission}
    {nextOrdinal : ConversationWorkOrdinal} {nextVersion : ProjectionVersion}
    (can : ledger.CanAdmit request nextOrdinal) :
    LedgerHistory (ledger.admitMessage request nextOrdinal nextVersion) := by
  have accepted : LedgerHistory (ledger.record request.acceptedIntent) :=
    history.record fun transition => not_userTransition_of_plain rfl rfl
  have recorded : LedgerHistory ((ledger.record request.acceptedIntent).record request.queuedIntent) :=
    accepted.record fun transition => not_userTransition_of_plain rfl rfl
  refine ⟨history.owners.update fun _ => rfl,
    history.messages.append fun row member => (can.freshMessage row member).1, ?_, recorded.built, ?_,
    recorded.once, ?_⟩
  · simp only [Ledger.admitMessage, List.map_append, history.inputs]
    rfl
  · intro event member transition isUser
    obtain ⟨row, rowIn, facts⟩ := recorded.known event member transition isUser
    exact ⟨row, List.mem_append_left _ rowIn, facts⟩
  · intro row member requested
    rcases List.mem_append.mp member with old | new
    · exact recorded.requested row old requested
    · rw [List.mem_singleton.mp new] at requested
      cases requested

theorem anyCancelRequested_move {move : WorkMove} (can : ledger.CanMove move)
    (requested : move.moved.work.state = .cancelRequested) (journal : List JournalEvent) :
    (eventFor journal move.intent).anyCancelRequested move.row.id = true := by
  have target : move.moved.work.state = move.request.targetState := (decided_accepted can.decided).target
  have kind : move.decision.eventKind = .workCancelRequested := by
    rw [decided_eventKind can.decided]
    rw [target] at requested
    cases request : move.request <;> rw [request] at requested <;>
      first
        | cases requested; done
        | rfl
  have sameWork : move.transition.workId = move.row.id := rfl
  rcases move.origin.payload_cases move.decision.eventKind move.transition with plain |
    ⟨_, _, _, ⟨_, channel⟩ | ⟨other, _⟩⟩
  · rw [kind] at plain
    simp [JournalEvent.anyCancelRequested, payload_moveEvent, kind, plain, sameWork]
  · simp [JournalEvent.anyCancelRequested, payload_moveEvent, channel, sameWork]
  · rw [kind] at other
    cases other

theorem LedgerHistory.afterMove (history : LedgerHistory ledger) (queue : QueueOk ledger)
    (activity : ActivityOk ledger) {move : WorkMove} (can : ledger.CanMove move) :
    LedgerHistory (ledger.move move) := by
  have movedIn : move.moved ∈ (ledger.move move).works := mem_update_of_selected can.member (by simp)
  have kept : ∀ {row}, row ∈ ledger.works → row.id ≠ move.row.id → row ∈ (ledger.move move).works :=
    fun rowIn different => mem_update_of_unselected rowIn (by simpa using different)
  refine ⟨history.owners, history.messages, ?_, history.built.append ?_, ?_, ?_, ?_⟩
  · exact history.inputs.trans (map_works_move queue.works can (moved_id can)).symm
  · intro transition isUser
    exact CancellationShaped.of_move can (activity.correlated move.row can.member) isUser
  · intro event member transition isUser
    rcases List.mem_append.mp member with old | new
    · obtain ⟨row, rowIn, sameWork, stopping⟩ := history.known event old transition isUser
      by_cases same : row.id = move.row.id
      · rw [queue.works.eq rowIn can.member same] at sameWork stopping
        exact ⟨move.moved, movedIn, (moved_id can).trans sameWork, stopping_moved can stopping⟩
      · exact ⟨row, kept rowIn same, sameWork, stopping⟩
    · rw [List.mem_singleton.mp new] at isUser
      obtain ⟨⟨origin, user⟩, rfl⟩ := userTransition_origin can isUser
      exact ⟨move.moved, movedIn, moved_id can, (stopping_user can user).2⟩
  · refine List.pairwise_append.mpr ⟨history.once, List.pairwise_singleton _ _, ?_⟩
    intro first firstIn second secondIn earlier later firstUser secondUser sameWork
    rw [List.mem_singleton.mp secondIn] at secondUser
    obtain ⟨⟨origin, user⟩, rfl⟩ := userTransition_origin can secondUser
    obtain ⟨row, rowIn, rowWork, stopping⟩ := history.known first firstIn earlier firstUser
    rw [queue.works.eq rowIn can.member (rowWork.trans sameWork), (stopping_user can user).1] at stopping
    cases stopping
  · intro row member requested
    rcases mem_works_move member with rfl | ⟨old, _⟩
    · refine ⟨move.committedAt, ?_, eventFor ledger.journal move.intent,
        List.mem_append_right _ (List.mem_singleton_self _), rfl, ?_, ?_⟩
      · have state : move.decision.next.state = .cancelRequested := requested
        simp [WorkMove.moved, state]
      · rw [moved_id can]
        rfl
      · rw [moved_id can]
        exact anyCancelRequested_move can requested ledger.journal
    · obtain ⟨requestedAt, at_, event, eventIn, facts⟩ := history.requested row old requested
      exact ⟨requestedAt, at_, event, List.mem_append_left _ eventIn, facts⟩

theorem LedgerHistory.step (history : LedgerHistory ledger) (ok : LedgerOk ledger)
    (step : LedgerStep ledger next) : LedgerHistory next := by
  cases step with
  | recorded intent kind evidence fresh =>
    refine history.record fun transition => not_userTransition_of_plain ?_ ?_
    · simp [JournalEvent.cancellationTransition, eventFor, evidence]
    · simp [JournalEvent.asChannelCancellation, eventFor, evidence]
  | created conversation intent can =>
    have recorded : LedgerHistory (ledger.record intent) := by
      refine history.record fun transition => not_userTransition_of_plain ?_ ?_
      · simp [JournalEvent.cancellationTransition, eventFor, can.payload]
      · simp [JournalEvent.asChannelCancellation, eventFor, can.payload]
    exact ⟨history.owners.append can.ownerFresh, recorded.messages, recorded.inputs, recorded.built,
      recorded.known, recorded.once, recorded.requested⟩
  | admitted request nextOrdinal nextVersion can => exact history.admitMessage can
  | moved move can => exact history.afterMove ok.queue ok.activity can

theorem LedgerHistory.empty : LedgerHistory .empty := by
  refine ⟨List.nodup_nil, List.nodup_nil, rfl, .nil, ?_, List.Pairwise.nil, ?_⟩ <;> simp [Ledger.empty]

end Steps

end Craxii
