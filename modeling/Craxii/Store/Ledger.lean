import Craxii.Lib.NumberedLog
import Craxii.Store.ChannelIngressCore
import Craxii.Store.Recovery

/-!
The ledger as an abstract machine: evidence is recorded, conversations are created, messages are
admitted and works move.
-/

namespace Craxii

open ExceptRules Tables NumberedLog

inductive TransitionOrigin
  | claim (runtimeId : RuntimeInstanceId)
  | user (origin : CancellationJournalOrigin)
  | owner (actor : JournalActor)

def TransitionOrigin.actor : TransitionOrigin → JournalActor
  | .claim runtimeId => .runtime runtimeId
  | .user origin => origin.actor
  | .owner actor => actor

def TransitionOrigin.payload (origin : TransitionOrigin) (kind : WorkEventKind)
    (transition : WorkTransitionV1) : JournalEventPayload :=
  match origin, kind with
  | .user (.channel _ inboundDeliveryId), .workCancelRequested =>
    .workCancelRequestedV2 transition inboundDeliveryId
  | .user (.channel _ inboundDeliveryId), .workCancelled =>
    .workCancelledV2 transition inboundDeliveryId
  | _, _ => .workTransition kind transition

theorem TransitionOrigin.payload_cases (origin : TransitionOrigin) (kind : WorkEventKind)
    (transition : WorkTransitionV1) :
    origin.payload kind transition = .workTransition kind transition ∨
      ∃ userId inboundDeliveryId, origin = .user (.channel userId inboundDeliveryId) ∧
        (kind = .workCancelRequested ∧
            origin.payload kind transition = .workCancelRequestedV2 transition inboundDeliveryId ∨
          kind = .workCancelled ∧
            origin.payload kind transition = .workCancelledV2 transition inboundDeliveryId) := by
  unfold TransitionOrigin.payload
  split
  · exact Or.inr ⟨_, _, rfl, Or.inl ⟨rfl, rfl⟩⟩
  · exact Or.inr ⟨_, _, rfl, Or.inr ⟨rfl, rfl⟩⟩
  · exact Or.inl rfl

variable (ledger : Ledger)

def TransitionOrigin.Allows (row : WorkItemRow) :
    TransitionOrigin → WorkTransitionRequest → Prop
  | .claim runtimeId, request =>
    request = .start runtimeId ∧ row.work.state = .queued ∧
      (∀ other ∈ ledger.works, other.work.state.isActive = false) ∧
      ∀ other ∈ ledger.works, other.work.state = .queued →
        other.conversationId = row.conversationId → row.ordinal.value ≤ other.ordinal.value
  | .user _, request => cancellationRequest row.work.state .userRequest = some request
  | .owner _, request => IngressStore.isOwnerRequest request = true ∧ row.work.state.isActive = true

structure WorkMove where
  row : WorkItemRow
  origin : TransitionOrigin
  request : WorkTransitionRequest
  decision : WorkTransitionDecision
  (eventId cause : JournalEventId)
  committedAt : UtcTimestamp

namespace WorkMove

def moved (move : WorkMove) : WorkItemRow :=
  { move.row with
    work := move.decision.next
    startedAt := match move.origin with
      | .claim _ => some move.committedAt
      | _ => move.row.startedAt
    cancelRequestedAt := if move.decision.next.state = .cancelRequested then some move.committedAt
      else none }

def transition (move : WorkMove) : WorkTransitionV1 :=
  .between move.row.work move.decision.next move.committedAt

def intent (move : WorkMove) : JournalAppendIntent :=
  transitionIntent move.row move.decision.next move.eventId move.cause move.origin.actor
    (move.origin.payload move.decision.eventKind move.transition) move.committedAt

end WorkMove

namespace Ledger

def FreshEvent (eventId : JournalEventId) : Prop :=
  ∀ event ∈ ledger.journal, event.eventId ≠ eventId

def record (intent : JournalAppendIntent) : Ledger :=
  { ledger with journal := ledger.journal ++ [eventFor ledger.journal intent] }

def create (conversation : ConversationRow) (intent : JournalAppendIntent) : Ledger :=
  { ledger.record intent with conversations := ledger.conversations ++ [conversation] }

def admitMessage (request : CanonicalMessageAdmission)
    (nextOrdinal : ConversationWorkOrdinal) (nextVersion : ProjectionVersion) : Ledger where
  conversations := update (fun row => row.id == request.topology.conversationId)
    (fun row => { row with nextWorkOrdinal := nextOrdinal, stateVersion := nextVersion })
    ledger.conversations
  works := ledger.works ++ [request.work]
  messages := ledger.messages ++ [request.message]
  inputs := ledger.inputs ++ [request.input]
  journal := ((ledger.record request.acceptedIntent).record request.queuedIntent).journal

def move (ledger : Ledger) (move : WorkMove) : Ledger :=
  { ledger.record move.intent with
    works := update (fun row => row.id == move.row.id) (fun _ => move.moved) ledger.works }

structure CanCreate (ledger : Ledger) (conversation : ConversationRow) (intent : JournalAppendIntent) :
    Prop where
  fresh : ∀ row ∈ ledger.conversations, row.id ≠ conversation.id
  ownerFresh : ∀ row ∈ ledger.conversations, row.ownerUserId ≠ conversation.ownerUserId
  first : conversation.nextWorkOrdinal.value = 1
  freshEvent : ledger.FreshEvent intent.eventId
  stream : intent.streamId = .conversation conversation.id
  payload : intent.payload = .conversationCreated conversation.id

structure CanAdmit (ledger : Ledger) (request : CanonicalMessageAdmission)
    (nextOrdinal : ConversationWorkOrdinal) : Prop where
  freshMessage : ∀ row ∈ ledger.messages,
    row.id ≠ request.candidates.messageId ∧ row.origin ≠ request.origin
  freshWork : ∀ row ∈ ledger.works, row.id ≠ request.candidates.workId
  freshAccepted : ledger.FreshEvent request.candidates.acceptanceEventId
  freshQueued : ledger.FreshEvent request.candidates.queuedEventId
  distinctEvents : request.candidates.acceptanceEventId ≠ request.candidates.queuedEventId
  conversation : ∃ row ∈ ledger.conversations, row.id = request.topology.conversationId ∧
    row.nextWorkOrdinal = request.topology.nextOrdinal ∧ row.ownerUserId = request.topology.userId
  created : ∃ event ∈ ledger.journal, event.eventId = request.topology.conversationCreatedEventId ∧
    event.streamId = .conversation request.topology.conversationId ∧
    ∃ id, event.payload = .conversationCreated id
  increment : nextOrdinal.value = request.topology.nextOrdinal.value + 1

structure CanMove (ledger : Ledger) (move : WorkMove) : Prop where
  member : move.row ∈ ledger.works
  allowed : move.origin.Allows ledger move.row move.request
  decided : decideWorkTransition move.row.work (.forSnapshot move.row.work) move.request =
    .ok move.decision
  freshEvent : ledger.FreshEvent move.eventId
  latest : (latestEvent ledger.journal (.work move.row.id)).map (fun event => event.eventId) =
    some move.cause

end Ledger

inductive LedgerStep (ledger : Ledger) : Ledger → Prop
  | recorded (intent : JournalAppendIntent) (kind : JournalEvidenceKind)
      (evidence : intent.payload = .evidence kind) (fresh : ledger.FreshEvent intent.eventId) :
      LedgerStep ledger (ledger.record intent)
  | created (conversation : ConversationRow) (intent : JournalAppendIntent)
      (can : ledger.CanCreate conversation intent) :
      LedgerStep ledger (ledger.create conversation intent)
  | admitted (request : CanonicalMessageAdmission) (nextOrdinal : ConversationWorkOrdinal)
      (nextVersion : ProjectionVersion) (can : ledger.CanAdmit request nextOrdinal) :
      LedgerStep ledger (ledger.admitMessage request nextOrdinal nextVersion)
  | moved (move : WorkMove) (can : ledger.CanMove move) : LedgerStep ledger (ledger.move move)

section Decisions

variable {current : WorkLifecycleSnapshot} {request : WorkTransitionRequest}
  {decision : WorkTransitionDecision}

def WorkTransitionRequest.eventKind : WorkTransitionRequest → WorkEventKind
  | .start _ => .workStarted
  | .waitForModel _ => .workWaitingOnModel
  | .waitForTool _ => .workWaitingOnTool
  | .resumeFromModel _ | .resumeFromTool _ => .workResumed
  | .requestCancellation _ => .workCancelRequested
  | .complete _ _ => .workCompleted
  | .fail _ _ => .workFailed
  | .cancel _ _ => .workCancelled
  | .interrupt _ => .workInterrupted

theorem decided_accepted
    (decided : decideWorkTransition current (.forSnapshot current) request = .ok decision) :
    AcceptedWork current (.forSnapshot current) request decision.next := by
  rw [← stepWork_eq_some_iff, stepWork, decided]
  rfl

theorem transitionFields_eventKind {fields : WorkTransitionFields}
    (found : transitionFields current request = .ok fields) : fields.eventKind = request.eventKind := by
  cases request with
  | start | waitForModel | waitForTool | requestCancellation | interrupt =>
    cases found
    rfl
  | resumeFromModel | resumeFromTool | complete | cancel =>
    simp only [transitionFields] at found
    split at found
    · cases found
    · cases found
      rfl
  | fail reason cleanup =>
    simp only [transitionFields] at found
    repeat' split at found
    all_goals first
      | cases found; done
      | cases found; rfl

theorem decided_eventKind
    (decided : decideWorkTransition current (.forSnapshot current) request = .ok decision) :
    decision.eventKind = request.eventKind := by
  simp only [decideWorkTransition, bind_eq_ok, refuseIf_eq_ok, orRefuse_eq_ok, pure_eq_ok] at decided
  obtain ⟨_, _, _, _, _, _, _, _, _, _, fields, found, _, _, rfl⟩ := decided
  exact transitionFields_eventKind found

end Decisions

end Craxii
