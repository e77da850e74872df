import Craxii.Domain.Lifecycle
import Craxii.Projector.ReplayCore
import Craxii.Lib.NumberedLog

/-!
Soundness of the replay as a validator.
-/

namespace Craxii.Projector

open ExceptRules NumberedLog

inductive EventFact
  | created (payload : ConversationCreatedV1)
  | message (messageId : MessageId)
  | queued (payload : WorkQueuedV1)
  | transition (payload : WorkTransitionV1)
  | evidence

def JournalEvent.fact (event : JournalEvent) : EventFact :=
  match event.payload with
  | .conversationCreated payload => .created payload
  | .conversationCreatedV2 payload => .created (conversationV1FromV2 payload)
  | .messageAccepted payload | .assistantMessageCommitted payload => .message payload.messageId
  | .messageAcceptedV2 payload => .message payload.messageId
  | .workQueued payload => .queued payload
  | .workQueuedV2 payload => .queued (workV1FromV2 payload)
  | .workTransition _ payload => .transition payload
  | .workCancelRequestedV2 payload | .workCancelledV2 payload => .transition payload.transition
  | _ => .evidence

variable (events : List JournalEvent)

def creations : List ConversationCreatedV1 :=
  events.filterMap fun event => match event.fact with | .created payload => some payload | _ => none

def messageIds : List MessageId :=
  events.filterMap fun event => match event.fact with | .message id => some id | _ => none

def queuedWorks : List WorkQueuedV1 :=
  events.filterMap fun event => match event.fact with | .queued payload => some payload | _ => none

def transitions : List WorkTransitionV1 :=
  events.filterMap fun event => match event.fact with | .transition payload => some payload | _ => none

variable (conversationId : ConversationId)

def queuedIn : List WorkQueuedV1 :=
  (queuedWorks events).filter fun payload => payload.conversationId == conversationId

variable (workId : WorkId)

def transitionsOf : List WorkTransitionV1 :=
  (transitions events).filter fun payload => payload.workId == workId

def Applied (state : ProjectedState) (event : JournalEvent) (next : ProjectedState) : EventFact → Prop
  | .created payload =>
    state.conversations payload.conversationId = none ∧
      (∃ owner, next.conversations = Function.update state.conversations payload.conversationId
        (some ⟨payload, owner, event.eventId, event.streamSeq⟩)) ∧
      next.messages = state.messages ∧ next.works = state.works
  | .message messageId =>
    messageId ∉ state.messages.map (·.message.messageId) ∧
      next.conversations = state.conversations ∧
      next.messages.map (·.message.messageId) =
        state.messages.map (·.message.messageId) ++ [messageId] ∧
      next.works = state.works
  | .queued payload =>
    ∃ conversation nextWorkOrdinal stateVersion replyBindingId,
      state.conversations payload.conversationId = some conversation ∧
      conversation.created.nextWorkOrdinal = payload.conversationWorkOrdinal ∧
      conversation.created.nextWorkOrdinal.checkedIncrement = some nextWorkOrdinal ∧
      payload.stateVersion.value = 1 ∧ state.works payload.workId = none ∧
      next.conversations = Function.update state.conversations payload.conversationId (some
        { conversation with
          created := { conversation.created with nextWorkOrdinal, stateVersion } }) ∧
      next.messages = state.messages ∧
      next.works = Function.update state.works payload.workId (some
        ⟨payload, replyBindingId, .queued, payload.stateVersion, none, .none, none, none, none, none,
          none⟩)
  | .transition payload =>
    ∃ work, state.works payload.workId = some work ∧ work.state.isTerminal = false ∧
      work.stateVersion.checkedIncrement = some payload.stateVersion ∧
      next.conversations = state.conversations ∧ next.messages = state.messages ∧
      next.works = Function.update state.works payload.workId (some (work.advance payload))
  | .evidence =>
    next.conversations = state.conversations ∧ next.messages = state.messages ∧
      next.works = state.works

section Inversion

variable {state next : ProjectedState} {event : JournalEvent} {cause : Option ObservedEvent}

theorem applyConversationCreated_ok {payload : ConversationCreatedV1} {ownerUserId : Option UserId}
    (accepted : applyConversationCreated state event cause payload ownerUserId = .ok next) :
    Applied state event next (.created payload) := by
  simp only [applyConversationCreated, bind_eq_ok, orRefuse_eq_ok, refuseIf_eq_ok, pure_eq_ok, Bool.or_eq_false_iff] at accepted
  obtain ⟨root, _, observed, _, _, ⟨_, fresh⟩, _, _, rfl⟩ := accepted
  exact ⟨by simpa using fresh, ⟨ownerUserId, rfl⟩, rfl, rfl⟩

theorem applyWorkQueued_ok {payload : WorkQueuedV1} {replyBindingId : Option ConversationBindingId}
    (accepted : applyWorkQueued state event cause payload replyBindingId = .ok next) :
    Applied state event next (.queued payload) := by
  simp only [applyWorkQueued, bind_eq_ok, orRefuse_eq_ok, refuseIf_eq_ok, pure_eq_ok, Bool.or_eq_false_iff, bne_eq_false_iff_eq] at accepted
  obtain ⟨observed, _, conversation, found, _, checks, nextWorkOrdinal, incremented, stateVersion, _,
    rfl⟩ := accepted
  obtain ⟨⟨⟨⟨⟨⟨⟨⟨⟨_, ordinal⟩, _⟩, _⟩, _⟩, _⟩, _⟩, _⟩, version⟩, fresh⟩ := checks
  exact ⟨conversation, nextWorkOrdinal, stateVersion, replyBindingId, found, ordinal, incremented,
    version, by simpa using fresh, rfl, rfl, rfl⟩

theorem applyWorkTransition_ok {correlationId : CorrelationId} {payload : WorkTransitionV1}
    (accepted : applyWorkTransition state correlationId payload = .ok next) :
    Applied state event next (.transition payload) := by
  simp only [applyWorkTransition, bind_eq_ok, orRefuse_eq_ok, refuseIf_eq_ok, pure_eq_ok, Bool.or_eq_false_iff, bne_eq_false_iff_eq] at accepted
  obtain ⟨work, found, _, checks, _, _, rfl⟩ := accepted
  obtain ⟨⟨⟨⟨⟨⟨⟨_, version⟩, _⟩, _⟩, _⟩, incremented⟩, _⟩, live⟩ := checks
  exact ⟨work, found, live, by rw [version, ← incremented], rfl, rfl, rfl⟩

theorem not_mem_of_hasMessage {messageId : MessageId} (absent : state.hasMessage messageId = false) :
    messageId ∉ state.messages.map (·.message.messageId) := by
  simp only [ProjectedState.hasMessage, List.any_eq_false, beq_iff_eq] at absent
  rintro present
  obtain ⟨message, member, same⟩ := List.mem_map.mp present
  exact absent message member same

theorem pushMessage_applied {message : MessageCommittedV1} {authorUserId : Option UserId}
    {inboundDeliveryId : Option InboundDeliveryId} (absent : state.hasMessage message.messageId = false) :
    Applied state event (state.pushMessage event message authorUserId inboundDeliveryId)
      (.message message.messageId) :=
  ⟨not_mem_of_hasMessage absent, rfl, by simp [ProjectedState.pushMessage], rfl⟩

variable {sha256 : List UInt8 → Sha256Digest}

theorem messageV1FromV2_messageId (value : MessageCommittedV2) :
    (messageV1FromV2 value).1.messageId = value.messageId := by
  cases origin : value.origin <;> simp [messageV1FromV2, origin]

theorem applyPayload_ok (accepted : applyPayload sha256 state event cause = .ok next) :
    Applied state event next event.fact := by
  unfold applyPayload at accepted
  unfold JournalEvent.fact
  cases payload : event.payload with
  | craxiiInitialized value =>
    simp only [payload, bind_eq_ok, pure_eq_ok] at accepted
    obtain ⟨_, _, rfl⟩ := accepted
    exact ⟨rfl, rfl, rfl⟩
  | conversationCreated value | conversationCreatedV2 value =>
    rw [payload] at accepted
    exact applyConversationCreated_ok accepted
  | messageAccepted value =>
    simp only [payload, applyMessageAccepted, bind_eq_ok, refuseIf_eq_ok, pure_eq_ok, Bool.or_eq_false_iff] at accepted
    obtain ⟨_, ⟨_, absent⟩, rfl⟩ := accepted
    exact pushMessage_applied absent
  | messageAcceptedV2 value =>
    simp only [payload, applyMessageAcceptedV2, bind_eq_ok, refuseIf_eq_ok, pure_eq_ok, Bool.or_eq_false_iff] at accepted
    obtain ⟨_, ⟨_, absent⟩, rfl⟩ := accepted
    have applied : Applied state event (state.pushMessage event (messageV1FromV2 value).1
        (some value.authorUserId) (messageV1FromV2 value).2)
        (.message (messageV1FromV2 value).1.messageId) :=
      pushMessage_applied (by rwa [messageV1FromV2_messageId])
    rwa [messageV1FromV2_messageId] at applied
  | assistantMessageCommitted value =>
    simp only [payload, applyAssistantMessage, bind_eq_ok, refuseIf_eq_ok, pure_eq_ok, Bool.or_eq_false_iff] at accepted
    obtain ⟨_, ⟨_, absent⟩, rfl⟩ := accepted
    exact pushMessage_applied absent
  | workQueued value | workQueuedV2 value =>
    rw [payload] at accepted
    exact applyWorkQueued_ok accepted
  | workTransition kind value | workCancelRequestedV2 value | workCancelledV2 value =>
    simp only [payload, bind_eq_ok] at accepted
    obtain ⟨_, _, _, _, applied⟩ := accepted
    exact applyWorkTransition_ok applied
  | modelInvocation kind value | toolExecution kind value | artifactRecorded value =>
    simp only [payload, applyModelInvocation, applyToolExecution, bind_eq_ok, pure_eq_ok] at accepted
    obtain ⟨_, _, _, _, rfl⟩ := accepted
    exact ⟨rfl, rfl, rfl⟩
  | runtimeStarted value =>
    simp only [payload, applyRuntimeStarted, bind_eq_ok, pure_eq_ok] at accepted
    obtain ⟨_, _, rfl⟩ := accepted
    exact ⟨rfl, rfl, rfl⟩
  | runtimeRecoveryPerformed value | runtimeStopping value =>
    simp only [payload, applyRuntimeRecovery, applyRuntimeStopping, bind_eq_ok, pure_eq_ok] at accepted
    obtain ⟨_, _, _, _, _, _, rfl⟩ := accepted
    exact ⟨rfl, rfl, rfl⟩

theorem Applied.messages_kept {fact : EventFact} (applied : Applied state event next fact)
    (noMessage : ∀ id, fact ≠ .message id) : next.messages = state.messages := by
  cases fact with
  | message id => exact absurd rfl (noMessage id)
  | created payload => exact applied.2.2.1
  | queued payload =>
    obtain ⟨_, _, _, _, _, _, _, _, _, _, messages, _⟩ := applied
    exact messages
  | transition payload =>
    obtain ⟨_, _, _, _, _, messages, _⟩ := applied
    exact messages
  | evidence => exact applied.2.1

theorem Applied.conversations_kept {fact : EventFact} (applied : Applied state event next fact)
    (noCreation : ∀ payload, fact ≠ .created payload) (noWork : ∀ payload, fact ≠ .queued payload) :
    next.conversations = state.conversations := by
  cases fact with
  | created payload => exact absurd rfl (noCreation payload)
  | queued payload => exact absurd rfl (noWork payload)
  | message id => exact applied.2.1
  | transition payload =>
    obtain ⟨_, _, _, _, conversations, _⟩ := applied
    exact conversations
  | evidence => exact applied.1

theorem Applied.works_kept {fact : EventFact} (applied : Applied state event next fact)
    (noWork : ∀ payload, fact ≠ .queued payload)
    (noTransition : ∀ payload, fact ≠ .transition payload) : next.works = state.works := by
  cases fact with
  | queued payload => exact absurd rfl (noWork payload)
  | transition payload => exact absurd rfl (noTransition payload)
  | created payload => exact applied.2.2.2
  | message id => exact applied.2.2.2
  | evidence => exact applied.2.2

theorem Applied.of_same {marked : ProjectedState} {fact : EventFact}
    (applied : Applied state event next fact) (conversations : marked.conversations = next.conversations)
    (messages : marked.messages = next.messages) (works : marked.works = next.works) :
    Applied state event marked fact := by
  cases fact with
  | created | message | queued | transition | evidence =>
    simpa only [Applied, conversations, messages, works] using applied

theorem applyEvent_ok (accepted : applyEvent sha256 state event cause = .ok next) :
    Applied state event next event.fact := by
  simp only [applyEvent, bind_eq_ok, pure_eq_ok] at accepted
  obtain ⟨applied, payloadOk, rfl⟩ := accepted
  split
  · exact applyPayload_ok payloadOk
  · exact (applyPayload_ok payloadOk).of_same rfl rfl rfl

end Inversion

section History

variable (events : List JournalEvent) (event : JournalEvent)

theorem creations_concat : creations (events ++ [event]) =
    creations events ++ (match event.fact with | .created payload => [payload] | _ => []) := by
  cases fact : event.fact <;> simp [creations, fact]

theorem messageIds_concat : messageIds (events ++ [event]) =
    messageIds events ++ (match event.fact with | .message id => [id] | _ => []) := by
  cases fact : event.fact <;> simp [messageIds, fact]

theorem queuedWorks_concat : queuedWorks (events ++ [event]) =
    queuedWorks events ++ (match event.fact with | .queued payload => [payload] | _ => []) := by
  cases fact : event.fact <;> simp [queuedWorks, fact]

theorem transitions_concat : transitions (events ++ [event]) =
    transitions events ++ (match event.fact with | .transition payload => [payload] | _ => []) := by
  cases fact : event.fact <;> simp [transitions, fact]

theorem queuedIn_concat : queuedIn (events ++ [event]) conversationId =
    queuedIn events conversationId ++ (match event.fact with
      | .queued payload => if payload.conversationId = conversationId then [payload] else []
      | _ => []) := by
  rw [queuedIn, queuedWorks_concat, List.filter_append, ← queuedIn]
  cases event.fact with
  | queued payload => by_cases same : payload.conversationId = conversationId <;> simp [same]
  | created | message | transition | evidence => rfl

theorem transitionsOf_concat : transitionsOf (events ++ [event]) workId =
    transitionsOf events workId ++ (match event.fact with
      | .transition payload => if payload.workId = workId then [payload] else []
      | _ => []) := by
  rw [transitionsOf, transitions_concat, List.filter_append, ← transitionsOf]
  cases event.fact with
  | transition payload => by_cases same : payload.workId = workId <;> simp [same]
  | created | message | queued | evidence => rfl

end History

structure Turned (sha256 : List UInt8 → Sha256Digest) (replay : ReplayState) (event : JournalEvent)
    (next : ReplayState) : Prop where
  fresh : replay.observed event.eventId = none
  numbered : event.streamSeq.value = (replay.streamHeads event.streamId).elim 0 (·.value) + 1
  caused : ∀ cause, event.causationEventId = some cause → (replay.observed cause).isSome = true
  applied : Applied replay.state event next.state event.fact
  heads : next.streamHeads = Function.update replay.streamHeads event.streamId (some event.streamSeq)
  observed : next.observed = Function.update replay.observed event.eventId (some event.observed)

variable {event : JournalEvent} {replay : ReplayState}

theorem expectedSeq_ok {stream : JournalStreamId} {expected : Nat}
    (found : replay.expectedSeq stream = .ok expected) :
    expected = (replay.streamHeads stream).elim 0 (·.value) + 1 := by
  unfold ReplayState.expectedSeq at found
  cases head : replay.streamHeads stream with
  | none =>
    rw [head] at found
    cases found
    rfl
  | some previous =>
    simp only [head, orRefuse_eq_ok, Option.map_eq_some_iff] at found
    obtain ⟨next, incremented, rfl⟩ := found
    exact PositiveInteger.checkedIncrement_some incremented

theorem findCause_ok {cause : Option ObservedEvent} (found : replay.findCause event = .ok cause) :
    ∀ id, event.causationEventId = some id → (replay.observed id).isSome = true := by
  intro id causation
  simp only [ReplayState.findCause, causation, bind_eq_ok, orRefuse_eq_ok] at found
  obtain ⟨_, _, observed, known, _⟩ := found
  rw [known]
  rfl

theorem projectEvent_ok {sha256 : List UInt8 → Sha256Digest} {next : ReplayState}
    (turned : projectEvent sha256 replay event = .ok next) : Turned sha256 replay event next := by
  simp only [projectEvent, bind_eq_ok, refuseIf_eq_ok, pure_eq_ok] at turned
  obtain ⟨_, _, _, _, _, fresh, expected, expectedOk, _, numbered, cause, causeOk, _, _, state, stateOk,
    rfl⟩ := turned
  refine ⟨by simpa using fresh, ?_, findCause_ok causeOk, applyEvent_ok stateOk, rfl, rfl⟩
  rw [← expectedSeq_ok expectedOk]
  simpa using numbered

def ConversationHistory :
    Option ProjectedConversation → Prop
  | none => (∀ created ∈ creations events, created.conversationId ≠ conversationId) ∧
      queuedIn events conversationId = []
  | some row => ∃ created ∈ creations events, created.conversationId = conversationId ∧
      (queuedIn events conversationId).map (·.conversationWorkOrdinal.value) =
        List.range' created.nextWorkOrdinal.value (queuedIn events conversationId).length ∧
      row.created.nextWorkOrdinal.value =
        created.nextWorkOrdinal.value + (queuedIn events conversationId).length

def WorkHistory : Option ProjectedWork → Prop
  | none =>
    (∀ payload ∈ queuedWorks events, payload.workId ≠ workId) ∧ transitionsOf events workId = []
  | some row =>
    row.created ∈ queuedWorks events ∧ row.created.workId = workId ∧
      row.stateVersion.value = 1 + (transitionsOf events workId).length ∧
      ∀ payload ∈ transitionsOf events workId, payload.toState.isTerminal = true →
        row.state.isTerminal = true

structure Sound (events : List JournalEvent) (replay : ReplayState) : Prop where
  heads : ∀ stream, (replay.streamHeads stream).elim 0 (·.value) =
    events.countP fun event => event.streamId == stream
  observed : ∀ id, (replay.observed id).isSome = true ↔ ∃ event ∈ events, event.eventId = id
  streams : StreamCounted JournalEvent.streamId (·.streamSeq.value) events
  causes : Built (fun before event => ∀ cause, event.causationEventId = some cause →
    ∃ earlier ∈ before, earlier.eventId = cause) events
  messages : replay.state.messages.map (·.message.messageId) = messageIds events
  distinctMessages : (messageIds events).Nodup
  distinctCreations : ((creations events).map (·.conversationId)).Nodup
  distinctWorks : ((queuedWorks events).map (·.workId)).Nodup
  conversations : ∀ id, ConversationHistory events id (replay.state.conversations id)
  works : ∀ id, WorkHistory events id (replay.state.works id)
  ended : ∀ id, (transitionsOf events id).Pairwise fun earlier _ => earlier.toState.isTerminal = false

theorem Sound.initial : Sound [] .initial where
  heads := fun _ => rfl
  observed := fun id => by simp [ReplayState.initial]
  streams := .nil
  causes := .nil
  messages := rfl
  distinctMessages := List.nodup_nil
  distinctCreations := List.nodup_nil
  distinctWorks := List.nodup_nil
  conversations := fun id => ⟨by simp [creations], rfl⟩
  works := fun id => ⟨by simp [queuedWorks], rfl⟩
  ended := fun id => List.Pairwise.nil

section Turn

variable {sha256 : List UInt8 → Sha256Digest} {events : List JournalEvent} {event : JournalEvent}
  {replay next : ReplayState}

theorem ConversationHistory.kept {row : Option ProjectedConversation} {id : ConversationId}
    (history : ConversationHistory events id row)
    (notCreated : ∀ payload, event.fact = .created payload → payload.conversationId ≠ id)
    (notQueued : ∀ payload, event.fact = .queued payload → payload.conversationId ≠ id) :
    ConversationHistory (events ++ [event]) id row := by
  have works : queuedIn (events ++ [event]) id = queuedIn events id := by
    rw [queuedIn_concat]
    cases fact : event.fact with
    | queued payload => simp [notQueued payload fact]
    | created payload | message | transition payload | evidence => simp
  cases row with
  | none =>
    refine ⟨fun created member => ?_, works.trans history.2⟩
    rw [creations_concat] at member
    rcases List.mem_append.mp member with earlier | added
    · exact history.1 created earlier
    · cases fact : event.fact <;> simp [fact] at added
      subst added
      exact notCreated _ fact
  | some row =>
    obtain ⟨created, member, same, ordinals, nextOrdinal⟩ := history
    rw [← works] at ordinals nextOrdinal
    exact ⟨created, by rw [creations_concat]; exact List.mem_append_left _ member, same, ordinals,
      nextOrdinal⟩

theorem WorkHistory.kept {row : Option ProjectedWork} {id : WorkId} (history : WorkHistory events id row)
    (notQueued : ∀ payload, event.fact = .queued payload → payload.workId ≠ id)
    (notMoved : ∀ payload, event.fact = .transition payload → payload.workId ≠ id) :
    WorkHistory (events ++ [event]) id row := by
  have moves : transitionsOf (events ++ [event]) id = transitionsOf events id := by
    rw [transitionsOf_concat]
    cases fact : event.fact with
    | transition payload => simp [notMoved payload fact]
    | created payload | message | queued payload | evidence => simp
  cases row with
  | none =>
    refine ⟨fun payload member => ?_, moves.trans history.2⟩
    rw [queuedWorks_concat] at member
    rcases List.mem_append.mp member with earlier | added
    · exact history.1 payload earlier
    · cases fact : event.fact <;> simp [fact] at added
      subst added
      exact notQueued _ fact
  | some row =>
    obtain ⟨member, same, version, ended⟩ := history
    refine ⟨?_, same, ?_, ?_⟩
    · rw [queuedWorks_concat]
      exact List.mem_append_left _ member
    · rw [moves, version]
    · rw [moves]
      exact ended

section

variable (sound : Sound events replay) (turned : Turned sha256 replay event next)
include sound turned

theorem Sound.heads_turned (stream : JournalStreamId) : (next.streamHeads stream).elim 0 (·.value) =
      (events ++ [event]).countP fun event => event.streamId == stream := by
  rw [turned.heads, List.countP_append, ← sound.heads stream]
  by_cases same : event.streamId = stream
  · subst same
    simp [turned.numbered]
  · rw [Function.update_of_ne (Ne.symm same)]
    simp [same]

theorem Sound.observed_turned (id : JournalEventId) :
    (next.observed id).isSome = true ↔ ∃ other ∈ events ++ [event], other.eventId = id := by
  rw [turned.observed]
  by_cases same : event.eventId = id
  · subst same
    simp
  · rw [Function.update_of_ne (Ne.symm same), sound.observed id]
    simp [same]

theorem Sound.streams_turned :
    StreamCounted JournalEvent.streamId (·.streamSeq.value) (events ++ [event]) :=
  sound.streams.append (by rw [turned.numbered, sound.heads])

theorem Sound.messages_turned :
    next.state.messages.map (·.message.messageId) = messageIds (events ++ [event]) ∧
      (messageIds (events ++ [event])).Nodup := by
  have applied := turned.applied
  rw [messageIds_concat]
  cases fact : event.fact with
  | message id =>
    rw [fact] at applied
    obtain ⟨fresh, _, messages, _⟩ := applied
    rw [sound.messages] at fresh messages
    refine ⟨messages, ?_⟩
    simpa using sound.distinctMessages.concat fresh
  | created payload | evidence | queued payload | transition payload =>
    rw [applied.messages_kept (by simp [fact]), sound.messages, List.append_nil]
    exact ⟨rfl, sound.distinctMessages⟩

theorem Sound.conversations_turned :
    ∀ id, ConversationHistory (events ++ [event]) id (next.state.conversations id) := by
  have applied := turned.applied
  cases fact : event.fact with
  | created payload =>
    rw [fact] at applied
    obtain ⟨fresh, ⟨owner, conversations⟩, _⟩ := applied
    rw [conversations]
    refine (Function.forall_update_iff _ _).mpr ⟨?_, fun id other => ?_⟩
    · have history := sound.conversations payload.conversationId
      rw [fresh] at history
      have works : queuedIn (events ++ [event]) payload.conversationId = [] := by
        rw [queuedIn_concat, history.2, fact]
        rfl
      refine ⟨payload, by simp [creations_concat, fact], rfl, ?_, ?_⟩
      · simp [works]
      · simp [works]
    · exact (sound.conversations id).kept (by simpa [fact] using other.symm) (by simp [fact])
  | queued payload =>
    rw [fact] at applied
    obtain ⟨row, nextOrdinal, stateVersion, _, found, ordinal, incremented, _, _, conversations, _⟩ :=
      applied
    rw [conversations]
    refine (Function.forall_update_iff _ _).mpr ⟨?_, fun id other => ?_⟩
    · have history := sound.conversations payload.conversationId
      rw [found] at history
      obtain ⟨created, member, sameId, ordinals, reached⟩ := history
      have works : queuedIn (events ++ [event]) payload.conversationId =
          queuedIn events payload.conversationId ++ [payload] := by
        rw [queuedIn_concat, fact]
        simp
      refine ⟨created, by rw [creations_concat]; exact List.mem_append_left _ member, sameId, ?_, ?_⟩
      · rw [works, List.map_append, ordinals, List.length_append, List.length_singleton,
          List.range'_1_concat, List.map_singleton, ← ordinal, reached]
      · rw [works, List.length_append, List.length_singleton,
          PositiveInteger.checkedIncrement_some incremented, reached, Nat.add_assoc]
    · exact (sound.conversations id).kept (by simp [fact]) (by simpa [fact] using other.symm)
  | message | transition payload | evidence =>
    rw [applied.conversations_kept (by simp [fact]) (by simp [fact])]
    exact fun id => (sound.conversations id).kept (by simp [fact]) (by simp [fact])

theorem Sound.creations_turned :
    ((creations (events ++ [event])).map (·.conversationId)).Nodup := by
  have applied := turned.applied
  rw [creations_concat]
  cases fact : event.fact with
  | created payload =>
    rw [fact] at applied
    have history := sound.conversations payload.conversationId
    rw [applied.1] at history
    have fresh : payload.conversationId ∉ (creations events).map (·.conversationId) := by
      intro present
      obtain ⟨created, member, same⟩ := List.mem_map.mp present
      exact history.1 created member same
    simpa using sound.distinctCreations.concat fresh
  | message | queued payload | transition payload | evidence =>
    simpa using sound.distinctCreations

theorem Sound.works_distinct_turned : ((queuedWorks (events ++ [event])).map (·.workId)).Nodup := by
  have applied := turned.applied
  rw [queuedWorks_concat]
  cases fact : event.fact with
  | queued payload =>
    rw [fact] at applied
    obtain ⟨_, _, _, _, _, _, _, _, absent, _⟩ := applied
    have history := sound.works payload.workId
    rw [absent] at history
    have fresh : payload.workId ∉ (queuedWorks events).map (·.workId) := by
      intro present
      obtain ⟨queued, member, same⟩ := List.mem_map.mp present
      exact history.1 queued member same
    simpa using sound.distinctWorks.concat fresh
  | message | created payload | transition payload | evidence =>
    simpa using sound.distinctWorks

theorem Sound.works_turned : ∀ id, WorkHistory (events ++ [event]) id (next.state.works id) := by
  have applied := turned.applied
  cases fact : event.fact with
  | queued payload =>
    rw [fact] at applied
    obtain ⟨_, _, _, _, _, _, _, version, absent, _, _, works⟩ := applied
    rw [works]
    refine (Function.forall_update_iff _ _).mpr ⟨?_, fun id other => ?_⟩
    · have history := sound.works payload.workId
      rw [absent] at history
      have moves : transitionsOf (events ++ [event]) payload.workId = [] := by
        rw [transitionsOf_concat, history.2, fact]
        rfl
      refine ⟨by simp [queuedWorks_concat, fact], rfl, ?_, ?_⟩
      · simp [moves, version]
      · simp [moves]
    · exact (sound.works id).kept (by simpa [fact] using other.symm) (by simp [fact])
  | transition payload =>
    rw [fact] at applied
    obtain ⟨work, found, live, incremented, _, _, works⟩ := applied
    rw [works]
    refine (Function.forall_update_iff _ _).mpr ⟨?_, fun id other => ?_⟩
    · have history := sound.works payload.workId
      rw [found] at history
      obtain ⟨member, sameId, version, ended⟩ := history
      have moves : transitionsOf (events ++ [event]) payload.workId =
          transitionsOf events payload.workId ++ [payload] := by
        rw [transitionsOf_concat, fact]
        simp
      refine ⟨?_, sameId, ?_, ?_⟩
      · rw [queuedWorks_concat]
        exact List.mem_append_left _ member
      · have raised := PositiveInteger.checkedIncrement_some incremented
        simp only [ProjectedWork.advance, moves, List.length_append, List.length_singleton, raised,
          version]
        omega
      · intro move moveIn terminal
        rw [moves] at moveIn
        rcases List.mem_append.mp moveIn with earlier | added
        · rw [ended move earlier terminal] at live
          cases live
        · rw [List.mem_singleton.mp added] at terminal
          exact terminal
    · exact (sound.works id).kept (by simp [fact]) (by simpa [fact] using other.symm)
  | message | created payload | evidence =>
    rw [applied.works_kept (by simp [fact]) (by simp [fact])]
    exact fun id => (sound.works id).kept (by simp [fact]) (by simp [fact])

theorem Sound.ended_turned (id : WorkId) : (transitionsOf (events ++ [event]) id).Pairwise
      fun earlier _ => earlier.toState.isTerminal = false := by
  have applied := turned.applied
  have before := sound.ended id
  rw [transitionsOf_concat]
  cases fact : event.fact with
  | transition payload =>
    rw [fact] at applied
    obtain ⟨work, found, live, _⟩ := applied
    by_cases same : payload.workId = id
    · subst same
      have history := sound.works payload.workId
      rw [found] at history
      obtain ⟨_, _, _, ended⟩ := history
      simp only [if_true]
      refine List.pairwise_append.mpr ⟨before, List.pairwise_singleton _ _, ?_⟩
      intro move moveIn _ _
      by_contra terminal
      rw [ended move moveIn (by simpa using terminal)] at live
      cases live
    · simpa [same] using before
  | message | created payload | queued payload | evidence => simpa using before

end

theorem Sound.turned (sound : Sound events replay) (turned : Turned sha256 replay event next) :
    Sound (events ++ [event]) next where
  heads := sound.heads_turned turned
  observed := sound.observed_turned turned
  streams := sound.streams_turned turned
  causes := sound.causes.append fun cause causation => (sound.observed cause).mp (turned.caused cause causation)
  messages := (sound.messages_turned turned).1
  distinctMessages := (sound.messages_turned turned).2
  distinctCreations := sound.creations_turned turned
  distinctWorks := sound.works_distinct_turned turned
  conversations := sound.conversations_turned turned
  works := sound.works_turned turned
  ended := sound.ended_turned turned

end Turn

variable {events : List JournalEvent} {sha256 : List UInt8 → Sha256Digest} {replay : ReplayState}

theorem replayEvents_sound (accepted : replayEvents sha256 events = .ok replay) : Sound events replay :=
  foldlM_history Sound (fun _ _ _ _ sound turned => sound.turned (projectEvent_ok turned)) .initial accepted

theorem project_eq_ok {state : ProjectedState} (accepted : project sha256 events = .ok state) :
    ∃ replay, replayEvents sha256 events = .ok replay ∧ replay.state = state := by
  unfold project at accepted
  cases replayed : replayEvents sha256 events with
  | error failure => simp [replayed, Except.map] at accepted
  | ok replay =>
    simp only [replayed, Except.map, Except.ok.injEq] at accepted
    exact ⟨replay, rfl, accepted⟩

theorem Sound.ordinals (sound : Sound events replay)
    {conversationId : ConversationId} (works : queuedIn events conversationId ≠ []) :
    ∃ created ∈ creations events, created.conversationId = conversationId ∧
      (queuedIn events conversationId).map (·.conversationWorkOrdinal.value) =
        List.range' created.nextWorkOrdinal.value (queuedIn events conversationId).length := by
  have history := sound.conversations conversationId
  cases row : replay.state.conversations conversationId with
  | none =>
    rw [row] at history
    exact absurd history.2 works
  | some conversation =>
    rw [row] at history
    obtain ⟨created, member, same, ordinals, _⟩ := history
    exact ⟨created, member, same, ordinals⟩

/-- The ordinals of a conversation start where its creation event says, which is one for an event
that `validate_payload_kind` lets into the journal. -/
theorem project_sound (sha256 : List UInt8 → Sha256Digest) (events : List JournalEvent)
    (state : ProjectedState) (accepted : project sha256 events = .ok state) :
    StreamCounted JournalEvent.streamId (·.streamSeq.value) events ∧
      (∀ before event after cause, events = before ++ event :: after →
        event.causationEventId = some cause → ∃ earlier ∈ before, earlier.eventId = cause) ∧
      (messageIds events).Nodup ∧ ((queuedWorks events).map (·.workId)).Nodup ∧
      (∀ conversationId, queuedIn events conversationId ≠ [] →
        ∃ created ∈ creations events, created.conversationId = conversationId ∧
          (queuedIn events conversationId).map (·.conversationWorkOrdinal.value) =
            List.range' created.nextWorkOrdinal.value (queuedIn events conversationId).length) ∧
      ((∀ created ∈ creations events, created.nextWorkOrdinal.value = 1) →
        ∀ conversationId, Counted (·.conversationWorkOrdinal.value) (queuedIn events conversationId)) ∧
      (∀ workId work, state.works workId = some work →
        work.created ∈ queuedWorks events ∧ work.created.workId = workId ∧
          work.stateVersion.value = 1 + (transitionsOf events workId).length) ∧
      ∀ workId, (transitionsOf events workId).Pairwise
        fun earlier _ => earlier.toState.isTerminal = false := by
  obtain ⟨replay, replayed, rfl⟩ := project_eq_ok accepted
  have sound := replayEvents_sound replayed
  refine ⟨sound.streams, ?_, sound.distinctMessages, sound.distinctWorks, ?_, ?_, ?_, sound.ended⟩
  · intro before event after cause split causation
    exact sound.causes.allowed split cause causation
  · intro conversationId works
    exact sound.ordinals works
  · intro fromOne conversationId
    by_cases works : queuedIn events conversationId = []
    · rw [works]
      exact .nil
    · obtain ⟨created, member, _, ordinals⟩ := sound.ordinals works
      rw [fromOne created member] at ordinals
      exact ordinals
  · intro workId work found
    have history := sound.works workId
    rw [found] at history
    exact ⟨history.1, history.2.1, history.2.2.1⟩

def sampleWork : WorkId := ⟨sampleUuid 1⟩

def sampleConversation : ConversationId := ⟨sampleUuid 1⟩

def sampleUser : UserId := ⟨sampleUuid 1⟩

def sampleRoot : JournalEvent where
  journalOffset := .one
  eventId := ⟨sampleUuid 1⟩
  craxiiId := ⟨sampleUuid 1⟩
  streamId := .craxii ⟨sampleUuid 1⟩
  streamSeq := .one
  eventVersion := 1
  conversationId := some sampleConversation
  workId := none
  causationEventId := none
  correlationId := ⟨sampleUuid 0⟩
  actor := .craxii ⟨sampleUuid 1⟩
  runtimeInstanceId := none
  payload := .craxiiInitialized ⟨⟨sampleUuid 1⟩, ⟨sampleUuid 1⟩, ⟨sampleUuid 1⟩,
    sampleConversation⟩

def sampleCreated (nextWorkOrdinal : ConversationWorkOrdinal) : JournalEvent :=
  { sampleRoot with
    journalOffset := sampleNumber 2
    eventId := ⟨sampleUuid 2⟩
    streamId := .conversation sampleConversation
    eventVersion := 2
    causationEventId := some sampleRoot.eventId
    payload := .conversationCreatedV2 ⟨sampleConversation, sampleRoot.craxiiId, sampleUser,
      nextWorkOrdinal, .one, 1⟩ }

def sampleAccepted : JournalEvent :=
  { sampleRoot with
    journalOffset := sampleNumber 3
    eventId := ⟨sampleUuid 3⟩
    streamId := .conversation sampleConversation
    streamSeq := sampleNumber 2
    eventVersion := 2
    causationEventId := some ⟨sampleUuid 2⟩
    correlationId := correlationForWork sampleWork
    actor := .userV2 sampleUser
    payload := .messageAcceptedV2 ⟨⟨sampleUuid 1⟩, sampleRoot.craxiiId, sampleConversation, .user,
      sampleContent, zeroDigest, sampleUser, .native ⟨sampleUuid 1⟩ ⟨sampleUuid 1⟩, 1⟩ }

def sampleQueued (conversationWorkOrdinal : ConversationWorkOrdinal) : JournalEvent :=
  { sampleRoot with
    journalOffset := sampleNumber 4
    eventId := ⟨sampleUuid 4⟩
    streamId := .work sampleWork
    eventVersion := 2
    workId := some sampleWork
    causationEventId := some sampleAccepted.eventId
    correlationId := correlationForWork sampleWork
    payload := .workQueuedV2 ⟨⟨sampleWork, sampleRoot.craxiiId, sampleConversation,
      conversationWorkOrdinal, 0, ⟨sampleUuid 1⟩, correlationForWork sampleWork, .one, 1, 1,
      ⟨sampleAccepted.eventId, .trigger, .one, 1, .user⟩⟩, none⟩ }

def sampleStarted : JournalEvent :=
  { sampleRoot with
    journalOffset := sampleNumber 5
    eventId := ⟨sampleUuid 5⟩
    streamId := .work sampleWork
    streamSeq := sampleNumber 2
    workId := some sampleWork
    causationEventId := some ⟨sampleUuid 4⟩
    correlationId := correlationForWork sampleWork
    runtimeInstanceId := some ⟨sampleUuid 1⟩
    payload := .workTransition .workStarted ⟨sampleWork, .queued, .running, .one, none, .none, none,
      sampleNumber 2, some ⟨sampleUuid 1⟩, .none, none, none, 2⟩ }

theorem project_accepts_later_ordinal :
    let five : ConversationWorkOrdinal := sampleNumber 5
    let events := [sampleRoot, sampleCreated five, sampleAccepted, sampleQueued five]
    (project (fun _ => zeroDigest) events).isOk = true ∧
      (queuedIn events sampleConversation).map (·.conversationWorkOrdinal.value) = [5] := by
  decide +kernel

theorem project_sound_started_work :
    let events := [sampleRoot, sampleCreated .one, sampleAccepted, sampleQueued .one, sampleStarted]
    ∃ state work, project (fun _ => zeroDigest) events = .ok state ∧
      state.works sampleWork = some work ∧
      work.stateVersion.value = 1 + (transitionsOf events sampleWork).length := by
  intro events
  have started : ((project (fun _ => zeroDigest) events).toOption.bind (·.works sampleWork)).isSome := by
    decide +kernel
  obtain ⟨work, found⟩ := Option.isSome_iff_exists.mp started
  obtain ⟨state, projected, row⟩ := Option.bind_eq_some_iff.mp found
  have accepted := toOption_eq_some.mp projected
  have sound := project_sound (fun _ => zeroDigest) events state accepted
  obtain ⟨_, _, _, _, _, _, versions, _⟩ := sound
  exact ⟨state, work, accepted, row, (versions sampleWork work row).2.2⟩

end Craxii.Projector
