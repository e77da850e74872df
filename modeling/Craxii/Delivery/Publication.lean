import Craxii.Delivery.PublicationCore
import Craxii.Domain.HexText
import Craxii.Domain.Lifecycle

/-!
Every event that `prepare_event` accepts can be published: read back, its public payload and its
frame are within the limits of the protocol.
-/

namespace Craxii.Publication

open Utf8Text ExceptRules Json

variable {contracts : Contracts}

/-! Sizes of the values that every payload is made of. -/

def isPlainText (text : Text) (bound : Nat) : Bool :=
  text.all (fun c => c.isLower || c == '.' || c == '_') && decide (text.length ≤ bound)

theorem plainText_byteLen_le {text : Text} {bound : Nat} (plain : isPlainText text bound = true) :
    (Json.str text).byteLen ≤ bound + 2 := by
  simp only [isPlainText, Bool.and_eq_true, List.all_eq_true, Bool.or_eq_true, beq_iff_eq,
    decide_eq_true_eq] at plain
  have ascii : ∀ c ∈ text, 0x2e ≤ c.toNat ∧ c.toNat < 0x7f ∧ c.toNat ≠ 0x5c := by
    intro c found
    rcases plain.1 c found with (lower | rfl) | rfl
    · simp only [Char.isLower, Bool.and_eq_true, decide_eq_true_eq, ge_iff_le,
        UInt32.le_iff_toNat_le] at lower
      have bounds : 'a'.val.toNat = 0x61 ∧ 'z'.val.toNat = 0x7a := by decide
      have value : c.toNat = c.val.toNat := rfl
      omega
    · decide
    · decide
  have unescaped : ∀ c ∈ text, escapeChar c = [c] := by
    intro c found
    have printable := ascii c found
    apply escapeChar_printable
    · omega
    · rintro rfl
      exact absurd printable.1 (by decide)
    · rintro rfl
      exact printable.2.2 rfl
  have oneByte : utf8Len text = text.length := by
    clear plain unescaped
    induction text with
    | nil => rfl
    | cons c rest ih =>
      have single : c.utf8Size = 1 := by
        rw [Char.utf8Size_eq_one_iff, UInt32.le_iff_toNat_le]
        exact Nat.le_of_lt_succ (Nat.lt_trans (ascii c List.mem_cons_self).2.1 (by decide))
      rw [utf8Len_cons, single, ih fun other found => ascii other (List.mem_cons_of_mem _ found),
        List.length_cons, Nat.add_comm]
  rw [byteLen_str_of_unescaped unescaped, oneByte]
  exact Nat.add_le_add_right plain.2 2

variable {envelope : DurableEventEnvelope} {kind : IdKind} {intent prepared : JournalAppendIntent}
  {event : JournalEvent} {payload : JournalEventPayload} {members : List (Text × Json)}
  {key : String} {link : Text × Json}

theorem idJson_byteLen (id : Identity kind) : (idJson id).byteLen = 38 := by
  obtain ⟨length, hex⟩ := identity_hex id
  rw [idJson, byteLen_hexText hex, length]

theorem optionId_byteLen_le (id : Option (Identity kind)) :
    (optionJson idJson id).byteLen ≤ 38 := by
  cases id with
  | none => exact (by decide : Json.null.byteLen ≤ 38)
  | some id => exact (idJson_byteLen id).le

theorem timeJson_byteLen_le (instant : UtcTimestamp) : (timeJson contracts instant).byteLen ≤ 164 := by
  have quoted := byteLen_str_le (contracts.timestampText instant)
  rw [contracts.timestampLength] at quoted
  exact quoted

theorem positive_byteLen_le (value : PositiveInteger) : (natural value.value).byteLen ≤ 20 :=
  byteLen_natural_le (by decide) (Nat.lt_of_le_of_lt value.bounded (by decide))

theorem unsignedJson_byteLen_le (value : UInt64) : (unsignedJson value).byteLen ≤ 20 :=
  byteLen_natural_le (by decide) (Nat.lt_trans value.toNat_lt (by decide))

theorem state_byteLen_le (state : WorkState) : (Json.str state.asStr).byteLen ≤ 40 :=
  plainText_byteLen_le (by cases state <;> decide)

theorem terminalReason_byteLen_le (reason : Option JournalWorkTerminalReason) :
    (optionJson (fun reason => .str reason.asStr) reason).byteLen ≤ 40 := by
  cases reason with
  | none => decide
  | some reason => exact plainText_byteLen_le (by cases reason <;> decide)

theorem resultClass_byteLen_le (result : Option ToolResultClass) :
    (optionJson (fun result => .str result.asStr) result).byteLen ≤ 40 := by
  cases result with
  | none => decide
  | some result => exact plainText_byteLen_le (by cases result <;> decide)

def ShortMember (member : Text × Json) : Prop :=
  utf8Len (printField member) ≤ 220

theorem shortMember {value : Json} (keyPlain : isPlainText key.toList 48 = true)
    (valueShort : value.byteLen ≤ 164) : ShortMember (field key value) := by
  have keyShort := plainText_byteLen_le keyPlain
  rw [ShortMember, field, utf8Len_printField]
  omega

theorem textMember {text : String} (keyPlain : isPlainText key.toList 48 = true)
    (textPlain : isPlainText text.toList 48 = true) : ShortMember (field key (textJson text)) :=
  shortMember keyPlain (Nat.le_trans (plainText_byteLen_le textPlain) (by decide))

theorem short_payload (few : members.length ≤ 8)
    (short : ∀ member ∈ members, ShortMember member) : (Json.obj members).byteLen ≤ 2048 := by
  have whole := byteLen_obj_le_of_short short
  have : members.length * (220 + 1) ≤ 8 * (220 + 1) := Nat.mul_le_mul_right _ few
  omega

theorem timeMember (keyPlain : isPlainText key.toList 48 = true)
    (instant : UtcTimestamp) : ShortMember (field key (timeJson contracts instant)) :=
  shortMember keyPlain (timeJson_byteLen_le instant)

theorem idMember (keyPlain : isPlainText key.toList 48 = true)
    (id : Identity kind) : ShortMember (field key (idJson id)) :=
  shortMember keyPlain (by rw [idJson_byteLen]; decide)

theorem stateMember (transition : WorkTransitionV1) :
    ShortMember (field "state" (.str transition.toState.asStr)) :=
  shortMember (by decide) (Nat.le_trans (state_byteLen_le _) (by decide))

theorem unsignedMember (keyPlain : isPlainText key.toList 48 = true) (value : UInt64) :
    ShortMember (field key (unsignedJson value)) :=
  shortMember keyPlain (Nat.le_trans (unsignedJson_byteLen_le value) (by decide))

theorem queuedPayload_short (work : WorkQueuedV1) : (queuedPayload contracts work).byteLen ≤ 2048 := by
  apply short_payload (by simp)
  simp only [List.forall_mem_cons, List.not_mem_nil, false_implies, implies_true, and_true]
  refine ⟨idMember (by decide) _, shortMember (by decide) ?_, textMember (by decide) (by decide),
    timeMember (by decide) _⟩
  exact Nat.le_trans (positive_byteLen_le _) (by decide)

theorem transitionPayload_short (transition : WorkTransitionV1) :
    (transitionPayload contracts transition).byteLen ≤ 2048 := by
  apply short_payload (by simp)
  simp only [List.forall_mem_cons, List.not_mem_nil, false_implies, implies_true, and_true]
  exact ⟨stateMember transition, timeMember (by decide) _⟩

theorem resumedPayload_short (transition : WorkTransitionV1) :
    (resumedPayload contracts transition).byteLen ≤ 2048 := by
  apply short_payload (by simp)
  simp only [List.forall_mem_cons, List.not_mem_nil, false_implies, implies_true, and_true]
  exact ⟨stateMember transition, textMember (by decide) (by decide), timeMember (by decide) _⟩

theorem terminalPayload_short (transition : WorkTransitionV1) :
    (terminalPayload contracts transition).byteLen ≤ 2048 := by
  apply short_payload (by simp)
  simp only [List.forall_mem_cons, List.not_mem_nil, false_implies, implies_true, and_true]
  refine ⟨stateMember transition, shortMember (by decide) ?_, timeMember (by decide) _⟩
  exact Nat.le_trans (terminalReason_byteLen_le _) (by decide)

theorem toolPayload_short (tool : ToolExecutionEventV1)
    (few : members.length ≤ 3) (short : ∀ member ∈ members, ShortMember member) :
    (toolPayload contracts tool members).byteLen ≤ 2048 := by
  apply short_payload
  · simp only [List.cons_append, List.length_cons, List.length_append, List.length_nil]
    omega
  · simp only [List.cons_append, List.forall_mem_cons, List.forall_mem_append, List.not_mem_nil,
      false_implies, implies_true, and_true]
    exact ⟨idMember (by decide) _, short, timeMember (by decide) _⟩

theorem recoveryPayload_short (recovery : RuntimeRecoveryPerformedV1) :
    (recoveryPayload contracts recovery).byteLen ≤ 2048 := by
  apply short_payload (by simp)
  simp only [List.forall_mem_cons, List.not_mem_nil, false_implies, implies_true, and_true]
  exact ⟨unsignedMember (by decide) _, unsignedMember (by decide) _, unsignedMember (by decide) _,
    unsignedMember (by decide) _, unsignedMember (by decide) _, timeMember (by decide) _⟩

theorem storedContent_larger (content : MessageContent) :
    (Json.arr (content.blocks.map blockJson)).byteLen ≤ (storedContent content).byteLen := by
  rw [storedContent, byteLen_obj]
  simp only [List.map_cons, List.map_nil, List.sum_cons, List.sum_nil, field, utf8Len_printField]
  omega

theorem link_smaller (keyPlain : isPlainText key.toList 17 = true)
    (id : Option (Identity kind)) (digest : Sha256Digest) :
    utf8Len (printField (field key (optionJson idJson id))) ≤
      utf8Len (printField (field "content_sha256" (.str digest.text))) := by
  have keyShort := plainText_byteLen_le keyPlain
  have linked := optionId_byteLen_le id
  obtain ⟨length, hex⟩ := digest_hex digest
  have stored := byteLen_hexText hex
  simp only [field, utf8Len_printField]
  omega

theorem contentMember_smaller (content : MessageContent) :
    utf8Len (printField (field "content" (.arr (content.blocks.map blockJson)))) ≤
      utf8Len (printField (field "content" (storedContent content))) := by
  have larger := storedContent_larger content
  simp only [field, utf8Len_printField]
  omega

theorem messagePayload_smaller (message : MessageCommittedV1)
    (linkSmaller : utf8Len (printField link) ≤
      utf8Len (printField (field "content_sha256" (.str message.contentSha256.text)))) :
    (messagePayload contracts message.messageId message.role message.content link
      message.committedAt).byteLen ≤ (storedMessage contracts message).byteLen := by
  have contentSmaller := contentMember_smaller message.content
  rw [messagePayload, storedMessage, byteLen_obj, byteLen_obj]
  simp only [List.map_cons, List.map_nil, List.sum_cons, List.sum_nil]
  omega

theorem messagePayloadV2_smaller (message : MessageCommittedV2)
    (linkSmaller : utf8Len (printField link) ≤
      utf8Len (printField (field "content_sha256" (.str message.contentSha256.text)))) :
    (messagePayload contracts message.messageId message.role message.content link
      message.committedAt).byteLen ≤ (storedMessageV2 contracts message).byteLen := by
  have contentSmaller := contentMember_smaller message.content
  rw [messagePayload, storedMessageV2, byteLen_obj, byteLen_obj]
  simp only [List.map_cons, List.map_nil, List.sum_cons, List.sum_nil]
  omega

structure Publishable (contracts : Contracts) (payload : JournalEventPayload) (eventType : String)
    (document : Json) : Prop where
  named : isPlainText eventType.toList 48 = true
  fits : document.byteLen ≤ 2048 ∨ document.byteLen ≤ (storedPayload contracts payload).byteLen

theorem publicPayload_publishable {eventType : String} {document : Json}
    (published : publicPayload contracts payload = some (eventType, document)) :
    Publishable contracts payload eventType document := by
  cases payload with
  | craxiiInitialized _ | conversationCreated _ | conversationCreatedV2 _ | modelInvocationStarted _
  | modelInvocationStreaming _ | modelInvocationCompleted _ | modelInvocationFailed _
  | modelInvocationInterrupted _ | toolExecutionRequested _ | artifactRecorded _ | runtimeStarted _
  | runtimeStopping => cases published
  | messageAcceptedV2 message =>
    cases published
    exact ⟨by decide, .inr (messagePayloadV2_smaller message (link_smaller (by decide) _ _))⟩
  | messageAccepted message | assistantMessageCommitted message =>
    cases published
    exact ⟨by decide, .inr (messagePayload_smaller message (link_smaller (by decide) _ _))⟩
  | workQueued work | workQueuedV2 work =>
    cases published
    exact ⟨by decide, .inl (queuedPayload_short _)⟩
  | workStarted _ | workWaitingOnModel _ | workWaitingOnTool _ | workCancelRequested _
  | workCancelRequestedV2 =>
    cases published
    exact ⟨by decide, .inl (transitionPayload_short _)⟩
  | workResumed transition =>
    cases published
    exact ⟨by decide, .inl (resumedPayload_short transition)⟩
  | workCancelled | workCompleted | workFailed | workInterrupted | workCancelledV2 =>
    cases published
    exact ⟨by decide, .inl (terminalPayload_short _)⟩
  | toolExecutionDispatching tool =>
    cases published
    refine ⟨by decide, .inl (toolPayload_short tool (by simp) ?_)⟩
    simp only [List.forall_mem_cons, List.not_mem_nil, false_implies, implies_true, and_true]
    exact textMember (by decide) (by decide)
  | toolExecutionCompleted tool =>
    cases published
    refine ⟨by decide, .inl (toolPayload_short tool (by simp) ?_)⟩
    simp only [List.forall_mem_cons, List.not_mem_nil, false_implies, implies_true, and_true]
    refine ⟨textMember (by decide) (by decide), shortMember (by decide) ?_,
      shortMember (by decide) (by decide)⟩
    exact Nat.le_trans (resultClass_byteLen_le _) (by decide)
  | toolExecutionInterruptedBeforeDispatch tool | toolExecutionOutcomeUnknown tool =>
    cases published
    refine ⟨by decide, .inl (toolPayload_short tool (by simp) ?_)⟩
    simp only [List.forall_mem_cons, List.not_mem_nil, false_implies, implies_true, and_true]
    exact ⟨textMember (by decide) (by decide), shortMember (by decide) (by decide)⟩
  | runtimeRecoveryPerformed recovery =>
    simp only [publicPayload] at published
    split at published
    · cases published
    · cases published
      exact ⟨by decide, .inl (recoveryPayload_short recovery)⟩

theorem optionalId_short (keyPlain : isPlainText key.toList 48 = true)
    (id : Option (Identity kind)) :
    (optionalId key id).length ≤ 1 ∧ ∀ member ∈ optionalId key id, ShortMember member := by
  cases id with
  | none => simp [optionalId]
  | some id =>
    simp only [optionalId, List.length_cons, List.length_nil, List.mem_singleton, forall_eq]
    exact ⟨by decide, idMember keyPlain id⟩

theorem frameDocument_byteLen_le (event : DurableEventEnvelope)
    (named : isPlainText event.eventType.toList 48 = true) :
    (frameDocument contracts event).byteLen ≤ event.payload.byteLen + 2048 := by
  have conversation := optionalId_short (by decide : isPlainText "conversation_id".toList 48 = true)
    event.conversationId
  have work := optionalId_short (by decide : isPlainText "work_id".toList 48 = true) event.workId
  have cursor := positive_byteLen_le event.cursor
  have members : ∀ member ∈ [field "protocol_version" (.natural protocolVersion),
      field "delivery_kind" (textJson "durable"), field "event_id" (idJson event.eventId),
      field "cursor" (.natural event.cursor.value), field "event_type" (textJson event.eventType)] ++
      optionalId "conversation_id" event.conversationId ++ optionalId "work_id" event.workId ++
      [field "recorded_at" (timeJson contracts event.recordedAt)], ShortMember member := by
    simp only [List.forall_mem_append, List.forall_mem_cons, List.not_mem_nil, false_implies,
      implies_true, and_true]
    exact ⟨⟨⟨⟨shortMember (by decide) (by decide), textMember (by decide) (by decide),
      idMember (by decide) _, shortMember (by decide) (by omega), textMember (by decide) named⟩,
      conversation.2⟩, work.2⟩, timeMember (by decide) _⟩
  have whole := byteLen_obj_concat_le members (field "payload" event.payload)
  have payload : utf8Len (printField (field "payload" event.payload)) = event.payload.byteLen + 10 := by
    rw [field, utf8Len_printField, Nat.add_right_comm, Nat.add_comm]
    exact congrArg (event.payload.byteLen + ·) (by decide : (Json.str "payload".toList).byteLen + 1 = 10)
  rw [frameDocument]
  simp only [List.length_append, List.length_cons, List.length_nil, List.append_assoc,
    List.cons_append, List.nil_append] at whole ⊢
  omega

theorem prepareEvent_eq_ok (accepted : prepareEvent contracts intent = .ok prepared) :
    prepared = intent ∧ validateIntent intent = true ∧
      validateCurrentPayloadKind contracts intent.payload = true ∧
      (storedPayload contracts intent.payload).byteLen ≤ maxPayloadBytes := by
  obtain ⟨_, linked, accepted⟩ := bind_eq_ok.mp accepted
  obtain ⟨_, typed, accepted⟩ := bind_eq_ok.mp accepted
  obtain ⟨_, small, accepted⟩ := bind_eq_ok.mp accepted
  rw [refuseIf_eq_ok] at linked typed small
  cases accepted
  simp only [Bool.not_eq_false', decide_eq_false_iff_not, Nat.not_lt] at linked typed small
  exact ⟨rfl, linked, typed, small⟩

theorem decodeEventRow_eq_ok {row : JournalRow}
    (decoded : decodeEventRow contracts row = .ok event) :
    event.payload = row.columns.payload ∧ event.eventVersion = row.eventVersion ∧
      event.journalOffset = row.journalOffset := by
  obtain ⟨_, _, decoded⟩ := bind_eq_ok.mp decoded
  obtain ⟨_, _, decoded⟩ := bind_eq_ok.mp decoded
  obtain ⟨_, _, decoded⟩ := bind_eq_ok.mp decoded
  obtain ⟨actor, _, decoded⟩ := bind_eq_ok.mp decoded
  obtain ⟨_, _, decoded⟩ := bind_eq_ok.mp decoded
  cases decoded
  exact ⟨rfl, rfl, rfl⟩

def JournalEventPayload.transition : JournalEventPayload → Option WorkTransitionV1
  | .workStarted value | .workWaitingOnModel value | .workWaitingOnTool value | .workResumed value
  | .workCancelRequested value | .workCancelled value | .workCompleted value | .workFailed value
  | .workInterrupted value => some value
  | .workCancelRequestedV2 value | .workCancelledV2 value => some value.transition
  | _ => none

theorem payloadReadable_of_valid (typed : validatePayloadKind contracts payload = true)
    (stepped : ∀ transition, payload.transition = some transition → transitionReadable transition = true) :
    payloadReadable contracts payload = true := by
  cases payload with
  | workStarted value | workWaitingOnModel value | workWaitingOnTool value | workResumed value
  | workCancelRequested value | workCancelled value | workCompleted value | workFailed value
  | workInterrupted value => exact stepped value rfl
  | workCancelRequestedV2 value | workCancelledV2 value => exact stepped value.transition rfl
  | messageAccepted value | assistantMessageCommitted value | runtimeRecoveryPerformed value =>
    simp only [validatePayloadKind, Bool.and_eq_true] at typed
    exact typed.2
  | messageAcceptedV2 | workQueued | workQueuedV2 | runtimeStopping => exact typed
  | _ => rfl

theorem versionSupported_own (payload : JournalEventPayload) :
    versionSupported payload.kind payload.version = true := by
  cases payload <;> rfl

theorem parseActorForEvent_first (kind : JournalEventKind) (actor : JournalActor) :
    ∃ read, parseActorForEvent kind 1 actor = .ok read := by
  cases actor with
  | userV2 userId => exact ⟨_, rfl⟩
  | user deviceId | craxii id | model id | tool id | runtime id | client id => exact ⟨_, rfl⟩

theorem actor_readable (linked : validateIntent intent = true) :
    ∃ actor, parseActorForEvent intent.payload.kind intent.payload.version intent.actor = .ok actor ∧
      validateIntent { intent with actor := actor } = true := by
  obtain ⟨eventId, craxiiId, streamId, conversationId, workId, causationEventId, correlationId, actor,
    runtimeInstanceId, payload, recordedAt, occurredAt⟩ := intent
  cases payload with
  | workStarted value | workWaitingOnModel value | workWaitingOnTool value | workResumed value
  | workCancelRequested value | workCancelled value | workCompleted value | workFailed value
  | workInterrupted value | modelInvocationStarted value | modelInvocationStreaming value
  | modelInvocationCompleted value | modelInvocationFailed value | modelInvocationInterrupted value
  | toolExecutionRequested value | toolExecutionDispatching value | toolExecutionCompleted value
  | toolExecutionInterruptedBeforeDispatch value | toolExecutionOutcomeUnknown value
  | artifactRecorded value =>
    cases streamId with
    | work id =>
      obtain ⟨read, parsed⟩ := parseActorForEvent_first _ actor
      exact ⟨read, parsed, linked⟩
    | craxii | conversation | runtime => cases linked
  | workCancelRequestedV2 value | workCancelledV2 value =>
    cases streamId with
    | work id =>
      cases actor with
      | userV2 userId => exact ⟨_, rfl, linked⟩
      | user | craxii | model | tool | runtime | client =>
        simp [validateIntent, workLinks] at linked
    | craxii | conversation | runtime => cases linked
  | craxiiInitialized value =>
    cases streamId with
    | craxii id =>
      have named := linked
      simp only [validateIntent, Bool.and_eq_true, beq_iff_eq] at named
      obtain rfl := named.2.2
      exact ⟨_, rfl, linked⟩
    | conversation | work | runtime => cases linked
  | conversationCreated value | conversationCreatedV2 value | messageAccepted value
  | messageAcceptedV2 value | assistantMessageCommitted value =>
    cases streamId with
    | conversation id =>
      have named := linked
      simp only [validateIntent, conversationLinks, Bool.and_eq_true, beq_iff_eq] at named
      obtain rfl := named.2.2
      exact ⟨_, rfl, linked⟩
    | craxii | work | runtime => cases linked
  | workQueued value | workQueuedV2 value =>
    cases streamId with
    | work id =>
      have named := linked
      simp only [validateIntent, queuedLinks, Bool.and_eq_true, beq_iff_eq] at named
      obtain rfl := named.2.2
      exact ⟨_, rfl, linked⟩
    | craxii | conversation | runtime => cases linked
  | runtimeStarted value | runtimeRecoveryPerformed value | runtimeStopping value =>
    cases streamId with
    | runtime id =>
      have named := linked
      simp only [validateIntent, runtimeLinks, Bool.and_eq_true, beq_iff_eq] at named
      obtain rfl := named.2.2
      exact ⟨_, rfl, linked⟩
    | craxii | conversation | work => cases linked

theorem accepted_event_decoded (accepted : prepareEvent contracts intent = .ok prepared)
    (stepped : ∀ transition, intent.payload.transition = some transition →
      transitionReadable transition = true)
    (journalOffset : JournalOffset) (streamSeq : StreamSeq) :
    ∃ event, decodeEventRow contracts (appendedRow journalOffset streamSeq prepared) = .ok event := by
  obtain ⟨rfl, linked, typed, _⟩ := prepareEvent_eq_ok accepted
  have valid : validatePayloadKind contracts prepared.payload = true := (Bool.and_eq_true_iff.mp typed).1
  obtain ⟨actor, parsed, relinked⟩ := actor_readable linked
  refine ⟨_, bind_eq_ok.mpr ⟨(), ?_, bind_eq_ok.mpr ⟨(), ?_, bind_eq_ok.mpr ⟨(), ?_,
    bind_eq_ok.mpr ⟨actor, parsed, bind_eq_ok.mpr ⟨(), ?_, rfl⟩⟩⟩⟩⟩⟩
  · rw [refuseIf_eq_ok, Bool.not_eq_false']
    exact versionSupported_own _
  · rw [refuseIf_eq_ok, Bool.not_eq_false']
    exact payloadReadable_of_valid valid stepped
  · rw [refuseIf_eq_ok, Bool.not_eq_false']
    exact valid
  · rw [refuseIf_eq_ok, Bool.not_eq_false']
    exact relinked

/-- What the accepted events of the journal keep when they are read back. -/
structure StoredWithinBounds (contracts : Contracts) (event : JournalEvent) : Prop where
  versioned : event.eventVersion = event.payload.version
  small : (storedPayload contracts event.payload).byteLen ≤ maxPayloadBytes

theorem decoded_withinBounds {journalOffset : JournalOffset} {streamSeq : StreamSeq}
    (accepted : prepareEvent contracts intent = .ok prepared)
    (decoded : decodeEventRow contracts (appendedRow journalOffset streamSeq prepared) = .ok event) :
    StoredWithinBounds contracts event := by
  obtain ⟨rfl, _, _, small⟩ := prepareEvent_eq_ok accepted
  obtain ⟨samePayload, sameVersion, _⟩ := decodeEventRow_eq_ok decoded
  constructor
  · rw [samePayload, sameVersion]
    rfl
  · rw [samePayload]
    exact small

theorem mapPublicEvent_of_versioned (versioned : event.eventVersion = event.payload.version) :
    mapPublicEvent contracts event =
      .ok ((publicPayload contracts event.payload).map fun (eventType, payload) =>
        { eventId := event.eventId, cursor := event.journalOffset, eventType := eventType,
          conversationId := event.conversationId, workId := event.workId,
          recordedAt := event.recordedAt, payload := payload }) := by
  have same : (event.eventVersion != event.payload.version) = false := by
    rw [versioned]
    exact bne_self_eq_false _
  simp only [mapPublicEvent, same, refuseIf_false, ok_bind]
  rfl

theorem published_withinLimits (bounds : StoredWithinBounds contracts event)
    (published : mapPublicEvent contracts event = .ok (some envelope)) :
    envelope.payload.byteLen ≤ maxDurablePayloadBytes ∧
      (frameDocument contracts envelope).byteLen ≤ maxWebsocketFrameBytes := by
  rw [mapPublicEvent_of_versioned bounds.versioned] at published
  obtain ⟨⟨eventType, document⟩, shown, rfl⟩ :=
    Option.map_eq_some_iff.mp (Except.ok.inj published)
  obtain ⟨named, fits⟩ := publicPayload_publishable shown
  have framed := @frameDocument_byteLen_le contracts
    { eventId := event.eventId, cursor := event.journalOffset, eventType := eventType,
      conversationId := event.conversationId, workId := event.workId,
      recordedAt := event.recordedAt, payload := document } named
  have small := bounds.small
  simp only [maxPayloadBytes, maxDurablePayloadBytes, maxWebsocketFrameBytes] at small ⊢
  constructor
  · omega
  · dsimp only at framed
    omega

section

variable (payloadFits : envelope.payload.byteLen ≤ maxDurablePayloadBytes) (frameFits : (frameDocument contracts envelope).byteLen ≤ maxWebsocketFrameBytes)
include payloadFits frameFits

theorem enforceEventSize_of_limits : enforceEventSize contracts envelope = .ok () := by
  rw [enforceEventSize, refuseIf_eq_ok, Bool.or_eq_false_iff, decide_eq_false_iff_not,
    decide_eq_false_iff_not]
  exact ⟨Nat.not_lt.mpr payloadFits, Nat.not_lt.mpr frameFits⟩

theorem encodePublicEventFrame_of_limits :
    encodePublicEventFrame contracts envelope = .ok (frameDocument contracts envelope).print := by
  refine bind_eq_ok.mpr ⟨(), ?_, bind_eq_ok.mpr ⟨(), ?_, rfl⟩⟩
  · rw [refuseIf_eq_ok, decide_eq_false_iff_not]
    exact Nat.not_lt.mpr payloadFits
  · rw [refuseIf_eq_ok, decide_eq_false_iff_not]
    exact Nat.not_lt.mpr frameFits

end

def sampleIntent : JournalAppendIntent :=
  let conversationId : ConversationId := ⟨sampleUuid 1⟩
  let userId : UserId := ⟨sampleUuid 2⟩
  let craxiiId : CraxiiId := ⟨sampleUuid 3⟩
  { eventId := ⟨sampleUuid 4⟩, craxiiId := craxiiId, streamId := .conversation conversationId,
    conversationId := some conversationId, workId := none, causationEventId := none,
    correlationId := ⟨sampleUuid 5⟩, actor := .userV2 userId, runtimeInstanceId := none,
    payload := .messageAcceptedV2
      { messageId := ⟨sampleUuid 6⟩, craxiiId := craxiiId, conversationId := conversationId,
        role := .user, content := ⟨["say \"hi\"".toList], by decide, by decide, by decide⟩,
        contentSha256 := zeroDigest, authorUserId := userId,
        origin := .inboundDelivery ⟨sampleUuid 7⟩, committedAt := 9 },
    recordedAt := 9, occurredAt := none }

def sampleContracts : Contracts where
  timestampText := fun _ => "2026-08-28T00:00:00.000001Z".toList
  timestampLength := fun _ => by decide
  contentSha256 := fun _ => zeroDigest
  isAbsolutePath := fun text => text.head? == some '/'

end Craxii.Publication
