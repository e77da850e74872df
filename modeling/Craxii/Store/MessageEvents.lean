import Craxii.Delivery.Publication
import Craxii.Store.MessageEventsCore

/-!
Which contents the journal takes: a content bounds the bytes of its texts, the journal the bytes
of the whole escaped payload.
-/

namespace Craxii.Publication

open Utf8Text ExceptRules Json

/-- Contracts whose instants are written in digits and punctuation that JSON does not escape. -/
structure WireContracts extends Contracts where
  timestampPlain : ∀ instant, ∀ c ∈ timestampText instant, escapeChar c = [c]

variable (contracts : WireContracts)

theorem timeJson_byteLen (instant : UtcTimestamp) :
    (timeJson contracts.toContracts instant).byteLen = 29 := by
  rw [timeJson, byteLen_str_of_unescaped (contracts.timestampPlain instant), contracts.timestampLength]

theorem digest_byteLen (digest : Sha256Digest) : (Json.str digest.text).byteLen = 66 := by
  obtain ⟨length, hex⟩ := digest_hex digest
  rw [byteLen_hexText hex, length]

theorem blockJson_byteLen (text : Text) : (blockJson text).byteLen = (Json.str text).byteLen + 23 := by
  have keys : (Json.str "type".toList).byteLen = 6 ∧ (Json.str "text".toList).byteLen = 6 := by
    decide +kernel
  rw [blockJson, byteLen_obj]
  simp only [List.map_cons, List.map_nil, List.sum_cons, List.sum_nil, field, utf8Len_printField,
    textJson]
  omega

/-- The bytes of a stored content: its version and brackets, and for each block its
escaped text, its quotes and its tag. -/
def contentBytes (content : MessageContent) : Nat :=
  24 + (content.blocks.map fun text => 24 + (Json.str text).byteLen).sum

variable {intent : JournalAppendIntent} {blocks : List Text} {content : MessageContent}
  {text : Text}

theorem blocks_byteLen (nonempty : blocks ≠ []) :
    (Json.arr (blocks.map blockJson)).byteLen =
      (blocks.map fun text => 24 + (Json.str text).byteLen).sum + 1 := by
  cases blocks with
  | nil => exact absurd rfl nonempty
  | cons first rest =>
    have bracket : '['.utf8Size = 1 := by decide
    have others := utf8Len_printValues (rest.map blockJson)
    have head := blockJson_byteLen first
    have tail : (rest.map blockJson).map (fun value => value.byteLen + 1) =
        rest.map fun text => 24 + (Json.str text).byteLen := by
      rw [List.map_map]
      apply List.map_congr_left
      intro text _
      simp only [Function.comp_apply, blockJson_byteLen]
      omega
    rw [tail] at others
    simp only [byteLen, List.map_cons, print, utf8Len_cons, utf8Len_append, List.sum_cons]
      at others head ⊢
    omega

theorem storedContent_byteLen (content : MessageContent) :
    (storedContent content).byteLen = contentBytes content := by
  have keys : (Json.str "version".toList).byteLen = 9 ∧ (Json.str "blocks".toList).byteLen = 8 ∧
      (Json.natural 1).byteLen = 1 := by decide +kernel
  have blocks := blocks_byteLen content.nonempty
  rw [storedContent, byteLen_obj, contentBytes]
  simp only [List.map_cons, List.map_nil, List.sum_cons, List.sum_nil, field, utf8Len_printField]
  omega

def originBytes : MessageAcceptedOriginV2 → Nat
  | .native _ _ => 127
  | .inboundDelivery _ => 88

theorem storedOrigin_byteLen (origin : MessageAcceptedOriginV2) :
    (storedOrigin origin).byteLen = originBytes origin := by
  have keys : (Json.str "type".toList).byteLen = 6 ∧ (Json.str "native".toList).byteLen = 8 ∧
      (Json.str "device_id".toList).byteLen = 11 ∧
      (Json.str "client_message_id".toList).byteLen = 19 ∧
      (Json.str "inbound_delivery".toList).byteLen = 18 ∧
      (Json.str "inbound_delivery_id".toList).byteLen = 21 := by decide +kernel
  cases origin with
  | native deviceId clientMessageId | inboundDelivery inboundDeliveryId =>
    rw [storedOrigin, byteLen_obj]
    simp only [List.map_cons, List.map_nil, List.sum_cons, List.sum_nil, field, utf8Len_printField,
      textJson, idJson_byteLen, originBytes]
    omega

variable (craxiiId : CraxiiId) (request : CanonicalMessageAdmission)

theorem acceptedPayload_byteLen :
    (storedPayload contracts.toContracts
      (acceptedIntent contracts.toContracts craxiiId request).payload).byteLen =
        contentBytes request.content + originBytes request.origin + 381 := by
  have keys : (Json.str "message_id".toList).byteLen = 12 ∧
      (Json.str "craxii_id".toList).byteLen = 11 ∧
      (Json.str "conversation_id".toList).byteLen = 17 ∧ (Json.str "role".toList).byteLen = 6 ∧
      (Json.str "content".toList).byteLen = 9 ∧ (Json.str "content_sha256".toList).byteLen = 16 ∧
      (Json.str "author_user_id".toList).byteLen = 16 ∧ (Json.str "origin".toList).byteLen = 8 ∧
      (Json.str "committed_at".toList).byteLen = 14 ∧
      (Json.str MessageRole.user.asStr).byteLen = 6 := by decide +kernel
  simp only [acceptedIntent, storedPayload, storedMessageV2, byteLen_obj, List.map_cons, List.map_nil,
    List.sum_cons, List.sum_nil, field, utf8Len_printField, idJson_byteLen, timeJson_byteLen,
    digest_byteLen, storedContent_byteLen, storedOrigin_byteLen]
  omega

theorem assistantPayload_byteLen (request : AssistantCompletion) :
    (storedPayload contracts.toContracts
      (assistantIntent contracts.toContracts request).payload).byteLen =
        contentBytes request.content + 423 := by
  have keys : (Json.str "message_id".toList).byteLen = 12 ∧
      (Json.str "craxii_id".toList).byteLen = 11 ∧
      (Json.str "conversation_id".toList).byteLen = 17 ∧ (Json.str "role".toList).byteLen = 6 ∧
      (Json.str "content".toList).byteLen = 9 ∧ (Json.str "content_sha256".toList).byteLen = 16 ∧
      (Json.str "produced_by_work_id".toList).byteLen = 21 ∧
      (Json.str "device_id".toList).byteLen = 11 ∧
      (Json.str "client_message_id".toList).byteLen = 19 ∧
      (Json.str "committed_at".toList).byteLen = 14 ∧
      (Json.str MessageRole.assistant.asStr).byteLen = 11 ∧ Json.null.byteLen = 4 := by decide +kernel
  simp only [assistantIntent, storedPayload, storedMessage, byteLen_obj, List.map_cons, List.map_nil,
    List.sum_cons, List.sum_nil, field, utf8Len_printField, optionJson, idJson_byteLen,
    timeJson_byteLen, digest_byteLen, storedContent_byteLen]
  omega

theorem decodeBlock_blockJson (nonempty : text ≠ []) :
    decodeBlock (blockJson text) = some text := by
  have tagged : member "type" (blockJson text) = some (.str "text".toList) := rfl
  have written : member "text" (blockJson text) = some (.str text) := rfl
  rw [decodeBlock, tagged, written]
  exact if_pos ⟨rfl, rfl, nonempty⟩

theorem mapM_decodeBlock (nonempty : ∀ block ∈ blocks, block ≠ []) :
    (blocks.map blockJson).mapM decodeBlock = some blocks := by
  induction blocks with
  | nil => rfl
  | cons first rest ih =>
    have others := ih fun block found => nonempty block (List.mem_cons_of_mem _ found)
    simp [List.mapM_cons, decodeBlock_blockJson (nonempty first List.mem_cons_self), others]

theorem tryNew_blocks (content : MessageContent) :
    MessageContent.tryNew content.blocks = some content :=
  dif_pos ⟨content.nonempty, content.blocksNonempty, content.bounded⟩

theorem intoDomain_storedContent (content : MessageContent) :
    intoDomain (storedContent content) = some content := by
  have version : member "version" (storedContent content) = some (.natural 1) := rfl
  have blocks : member "blocks" (storedContent content) =
      some (.arr (content.blocks.map blockJson)) := rfl
  rw [intoDomain, version, blocks]
  refine (if_pos ⟨rfl, rfl⟩).trans ?_
  rw [mapM_decodeBlock content.blocksNonempty]
  exact tryNew_blocks content

theorem decodePayloadContent_print {contracts : Contracts} {document : Json}
    (small : document.byteLen ≤ maxPayloadBytes)
    (written : member "content" document = some (storedContent content))
    (digest : member "content_sha256" document = some (.str (contracts.contentSha256 content).text)) :
    decodePayloadContent contracts document.print = .ok content := by
  refine bind_eq_ok.mpr ⟨(), ?_, bind_eq_ok.mpr ⟨document, ?_, bind_eq_ok.mpr ⟨content, ?_, ?_⟩⟩⟩
  · rw [refuseIf_eq_ok, decide_eq_false_iff_not]
    exact Nat.not_lt.mpr small
  · rw [read_print, orRefuse_some]
  · rw [written, Option.bind_some, intoDomain_storedContent, orRefuse_some]
  · rw [digest]
    simp [pure, Except.pure]

/-- The event is accepted, its stored text decodes to the content, and its row to the payload. -/
def IntentJournaled (contracts : Contracts) (intent : JournalAppendIntent) (content : MessageContent) : Prop :=
  ∃ prepared, prepareEvent contracts intent = .ok prepared ∧
    decodePayloadContent contracts (storedPayload contracts prepared.payload).print = .ok content ∧
    ∀ journalOffset streamSeq, ∃ event,
      decodeEventRow contracts (appendedRow journalOffset streamSeq prepared) = .ok event ∧
        event.payload = intent.payload

theorem prepareEvent_of_small {contracts : Contracts} (linked : validateIntent intent = true)
    (typed : validateCurrentPayloadKind contracts intent.payload = true)
    (small : (storedPayload contracts intent.payload).byteLen ≤ maxPayloadBytes) :
    prepareEvent contracts intent = .ok intent := by
  refine bind_eq_ok.mpr ⟨(), ?_, bind_eq_ok.mpr ⟨(), ?_, bind_eq_ok.mpr ⟨(), ?_, rfl⟩⟩⟩
  · rw [refuseIf_eq_ok, linked]
    rfl
  · rw [refuseIf_eq_ok, typed]
    rfl
  · rw [refuseIf_eq_ok, decide_eq_false_iff_not]
    exact Nat.not_lt.mpr small

theorem journaled_iff_small {contracts : Contracts} (linked : validateIntent intent = true)
    (typed : validateCurrentPayloadKind contracts intent.payload = true)
    (unmoved : intent.payload.transition = none)
    (written : member "content" (storedPayload contracts intent.payload) =
      some (storedContent content))
    (digest : member "content_sha256" (storedPayload contracts intent.payload) =
      some (.str (contracts.contentSha256 content).text)) :
    IntentJournaled contracts intent content ↔
      (storedPayload contracts intent.payload).byteLen ≤ maxPayloadBytes := by
  constructor
  · rintro ⟨prepared, accepted, _, _⟩
    exact (prepareEvent_eq_ok accepted).2.2.2
  · intro small
    have accepted := prepareEvent_of_small linked typed small
    refine ⟨intent, accepted, decodePayloadContent_print small written digest, ?_⟩
    intro journalOffset streamSeq
    have stepped : ∀ transition, intent.payload.transition = some transition →
        transitionReadable transition = true := by
      intro transition moved
      rw [unmoved] at moved
      cases moved
    obtain ⟨event, decoded⟩ := accepted_event_decoded accepted stepped journalOffset streamSeq
    exact ⟨event, decoded, (decodeEventRow_eq_ok decoded).1⟩

theorem acceptedIntent_journaled_iff :
    IntentJournaled contracts.toContracts (acceptedIntent contracts.toContracts craxiiId request)
        request.content ↔
      contentBytes request.content + originBytes request.origin + 381 ≤ maxPayloadBytes := by
  rw [← acceptedPayload_byteLen]
  apply journaled_iff_small
  · simp [validateIntent, acceptedIntent, JournalEventPayload.kind, JournalEventKind.primaryStream,
      JournalStreamId.family]
  · simp [validateCurrentPayloadKind, validatePayloadKind, acceptedIntent,
      MessageCommittedV2.validateContract]
  · rfl
  · rfl
  · rfl

theorem assistantIntent_journaled_iff (request : AssistantCompletion) :
    IntentJournaled contracts.toContracts (assistantIntent contracts.toContracts request)
        request.content ↔ contentBytes request.content + 423 ≤ maxPayloadBytes := by
  rw [← assistantPayload_byteLen]
  apply journaled_iff_small
  · simp [validateIntent, assistantIntent, JournalEventPayload.kind, JournalEventKind.primaryStream,
      JournalStreamId.family]
  · simp [validateCurrentPayloadKind, validatePayloadKind, assistantIntent,
      MessageCommittedV1.validateContract]
  · rfl
  · rfl
  · rfl

theorem message_events_journaled_iff (completion : AssistantCompletion) :
    (IntentJournaled contracts.toContracts (acceptedIntent contracts.toContracts craxiiId request)
        request.content ↔
      contentBytes request.content + originBytes request.origin + 381 ≤ maxPayloadBytes) ∧
    (IntentJournaled contracts.toContracts (assistantIntent contracts.toContracts completion)
        completion.content ↔
      contentBytes completion.content + 423 ≤ maxPayloadBytes) :=
  ⟨acceptedIntent_journaled_iff contracts craxiiId request,
    assistantIntent_journaled_iff contracts completion⟩

def controlContent : MessageContent where
  blocks := [List.replicate maxContentTextBytes '\x01']
  nonempty := List.cons_ne_nil _ _
  blocksNonempty := by
    rintro block found
    rw [List.mem_singleton.mp found]
    exact List.ne_nil_of_length_pos (by rw [List.length_replicate]; decide)
  bounded := by
    have single : '\x01'.utf8Size = 1 := by decide
    simp [single]

theorem control_byteLen (count : Nat) :
    (Json.str (List.replicate count '\x01')).byteLen = 6 * count + 2 := by
  have escaped : utf8Len (escapeChar '\x01') = 6 := by decide
  have grown : utf8Len ((List.replicate count '\x01').flatMap escapeChar) = 6 * count := by
    induction count with
    | zero => rfl
    | succ count ih =>
      rw [List.replicate_succ, List.flatMap_cons, utf8Len_append, escaped, ih]
      omega
  have quote : '"'.utf8Size = 1 := by decide
  simp only [byteLen, print, printText, utf8Len_cons, utf8Len_append, utf8Len_nil, grown, quote]
  omega

theorem contentBytes_single (single : content.blocks = [text]) :
    contentBytes content = 48 + (Json.str text).byteLen := by
  rw [contentBytes, single, List.map_singleton, List.sum_singleton]
  omega

theorem controlContent_bytes : contentBytes controlContent = 6 * maxContentTextBytes + 50 := by
  have single : controlContent.blocks = [List.replicate maxContentTextBytes '\x01'] := rfl
  rw [contentBytes_single single, control_byteLen]
  omega

def sampleWireContracts : WireContracts where
  toContracts := sampleContracts
  timestampPlain := by
    have plain : (sampleContracts.timestampText 0).all (fun c => escapeChar c == [c]) = true := by decide
    exact fun _ c member => eq_of_beq (List.all_eq_true.mp plain c member)

def sampleAdmission (content : MessageContent) : CanonicalMessageAdmission where
  topology := ⟨⟨sampleUuid 1⟩, ⟨sampleUuid 2⟩, .one, .one, ⟨sampleUuid 3⟩⟩
  origin := .native ⟨sampleUuid 4⟩ ⟨sampleUuid 5⟩
  content := content
  replyBindingId := none
  admittedAt := 9
  candidates := ⟨⟨sampleUuid 6⟩, ⟨sampleUuid 7⟩, ⟨sampleUuid 8⟩,
    ⟨sampleUuid 9⟩⟩

def sampleCompletion (content : MessageContent) : AssistantCompletion where
  craxiiId := ⟨sampleUuid 1⟩
  conversationId := ⟨sampleUuid 2⟩
  workId := ⟨sampleUuid 3⟩
  runtimeInstanceId := ⟨sampleUuid 4⟩
  correlationId := ⟨sampleUuid 5⟩
  assistantEventId := ⟨sampleUuid 6⟩
  causationEventId := ⟨sampleUuid 7⟩
  messageId := ⟨sampleUuid 8⟩
  content := content
  committedAt := 9

theorem controlContent_not_journaled :
    ¬ IntentJournaled sampleContracts
        (acceptedIntent sampleContracts ⟨sampleUuid 1⟩ (sampleAdmission controlContent))
        controlContent ∧
      ¬ IntentJournaled sampleContracts (assistantIntent sampleContracts (sampleCompletion controlContent))
        controlContent := by
  constructor
  · intro journaled
    have fits := (acceptedIntent_journaled_iff sampleWireContracts ⟨sampleUuid 1⟩
      (sampleAdmission controlContent)).mp journaled
    have size : contentBytes (sampleAdmission controlContent).content = _ := controlContent_bytes
    simp only [size, maxContentTextBytes, maxPayloadBytes] at fits
    omega
  · intro journaled
    have fits := (assistantIntent_journaled_iff sampleWireContracts
      (sampleCompletion controlContent)).mp journaled
    have size : contentBytes (sampleCompletion controlContent).content = _ := controlContent_bytes
    simp only [size, maxContentTextBytes, maxPayloadBytes] at fits
    omega

end Craxii.Publication
