import Craxii.Store.EventPayloadCore
import Craxii.Store.IngressCore

/-!
Embedding of the two events that carry content, as `admit_canonical_message` and
`commit_assistant_completion` build them, and of how `decode_event_payload` reads it back.
-/

namespace Craxii.Publication

open Utf8Text ExceptRules

variable (contracts : Contracts)

def acceptedIntent (craxiiId : CraxiiId) (request : CanonicalMessageAdmission) :
    JournalAppendIntent where
  eventId := request.candidates.acceptanceEventId
  craxiiId := craxiiId
  streamId := .conversation request.topology.conversationId
  conversationId := some request.topology.conversationId
  workId := none
  causationEventId := some request.topology.conversationCreatedEventId
  correlationId := correlationForWork request.candidates.workId
  actor := .userV2 request.topology.userId
  runtimeInstanceId := none
  payload := .messageAcceptedV2 {
    messageId := request.candidates.messageId
    craxiiId := craxiiId
    conversationId := request.topology.conversationId
    role := .user
    content := request.content
    contentSha256 := contracts.contentSha256 request.content
    authorUserId := request.topology.userId
    origin := request.origin
    committedAt := request.admittedAt }
  recordedAt := request.admittedAt
  occurredAt := none

/-- What `commit_assistant_completion` takes from its request and the context of the work
once its guards have passed. -/
structure AssistantCompletion where
  craxiiId : CraxiiId
  conversationId : ConversationId
  workId : WorkId
  runtimeInstanceId : RuntimeInstanceId
  correlationId : CorrelationId
  (assistantEventId causationEventId : JournalEventId)
  messageId : MessageId
  content : MessageContent
  committedAt : UtcTimestamp

def assistantIntent (request : AssistantCompletion) : JournalAppendIntent where
  eventId := request.assistantEventId
  craxiiId := request.craxiiId
  streamId := .conversation request.conversationId
  conversationId := some request.conversationId
  workId := some request.workId
  causationEventId := some request.causationEventId
  correlationId := request.correlationId
  actor := .craxii request.craxiiId
  runtimeInstanceId := some request.runtimeInstanceId
  payload := .assistantMessageCommitted {
    messageId := request.messageId
    craxiiId := request.craxiiId
    conversationId := request.conversationId
    role := .assistant
    content := request.content
    contentSha256 := contracts.contentSha256 request.content
    producedByWorkId := some request.workId
    deviceId := none
    clientMessageId := none
    committedAt := request.committedAt }
  recordedAt := request.committedAt
  occurredAt := none

def member (key : String) : Json → Option Json
  | .obj fields => fields.lookup key.toList
  | _ => none

def memberCount : Json → Nat
  | .obj fields => fields.length
  | _ => 0

def decodeBlock (document : Json) : Option Text :=
  match member "type" document, member "text" document with
  | some (.str tag), some (.str text) =>
    if tag = "text".toList ∧ memberCount document = 2 ∧ text ≠ [] then some text else none
  | _, _ => none

def intoDomain (document : Json) : Option MessageContent :=
  match member "version" document, member "blocks" document with
  | some (.num version), some (.arr blocks) =>
    if version.text = ['1'] ∧ memberCount document = 2 then
      (blocks.mapM decodeBlock).bind MessageContent.tryNew
    else none
  | _, _ => none

/-- What `decode_event_payload` does with the content of a message event: the stored text is
bounded and read, and the content must have the stored digest. -/
def decodePayloadContent (payloadJson : Text) : Except StoreRefusal MessageContent := do
  refuseIf (decide (maxPayloadBytes < utf8Len payloadJson)) .inconsistentSchema
  let document ← orRefuse (Json.read payloadJson) .inconsistentSchema
  let content ← orRefuse ((member "content" document).bind intoDomain) .inconsistentSchema
  let stored ← match member "content_sha256" document with
    | some (.str text) => .ok text
    | _ => .error .inconsistentSchema
  refuseIf ((contracts.contentSha256 content).text != stored) .inconsistentSchema
  return content

end Craxii.Publication
