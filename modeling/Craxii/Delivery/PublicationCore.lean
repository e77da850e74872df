import Craxii.Store.EventPayloadCore

/-!
Embedding of `map_public_event`, `enforce_event_size` and `encode_public_event_frame` of
`application/publication.rs`.
-/

namespace Craxii.Publication

open Utf8Text ExceptRules

inductive PublicationErrorKind
  | storage | invariant | bootstrapLimitExceeded

structure DurableEventEnvelope where
  eventId : JournalEventId
  cursor : JournalOffset
  eventType : String
  conversationId : Option ConversationId
  workId : Option WorkId
  recordedAt : UtcTimestamp
  payload : Json

def maxDurablePayloadBytes : Nat := 262144
def maxWebsocketFrameBytes : Nat := 270336

variable (contracts : Contracts)

def messagePayload (messageId : MessageId) (role : MessageRole) (content : MessageContent)
    (link : Text × Json) (committedAt : UtcTimestamp) : Json :=
  .obj [field "message_id" (idJson messageId), field "role" (.str role.asStr),
    field "content" (.arr (content.blocks.map blockJson)), link,
    field "committed_at" (timeJson contracts committedAt)]

def queuedPayload (work : WorkQueuedV1) : Json :=
  .obj [field "work_id" (idJson work.workId),
    field "conversation_work_ordinal" (.natural work.conversationWorkOrdinal.value),
    field "state" (textJson "queued"), field "queued_at" (timeJson contracts work.queuedAt)]

variable (transition : WorkTransitionV1)

def transitionPayload : Json :=
  .obj [field "state" (.str transition.toState.asStr),
    field "transitioned_at" (timeJson contracts transition.transitionedAt)]

def resumedPayload : Json :=
  .obj [field "state" (.str transition.toState.asStr),
    field "transition_kind" (textJson "resumed"),
    field "transitioned_at" (timeJson contracts transition.transitionedAt)]

def terminalPayload : Json :=
  .obj [field "state" (.str transition.toState.asStr),
    field "terminal_reason" (optionJson (fun reason => .str reason.asStr) transition.terminalReason),
    field "transitioned_at" (timeJson contracts transition.transitionedAt)]

def toolPayload (tool : ToolExecutionEventV1) (members : List (Text × Json)) : Json :=
  .obj (field "tool_execution_id" (idJson tool.toolExecutionId) :: members ++
    [field "observed_at" (timeJson contracts tool.observedAt)])

def recoveryPayload (recovery : RuntimeRecoveryPerformedV1) : Json :=
  .obj [field "interrupted_work" (unsignedJson recovery.interruptedWork),
    field "provider_outcomes_unknown" (unsignedJson recovery.modelAttemptsProviderOutcomeUnknown),
    field "tools_interrupted_before_dispatch"
      (unsignedJson recovery.toolAttemptsInterruptedBeforeDispatch),
    field "tool_outcomes_unknown" (unsignedJson recovery.toolAttemptsOutcomeUnknown),
    field "cleanup_unconfirmed" (unsignedJson recovery.cleanupUnconfirmed),
    field "recovered_at" (timeJson contracts recovery.recoveredAt)]

def MessageCommittedV2.clientMessageId (message : MessageCommittedV2) : Option ClientMessageId :=
  match message.origin with
  | .native _ clientMessageId => some clientMessageId
  | .inboundDelivery _ => none

def publicPayload : JournalEventPayload → Option (String × Json)
  | .messageAccepted message =>
    some ("message.accepted", messagePayload contracts message.messageId message.role message.content
      (field "client_message_id" (optionJson idJson message.clientMessageId)) message.committedAt)
  | .messageAcceptedV2 message =>
    some ("message.accepted", messagePayload contracts message.messageId message.role message.content
      (field "client_message_id" (optionJson idJson message.clientMessageId)) message.committedAt)
  | .workQueued work => some ("work.queued", queuedPayload contracts work)
  | .workQueuedV2 work => some ("work.queued", queuedPayload contracts work.toWorkQueuedV1)
  | .workStarted transition => some ("work.started", transitionPayload contracts transition)
  | .workResumed transition => some ("work.started", resumedPayload contracts transition)
  | .workWaitingOnModel transition =>
    some ("work.waiting_on_model", transitionPayload contracts transition)
  | .workWaitingOnTool transition =>
    some ("work.waiting_on_tool", transitionPayload contracts transition)
  | .workCancelRequested transition =>
    some ("work.cancel_requested", transitionPayload contracts transition)
  | .workCancelRequestedV2 cancellation =>
    some ("work.cancel_requested", transitionPayload contracts cancellation.transition)
  | .workCancelled transition => some ("work.cancelled", terminalPayload contracts transition)
  | .workCancelledV2 cancellation =>
    some ("work.cancelled", terminalPayload contracts cancellation.transition)
  | .workCompleted transition => some ("work.completed", terminalPayload contracts transition)
  | .workFailed transition => some ("work.failed", terminalPayload contracts transition)
  | .workInterrupted transition => some ("work.interrupted", terminalPayload contracts transition)
  | .toolExecutionDispatching tool =>
    some ("tool.execution_started",
      toolPayload contracts tool [field "status" (textJson "dispatching")])
  | .toolExecutionCompleted tool =>
    some ("tool.execution_finished",
      toolPayload contracts tool [field "status" (textJson "completed"),
        field "result_class" (optionJson (fun result => .str result.asStr) tool.outcomeClassification),
        field "outcome_unknown" (.bool false)])
  | .toolExecutionInterruptedBeforeDispatch tool =>
    some ("tool.execution_interrupted_before_dispatch",
      toolPayload contracts tool [field "status" (textJson "interrupted_before_dispatch"),
        field "outcome_unknown" (.bool false)])
  | .toolExecutionOutcomeUnknown tool =>
    some ("tool.execution_finished",
      toolPayload contracts tool [field "status" (textJson "outcome_unknown"),
        field "outcome_unknown" (.bool true)])
  | .assistantMessageCommitted message =>
    some ("assistant.message_committed",
      messagePayload contracts message.messageId message.role message.content
        (field "work_id" (optionJson idJson message.producedByWorkId)) message.committedAt)
  | .runtimeRecoveryPerformed recovery =>
    let relevant := recovery.interruptedWork + recovery.modelAttemptsProviderOutcomeUnknown +
      recovery.toolAttemptsInterruptedBeforeDispatch + recovery.toolAttemptsOutcomeUnknown +
      recovery.cleanupUnconfirmed
    if relevant = 0 then none
    else some ("runtime.recovery_performed", recoveryPayload contracts recovery)
  | .craxiiInitialized _ | .conversationCreated _ | .conversationCreatedV2 _
  | .modelInvocationStarted _ | .modelInvocationStreaming _ | .modelInvocationCompleted _
  | .modelInvocationFailed _ | .modelInvocationInterrupted _ | .toolExecutionRequested _
  | .artifactRecorded _ | .runtimeStarted _ | .runtimeStopping _ => none

def mapPublicEvent (event : JournalEvent) : Except PublicationErrorKind (Option DurableEventEnvelope) := do
  refuseIf (event.eventVersion != event.payload.version) .invariant
  return (publicPayload contracts event.payload).map fun (eventType, payload) =>
    { eventId := event.eventId, cursor := event.journalOffset, eventType := eventType,
      conversationId := event.conversationId, workId := event.workId,
      recordedAt := event.recordedAt, payload := payload }

def optionalId {kind : IdKind} (key : String) : Option (Identity kind) → List (Text × Json)
  | none => []
  | some id => [field key (idJson id)]

variable (event : DurableEventEnvelope)

def frameDocument : Json :=
  .obj ([field "protocol_version" (.natural protocolVersion), field "delivery_kind" (textJson "durable"),
      field "event_id" (idJson event.eventId), field "cursor" (.natural event.cursor.value),
      field "event_type" (textJson event.eventType)] ++
    optionalId "conversation_id" event.conversationId ++ optionalId "work_id" event.workId ++
    [field "recorded_at" (timeJson contracts event.recordedAt), field "payload" event.payload])

def enforceEventSize : Except PublicationErrorKind Unit :=
  refuseIf (decide (maxDurablePayloadBytes < event.payload.byteLen) ||
    decide (maxWebsocketFrameBytes < (frameDocument contracts event).byteLen)) .invariant

def encodePublicEventFrame : Except PublicationErrorKind Text := do
  refuseIf (decide (maxDurablePayloadBytes < event.payload.byteLen)) .invariant
  refuseIf (decide (maxWebsocketFrameBytes < (frameDocument contracts event).byteLen)) .invariant
  return (frameDocument contracts event).print

end Craxii.Publication
