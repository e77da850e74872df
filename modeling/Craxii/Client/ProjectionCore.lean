import Craxii.Delivery.DraftBrokerCore
import Craxii.Lib.KeyedRows
import Craxii.Store.EventPayloadCore

/-!
Embedding of `Projection.swift`, the client's canonical projection with its reducers of durable
events and drafts, and of what `ClientSession.swift` feeds them.
-/

namespace Craxii.Client

open Utf8Text ExceptRules

structure MessageEventPayload where
  messageId : MessageId
  role : MessageRole
  content : List Text
  clientMessageId : Option ClientMessageId
  workId : Option WorkId
  committedAt : Text

structure WorkQueuedPayload where
  workId : WorkId
  conversationWorkOrdinal : Int
  state : WorkState
  queuedAt : Text

structure WorkTransitionPayload where
  state : WorkState
  terminalReason : Option JournalWorkTerminalReason
  transitionedAt : Text

structure ToolEventPayload where
  toolExecutionId : ToolExecutionId
  status : Text
  resultClass : Option Text
  outcomeUnknown : Option Bool
  observedAt : Text

structure DraftDeltaPayload where
  kind : DraftDeltaKind
  text : Text

structure PayloadCodec (Payload : Type) where
  message : Payload → Option MessageEventPayload
  queued : Payload → Option WorkQueuedPayload
  transition : Payload → Option WorkTransitionPayload
  tool : Payload → Option ToolEventPayload
  draftDelta : Payload → Option DraftDeltaPayload
  draftAbandoned : Payload → Bool

inductive DeliveryKind
  | durable
  | ephemeral
deriving DecidableEq

inductive DurableEventType
  | messageAccepted
  | assistantMessageCommitted
  | workQueued
  | workStarted
  | workWaitingOnModel
  | workWaitingOnTool
  | workCancelRequested
  | workCancelled
  | workCompleted
  | workFailed
  | workInterrupted
  | toolExecutionStarted
  | toolExecutionFinished
  | toolExecutionInterruptedBeforeDispatch
  | runtimeRecoveryPerformed
  | unknown (name : Text)
deriving DecidableEq

structure DurableEventEnvelope (Payload : Type) where
  deliveryKind : DeliveryKind
  eventId : JournalEventId
  cursor : Nat
  eventType : DurableEventType
  conversationId : Option ConversationId
  workId : Option WorkId
  recordedAt : Text
  payload : Payload
deriving DecidableEq

inductive DraftEventType
  | started
  | delta
  | abandoned
  | unknown (name : Text)

structure EphemeralDraftEnvelope (Payload : Type) extends DraftIdentity where
  deliveryKind : DeliveryKind
  cursor : Option Nat
  eventType : DraftEventType
  deltaSequence : Option UInt32
  payload : Payload

structure SyncCompleteEnvelope where
  deliveryKind : DeliveryKind
  throughCursor : Nat

structure CraxiiProjectionDto where
  craxiiId : CraxiiId
  (displayName ownerLabel : Text)

structure ConversationDto where
  conversationId : ConversationId
  (kind createdAt : Text)

structure MessageDto where
  messageId : MessageId
  conversationId : ConversationId
  conversationSequence : Int
  role : MessageRole
  content : List Text
  clientMessageId : Option ClientMessageId
  workId : Option WorkId
  committedAt : Text

structure ToolSummaryDto where
  toolExecutionId : ToolExecutionId
  (toolName status : Text)
  resultClass : Option Text
  requestedAt : Text
  (startedAt finishedAt : Option Text)
  outcomeUnknown : Bool

structure WorkItemDto where
  workId : WorkId
  conversationId : ConversationId
  conversationWorkOrdinal : Int
  state : WorkState
  triggerMessageId : MessageId
  (createdAt queuedAt : Text)
  (startedAt cancelRequestedAt terminalAt : Option Text)
  terminalReason : Option JournalWorkTerminalReason
  cleanupPending : Bool
  toolSummaries : List ToolSummaryDto

inductive UnresolvedOutcomeKind
  | providerOutcomeUnknown | toolOutcomeUnknown | cleanupUnconfirmed

structure UnresolvedOutcomeDto where
  kind : UnresolvedOutcomeKind
  workId : WorkId
  toolExecutionId : Option ToolExecutionId

structure BootstrapResponse where
  snapshotCursor : Nat
  craxii : CraxiiProjectionDto
  primaryConversation : ConversationDto
  messages : List MessageDto
  workItems : List WorkItemDto
  unresolvedOutcomes : List UnresolvedOutcomeDto

structure ProjectedMessage where
  messageId : MessageId
  conversationId : ConversationId
  canonicalOrder : Int
  role : MessageRole
  content : List Text
  clientMessageId : Option ClientMessageId
  workId : Option WorkId
  committedAt : Text
deriving DecidableEq

structure SafeToolProjection where
  executionId : ToolExecutionId
  toolName : Option Text
  status : Text
  (resultClass requestedAt startedAt finishedAt : Option Text)
  outcomeUnknown : Bool
deriving DecidableEq

structure WorkProjection where
  workId : WorkId
  conversationId : ConversationId
  conversationWorkOrdinal : Int
  state : WorkState
  triggerMessageId : Option MessageId
  (createdAt queuedAt startedAt cancelRequestedAt terminalAt : Option Text)
  terminalReason : Option JournalWorkTerminalReason
  cleanupPending : Bool
  tools : List SafeToolProjection
deriving DecidableEq

structure CanonicalProjection (Payload : Type) where
  craxii : Option CraxiiProjectionDto
  primaryConversation : Option ConversationDto
  messages : List ProjectedMessage
  works : List WorkProjection
  unresolvedOutcomes : List UnresolvedOutcomeDto
  lastAppliedCursor : Nat
  appliedEvents : List (DurableEventEnvelope Payload)

inductive ReducerError
  | malformedPayload | projectionInvariant | unknownEventType | decodingError | arithmeticOverflow

structure MessageScan where
  priorSequence : Int
  messageIds : List MessageId
  clientIds : List ClientMessageId
  workProducedMessages : List WorkId
  messages : List ProjectedMessage

def scanMessage (primary : ConversationId) (scan : MessageScan) (message : MessageDto) :
    Except ReducerError MessageScan := do
  refuseIf (!(message.conversationId == primary &&
    decide (scan.priorSequence < message.conversationSequence) &&
    !scan.messageIds.contains message.messageId &&
    message.clientMessageId.all (!scan.clientIds.contains ·) &&
    message.workId.all (!scan.workProducedMessages.contains ·))) .projectionInvariant
  return {
    priorSequence := message.conversationSequence
    messageIds := message.messageId :: scan.messageIds
    clientIds := message.clientMessageId.toList ++ scan.clientIds
    workProducedMessages := message.workId.toList ++ scan.workProducedMessages
    messages := scan.messages ++ [⟨message.messageId, message.conversationId,
      message.conversationSequence, message.role, message.content, message.clientMessageId,
      message.workId, message.committedAt⟩] }

def scanTool (scan : List ToolExecutionId × List SafeToolProjection) (tool : ToolSummaryDto) :
    Except ReducerError (List ToolExecutionId × List SafeToolProjection) := do
  refuseIf (scan.1.contains tool.toolExecutionId) .projectionInvariant
  return (tool.toolExecutionId :: scan.1, scan.2 ++ [⟨tool.toolExecutionId, some tool.toolName,
    tool.status, tool.resultClass, some tool.requestedAt, tool.startedAt, tool.finishedAt,
    tool.outcomeUnknown⟩])

structure WorkScan where
  priorOrdinal : Int
  workIds : List WorkId
  toolIds : List ToolExecutionId
  works : List WorkProjection

def scanWork (primary : ConversationId) (messageIds : List MessageId) (scan : WorkScan)
    (work : WorkItemDto) : Except ReducerError WorkScan := do
  refuseIf (!(work.conversationId == primary &&
    decide (scan.priorOrdinal < work.conversationWorkOrdinal) &&
    !scan.workIds.contains work.workId && messageIds.contains work.triggerMessageId))
    .projectionInvariant
  let (toolIds, tools) ← work.toolSummaries.foldlM scanTool (scan.toolIds, [])
  return {
    priorOrdinal := work.conversationWorkOrdinal
    workIds := work.workId :: scan.workIds
    toolIds
    works := scan.works ++ [⟨work.workId, work.conversationId, work.conversationWorkOrdinal, work.state,
      some work.triggerMessageId, some work.createdAt, some work.queuedAt, work.startedAt,
      work.cancelRequestedAt, work.terminalAt, work.terminalReason, work.cleanupPending, tools⟩] }

variable {Payload : Type}

def CanonicalProjection.bootstrap (response : BootstrapResponse) :
    Except ReducerError (CanonicalProjection Payload) := do
  refuseIf (!(response.primaryConversation.kind == "primary".toList &&
    decide (response.messages.length ≤ 2048) &&
    decide ((response.workItems.filter (·.state.isTerminal)).length ≤ 512) &&
    decide ((response.workItems.map (·.toolSummaries.length)).sum ≤ 2048))) .projectionInvariant
  let primary := response.primaryConversation.conversationId
  let messages ← response.messages.foldlM (scanMessage primary) ⟨0, [], [], [], []⟩
  let works ← response.workItems.foldlM (scanWork primary messages.messageIds) ⟨0, [], [], []⟩
  refuseIf (!response.unresolvedOutcomes.all (works.workIds.contains ·.workId)) .projectionInvariant
  return {
    craxii := some response.craxii
    primaryConversation := some response.primaryConversation
    messages := messages.messages
    works := works.works
    unresolvedOutcomes := response.unresolvedOutcomes
    lastAppliedCursor := response.snapshotCursor
    appliedEvents := [] }

section Durable

variable (codec : PayloadCodec Payload)

def CanonicalProjection.primaryId (projection : CanonicalProjection Payload) : Option ConversationId :=
  projection.primaryConversation.map (·.conversationId)

def primaryOf (event : DurableEventEnvelope Payload) (projection : CanonicalProjection Payload) :
    Except ReducerError ConversationId := do
  let conversationId ← orRefuse event.conversationId .projectionInvariant
  refuseIf (some conversationId != projection.primaryId) .projectionInvariant
  return conversationId

def nextOrder (messages : List ProjectedMessage) : Except ReducerError Int := do
  let order := ((messages.map (·.canonicalOrder)).max?.getD 0) + 1
  refuseIf (decide ((i64Max : Int) < order)) .arithmeticOverflow
  return order

def applyMessage (event : DurableEventEnvelope Payload) (projection : CanonicalProjection Payload) :
    Except ReducerError (CanonicalProjection Payload) := do
  let conversationId ← primaryOf event projection
  let payload ← orRefuse (codec.message event.payload) .malformedPayload
  let accepted := event.eventType == .messageAccepted
  refuseIf (!(payload.role == (if accepted then .user else .assistant) &&
    (accepted || payload.workId == event.workId) &&
    (!accepted || payload.clientMessageId.isSome))) .projectionInvariant
  let order ← nextOrder projection.messages
  let candidate : ProjectedMessage := ⟨payload.messageId, conversationId, order, payload.role,
    payload.content, payload.clientMessageId, payload.workId, payload.committedAt⟩
  match projection.messages.find? (·.messageId == candidate.messageId) with
  | some existing => do
      refuseIf (existing != candidate) .projectionInvariant
      return projection
  | none => do
      refuseIf (candidate.clientMessageId.any fun clientId =>
        projection.messages.any (·.clientMessageId == some clientId)) .projectionInvariant
      refuseIf (candidate.workId.any fun workId =>
        projection.messages.any (·.workId == some workId)) .projectionInvariant
      return { projection with messages := projection.messages ++ [candidate] }

def sortWorks (works : List WorkProjection) : List WorkProjection :=
  works.mergeSort fun first second =>
    decide (first.conversationWorkOrdinal ≤ second.conversationWorkOrdinal)

def applyQueued (event : DurableEventEnvelope Payload) (projection : CanonicalProjection Payload) :
    Except ReducerError (CanonicalProjection Payload) := do
  let conversationId ← primaryOf event projection
  let workId ← orRefuse event.workId .projectionInvariant
  let payload ← orRefuse (codec.queued event.payload) .malformedPayload
  refuseIf (!(payload.workId == workId && payload.state == .queued &&
    !projection.works.any (·.workId == workId) &&
    !projection.works.any (·.conversationWorkOrdinal == payload.conversationWorkOrdinal)))
    .projectionInvariant
  let trigger := (projection.messages.reverse.find? (·.role == .user)).map (·.messageId)
  return { projection with
    works := sortWorks (projection.works ++ [⟨workId, conversationId, payload.conversationWorkOrdinal,
      .queued, trigger, some payload.queuedAt, some payload.queuedAt, none, none, none, none, false,
      []⟩]) }

def DurableEventType.expectedState : DurableEventType → Option WorkState
  | .workStarted => some .running
  | .workWaitingOnModel => some .waitingOnModel
  | .workWaitingOnTool => some .waitingOnTool
  | .workCancelRequested => some .cancelRequested
  | .workCancelled => some .cancelled
  | .workCompleted => some .completed
  | .workFailed => some .failed
  | .workInterrupted => some .interrupted
  | _ => none

def WorkProjection.transition (work : WorkProjection) (payload : WorkTransitionPayload) : WorkProjection :=
  let work := { work with state := payload.state }
  match payload.state with
  | .running => { work with startedAt := work.startedAt.or (some payload.transitionedAt) }
  | .cancelRequested =>
    { work with cancelRequestedAt := some payload.transitionedAt, cleanupPending := true }
  | .completed | .failed | .cancelled | .interrupted =>
    { work with
      terminalAt := some payload.transitionedAt
      terminalReason := payload.terminalReason
      cancelRequestedAt := none
      cleanupPending := payload.terminalReason == some .cleanupUnconfirmed }
  | _ => work

def transitionOutcomes (workId : WorkId) (payload : WorkTransitionPayload)
    (outcomes : List UnresolvedOutcomeDto) : List UnresolvedOutcomeDto :=
  if payload.state.isTerminal then
    outcomes.filter (fun outcome => !(outcome.workId == workId && outcome.toolExecutionId.isNone)) ++
      (match payload.terminalReason with
      | some .providerOutcomeUnknown => [⟨.providerOutcomeUnknown, workId, none⟩]
      | some .cleanupUnconfirmed => [⟨.cleanupUnconfirmed, workId, none⟩]
      | _ => [])
  else outcomes

def workOf (event : DurableEventEnvelope Payload) (projection : CanonicalProjection Payload) :
    Except ReducerError WorkProjection := do
  let workId ← orRefuse event.workId .projectionInvariant
  orRefuse (projection.works.find? (·.workId == workId)) .projectionInvariant

def CanonicalProjection.updateWork (projection : CanonicalProjection Payload) (workId : WorkId)
    (update : WorkProjection → WorkProjection) : CanonicalProjection Payload :=
  { projection with works := KeyedRows.updateFirst (·.workId == workId) update projection.works }

def applyTransition (event : DurableEventEnvelope Payload) (projection : CanonicalProjection Payload) :
    Except ReducerError (CanonicalProjection Payload) := do
  let work ← workOf event projection
  let payload ← orRefuse (codec.transition event.payload) .malformedPayload
  let expectedState ← orRefuse event.eventType.expectedState .projectionInvariant
  refuseIf (!(payload.state == expectedState && !work.state.isTerminal)) .projectionInvariant
  return {
    projection.updateWork work.workId (·.transition payload) with
    unresolvedOutcomes := transitionOutcomes work.workId payload projection.unresolvedOutcomes }

def updateTool (started : Bool) (payload : ToolEventPayload) (tool : SafeToolProjection) :
    SafeToolProjection :=
  { tool with
    status := payload.status
    resultClass := payload.resultClass
    outcomeUnknown := payload.outcomeUnknown.getD tool.outcomeUnknown
    finishedAt := if started then none else some payload.observedAt }

def WorkProjection.applyTool (work : WorkProjection) (started : Bool) (payload : ToolEventPayload) :
    WorkProjection :=
  { work with
    tools :=
      if work.tools.any (·.executionId == payload.toolExecutionId) then
        KeyedRows.updateFirst (·.executionId == payload.toolExecutionId) (updateTool started payload)
          work.tools
      else work.tools ++ [⟨payload.toolExecutionId, none, payload.status, payload.resultClass, none,
        if started then some payload.observedAt else none,
        if started then none else some payload.observedAt, payload.outcomeUnknown.getD false⟩] }

def applyTool (event : DurableEventEnvelope Payload) (projection : CanonicalProjection Payload) :
    Except ReducerError (CanonicalProjection Payload) := do
  let work ← workOf event projection
  let payload ← orRefuse (codec.tool event.payload) .malformedPayload
  return {
    projection.updateWork work.workId (·.applyTool (event.eventType == .toolExecutionStarted) payload) with
    unresolvedOutcomes :=
      projection.unresolvedOutcomes.filter (fun outcome =>
        !(outcome.workId == work.workId && outcome.toolExecutionId == some payload.toolExecutionId)) ++
      (if payload.outcomeUnknown == some true then
        [⟨.toolOutcomeUnknown, work.workId, some payload.toolExecutionId⟩] else []) }

def applyKnown (event : DurableEventEnvelope Payload) (projection : CanonicalProjection Payload) :
    Except ReducerError (CanonicalProjection Payload) :=
  match event.eventType with
  | .messageAccepted | .assistantMessageCommitted => applyMessage codec event projection
  | .workQueued => applyQueued codec event projection
  | .workStarted | .workWaitingOnModel | .workWaitingOnTool | .workCancelRequested | .workCancelled
  | .workCompleted | .workFailed | .workInterrupted => applyTransition codec event projection
  | .toolExecutionStarted | .toolExecutionFinished | .toolExecutionInterruptedBeforeDispatch =>
    applyTool codec event projection
  | .runtimeRecoveryPerformed => .ok projection
  | .unknown _ => .error .unknownEventType

variable [DecidableEq Payload]

def applying (event : DurableEventEnvelope Payload) (projection : CanonicalProjection Payload) :
    Except ReducerError (CanonicalProjection Payload) := do
  refuseIf (!(event.deliveryKind == .durable && decide (0 < event.cursor))) .malformedPayload
  if event.cursor ≤ projection.lastAppliedCursor then
    refuseIf (projection.appliedEvents.find? (·.cursor == event.cursor) != some event)
      .projectionInvariant
    return projection
  else
    let result ← applyKnown codec event projection
    return { result with
      lastAppliedCursor := event.cursor
      appliedEvents := event :: projection.appliedEvents }

end Durable

structure DraftProjection extends DraftIdentity where
  greatestSequence : UInt32
  (text refusal : Text)
deriving DecidableEq

structure DraftReducer where
  drafts : List DraftProjection
  tombstones : List DraftId

variable (reducer : DraftReducer)

namespace DraftReducer

def empty : DraftReducer := ⟨[], []⟩

def find (draftId : DraftId) : Option DraftProjection :=
  reducer.drafts.find? (·.draftId == draftId)

def clear (workId : WorkId) : DraftReducer where
  drafts := reducer.drafts.filter (·.workId != workId)
  tombstones := (reducer.drafts.filter (·.workId == workId)).map (·.draftId) ++ reducer.tombstones

def start (event : EphemeralDraftEnvelope Payload) : DraftReducer :=
  if event.deltaSequence.isNone && !reducer.tombstones.contains event.draftId &&
      (reducer.find event.draftId).isNone then
    let cleared := reducer.clear event.workId
    { cleared with drafts := ⟨event.toDraftIdentity, 0, [], []⟩ :: cleared.drafts }
  else reducer

def extend (draft : DraftProjection) (sequence : UInt32) (payload : DraftDeltaPayload) : DraftProjection :=
  match payload.kind with
  | .text => { draft with greatestSequence := sequence, text := draft.text ++ payload.text }
  | .refusal => { draft with greatestSequence := sequence, refusal := draft.refusal ++ payload.text }

variable (codec : PayloadCodec Payload)

def delta (event : EphemeralDraftEnvelope Payload) : Except ReducerError DraftReducer :=
  match event.deltaSequence, reducer.find event.draftId with
  | some sequence, some draft =>
    if draft.toDraftIdentity = event.toDraftIdentity ∧ draft.greatestSequence < sequence then do
      let payload ← orRefuse (codec.draftDelta event.payload) .malformedPayload
      return { reducer with
        drafts := KeyedRows.updateFirst (·.draftId == event.draftId) (extend · sequence payload)
          reducer.drafts }
    else .ok reducer
  | _, _ => .ok reducer

def abandon (event : EphemeralDraftEnvelope Payload) :
    Except ReducerError DraftReducer := do
  refuseIf (!codec.draftAbandoned event.payload) .decodingError
  match reducer.find event.draftId with
  | some draft =>
    if draft.workId = event.workId ∧ draft.invocationId = event.invocationId then
      return ⟨reducer.drafts.filter (·.draftId != event.draftId), event.draftId :: reducer.tombstones⟩
    else return reducer
  | none => return reducer

def concerns (event : EphemeralDraftEnvelope Payload) (projection : CanonicalProjection Payload) : Bool :=
  event.deliveryKind == .ephemeral && event.cursor.isNone &&
    some event.conversationId == projection.primaryId &&
    (projection.works.find? (·.workId == event.workId)).any (!·.state.isTerminal)

def apply (event : EphemeralDraftEnvelope Payload)
    (projection : CanonicalProjection Payload) : Except ReducerError DraftReducer :=
  if concerns event projection then
    match event.eventType with
    | .started => .ok (reducer.start event)
    | .delta => reducer.delta codec event
    | .abandoned => reducer.abandon codec event
    | .unknown _ => .error .unknownEventType
  else .ok reducer

end DraftReducer

inductive StreamState
  | closed | replaying | live
deriving DecidableEq

structure ReducerState (Payload : Type) where
  projection : CanonicalProjection Payload
  drafts : DraftReducer
  stream : StreamState

def ReducerState.start : ReducerState Payload :=
  ⟨⟨none, none, [], [], [], 0, []⟩, .empty, .closed⟩

/-- What reaches the reducers: the frames of the current connection, and what the session does
between connections. A frame that is refused ends its connection with a later move. -/
inductive ReducerMove (Payload : Type)
  | durable (event : DurableEventEnvelope Payload)
  | syncComplete (sync : SyncCompleteEnvelope)
  | draft (event : EphemeralDraftEnvelope Payload)
  | invalidate
  | bootstrap (response : BootstrapResponse)
  | openStream
  | reset

def DurableEventType.endsDrafts : DurableEventType → Bool
  | .assistantMessageCommitted | .workCompleted | .workCancelled | .workFailed | .workInterrupted => true
  | _ => false

def clearedBy (event : DurableEventEnvelope Payload) (drafts : DraftReducer) : DraftReducer :=
  match event.workId with
  | some workId => if event.eventType.endsDrafts then drafts.clear workId else drafts
  | none => drafts

def stepReducers [DecidableEq Payload] (codec : PayloadCodec Payload) (state : ReducerState Payload) :
    ReducerMove Payload → Option (ReducerState Payload)
  | .durable event =>
    match applying codec event state.projection with
    | .error _ => none
    | .ok projection => some { state with projection, drafts := clearedBy event state.drafts }
  | .syncComplete sync =>
    if state.stream = .replaying ∧ sync.deliveryKind = .ephemeral ∧
        state.projection.lastAppliedCursor ≤ sync.throughCursor then
      some { state with
        projection := { state.projection with
          lastAppliedCursor := max state.projection.lastAppliedCursor sync.throughCursor }
        stream := .live }
    else none
  | .draft event =>
    if state.stream = .live then
      match state.drafts.apply codec event state.projection with
      | .error _ => none
      | .ok drafts => some { state with drafts }
    else none
  | .invalidate => some { state with drafts := .empty, stream := .closed }
  | .bootstrap response =>
    match CanonicalProjection.bootstrap response with
    | .error _ => none
    | .ok projection => some { state with projection, drafts := .empty }
  | .openStream => some { state with stream := .replaying }
  | .reset => some .start

end Craxii.Client
