import Craxii.Domain.Lifecycle
import Craxii.Projector.ReplayCore

/-!
The writers of the journal that the projector reads: `append_event`, the events of the bootstrap,
`admit_canonical_message`, and the two ways a work decision is journaled, `append_work_event` and
`append_work_transition`.
-/

namespace Craxii.Projector

structure JournalAppendIntent where
  eventId : JournalEventId
  craxiiId : CraxiiId
  streamId : JournalStreamId
  conversationId : Option ConversationId
  workId : Option WorkId
  causationEventId : Option JournalEventId
  correlationId : CorrelationId
  actor : JournalActor
  runtimeInstanceId : Option RuntimeInstanceId
  payload : JournalEventPayload

structure RootRow where
  root : CraxiiInitializedV1
  eventId : JournalEventId
  correlationId : CorrelationId

structure ConversationRow where
  ownerUserId : UserId
  nextWorkOrdinal : ConversationWorkOrdinal
  stateVersion : ProjectionVersion
  createdEventId : JournalEventId

structure WorkRow where
  conversationId : ConversationId
  correlationId : CorrelationId
  lifecycle : WorkLifecycleSnapshot

structure JournalStore where
  events : List JournalEvent
  streamHeads : JournalStreamId → Option StreamSeq
  root : Option RootRow
  conversations : ConversationId → Option ConversationRow
  messages : List MessageId
  works : WorkId → Option WorkRow

def JournalStore.empty : JournalStore where
  events := []
  streamHeads := fun _ => none
  root := none
  conversations := fun _ => none
  messages := []
  works := fun _ => none

variable (store : JournalStore) (journalOffset : JournalOffset) (root : CraxiiInitializedV1) (craxiiId : CraxiiId) (workId : WorkId) (row : WorkRow) (next : WorkLifecycleSnapshot) (eventId : JournalEventId)

def JournalStore.hasEvent : Bool :=
  store.events.any fun event => event.eventId == eventId

def JournalStore.allocateStreamSequence (stream : JournalStreamId) : Option StreamSeq :=
  match store.streamHeads stream with
  | none => some .one
  | some previous => previous.checkedIncrement

def JournalAppendIntent.event (intent : JournalAppendIntent) (journalOffset : JournalOffset)
    (streamSeq : StreamSeq) : JournalEvent where
  journalOffset
  eventId := intent.eventId
  craxiiId := intent.craxiiId
  streamId := intent.streamId
  streamSeq
  eventVersion := intent.payload.version
  conversationId := intent.conversationId
  workId := intent.workId
  causationEventId := intent.causationEventId
  correlationId := intent.correlationId
  actor := intent.actor
  runtimeInstanceId := intent.runtimeInstanceId
  payload := intent.payload

/-- `append_event`. Event ids are unique, the cause is an event that is already stored, and
the offset the store hands out is above every earlier one. -/
def JournalStore.appendEvent (intent : JournalAppendIntent) : Option JournalStore :=
  if store.hasEvent intent.eventId ||
      !intent.causationEventId.all store.hasEvent ||
      !store.events.all fun event => decide (event.journalOffset.value < journalOffset.value) then none
  else (store.allocateStreamSequence intent.streamId).map fun streamSeq =>
    { store with
      events := store.events ++ [intent.event journalOffset streamSeq]
      streamHeads := Function.update store.streamHeads intent.streamId (some streamSeq) }

def rootIntent (correlationId : CorrelationId) :
    JournalAppendIntent where
  eventId
  craxiiId := root.craxiiId
  streamId := .craxii root.craxiiId
  conversationId := some root.primaryConversationId
  workId := none
  causationEventId := none
  correlationId
  actor := .craxii root.craxiiId
  runtimeInstanceId := none
  payload := .craxiiInitialized root

def JournalStore.recordRoot (correlationId : CorrelationId) : Option JournalStore :=
  if store.root.isSome then none
  else (store.appendEvent journalOffset (rootIntent root eventId correlationId)).map fun appended =>
    { appended with root := some ⟨root, eventId, correlationId⟩ }

/-- The creation event of a store that was bootstrapped before schema version 6 is the V1
one, which has no owner; the migration then gives the row its owner. -/
inductive CreationRecord
  | v1
  | v2
deriving DecidableEq

def CreationRecord.payload (conversationId : ConversationId)
    (ownerUserId : UserId) (createdAt : UtcTimestamp) : CreationRecord → JournalEventPayload
  | .v1 => .conversationCreated ⟨conversationId, root.craxiiId, .one, .one, createdAt⟩
  | .v2 => .conversationCreatedV2 ⟨conversationId, root.craxiiId, ownerUserId, .one, .one, createdAt⟩

def creationIntent (root : RootRow) (record : CreationRecord) (conversationId : ConversationId)
    (ownerUserId : UserId) (eventId : JournalEventId) (createdAt : UtcTimestamp) :
    JournalAppendIntent where
  eventId
  craxiiId := root.root.craxiiId
  streamId := .conversation conversationId
  conversationId := some conversationId
  workId := none
  causationEventId := some root.eventId
  correlationId := root.correlationId
  actor := .craxii root.root.craxiiId
  runtimeInstanceId := none
  payload := record.payload root.root conversationId ownerUserId createdAt

def JournalStore.createConversation
    (record : CreationRecord) (conversationId : ConversationId) (ownerUserId : UserId)
    (eventId : JournalEventId) (createdAt : UtcTimestamp) : Option JournalStore := do
  let root ← store.root
  if (store.conversations conversationId).isSome ||
      (record == .v1 && conversationId != root.root.primaryConversationId) then none
  else
    let appended ← store.appendEvent journalOffset
      (creationIntent root record conversationId ownerUserId eventId createdAt)
    some { appended with
      conversations := Function.update appended.conversations conversationId
        (some ⟨ownerUserId, .one, .one, eventId⟩) }

structure CanonicalMessageAdmission where
  conversationId : ConversationId
  origin : MessageAcceptedOriginV2
  content : MessageContent
  replyBindingId : Option ConversationBindingId
  admittedAt : UtcTimestamp
  messageId : MessageId
  workId : WorkId
  (acceptanceEventId queuedEventId : JournalEventId)

section Admission

variable (sha256 : List UInt8 → Sha256Digest) (root : CraxiiInitializedV1) (row : ConversationRow)
  (admission : CanonicalMessageAdmission)

def CanonicalMessageAdmission.messagePayload : MessageCommittedV2 where
  messageId := admission.messageId
  craxiiId := root.craxiiId
  conversationId := admission.conversationId
  role := .user
  content := admission.content
  contentSha256 := sha256 admission.content.canonicalBytes
  authorUserId := row.ownerUserId
  origin := admission.origin
  committedAt := admission.admittedAt

def CanonicalMessageAdmission.acceptedIntent : JournalAppendIntent where
  eventId := admission.acceptanceEventId
  craxiiId := root.craxiiId
  streamId := .conversation admission.conversationId
  conversationId := some admission.conversationId
  workId := none
  causationEventId := some row.createdEventId
  correlationId := correlationForWork admission.workId
  actor := .userV2 row.ownerUserId
  runtimeInstanceId := none
  payload := .messageAcceptedV2 (admission.messagePayload sha256 root row)

def CanonicalMessageAdmission.queuedPayload : WorkQueuedV1 where
  workId := admission.workId
  craxiiId := root.craxiiId
  conversationId := admission.conversationId
  conversationWorkOrdinal := row.nextWorkOrdinal
  priority := 0
  workspaceId := root.workspaceId
  correlationId := correlationForWork admission.workId
  stateVersion := .one
  createdAt := admission.admittedAt
  queuedAt := admission.admittedAt
  trigger := {
    inputEventId := admission.acceptanceEventId
    relationship := .trigger
    ordinalWithinWork := .one
    attachedAt := admission.admittedAt
    actor := .user }

def CanonicalMessageAdmission.queuedIntent : JournalAppendIntent where
  eventId := admission.queuedEventId
  craxiiId := root.craxiiId
  streamId := .work admission.workId
  conversationId := some admission.conversationId
  workId := some admission.workId
  causationEventId := some admission.acceptanceEventId
  correlationId := correlationForWork admission.workId
  actor := .craxii root.craxiiId
  runtimeInstanceId := none
  payload := .workQueuedV2 ⟨admission.queuedPayload root row, admission.replyBindingId⟩

end Admission

def JournalStore.admitMessage (sha256 : List UInt8 → Sha256Digest) (store : JournalStore)
    (acceptedOffset queuedOffset : JournalOffset) (admission : CanonicalMessageAdmission) :
    Option JournalStore := do
  let root ← store.root
  let row ← store.conversations admission.conversationId
  if decide (admission.messageId ∈ store.messages) || (store.works admission.workId).isSome then none
  else
    let accepted ← store.appendEvent acceptedOffset (admission.acceptedIntent sha256 root.root row)
    let queued ← accepted.appendEvent queuedOffset (admission.queuedIntent root.root row)
    let nextWorkOrdinal ← row.nextWorkOrdinal.checkedIncrement
    let stateVersion ← row.stateVersion.checkedIncrement
    some { queued with
      messages := queued.messages ++ [admission.messageId]
      conversations := Function.update queued.conversations admission.conversationId
        (some { row with nextWorkOrdinal, stateVersion })
      works := Function.update queued.works admission.workId (some {
        conversationId := admission.conversationId
        correlationId := correlationForWork admission.workId
        lifecycle := .initial admission.workId }) }

def workPayload (expected next : WorkLifecycleSnapshot) (transitionedAt : UtcTimestamp) :
    Option JournalEventPayload :=
  let value := WorkTransitionV1.between expected next transitionedAt
  match next.state with
  | .running => some (.workTransition .workResumed value)
  | .waitingOnModel => some (.workTransition .workWaitingOnModel value)
  | .waitingOnTool => some (.workTransition .workWaitingOnTool value)
  | .cancelRequested => some (.workTransition .workCancelRequested value)
  | .completed => some (.workTransition .workCompleted value)
  | .failed => some (.workTransition .workFailed value)
  | .cancelled => some (.workTransition .workCancelled value)
  | .interrupted => some (.workTransition .workInterrupted value)
  | .queued => none

/-- `terminal_reason` of `stage10.rs`: it knows the reasons of the states its writer
accepts and answers nothing for the others. -/
def recoveryTerminalReason : Option WorkTerminalReason → Option JournalWorkTerminalReason
  | some (.cancellation .userRequest) => some .userRequest
  | some (.cancellation .gracefulShutdown) => some .gracefulShutdown
  | some (.interruption .runtimeOwnershipLost) => some .runtimeOwnershipLost
  | some (.interruption .providerOutcomeUnknown) => some .providerOutcomeUnknown
  | some (.interruption .toolInterruptedBeforeDispatch) => some .toolInterruptedBeforeDispatch
  | some (.interruption .toolOutcomeUnknown) => some .toolOutcomeUnknown
  | some (.interruption .cleanupUnconfirmed) => some .cleanupUnconfirmed
  | _ => none

def transitionPayload (current next : WorkLifecycleSnapshot) (transitionedAt : UtcTimestamp) :
    WorkTransitionV1 :=
  { WorkTransitionV1.between current next transitionedAt with
    terminalReason := recoveryTerminalReason next.terminalReason }

def recoveryPayload (current next : WorkLifecycleSnapshot) (transitionedAt : UtcTimestamp) :
    Option JournalEventPayload :=
  let value := transitionPayload current next transitionedAt
  match next.state with
  | .running => some (.workTransition .workStarted value)
  | .cancelRequested => some (.workTransition .workCancelRequested value)
  | .cancelled => some (.workTransition .workCancelled value)
  | .interrupted => some (.workTransition .workInterrupted value)
  | _ => none

structure EventIntent where
  eventId : JournalEventId
  correlationId : CorrelationId
  causationEventId : Option JournalEventId

/-- The event of a decision on the row; its runtime is the owner of the next snapshot for every
caller. -/
def decisionIntent (causationEventId : Option JournalEventId) (actor : JournalActor)
    (payload : JournalEventPayload) : JournalAppendIntent where
  eventId
  craxiiId
  streamId := .work workId
  conversationId := some row.conversationId
  workId := some workId
  causationEventId
  correlationId := row.correlationId
  actor
  runtimeInstanceId := next.runtimeOwner
  payload

def JournalStore.appendWorkEvent
    (intent : EventIntent) (payload : JournalEventPayload) : Option JournalStore :=
  if intent.correlationId ≠ row.correlationId then none
  else store.appendEvent journalOffset (decisionIntent craxiiId workId row next intent.eventId
    intent.causationEventId (.craxii craxiiId) payload)

def JournalStore.latestStreamEvent (stream : JournalStreamId) : Option JournalEventId :=
  (store.events.filter fun event => event.streamId == stream).getLast?.map (·.eventId)

def JournalStore.appendWorkTransition
    (currentRuntime : RuntimeInstanceId) (eventId cause : JournalEventId)
    (payload : JournalEventPayload) : Option JournalStore :=
  store.appendEvent journalOffset (decisionIntent craxiiId workId row next eventId (some cause)
    (.runtime currentRuntime) payload)

inductive DecisionWriter
  | stage8 (intent : EventIntent)
  | stage10 (currentRuntime : RuntimeInstanceId) (eventId : JournalEventId)

def JournalStore.journalDecision
    (transitionedAt : UtcTimestamp) : DecisionWriter → Option JournalStore
  | .stage8 intent => do
      let payload ← workPayload row.lifecycle next transitionedAt
      store.appendWorkEvent journalOffset craxiiId workId row next intent payload
  | .stage10 currentRuntime eventId => do
      let cause ← store.latestStreamEvent (.work workId)
      let payload ← recoveryPayload row.lifecycle next transitionedAt
      store.appendWorkTransition journalOffset craxiiId workId row next currentRuntime eventId cause payload

def JournalStore.decide
    (input : WorkInput) (transitionedAt : UtcTimestamp) (writer : DecisionWriter) :
    Option JournalStore := do
  let root ← store.root
  let row ← store.works workId
  let next ← stepWork row.lifecycle input
  let appended ← store.journalDecision journalOffset root.root.craxiiId workId row next transitionedAt writer
  some { appended with
    works := Function.update appended.works workId (some { row with lifecycle := next }) }

inductive JournalMove
  | recordRoot (journalOffset : JournalOffset) (root : CraxiiInitializedV1) (eventId : JournalEventId)
      (correlationId : CorrelationId)
  | createConversation (journalOffset : JournalOffset) (record : CreationRecord)
      (conversationId : ConversationId) (ownerUserId : UserId) (eventId : JournalEventId)
      (createdAt : UtcTimestamp)
  | admitMessage (acceptedOffset queuedOffset : JournalOffset) (admission : CanonicalMessageAdmission)
  | decide (journalOffset : JournalOffset) (workId : WorkId) (input : WorkInput)
      (transitionedAt : UtcTimestamp) (writer : DecisionWriter)

def journalStep (sha256 : List UInt8 → Sha256Digest) (store : JournalStore) :
    JournalMove → Option JournalStore
  | .recordRoot journalOffset root eventId correlationId =>
    store.recordRoot journalOffset root eventId correlationId
  | .createConversation journalOffset record conversationId ownerUserId eventId createdAt =>
    store.createConversation journalOffset record conversationId ownerUserId eventId createdAt
  | .admitMessage acceptedOffset queuedOffset admission =>
    store.admitMessage sha256 acceptedOffset queuedOffset admission
  | .decide journalOffset workId input transitionedAt writer =>
    store.decide journalOffset workId input transitionedAt writer

end Craxii.Projector
