import Craxii.Store.IngressVerifyCore

/-!
Embedding of `verify_client_commands` of `stage9.rs`.
-/

namespace Craxii

open ExceptRules Tables

variable (sha256 : List UInt8 → Sha256Digest) (event : JournalEvent) (store : IngressStore) (command : ClientCommandRow)

namespace IngressStore

def verifyCommandAcceptance
    (clientMessageId : ClientMessageId) (receipt : MessageCommandReceipt) (message : MessageRow)
    (input : WorkInputRow) : Except StoreRefusal Unit := do
  let accepted ← orRefuse (store.findEvent input.inputEventId) .inconsistentSchema
  let cause ← orRefuse (accepted.causationEventId.bind store.findEvent) .inconsistentSchema
  match accepted.payload with
  | .messageAcceptedV2 payload =>
    require (input.attachedAt == message.committedAt && payload.messageId == message.id &&
      payload.content == message.content && payload.authorUserId == message.authorUserId &&
      payload.origin == .native command.deviceId clientMessageId &&
      accepted.actor == .userV2 payload.authorUserId &&
      accepted.streamId == .conversation receipt.conversationId &&
      accepted.conversationId == some receipt.conversationId && accepted.workId.isNone &&
      accepted.correlationId == correlationForWork receipt.workId &&
      cause.isConversationCreated && cause.streamId == .conversation receipt.conversationId)
  | _ => .error .inconsistentSchema

def verifyCommandQueued (receipt : MessageCommandReceipt)
    (acceptedEventId : JournalEventId) : Except StoreRefusal Unit := do
  let queued ← orRefuse (store.journal.find? fun event =>
    event.journalOffset == receipt.committedCursor && event.workId == some receipt.workId)
    .inconsistentSchema
  match queued.payload with
  | .workQueuedV2 payload =>
    require (payload.workId == receipt.workId && payload.conversationId == receipt.conversationId &&
      payload.conversationWorkOrdinal == receipt.workOrdinal &&
      payload.correlationId == correlationForWork receipt.workId &&
      payload.triggerEventId == acceptedEventId && payload.replyBindingId.isNone &&
      queued.streamId == .work receipt.workId && queued.causationEventId == some acceptedEventId &&
      queued.correlationId == correlationForWork receipt.workId && queued.actor == .craxii)
  | _ => .error .inconsistentSchema

def verifyMessageCommand : Except StoreRefusal Unit :=
  let clientMessageId : ClientMessageId := ⟨command.idempotencyKey.uuid⟩
  match store.messages.filter fun row => row.origin == .native command.deviceId clientMessageId with
  | [message] => do
      let receipt ← decodeMessageReceipt command
      require (message.id == receipt.messageId && message.conversationId == receipt.conversationId &&
        message.committedAt == command.createdAt && command.requestHash ==
          sha256 (messageMaterial receipt.conversationId clientMessageId message.content))
      let work ← orRefuse (store.works.find? fun row => row.id == receipt.workId) .inconsistentSchema
      require (work.conversationId == receipt.conversationId && work.ordinal == receipt.workOrdinal &&
        work.correlationId == correlationForWork receipt.workId)
      match store.inputs.filter fun input => input.workId == receipt.workId with
      | [input] => do
          store.verifyCommandAcceptance command clientMessageId receipt message input
          store.verifyCommandQueued receipt input.inputEventId
      | _ => .error .inconsistentSchema
  | _ => .error .inconsistentSchema

end IngressStore

def cancellationEventMatchesMaterial
    (receipt : CancellationCommandReceipt) (correlationId : CorrelationId) : Bool :=
  event.cancellationTransition.any fun transition =>
    transition.workId == receipt.workId && transition.toState == receipt.resultingWorkState &&
      transition.transitionedAt == command.createdAt && event.streamId == .work receipt.workId &&
      event.workId == some receipt.workId && event.correlationId == correlationId &&
      event.actor == .user (some command.deviceId)

namespace JournalEvent

def requestsCancellation (workId : WorkId) : Bool :=
  match event.payload with
  | .workTransition .workCancelRequested transition
  | .workCancelRequestedV2 transition _ =>
    transition.workId == workId && transition.toState == .cancelRequested
  | _ => false

def endsIn (state : WorkState) : Bool :=
  match event.payload with
  | .workTransition .workCompleted transition
  | .workTransition .workFailed transition
  | .workTransition .workCancelled transition
  | .workTransition .workInterrupted transition
  | .workCancelledV2 transition _ => transition.toState == state
  | _ => false

end JournalEvent

namespace IngressStore

def compatibleNoOp (receipt : CancellationCommandReceipt) (currentState : WorkState) : Bool :=
  match receipt.resultingWorkState with
  | .cancelRequested =>
    (currentState == .cancelRequested || currentState.isTerminal) && store.journal.any fun event =>
      decide (event.journalOffset ≤ receipt.committedCursor) &&
        event.workId == some receipt.workId && event.requestsCancellation receipt.workId
  | state =>
    state.isTerminal && currentState == state && store.journal.any fun event =>
      decide (event.journalOffset ≤ receipt.committedCursor) &&
        event.workId == some receipt.workId && event.endsIn state

def verifyCancellationCommand : Except StoreRefusal Unit := do
  let clientCommandId : ClientCommandId := ⟨command.idempotencyKey.uuid⟩
  let receipt ← decodeCancellationReceipt command
  require (command.requestHash == sha256 (cancellationMaterial clientCommandId receipt.workId))
  let work ← orRefuse (store.works.find? fun row => row.id == receipt.workId) .inconsistentSchema
  let cursorEvent ← orRefuse (store.journal.find? fun event =>
    event.journalOffset == receipt.committedCursor) .inconsistentSchema
  if cancellationEventMatchesCommand cursorEvent command receipt work.correlationId then
    return ()
  require (!store.journal.any fun event =>
    cancellationEventMatchesMaterial event command receipt work.correlationId)
  require (store.compatibleNoOp receipt work.work.state)

def verifyCommand : Except StoreRefusal Unit := do
  require ((store.devices.filter fun device => device.id == command.deviceId).length == 1 &&
    store.journal.any fun event => event.journalOffset == command.committedCursor)
  match command.kind with
  | .message => store.verifyMessageCommand sha256 command
  | .cancel => store.verifyCancellationCommand sha256 command

def verifyClientCommands :
    Except StoreRefusal Unit := do
  store.commands.forM (store.verifyCommand sha256)
  store.verifyStage9CancellationEvents

end IngressStore

end Craxii
