import Craxii.Domain.LifecycleCore
import Craxii.Domain.ModelCore
import Craxii.Lib.Framing

/-!
Embedding of `domain/content.rs` and `domain/command.rs`: bounded content, the canonical bytes of
a command and the receipts a committed command keeps.
-/

namespace Craxii

open Utf8Text Framing

def maxContentTextBytes : Nat := 65536

structure MessageContent where
  blocks : List Text
  nonempty : blocks ≠ []
  blocksNonempty : ∀ block ∈ blocks, block ≠ []
  bounded : (blocks.map utf8Len).sum ≤ maxContentTextBytes
deriving DecidableEq

def MessageContent.tryNew (blocks : List Text) : Option MessageContent :=
  if valid : blocks ≠ [] ∧ (∀ block ∈ blocks, block ≠ []) ∧
      (blocks.map utf8Len).sum ≤ maxContentTextBytes then
    some ⟨blocks, valid.1, valid.2.1, valid.2.2⟩
  else none

def blockBytes (block : Text) : List UInt8 :=
  1 :: frame (toUtf8 block)

def MessageContent.canonicalBytes (content : MessageContent) : List UInt8 :=
  toUtf8 "craxii.content".toList ++ 1 :: bigEndian 4 content.blocks.length ++
    content.blocks.flatMap blockBytes

inductive CommandKind
  | message
  | cancel
deriving DecidableEq

def CommandKind.asText : CommandKind → Text
  | .message => "message".toList
  | .cancel => "cancel".toList

def protocolVersion : Nat := 1

def commandMaterial (fields : List (List UInt8)) : List UInt8 :=
  toUtf8 "craxii.command".toList ++ 1 :: fields.flatMap frame

def messageMaterial (conversationId : ConversationId) (clientMessageId : ClientMessageId)
    (content : MessageContent) : List UInt8 :=
  commandMaterial [bigEndian 8 protocolVersion, toUtf8 CommandKind.message.asText,
    toUtf8 conversationId.toText, toUtf8 clientMessageId.toText, content.canonicalBytes]

def cancellationMaterial (clientCommandId : ClientCommandId) (workId : WorkId) : List UInt8 :=
  commandMaterial [bigEndian 8 protocolVersion, toUtf8 CommandKind.cancel.asText,
    toUtf8 clientCommandId.toText, toUtf8 workId.toText]

structure IdempotencyKey where
  uuid : Uuid
deriving DecidableEq

def IdempotencyKey.forMessage (id : ClientMessageId) : IdempotencyKey := ⟨id.uuid⟩

def IdempotencyKey.forCancellation (id : ClientCommandId) : IdempotencyKey := ⟨id.uuid⟩

inductive CancellationCleanupDisposition
  | notPending
  | pending
deriving DecidableEq

def CancellationCleanupDisposition.isPending : CancellationCleanupDisposition → Bool
  | .pending => true
  | .notPending => false

structure MessageCommandReceipt where
  conversationId : ConversationId
  messageId : MessageId
  workId : WorkId
  workOrdinal : ConversationWorkOrdinal
  committedCursor : Nat
deriving DecidableEq

structure CancellationCommandReceipt where
  workId : WorkId
  resultingWorkState : WorkState
  cleanup : CancellationCleanupDisposition
  committedCursor : Nat

def CancellationCommandReceipt.tryNew (workId : WorkId) (resultingWorkState : WorkState)
    (cleanup : CancellationCleanupDisposition) (committedCursor : Nat) :
    Option CancellationCommandReceipt :=
  match resultingWorkState, cleanup with
  | .cancelRequested, .pending
  | .completed, .notPending
  | .failed, .notPending
  | .cancelled, .notPending
  | .interrupted, .notPending =>
    some ⟨workId, resultingWorkState, cleanup, committedCursor⟩
  | _, _ => none

def CancellationCommandReceipt.httpStatus (receipt : CancellationCommandReceipt) : Nat :=
  if receipt.cleanup.isPending then 202 else 200

def MessageCommandReceipt.httpStatus : Nat := 202

inductive CommandOutcome (Receipt : Type)
  | committed (receipt : Receipt)
  | replayed (receipt : Receipt)

def sampleContent : MessageContent where
  blocks := ["hi".toList]
  nonempty := by decide
  blocksNonempty := by decide
  bounded := by decide

end Craxii
