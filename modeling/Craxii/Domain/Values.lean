import Craxii.Lib.Utf8Text

/-!
Shared values: canonical UUIDv7 identities, positive signed 64-bit sequence values and the
normalized error classification.
-/

namespace Craxii

open Utf8Text

def i64Max : Nat := 9223372036854775807

def isLowerHex (c : Char) : Bool :=
  ('0' ≤ c && c ≤ '9') || ('a' ≤ c && c ≤ 'f')

/-- `parse_uuid_v7`'s acceptance: 36 characters, hyphens at the four group
boundaries, lowercase hex elsewhere, version 7 and the RFC 4122 variant. -/
def isCanonicalUuidV7 (text : Text) : Bool :=
  text.length == 36 &&
    text.zipIdx.all (fun (c, index) =>
      if index ∈ [8, 13, 18, 23] then c == '-'
      else if index == 14 then c == '7'
      else if index == 19 then c == '8' || c == '9' || c == 'a' || c == 'b'
      else isLowerHex c)

structure Uuid where
  text : Text
  canonical : isCanonicalUuidV7 text = true
deriving DecidableEq

inductive IdKind
  | work | runtimeInstance | modelInvocation | toolExecution | logicalInvocation | contextManifest
  | conversation | message | journalEvent | artifact | workspace | workstation | craxii
  | correlation | execution | user | device | clientMessage | clientCommand | channelAccount
  | externalIdentity | conversationBinding | inboundDelivery | outboundDelivery

structure Identity (kind : IdKind) where
  uuid : Uuid
deriving DecidableEq

abbrev WorkId := Identity .work
abbrev RuntimeInstanceId := Identity .runtimeInstance
abbrev ModelInvocationId := Identity .modelInvocation
abbrev ToolExecutionId := Identity .toolExecution
abbrev LogicalInvocationId := Identity .logicalInvocation
abbrev ContextManifestId := Identity .contextManifest
abbrev ConversationId := Identity .conversation
abbrev MessageId := Identity .message
abbrev JournalEventId := Identity .journalEvent
abbrev ArtifactId := Identity .artifact
abbrev WorkspaceId := Identity .workspace
abbrev WorkstationId := Identity .workstation
abbrev CraxiiId := Identity .craxii
abbrev CorrelationId := Identity .correlation
abbrev ExecutionId := Identity .execution
abbrev UserId := Identity .user
abbrev DeviceId := Identity .device
abbrev ClientMessageId := Identity .clientMessage
abbrev ClientCommandId := Identity .clientCommand
abbrev ChannelAccountId := Identity .channelAccount
abbrev ExternalIdentityId := Identity .externalIdentity
abbrev ConversationBindingId := Identity .conversationBinding
abbrev InboundDeliveryId := Identity .inboundDelivery
abbrev OutboundDeliveryId := Identity .outboundDelivery

def Identity.toText {kind : IdKind} (id : Identity kind) : Text :=
  id.uuid.text

def Identity.parseCanonical (kind : IdKind) (text : Text) : Option (Identity kind) :=
  if canonical : isCanonicalUuidV7 text = true then some ⟨⟨text, canonical⟩⟩ else none

@[simp] theorem Identity.parseCanonical_toText {kind : IdKind} (id : Identity kind) :
    Identity.parseCanonical kind id.toText = some id := by
  simp [Identity.parseCanonical, Identity.toText, id.uuid.canonical]

theorem Identity.toText_injective {kind : IdKind} : Function.Injective (@Identity.toText kind) := by
  rintro ⟨⟨first, _⟩⟩ ⟨⟨second, _⟩⟩ same
  simpa [Identity.toText] using same

structure PositiveInteger where
  value : Nat
  positive : 0 < value
  bounded : value ≤ i64Max

instance : DecidableEq PositiveInteger := fun first second =>
  decidable_of_iff (first.value = second.value) (by cases first; cases second; simp)

abbrev ProjectionVersion := PositiveInteger
abbrev AgentStepNo := PositiveInteger
abbrev AttemptNo := PositiveInteger
abbrev ToolOrdinal := PositiveInteger
abbrev ConversationWorkOrdinal := PositiveInteger
abbrev JournalOffset := PositiveInteger
abbrev TargetConfigurationVersion := PositiveInteger
abbrev WorkstationGeneration := PositiveInteger

abbrev UtcTimestamp := Nat

namespace PositiveInteger

def tryNew (value : Nat) : Option PositiveInteger :=
  if valid : 0 < value ∧ value ≤ i64Max then some ⟨value, valid.1, valid.2⟩ else none

def one : PositiveInteger := ⟨1, by decide, by decide⟩

def checkedIncrement (current : PositiveInteger) : Option PositiveInteger :=
  if below : current.value + 1 ≤ i64Max then some ⟨current.value + 1, Nat.succ_pos _, below⟩
  else none

theorem checkedIncrement_some {current next : PositiveInteger}
    (incremented : current.checkedIncrement = some next) : next.value = current.value + 1 := by
  unfold checkedIncrement at incremented
  split at incremented
  · cases incremented
    rfl
  · cases incremented

theorem checkedIncrement_isSome_iff (current : PositiveInteger) :
    current.checkedIncrement.isSome = true ↔ current.value < i64Max := by
  unfold checkedIncrement
  split
  · simp
    omega
  · simp
    omega

end PositiveInteger

inductive ErrorCategory
  | authenticationError | clientProtocolError | idempotencyError | storageError | stateConflict
  | contextError | modelSelectionError | providerError | toolValidationError | authorityError
  | workstationError | artifactError | cancellationError | internalInvariantError
deriving DecidableEq

inductive Retryability
  | never | bounded | userAction | operatorAction
deriving DecidableEq

inductive Certainty
  | definite
  | outcomeUnknown
deriving DecidableEq

/-- The classification a `NormalizedError` carries. Its code and safe message are
functions of the category for every constructor the model uses. -/
structure NormalizedError where
  category : ErrorCategory
  retryability : Retryability
  certainty : Certainty
  sourceStatus : Option Nat
deriving DecidableEq

variable (certainty : Certainty) (sourceStatus : Option Nat)

namespace NormalizedError

def authentication : NormalizedError :=
  ⟨.authenticationError, .userAction, .definite, none⟩

def context : NormalizedError :=
  ⟨.contextError, .never, .definite, none⟩

def provider : NormalizedError :=
  ⟨.providerError, .never, certainty, sourceStatus⟩

def providerBounded : NormalizedError :=
  ⟨.providerError, .bounded, certainty, sourceStatus⟩

def cancellation : NormalizedError :=
  ⟨.cancellationError, .never, certainty, none⟩

def artifact : NormalizedError :=
  ⟨.artifactError, .operatorAction, certainty, sourceStatus⟩

def workstation : NormalizedError :=
  ⟨.workstationError, .never, certainty, sourceStatus⟩

def internalInvariant : NormalizedError :=
  ⟨.internalInvariantError, .operatorAction, .definite, none⟩

end NormalizedError

end Craxii
