import Craxii.Domain.Values
import Craxii.Lib.ExceptRules
import Craxii.Lib.JsonRead

/-!
Embedding of `domain/model.rs`: bounded references and text parts, output items, the response with
its construction check, and the stream-order validator.
-/

namespace Craxii

open Utf8Text ExceptRules

inductive ModelContractErrorKind
  | invalidTarget | invalidRequest | invalidText | invalidStructuredData | invalidToolName
  | invalidToolArguments | toolArgumentsTooLarge | tooManyOutputItems | duplicateToolCallId
  | invalidUsage | invalidProviderEvidence | unknownSemanticItem | invalidTerminalSemantics
  | invalidStreamOrdering | normalizedOutputTooLarge
deriving DecidableEq

def maxModelOutputItems : Nat := 64
def maxModelToolArgumentBytes : Nat := 65536
def maxNormalizedModelResponseBytes : Nat := 262144
def maxModelComponentBytes : Nat := 65536
def maxProviderEvidenceIdBytes : Nat := 128

/-! Bounded references. Every one of them is a text its validator accepted. -/

structure CheckedText (accepts : Text → Bool) where
  text : Text
  accepted : accepts text = true
deriving DecidableEq

def CheckedText.tryNew (accepts : Text → Bool) (text : Text) : Option (CheckedText accepts) :=
  if accepted : accepts text = true then some ⟨text, accepted⟩ else none

@[simp] theorem CheckedText.tryNew_text {accepts : Text → Bool} (reference : CheckedText accepts) :
    CheckedText.tryNew accepts reference.text = some reference := by
  simp [CheckedText.tryNew, reference.accepted]

def isLowerReferenceTail (c : Char) : Bool :=
  c.isLower || c.isDigit || c == '.' || c == '_' || c == '-'

def lowerReference (maximum : Nat) : Text → Bool
  | [] => false
  | first :: rest =>
    decide (utf8Len (first :: rest) ≤ maximum) && (first.isLower || first.isDigit) &&
      rest.all isLowerReferenceTail

def providerModel (maximum : Nat) (text : Text) : Bool :=
  isBoundedTrimmed text maximum && !text.any fun c => c.toNat < 0x20 || c.toNat == 0x7f

abbrev ProviderId := CheckedText (lowerReference 64)
abbrev ModelTargetId := CheckedText (lowerReference 64)
abbrev ToolName := CheckedText (lowerReference 64)
abbrev ProviderModelId := CheckedText (providerModel 128)
abbrev ModelToolCallId := CheckedText (isIdentifier · maxProviderEvidenceIdBytes)
abbrev ProviderEvidenceId := CheckedText (isIdentifier · maxProviderEvidenceIdBytes)

abbrev ModelConfigReference := CheckedText (isIdentifier · 128)

abbrev ModelTextPart :=
  CheckedText fun text => !text.isEmpty && decide (utf8Len text ≤ maxModelComponentBytes)

abbrev Sha256Digest := CheckedText fun text => text.length == 64 && text.all isLowerHex

def zeroDigest : Sha256Digest := ⟨List.replicate 64 '0', by decide⟩

structure ModelTargetIdentity where
  modelTargetId : ModelTargetId
  providerId : ProviderId
  providerModelId : ProviderModelId
  targetConfigurationVersion : TargetConfigurationVersion
deriving DecidableEq

def ModelTargetIdentity.semanticValue (identity : ModelTargetIdentity) : Json :=
  .obj [
    ("model_target_id".toList, .str identity.modelTargetId.text),
    ("provider_id".toList, .str identity.providerId.text),
    ("provider_model_id".toList, .str identity.providerModelId.text),
    ("target_configuration_version".toList, .natural identity.targetConfigurationVersion.value)]

structure ModelCapabilitySnapshot where
  (textInput textOutput customToolCalling streaming orderedOutputItems structuredOutput : Bool)
  reasoningContinuation : Bool
  (contextWindowTokens maxOutputTokens : Nat)
deriving DecidableEq

structure ProviderModelReference where
  identity : ModelTargetIdentity
  capabilities : ModelCapabilitySnapshot
deriving DecidableEq

structure ModelTarget where
  reference : ProviderModelReference
  enabled : Bool
  (endpointReference accountReference : Text)
  requestedOutputTokens : Nat
  estimatorId : Text
  estimatorVersion : Nat
  reasoningContinuation : Bool
  outputWithin : requestedOutputTokens ≤ reference.capabilities.maxOutputTokens
  continuationCapable : reasoningContinuation = true → reference.capabilities.reasoningContinuation = true
deriving DecidableEq

structure CanonicalModelToolCall where
  callId : ModelToolCallId
  name : ToolName
  rawArguments : Text
  parsedArguments : Option Json

def CanonicalModelToolCall.requireValidArguments (call : CanonicalModelToolCall) :
    Except ModelContractErrorKind Json :=
  orRefuse call.parsedArguments .invalidToolArguments

def CanonicalModelToolCall.semanticValue (call : CanonicalModelToolCall) : Json :=
  .obj [
    ("arguments_valid_json".toList, .bool call.parsedArguments.isSome),
    ("call_id".toList, .str call.callId.text),
    ("name".toList, .str call.name.text),
    ("parsed_arguments".toList, call.parsedArguments.getD .null),
    ("raw_arguments".toList, .str call.rawArguments)]

structure ProviderOpaqueEvidence where
  providerId : ProviderId
  typeLabel : ModelConfigReference
  opaqueText : ModelTextPart
  sha256 : Sha256Digest

def ProviderOpaqueEvidence.semanticValue (evidence : ProviderOpaqueEvidence) : Json :=
  .obj [
    ("opaque".toList, .str evidence.opaqueText.text),
    ("provider_id".toList, .str evidence.providerId.text),
    ("sha256".toList, .str evidence.sha256.text),
    ("type_label".toList, .str evidence.typeLabel.text)]

inductive ModelOutputItem
  | text (contentParts : List ModelTextPart)
  | toolCall (call : CanonicalModelToolCall)
  | structuredData (data : Json)
  | refusal (contentParts : List ModelTextPart)
  | reasoningSummary (contentParts : List ModelTextPart)
  | providerOpaque (evidence : ProviderOpaqueEvidence)
  | unknownProviderItem (evidence : ProviderOpaqueEvidence)

def textValues (parts : List ModelTextPart) : Json :=
  .arr (parts.map fun part => .str part.text)

def ModelOutputItem.semanticValue : ModelOutputItem → Json
  | .text parts =>
    .obj [("content_parts".toList, textValues parts), ("kind".toList, .str "text".toList)]
  | .toolCall call =>
    .obj [("call".toList, call.semanticValue), ("kind".toList, .str "tool_call".toList)]
  | .structuredData data =>
    .obj [("data".toList, data), ("kind".toList, .str "structured_data".toList)]
  | .refusal parts =>
    .obj [("content_parts".toList, textValues parts), ("kind".toList, .str "refusal".toList)]
  | .reasoningSummary parts =>
    .obj [("content_parts".toList, textValues parts),
      ("kind".toList, .str "reasoning_summary".toList)]
  | .providerOpaque evidence =>
    .obj [("evidence".toList, evidence.semanticValue),
      ("kind".toList, .str "provider_opaque".toList)]
  | .unknownProviderItem evidence =>
    .obj [("evidence".toList, evidence.semanticValue),
      ("kind".toList, .str "unknown_provider_item".toList)]

def ModelOutputItem.toolCall? : ModelOutputItem → Option CanonicalModelToolCall
  | .toolCall call => some call
  | _ => none

def ModelOutputItem.isUnknown : ModelOutputItem → Bool
  | .unknownProviderItem _ => true
  | _ => false

inductive ModelStopReason
  | completed | toolContinuation | refusal | incompleteProviderLimit | cancelled | providerFailure
deriving DecidableEq

def ModelStopReason.asStr : ModelStopReason → Text
  | .completed => "completed".toList
  | .toolContinuation => "tool_continuation".toList
  | .refusal => "refusal".toList
  | .incompleteProviderLimit => "incomplete_provider_limit".toList
  | .cancelled => "cancelled".toList
  | .providerFailure => "provider_failure".toList

structure ModelUsage where
  (inputTokens cachedInputTokens outputTokens reasoningTokens totalTokens : Nat)
  cachedWithin : cachedInputTokens ≤ inputTokens
  reasoningWithin : reasoningTokens ≤ outputTokens
  total : totalTokens = inputTokens + outputTokens
  bounded : totalTokens ≤ i64Max
deriving DecidableEq

def ModelUsage.semanticValue (usage : ModelUsage) : Json :=
  .obj [
    ("cached_input_tokens".toList, .natural usage.cachedInputTokens),
    ("input_tokens".toList, .natural usage.inputTokens),
    ("output_tokens".toList, .natural usage.outputTokens),
    ("reasoning_tokens".toList, .natural usage.reasoningTokens),
    ("total_tokens".toList, .natural usage.totalTokens)]

inductive ProviderMetadataValue
  | boolean (value : Bool)
  | integer (value : Int)
  | identifier (value : Text)

def ProviderMetadataValue.semanticValue : ProviderMetadataValue → Json
  | .boolean value => .bool value
  | .integer value => .integer value
  | .identifier value => .str value

abbrev ProviderMetadata := List (Text × ProviderMetadataValue)

def ProviderMetadata.semanticValue (metadata : ProviderMetadata) : Json :=
  .obj (metadata.map fun (key, value) => (key, value.semanticValue))

structure ModelResponseInput where
  selectedTarget : ModelTargetIdentity
  outputItems : List ModelOutputItem
  stopReason : ModelStopReason
  usage : Option ModelUsage
  (providerRequestId providerResponseId : Option ProviderEvidenceId)
  providerContinuation : Option ProviderOpaqueEvidence
  providerMetadata : ProviderMetadata

def jsonOption {Value : Type} (render : Value → Json) : Option Value → Json
  | some value => render value
  | none => .null

def ModelResponseInput.semanticValue (input : ModelResponseInput) : Json :=
  .obj [
    ("output_items".toList, .arr (input.outputItems.map (·.semanticValue))),
    ("provider_continuation".toList,
      jsonOption ProviderOpaqueEvidence.semanticValue input.providerContinuation),
    ("provider_metadata".toList, input.providerMetadata.semanticValue),
    ("provider_request_id".toList, jsonOption (fun id => .str id.text) input.providerRequestId),
    ("provider_response_id".toList, jsonOption (fun id => .str id.text) input.providerResponseId),
    ("selected_target".toList, input.selectedTarget.semanticValue),
    ("stop_reason".toList, .str input.stopReason.asStr),
    ("usage".toList, jsonOption ModelUsage.semanticValue input.usage)]

structure ResponseSemantics where
  answerText : Bool := false
  toolCall : Bool := false
  structuredData : Bool := false
  refusal : Bool := false
  reasoningSummary : Bool := false
  providerOpaque : Bool := false
  unknown : Bool := false

def ResponseSemantics.hasNormalAnswer (semantics : ResponseSemantics) : Bool :=
  semantics.answerText || semantics.structuredData

def ResponseSemantics.hasExposedSemantics (semantics : ResponseSemantics) : Bool :=
  semantics.answerText || semantics.toolCall || semantics.structuredData || semantics.refusal ||
    semantics.reasoningSummary || semantics.unknown

def responseSemantics : List ModelOutputItem → List Text → ResponseSemantics →
    Except ModelContractErrorKind ResponseSemantics
  | [], _, semantics => .ok semantics
  | .toolCall call :: rest, callIds, semantics =>
    if call.callId.text ∈ callIds then .error .duplicateToolCallId
    else responseSemantics rest (call.callId.text :: callIds) { semantics with toolCall := true }
  | .text _ :: rest, callIds, semantics =>
    responseSemantics rest callIds { semantics with answerText := true }
  | .structuredData _ :: rest, callIds, semantics =>
    responseSemantics rest callIds { semantics with structuredData := true }
  | .refusal _ :: rest, callIds, semantics =>
    responseSemantics rest callIds { semantics with refusal := true }
  | .reasoningSummary _ :: rest, callIds, semantics =>
    responseSemantics rest callIds { semantics with reasoningSummary := true }
  | .providerOpaque _ :: rest, callIds, semantics =>
    responseSemantics rest callIds { semantics with providerOpaque := true }
  | .unknownProviderItem _ :: rest, callIds, semantics =>
    responseSemantics rest callIds { semantics with unknown := true }

def stopIsConsistent (semantics : ResponseSemantics) : ModelStopReason → Bool
  | .completed =>
    semantics.hasNormalAnswer && !semantics.toolCall && !semantics.refusal && !semantics.unknown
  | .toolContinuation =>
    semantics.toolCall && !semantics.structuredData && !semantics.refusal && !semantics.unknown
  | .refusal =>
    semantics.refusal && !semantics.answerText && !semantics.toolCall &&
      !semantics.structuredData && !semantics.unknown
  | .incompleteProviderLimit => !semantics.toolCall && !semantics.refusal && !semantics.unknown
  | .cancelled => !semantics.hasExposedSemantics
  | .providerFailure =>
    !semantics.answerText && !semantics.toolCall && !semantics.structuredData &&
      !semantics.refusal && !semantics.reasoningSummary

def ModelResponseInput.check (input : ModelResponseInput) : Except ModelContractErrorKind Unit := do
  refuseIf (decide (maxModelOutputItems < input.outputItems.length)) .tooManyOutputItems
  let semantics ← responseSemantics input.outputItems [] {}
  refuseIf (!stopIsConsistent semantics input.stopReason) .invalidTerminalSemantics
  refuseIf (decide (maxNormalizedModelResponseBytes < input.semanticValue.byteLen))
    .normalizedOutputTooLarge

structure ModelResponse extends ModelResponseInput where
  checked : toModelResponseInput.check = .ok ()

def ModelResponse.tryNew (input : ModelResponseInput) : Except ModelContractErrorKind ModelResponse :=
  match checked : input.check with
  | .ok () => .ok { input with checked }
  | .error kind => .error kind

def ModelResponse.requireSupportedSemantics (response : ModelResponse) :
    Except ModelContractErrorKind Unit := do
  refuseIf (response.outputItems.any (·.isUnknown)) .unknownSemanticItem
  refuseIf (response.outputItems.any fun item =>
    item.toolCall?.any (·.parsedArguments.isNone)) .invalidToolArguments

inductive ModelStreamProviderErrorKind
  | definiteFailure | transientUnavailable | cancelled | outcomeUnknown | timeoutBeforeOutput
  | timeoutAfterOutput | protocolFailure
deriving DecidableEq

inductive ModelStreamEvent
  | responseStarted (target : ModelTargetIdentity) (providerRequestId : Option ProviderEvidenceId)
      (providerResponseId : Option ProviderEvidenceId)
  | textDelta (itemOrdinal : Nat) (delta : ModelTextPart)
  | reasoningSummaryDelta (itemOrdinal : Nat) (delta : ModelTextPart)
  | toolCallStarted (itemOrdinal : Nat) (callId : ModelToolCallId) (name : ToolName)
  | toolArgumentDelta (itemOrdinal : Nat) (callId : ModelToolCallId) (delta : Text)
  | toolCallCompleted (itemOrdinal : Nat) (call : CanonicalModelToolCall)
  | refusalDelta (itemOrdinal : Nat) (delta : ModelTextPart)
  | refusalCompleted (itemOrdinal : Nat)
  | structuredData (itemOrdinal : Nat) (data : Json)
  | usage (usage : ModelUsage)
  | usageUnavailable
  | completed (response : ModelResponse)
  | providerError (kind : ModelStreamProviderErrorKind)
  | unknownProviderEvent (evidence : ProviderOpaqueEvidence)

def ModelStreamEvent.isSemanticOutput : ModelStreamEvent → Bool
  | .textDelta _ _ | .reasoningSummaryDelta _ _ | .toolCallStarted _ _ _
  | .toolArgumentDelta _ _ _ | .toolCallCompleted _ _ | .refusalDelta _ _ | .refusalCompleted _
  | .structuredData _ _ | .unknownProviderEvent _ => true
  | _ => false

def ModelStreamEvent.isTerminal : ModelStreamEvent → Bool
  | .completed _ | .providerError _ => true
  | _ => false

def ModelStreamEvent.isResponseStarted : ModelStreamEvent → Bool
  | .responseStarted _ _ _ => true
  | _ => false

inductive ModelStreamState
  | noSemanticOutput | semanticOutputObserved | completed | definiteProviderError | cancelled
  | ambiguousTransportLoss | timeoutBeforeOutput | timeoutAfterOutput | protocolFailure

structure ActiveToolCall where
  itemOrdinal : Nat
  name : ToolName
  arguments : Text

structure ModelStreamValidator where
  startedTarget : Option ModelTargetIdentity := none
  semanticOutputObserved : Bool := false
  usage : Option ModelUsage := none
  usageUnavailable : Bool := false
  terminal : Option ModelStreamState := none
  activeCalls : List (Text × ActiveToolCall) := []
  seenCallIds : List Text := []

namespace ModelStreamValidator

def usageResultSeen (validator : ModelStreamValidator) : Bool :=
  validator.usage.isSome || validator.usageUnavailable

def terminalState : ModelStreamProviderErrorKind → ModelStreamState
  | .definiteFailure | .transientUnavailable => .definiteProviderError
  | .cancelled => .cancelled
  | .outcomeUnknown => .ambiguousTransportLoss
  | .timeoutBeforeOutput => .timeoutBeforeOutput
  | .timeoutAfterOutput => .timeoutAfterOutput
  | .protocolFailure => .protocolFailure

def appendArguments (calls : List (Text × ActiveToolCall)) (callId delta : Text) :
    List (Text × ActiveToolCall) :=
  calls.map fun (id, call) =>
    if id = callId then (id, { call with arguments := call.arguments ++ delta }) else (id, call)

def observeStarted (validator : ModelStreamValidator) :
    ModelStreamEvent → Except ModelContractErrorKind ModelStreamValidator
  | .textDelta itemOrdinal _ | .reasoningSummaryDelta itemOrdinal _ | .refusalDelta itemOrdinal _
  | .refusalCompleted itemOrdinal | .structuredData itemOrdinal _ => do
      refuseIf (decide (maxModelOutputItems ≤ itemOrdinal)) .invalidStreamOrdering
      return validator
  | .toolCallStarted itemOrdinal callId name => do
      refuseIf (decide (maxModelOutputItems ≤ itemOrdinal) ||
        decide (callId.text ∈ validator.seenCallIds)) .invalidStreamOrdering
      return { validator with
        seenCallIds := callId.text :: validator.seenCallIds
        activeCalls := (callId.text, ⟨itemOrdinal, name, []⟩) :: validator.activeCalls }
  | .toolArgumentDelta itemOrdinal callId delta => do
      let active ← orRefuse (validator.activeCalls.lookup callId.text) .invalidStreamOrdering
      refuseIf (active.itemOrdinal != itemOrdinal) .invalidStreamOrdering
      refuseIf (decide (maxModelToolArgumentBytes < utf8Len active.arguments + utf8Len delta))
        .toolArgumentsTooLarge
      return { validator with
        activeCalls := appendArguments validator.activeCalls callId.text delta }
  | .toolCallCompleted itemOrdinal call => do
      let active ← orRefuse (validator.activeCalls.lookup call.callId.text) .invalidStreamOrdering
      refuseIf (active.itemOrdinal != itemOrdinal || active.name != call.name ||
        active.arguments != call.rawArguments) .invalidStreamOrdering
      return { validator with
        activeCalls := validator.activeCalls.filter fun (id, _) => id != call.callId.text }
  | .usage usage => do
      refuseIf validator.usageResultSeen .invalidStreamOrdering
      return { validator with usage := some usage }
  | .usageUnavailable => do
      refuseIf validator.usageResultSeen .invalidStreamOrdering
      return { validator with usageUnavailable := true }
  | .completed response => do
      refuseIf (!validator.activeCalls.isEmpty || validator.usage != response.usage ||
        validator.usageUnavailable != response.usage.isNone ||
        validator.startedTarget != some response.selectedTarget) .invalidStreamOrdering
      response.requireSupportedSemantics
      return { validator with terminal := some .completed }
  | .providerError kind => do
      refuseIf (!validator.usageResultSeen ||
        (kind == .timeoutBeforeOutput && validator.semanticOutputObserved) ||
        (kind == .timeoutAfterOutput && !validator.semanticOutputObserved) ||
        (kind == .transientUnavailable && validator.semanticOutputObserved)) .invalidStreamOrdering
      return { validator with terminal := some (terminalState kind) }
  | .responseStarted _ _ _ | .unknownProviderEvent _ => .ok validator

def observe (validator : ModelStreamValidator) (event : ModelStreamEvent) :
    Except ModelContractErrorKind ModelStreamValidator := do
  refuseIf validator.terminal.isSome .invalidStreamOrdering
  match validator.startedTarget, event with
  | none, .responseStarted target _ _ => return { validator with startedTarget := some target }
  | none, _ => .error .invalidStreamOrdering
  | some _, _ => do
      refuseIf event.isResponseStarted .invalidStreamOrdering
      refuseIf (validator.usageResultSeen && !event.isTerminal) .invalidStreamOrdering
      let observed ← validator.observeStarted event
      return { observed with
        semanticOutputObserved := observed.semanticOutputObserved || event.isSemanticOutput }

def state (validator : ModelStreamValidator) : ModelStreamState :=
  validator.terminal.getD
    (if validator.semanticOutputObserved then .semanticOutputObserved else .noSemanticOutput)

end ModelStreamValidator

def validateModelStream (events : List ModelStreamEvent) :
    Except ModelContractErrorKind ModelStreamState := do
  let validator ← events.foldlM ModelStreamValidator.observe {}
  refuseIf validator.startedTarget.isNone .invalidStreamOrdering
  return validator.state

end Craxii
