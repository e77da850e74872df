import Craxii.Domain.ModelCore

/-!
Embedding of `encode_normalized_output` and `validate_normalized_output` of `stage8_codec.rs`,
over a JSON library.
-/

namespace Craxii

open Utf8Text ExceptRules

inductive StoreRefusal
  | conflict | internalInvariant | inconsistentSchema
deriving DecidableEq

inductive NormalizedModelOutputItem
  | text (text : Text)
  | toolCall (callId : Text) (toolName : ToolName) (argumentsJson : Text)
  | structuredData (canonicalJson : Text)
  | refusal (text : Text)
  | reasoningSummary (text : Text)
  | providerOpaque (providerId : ProviderId) (itemType : Text) (sha256 : Sha256Digest)
      (artifactId : ArtifactId)
  | unknownProviderItem (itemType : Text) (sha256 : Sha256Digest)

abbrev NormalizedModelOutput := List NormalizedModelOutputItem

def NormalizedModelOutputItem.isToolCall : NormalizedModelOutputItem → Bool
  | .toolCall _ _ _ => true
  | _ => false

def maxContextJsonBytes : Nat := 65536
def maxOutputJsonBytes : Nat := 262144
def maxOutputItems : Nat := 1024

def isBoundedText (text : Text) (maximum : Nat) : Bool :=
  !text.isEmpty && decide (utf8Len text ≤ maximum) && !text.contains '\x00'

variable (library : Json.Library)

def isCanonicalJson (text : Text) : Bool :=
  decide (utf8Len text ≤ maxContextJsonBytes) &&
    (library.fromStrValue text).any fun value => value.print == text

def storedItemOk : NormalizedModelOutputItem → Bool
  | .text text | .refusal text | .reasoningSummary text => isBoundedText text 65536
  | .toolCall callId _ argumentsJson => isIdentifier callId 255 && isCanonicalJson library argumentsJson
  | .structuredData canonicalJson => isCanonicalJson library canonicalJson
  | .providerOpaque _ itemType _ _ | .unknownProviderItem itemType _ => isIdentifier itemType 128

def storedItem : NormalizedModelOutputItem → Json
  | .text text => .obj [("kind".toList, .str "text".toList), ("text".toList, .str text)]
  | .toolCall callId toolName argumentsJson =>
    .obj [("kind".toList, .str "tool_call".toList), ("call_id".toList, .str callId),
      ("tool_name".toList, .str toolName.text), ("arguments_json".toList, .str argumentsJson)]
  | .structuredData canonicalJson =>
    .obj [("kind".toList, .str "structured_data".toList),
      ("canonical_json".toList, .str canonicalJson)]
  | .refusal text => .obj [("kind".toList, .str "refusal".toList), ("text".toList, .str text)]
  | .reasoningSummary text =>
    .obj [("kind".toList, .str "reasoning_summary".toList), ("text".toList, .str text)]
  | .providerOpaque providerId itemType sha256 artifactId =>
    .obj [("kind".toList, .str "provider_opaque".toList),
      ("provider_id".toList, .str providerId.text), ("item_type".toList, .str itemType),
      ("sha256".toList, .str sha256.text), ("artifact_id".toList, .str artifactId.toText)]
  | .unknownProviderItem itemType sha256 =>
    .obj [("kind".toList, .str "unknown_provider_item".toList),
      ("item_type".toList, .str itemType), ("sha256".toList, .str sha256.text)]

def storedOutput (output : NormalizedModelOutput) : Json :=
  .obj [("version".toList, .natural 1), ("items".toList, .arr (output.map storedItem))]

def encodeNormalizedOutput (output : NormalizedModelOutput) : Except StoreRefusal Text := do
  refuseIf (decide (maxOutputItems < output.length)) .internalInvariant
  refuseIf (!output.all (storedItemOk library)) .internalInvariant
  refuseIf (decide (maxOutputJsonBytes < (storedOutput output).byteLen)) .internalInvariant
  return (storedOutput output).print

/-- The decoded item with its typed fields. `from_bounded_json` compares the re-encoding
with the stored text, so only the declared member order can be accepted. -/
def decodeItem : Json → Option NormalizedModelOutputItem
  | .obj ((_, .str kind) :: fields) =>
    match String.ofList kind, fields with
    | "text", [(_, .str text)] => some (.text text)
    | "tool_call", [(_, .str callId), (_, .str toolName), (_, .str argumentsJson)] => do
        let toolName ← CheckedText.tryNew _ toolName
        return .toolCall callId toolName argumentsJson
    | "structured_data", [(_, .str canonicalJson)] => some (.structuredData canonicalJson)
    | "refusal", [(_, .str text)] => some (.refusal text)
    | "reasoning_summary", [(_, .str text)] => some (.reasoningSummary text)
    | "provider_opaque",
        [(_, .str providerId), (_, .str itemType), (_, .str sha256), (_, .str artifactId)] => do
        let providerId ← CheckedText.tryNew _ providerId
        let sha256 ← CheckedText.tryNew _ sha256
        let artifactId ← Identity.parseCanonical .artifact artifactId
        return .providerOpaque providerId itemType sha256 artifactId
    | "unknown_provider_item", [(_, .str itemType), (_, .str sha256)] => do
        let sha256 ← CheckedText.tryNew _ sha256
        return .unknownProviderItem itemType sha256
    | _, _ => none
  | _ => none

def decodeOutput : Json → Option NormalizedModelOutput
  | .obj [(_, .num version), (_, .arr items)] =>
    if version.text = ['1'] then items.mapM decodeItem else none
  | _ => none

def validateNormalizedOutput (json : Text) : Except StoreRefusal NormalizedModelOutput := do
  refuseIf (decide (maxOutputJsonBytes < utf8Len json)) .inconsistentSchema
  let document ← orRefuse (library.fromStrDocument json) .inconsistentSchema
  let output ← orRefuse (decodeOutput document) .inconsistentSchema
  refuseIf ((storedOutput output).print != json) .inconsistentSchema
  refuseIf (decide (maxOutputItems < output.length)) .inconsistentSchema
  refuseIf (!output.all (storedItemOk library)) .inconsistentSchema
  return output

end Craxii
