import Craxii.Gateway.Attempt

/-!
What the gateway normalizes against what the store accepts.
-/

namespace Craxii

open Utf8Text ExceptRules

theorem decodeItem_storedItem (item : NormalizedModelOutputItem) :
    decodeItem (storedItem item) = some item := by
  cases item with
  | text => rfl
  | structuredData => rfl
  | refusal => rfl
  | reasoningSummary => rfl
  | toolCall callId toolName argumentsJson =>
    show (CheckedText.tryNew _ toolName.text).bind _ = _
    rw [CheckedText.tryNew_text]
    rfl
  | providerOpaque providerId itemType sha256 artifactId =>
    show (CheckedText.tryNew _ providerId.text).bind _ = _
    rw [CheckedText.tryNew_text]
    show (CheckedText.tryNew _ sha256.text).bind _ = _
    rw [CheckedText.tryNew_text]
    show (Identity.parseCanonical .artifact artifactId.toText).bind _ = _
    rw [Identity.parseCanonical_toText]
    rfl
  | unknownProviderItem itemType sha256 =>
    show (CheckedText.tryNew _ sha256.text).bind _ = _
    rw [CheckedText.tryNew_text]
    rfl

theorem decodeItems_stored (output : NormalizedModelOutput) :
    (output.map storedItem).mapM decodeItem = some output := by
  induction output with
  | nil => rfl
  | cons item rest ih =>
    simp [List.mapM_cons, decodeItem_storedItem, ih]

theorem decodeOutput_stored (output : NormalizedModelOutput) :
    decodeOutput (storedOutput output) = some output := by
  have version : (Json.natural 1) = .num ⟨['1'], by decide⟩ := rfl
  simp only [storedOutput, version, decodeOutput, ↓reduceIte]
  exact decodeItems_stored output

section

variable (library : Json.Library)

theorem encodeNormalizedOutput_ok_iff (output : NormalizedModelOutput) (json : Text) :
    encodeNormalizedOutput library output = .ok json ↔
      output.length ≤ maxOutputItems ∧ output.all (storedItemOk library) = true ∧
        (storedOutput output).byteLen ≤ maxOutputJsonBytes ∧ json = (storedOutput output).print := by
  unfold encodeNormalizedOutput
  simp only [bind_eq_ok, refuseIf_eq_ok, decide_eq_false_iff_not, Nat.not_lt, Bool.not_eq_false',
    pure_eq_ok, exists_and_left, exists_const]
  exact and_congr_right fun _ => and_congr_right fun _ => and_congr_right fun _ => eq_comm

theorem validateNormalizedOutput_encoded {output : NormalizedModelOutput} {json : Text}
    (encoded : encodeNormalizedOutput library output = .ok json) :
    validateNormalizedOutput library json = .ok output := by
  obtain ⟨count, items, bytes, rfl⟩ := (encodeNormalizedOutput_ok_iff library output json).mp encoded
  have size : ¬maxOutputJsonBytes < utf8Len (storedOutput output).print := Nat.not_lt.mpr bytes
  have few : ¬maxOutputItems < output.length := Nat.not_lt.mpr count
  simp only [validateNormalizedOutput, size, decide_false, refuseIf_false, ok_bind,
    library.document_reread, orRefuse_some, decodeOutput_stored, bne_self_eq_false, few, items,
    Bool.not_true, pure, Except.pure]

theorem isCanonicalJson_print {value : Json} (isValue : value.isValue library.isNumber = true) :
    isCanonicalJson library value.print = decide (value.byteLen ≤ maxContextJsonBytes) := by
  simp only [isCanonicalJson, library.value_reread value isValue, Option.any_some, beq_self_eq_true,
    Bool.and_true]
  rfl

def ModelOutputItem.isStorable : ModelOutputItem → Bool
  | .text parts | .refusal parts | .reasoningSummary parts => isBoundedText (joinParts parts) 65536
  | .toolCall call =>
    call.parsedArguments.all fun arguments => decide (arguments.byteLen ≤ maxContextJsonBytes)
  | .structuredData data => decide (data.byteLen ≤ maxContextJsonBytes)
  | .providerOpaque _ | .unknownProviderItem _ => true

def ModelOutputItem.holdsValues : ModelOutputItem → Bool
  | .toolCall call => call.parsedArguments.all (·.isValue library.isNumber)
  | .structuredData data => data.isValue library.isNumber
  | _ => true

def ModelOutputItem.isSupported (item : ModelOutputItem) : Bool :=
  !item.isUnknown && !item.toolCall?.any (·.parsedArguments.isNone)

variable {capture : Nat → ProviderOpaqueEvidence → Option PreparedArtifact}

theorem capturedItem_ok (evidence : ProviderOpaqueEvidence) (artifact : PreparedArtifact) :
    storedItemOk library (capturedItem evidence artifact) = true := by
  exact evidence.typeLabel.accepted

section

variable (captures : ∀ index evidence, (capture index evidence).isSome = true)
include captures

theorem prepareItem_stored
    (index : Nat) {item : ModelOutputItem} (supported : item.isSupported = true)
    (values : item.holdsValues library = true) :
    ∃ normalized artifacts, prepareItem capture index item = some (normalized, artifacts) ∧
      storedItemOk library normalized = item.isStorable := by
  cases item with
  | text parts | refusal parts | reasoningSummary parts => exact ⟨_, _, rfl, rfl⟩
  | structuredData data => exact ⟨_, _, rfl, isCanonicalJson_print library values⟩
  | unknownProviderItem => simp [ModelOutputItem.isSupported, ModelOutputItem.isUnknown] at supported
  | providerOpaque evidence =>
    obtain ⟨artifact, captured⟩ := Option.isSome_iff_exists.mp (captures index evidence)
    refine ⟨capturedItem evidence artifact, [artifact], ?_, capturedItem_ok library _ _⟩
    simp [prepareItem, captured]
  | toolCall call =>
    cases parsed : call.parsedArguments with
    | none => simp [ModelOutputItem.isSupported, ModelOutputItem.toolCall?, parsed] at supported
    | some arguments =>
      have isValue : arguments.isValue library.isNumber = true := by
        simpa [ModelOutputItem.holdsValues, parsed] using values
      have identifier : isIdentifier call.callId.text 255 = true :=
        isIdentifier_mono (by decide) call.callId.accepted
      refine ⟨.toolCall call.callId.text call.name arguments.print, [], ?_, ?_⟩
      · simp [prepareItem, parsed]
      · simp [storedItemOk, identifier, isCanonicalJson_print library isValue,
          ModelOutputItem.isStorable, parsed]

theorem prepareItems_stored
    {items : List ModelOutputItem} (supported : ∀ item ∈ items, item.isSupported = true)
    (values : ∀ item ∈ items, item.holdsValues library = true) :
    ∀ index, ∃ output artifacts, prepareItems capture index items = some (output, artifacts) ∧
      output.length = items.length ∧ output.all (storedItemOk library) = items.all (·.isStorable) := by
  induction items with
  | nil =>
    intro index
    exact ⟨[], [], rfl, rfl, rfl⟩
  | cons item rest ih =>
    intro index
    obtain ⟨normalized, artifacts, prepared, stored⟩ :=
      prepareItem_stored library captures index (supported item (by simp)) (values item (by simp))
    obtain ⟨others, otherArtifacts, othersPrepared, count, othersStored⟩ :=
      ih (fun item found => supported item (by simp [found]))
        (fun item found => values item (by simp [found])) (index + 1)
    refine ⟨normalized :: others, artifacts ++ otherArtifacts, ?_, ?_, ?_⟩
    · simp [prepareItems, prepared, othersPrepared]
    · simp [count]
    · simp [stored, othersStored]

theorem prepareNormalizedOutput_stored
    {response : ModelResponse} (supported : ∀ item ∈ response.outputItems, item.isSupported = true)
    (values : ∀ item ∈ response.outputItems, item.holdsValues library = true) :
    ∃ output artifacts, prepareNormalizedOutput capture response = some (output, artifacts) ∧
      output.length ≤ response.outputItems.length + 1 ∧
      output.all (storedItemOk library) = response.outputItems.all (·.isStorable) := by
  obtain ⟨output, artifacts, prepared, count, stored⟩ :=
    prepareItems_stored library captures supported values 0
  unfold prepareNormalizedOutput
  simp only [prepared, Option.bind_eq_bind, Option.bind_some]
  cases response.providerContinuation with
  | none => exact ⟨output, artifacts, rfl, by omega, stored⟩
  | some continuation =>
    dsimp only
    split
    · exact ⟨output, artifacts, rfl, by omega, stored⟩
    · obtain ⟨artifact, captured⟩ :=
        Option.isSome_iff_exists.mp (captures response.outputItems.length continuation)
      rw [captured]
      refine ⟨_, _, rfl, ?_, ?_⟩
      · simp [count]
      · simp [stored, capturedItem_ok]

end

theorem ModelResponse.outputItems_bounded (response : ModelResponse) :
    response.outputItems.length ≤ maxModelOutputItems := by
  have checked := response.checked
  unfold ModelResponseInput.check at checked
  obtain ⟨_, few, _⟩ := bind_eq_ok.mp checked
  simpa using few

theorem ModelResponse.supported_items {response : ModelResponse}
    (supported : response.requireSupportedSemantics = .ok ()) :
    ∀ item ∈ response.outputItems, item.isSupported = true := by
  intro item found
  unfold ModelResponse.requireSupportedSemantics at supported
  obtain ⟨_, known, parsed⟩ := bind_eq_ok.mp supported
  simp only [refuseIf_eq_ok, List.any_eq_false] at known parsed
  simp [ModelOutputItem.isSupported, known item found, parsed item found]

end

def RoundTrips (library : Json.Library)
    (capture : Nat → ProviderOpaqueEvidence → Option PreparedArtifact) (response : ModelResponse) :
    Prop :=
  ∃ output artifacts json, prepareNormalizedOutput capture response = some (output, artifacts) ∧
    encodeNormalizedOutput library output = .ok json ∧
    validateNormalizedOutput library json = .ok output

def storedWithinBound (capture : Nat → ProviderOpaqueEvidence → Option PreparedArtifact)
    (response : ModelResponse) : Bool :=
  (prepareNormalizedOutput capture response).all fun (output, _) =>
    decide ((storedOutput output).byteLen ≤ maxOutputJsonBytes)

def textResponseInput (part : ModelTextPart) : ModelResponseInput where
  selectedTarget := sampleIdentity
  outputItems := [.text [part]]
  stopReason := .completed
  usage := none
  providerRequestId := none
  providerResponseId := none
  providerContinuation := none
  providerMetadata := []

def nulPart : ModelTextPart := ⟨['\x00'], by decide⟩

def nulResponse : ModelResponse := { textResponseInput nulPart with checked := by decide +kernel }

def helloResponse : ModelResponse :=
  { textResponseInput ⟨"hello".toList, by decide⟩ with checked := by decide +kernel }

def sampleCapture (_ : Nat) (evidence : ProviderOpaqueEvidence) : Option PreparedArtifact :=
  let artifactId : ArtifactId := ⟨sampleUuid 15⟩
  let bytes := utf8Len evidence.opaqueText.text
  some {
    finalized := ⟨artifactId, evidence.sha256, bytes, bytes, false⟩
    metadata := ⟨artifactId, sampleInvocation.craxiiId, some sampleWaiting.workId,
      .model sampleAttempt, evidence.sha256, bytes, some bytes, "application/octet-stream".toList,
      true, false⟩
    event := ⟨⟨sampleUuid 10⟩, sampleInvocation.correlationId, none⟩ }

end Craxii
