import Craxii.Store.DeliveryReplay

/-!
The byte framings that identities are hashed over: each determines what it was made from.
-/

namespace Craxii

open Utf8Text Framing

def maxChannelProviderIdBytes : Nat := 64

def isChannelProviderId (text : Text) : Bool :=
  !text.isEmpty && decide (utf8Len text ≤ maxChannelProviderIdBytes) &&
    text.all fun c => c.isLower || c.isDigit || c == '.' || c == '_' || c == '-'

def hexDigit (c : Char) : Nat :=
  if c ≤ '9' then c.toNat - '0'.toNat else c.toNat - 'a'.toNat + 10

/-- The bytes of a digest, which the model keeps as its hexadecimal text. -/
def Sha256Digest.asBytes (digest : Sha256Digest) : List UInt8 :=
  bigEndian 32 (Nat.ofDigits 16 (digest.text.reverse.map hexDigit))

structure DispatchMaterial where
  channelAccountId : ChannelAccountId
  providerId : CheckedText isChannelProviderId
  externalConversationId : ExternalId
  externalThreadId : Option ExternalId
  payloadSha256 : Sha256Digest
  (partOrdinal partCount : UInt16)

def DispatchMaterial.bytes (material : DispatchMaterial) : List UInt8 :=
  toUtf8 "craxii.dispatch-material".toList ++ 1 ::
    (frame (toUtf8 material.channelAccountId.toText) ++ (frame (toUtf8 material.providerId.text) ++
      (frame (toUtf8 material.externalConversationId.text) ++
        (optionalFrame (material.externalThreadId.map fun id => toUtf8 id.text) ++
          (frame (Sha256Digest.asBytes material.payloadSha256) ++
            (frame (bigEndian 2 material.partOrdinal.toNat) ++
              frame (bigEndian 2 material.partCount.toNat)))))))

def hexChar (digit : Nat) : Char := Char.ofNat (if digit < 10 then digit + 48 else digit + 87)

theorem hexDigit_spec {c : Char} (hex : isLowerHex c = true) :
    hexDigit c < 16 ∧ hexChar (hexDigit c) = c := by
  simp only [isLowerHex, Bool.or_eq_true, Bool.and_eq_true, decide_eq_true_eq, Char.le_def,
    UInt32.le_iff_toNat_le] at hex
  have values : '0'.val.toNat = 48 ∧ '9'.val.toNat = 57 ∧ 'a'.val.toNat = 97 ∧ 'f'.val.toNat = 102 := by
    decide
  have whole : Char.ofNat c.val.toNat = c := Char.ofNat_toNat c
  simp only [hexDigit, hexChar, Char.le_def, UInt32.le_iff_toNat_le, Char.toNat, values]
  by_cases digit : c.val.toNat ≤ 57
  · rw [if_pos digit, if_pos (by omega), Nat.sub_add_cancel (by omega)]
    exact ⟨by omega, whole⟩
  · rw [if_neg digit, if_neg (by omega), show c.val.toNat - 97 + 10 + 87 = c.val.toNat by omega]
    exact ⟨by omega, whole⟩

theorem Sha256Digest.asBytes_injective : Function.Injective asBytes := by
  intro first second same
  have spec : ∀ digest : Sha256Digest, (digest.text.reverse.map hexDigit).length = 64 ∧
      (∀ digit ∈ digest.text.reverse.map hexDigit, digit < 16) ∧
      (digest.text.reverse.map hexDigit).map hexChar = digest.text.reverse := by
    intro digest
    have accepted := digest.accepted
    simp only [Bool.and_eq_true, beq_iff_eq, List.all_eq_true] at accepted
    refine ⟨by simp [accepted.1], ?_, ?_⟩
    · intro digit member
      obtain ⟨c, found, rfl⟩ := List.mem_map.mp member
      exact (hexDigit_spec (accepted.2 c (List.mem_reverse.mp found))).1
    · rw [List.map_map]
      refine (List.map_congr_left fun c found => ?_).trans (List.map_id _)
      exact (hexDigit_spec (accepted.2 c (List.mem_reverse.mp found))).2
  obtain ⟨firstLength, firstDigits, firstRead⟩ := spec first
  obtain ⟨secondLength, secondDigits, secondRead⟩ := spec second
  have firstBound := Nat.ofDigits_lt_base_pow_length (by decide) firstDigits
  have secondBound := Nat.ofDigits_lt_base_pow_length (by decide) secondDigits
  rw [firstLength] at firstBound
  rw [secondLength] at secondBound
  have lists := Nat.ofDigits_inj_of_len_eq (by decide) (firstLength.trans secondLength.symm) firstDigits
    secondDigits (@bigEndian_inj 32 _ _ firstBound secondBound same)
  rw [lists, secondRead] at firstRead
  exact CheckedText.toUtf8_injective (congrArg toUtf8 (List.reverse_injective firstRead.symm))

theorem providerId_framable (providerId : CheckedText isChannelProviderId) :
    Framable (toUtf8 providerId.text) := by
  have accepted := providerId.accepted
  simp only [isChannelProviderId, Bool.and_eq_true, decide_eq_true_eq] at accepted
  rw [Framable, length_toUtf8]
  exact Nat.lt_of_le_of_lt accepted.1.2 (by decide)

theorem partNumber_inj {first second : UInt16} (same : bigEndian 2 first.toNat = bigEndian 2 second.toNat) :
    first = second :=
  UInt16.toNat_inj.mp (bigEndian_inj first.toNat_lt second.toNat_lt same)

theorem DispatchMaterial.bytes_injective : Function.Injective bytes := by
  intro first second same
  have afterMagic := List.append_cancel_left same
  simp only [List.cons.injEq, true_and] at afterMagic
  obtain ⟨account, afterAccount⟩ := frame_append_inj first.channelAccountId.uuid.framable
    second.channelAccountId.uuid.framable afterMagic
  obtain ⟨provider, afterProvider⟩ := frame_append_inj (providerId_framable _) (providerId_framable _)
    afterAccount
  obtain ⟨conversation, afterConversation⟩ := frame_append_inj first.externalConversationId.framable
    second.externalConversationId.framable afterProvider
  obtain ⟨thread, afterThread⟩ := optionalFrame_append_inj ExternalId.map_framable
    ExternalId.map_framable afterConversation
  obtain ⟨payload, afterPayload⟩ := frame_append_inj (by simp [Framable, Sha256Digest.asBytes])
    (by simp [Framable, Sha256Digest.asBytes]) afterThread
  obtain ⟨ordinal, afterOrdinal⟩ := frame_append_inj (by simp [Framable]) (by simp [Framable]) afterPayload
  have count := (frame_append_inj (by simp [Framable]) (by simp [Framable])
    (congrArg (· ++ []) afterOrdinal)).1
  cases first
  cases second
  simp only [DispatchMaterial.mk.injEq]
  exact ⟨Identity.toText_injective (toUtf8_injective account), CheckedText.toUtf8_injective provider,
    CheckedText.toUtf8_injective conversation, Option.map_injective CheckedText.toUtf8_injective thread,
    Sha256Digest.asBytes_injective payload, partNumber_inj ordinal, partNumber_inj count⟩

theorem cancellationFields_framable (clientCommandId : ClientCommandId) (workId : WorkId) :
    ∀ field ∈ [bigEndian 8 protocolVersion, toUtf8 CommandKind.cancel.asText,
      toUtf8 clientCommandId.toText, toUtf8 workId.toText], Framable field := by
  simp only [List.forall_mem_cons]
  exact ⟨bigEndian_framable _, CommandKind.framable _, clientCommandId.uuid.framable,
    workId.uuid.framable, by simp⟩

end Craxii
