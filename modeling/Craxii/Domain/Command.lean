import Craxii.Domain.CommandCore

/-!
The canonical bytes of commands and of content determine what they were made from.
-/

namespace Craxii

open Utf8Text Framing

theorem Uuid.framable (uuid : Uuid) : Framable (toUtf8 uuid.text) := by
  have length : uuid.text.length = 36 := by
    have canonical := uuid.canonical
    simp only [isCanonicalUuidV7, Bool.and_eq_true, beq_iff_eq] at canonical
    exact canonical.1
  have bytes : ∀ text : Text, utf8Len text ≤ 4 * text.length := by
    intro text
    induction text with
    | nil => simp
    | cons first rest ih =>
      have size := Char.utf8Size_le_four first
      rw [utf8Len_cons, List.length_cons]
      omega
  have bound := bytes uuid.text
  rw [Framable, length_toUtf8]
  omega

theorem blockBytes_append_inj {first second : Text} {firstRest secondRest : List UInt8}
    (firstOk : Framable (toUtf8 first)) (secondOk : Framable (toUtf8 second))
    (same : blockBytes first ++ firstRest = blockBytes second ++ secondRest) :
    first = second ∧ firstRest = secondRest := by
  simp only [blockBytes, List.cons_append, List.cons.injEq, true_and] at same
  obtain ⟨bytes, rest⟩ := frame_append_inj firstOk secondOk same
  exact ⟨toUtf8_injective bytes, rest⟩

theorem MessageContent.block_framable (content : MessageContent) :
    ∀ block ∈ content.blocks, Framable (toUtf8 block) := by
  intro block member
  have single : utf8Len block ≤ (content.blocks.map utf8Len).sum :=
    List.le_sum_of_mem (List.mem_map_of_mem member)
  have bounded := content.bounded
  rw [Framable, length_toUtf8]
  unfold maxContentTextBytes at bounded
  omega

theorem MessageContent.canonicalBytes_injective : Function.Injective canonicalBytes := by
  intro first second same
  simp only [canonicalBytes, List.append_assoc, List.cons_append] at same
  have afterMagic := List.append_cancel_left same
  simp only [List.cons.injEq, true_and] at afterMagic
  obtain ⟨_, blocks⟩ := List.append_inj afterMagic (by simp)
  have sameBlocks : first.blocks = second.blocks :=
    flatMap_inj (by simp [blockBytes]) blockBytes_append_inj first.block_framable
      second.block_framable blocks
  cases first
  cases second
  simp_all

theorem length_blockBytes (block : Text) : (blockBytes block).length = 9 + utf8Len block := by
  simp only [blockBytes, frame, List.length_cons, List.length_append, length_bigEndian, length_toUtf8]
  omega

theorem length_flatMap_blockBytes {blocks : List Text} (nonempty : ∀ block ∈ blocks, block ≠ []) :
    (blocks.flatMap blockBytes).length ≤ 10 * (blocks.map utf8Len).sum := by
  induction blocks with
  | nil => simp
  | cons block rest ih =>
    have restBound := ih fun other member => nonempty other (List.mem_cons_of_mem _ member)
    have positive : 0 < utf8Len block := by
      cases block with
      | nil => exact absurd rfl (nonempty _ List.mem_cons_self)
      | cons first =>
        have size := Char.utf8Size_pos first
        rw [utf8Len_cons]
        omega
    simp only [List.flatMap_cons, List.length_append, length_blockBytes, List.map_cons, List.sum_cons]
    omega

theorem MessageContent.canonicalBytes_framable (content : MessageContent) :
    Framable content.canonicalBytes := by
  have blocks := length_flatMap_blockBytes content.blocksNonempty
  have bounded := content.bounded
  have magic : (toUtf8 "craxii.content".toList).length = 14 := by decide
  unfold maxContentTextBytes at bounded
  simp only [Framable, canonicalBytes, List.length_append, List.length_cons, length_bigEndian, magic]
  omega

theorem commandMaterial_inj {first second : List (List UInt8)}
    (firstOk : ∀ field ∈ first, Framable field) (secondOk : ∀ field ∈ second, Framable field)
    (same : commandMaterial first = commandMaterial second) : first = second := by
  have afterMagic := List.append_cancel_left same
  simp only [List.cons.injEq, true_and] at afterMagic
  exact flatMap_inj frame_ne_nil frame_append_inj firstOk secondOk afterMagic

theorem bigEndian_framable (value : Nat) : Framable (bigEndian 8 value) := by
  simp [Framable]

theorem CommandKind.framable (kind : CommandKind) : Framable (toUtf8 kind.asText) := by
  rw [Framable, length_toUtf8]
  cases kind <;> decide

theorem messageFields_framable (conversationId : ConversationId) (clientMessageId : ClientMessageId)
    (content : MessageContent) :
    ∀ field ∈ [bigEndian 8 protocolVersion, toUtf8 CommandKind.message.asText,
      toUtf8 conversationId.toText, toUtf8 clientMessageId.toText, content.canonicalBytes],
      Framable field := by
  simp only [List.forall_mem_cons]
  exact ⟨bigEndian_framable _, CommandKind.framable _, conversationId.uuid.framable,
    clientMessageId.uuid.framable, content.canonicalBytes_framable, by simp⟩

theorem messageMaterial_inj {conversationId conversationId' : ConversationId}
    {clientMessageId clientMessageId' : ClientMessageId} {content content' : MessageContent}
    (same : messageMaterial conversationId clientMessageId content =
      messageMaterial conversationId' clientMessageId' content') :
    conversationId = conversationId' ∧ clientMessageId = clientMessageId' ∧ content = content' := by
  have fields := commandMaterial_inj (messageFields_framable _ _ _) (messageFields_framable _ _ _) same
  simp only [List.cons.injEq, true_and, and_true] at fields
  exact ⟨Identity.toText_injective (toUtf8_injective fields.1),
    Identity.toText_injective (toUtf8_injective fields.2.1),
    MessageContent.canonicalBytes_injective fields.2.2⟩

end Craxii
