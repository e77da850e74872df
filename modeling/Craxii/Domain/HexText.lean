import Craxii.Domain.ModelCore
import Craxii.Lib.JsonSize

/-!
The texts of identities and digests: lowercase hexadecimal digits and hyphens, written into a
document as they are.
-/

namespace Craxii

open Utf8Text

def isHexOrHyphen (c : Char) : Bool :=
  isLowerHex c || c == '-'

theorem isHexOrHyphen_plain {c : Char} (hex : isHexOrHyphen c = true) : c.utf8Size = 1 ∧ c ≠ '\x00' := by
  refine ⟨Char.utf8Size_eq_one_iff.mpr ?_, ?_⟩
  · simp only [isHexOrHyphen, isLowerHex, Bool.or_eq_true, Bool.and_eq_true, decide_eq_true_eq,
      beq_iff_eq] at hex
    rcases hex with (digit | letter) | hyphen
    · exact UInt32.le_trans digit.2 (by decide)
    · exact UInt32.le_trans letter.2 (by decide)
    · rw [hyphen]
      decide
  · rintro rfl
    cases hex

theorem isHexOrHyphen_unescaped {c : Char} (hex : isHexOrHyphen c = true) : Json.escapeChar c = [c] := by
  have printable : 0x2d ≤ c.toNat ∧ c.toNat ≠ 0x5c := by
    simp only [isHexOrHyphen, isLowerHex, Bool.or_eq_true, Bool.and_eq_true, decide_eq_true_eq,
      beq_iff_eq, Char.le_def, UInt32.le_iff_toNat_le] at hex
    have bounds : '0'.val.toNat = 0x30 ∧ '9'.val.toNat = 0x39 ∧ 'a'.val.toNat = 0x61 := by decide
    have value : c.toNat = c.val.toNat := rfl
    rcases hex with (digit | letter) | hyphen
    · omega
    · omega
    · subst hyphen
      decide
  apply Json.escapeChar_printable
  · omega
  · rintro rfl
    exact absurd printable.1 (by decide)
  · rintro rfl
    exact printable.2 rfl

theorem utf8Len_hexText {text : Text} (hex : text.all isHexOrHyphen = true) :
    utf8Len text = text.length := by
  rw [List.all_eq_true] at hex
  induction text with
  | nil => rfl
  | cons c rest ih =>
    rw [utf8Len_cons, (isHexOrHyphen_plain (hex c List.mem_cons_self)).1,
      ih fun other found => hex other (List.mem_cons_of_mem _ found), List.length_cons, Nat.add_comm]

theorem byteLen_hexText {text : Text} (hex : text.all isHexOrHyphen = true) :
    (Json.str text).byteLen = text.length + 2 := by
  rw [Json.byteLen_str_of_unescaped fun c found =>
    isHexOrHyphen_unescaped (List.all_eq_true.mp hex c found), utf8Len_hexText hex]

theorem digest_hex (digest : Sha256Digest) :
    digest.text.length = 64 ∧ digest.text.all isHexOrHyphen = true := by
  have accepted := digest.accepted
  simp only [Bool.and_eq_true, beq_iff_eq, List.all_eq_true] at accepted
  refine ⟨accepted.1, List.all_eq_true.mpr fun c found => ?_⟩
  simp [isHexOrHyphen, accepted.2 c found]

theorem identity_hex {kind : IdKind} (id : Identity kind) :
    id.toText.length = 36 ∧ id.toText.all isHexOrHyphen = true := by
  have canonical := id.uuid.canonical
  simp only [isCanonicalUuidV7, Bool.and_eq_true, beq_iff_eq, List.all_eq_true] at canonical
  refine ⟨canonical.1, List.all_eq_true.mpr fun c found => ?_⟩
  obtain ⟨index, place⟩ := List.mem_iff_getElem?.mp found
  have checked := canonical.2 (c, index) (List.mk_mem_zipIdx_iff_getElem?.mpr place)
  dsimp only at checked
  split at checked
  · simp [isHexOrHyphen, checked]
  · split at checked
    · rw [beq_iff_eq.mp checked]
      decide
    · split at checked
      · simp only [Bool.or_eq_true, beq_iff_eq] at checked
        rcases checked with ((eight | nine) | a) | b
        · exact eight ▸ rfl
        · exact nine ▸ rfl
        · exact a ▸ rfl
        · exact b ▸ rfl
      · simp [isHexOrHyphen, checked]

end Craxii
