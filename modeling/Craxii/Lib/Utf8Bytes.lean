import Craxii.Lib.Utf8Text

/-!
Bytes read as UTF-8, each maximal ill-formed part as one replacement character, and the round trip
of well-formed text.
-/

namespace Utf8Text

def replacement : Char := '�'

def isTailByte (byte : UInt8) : Bool :=
  decide (0x80 ≤ byte.toNat) && decide (byte.toNat ≤ 0xBF)

/-- The bytes that may follow a lead byte; the ends of the lead ranges exclude overlong
forms, surrogates and values above U+10FFFF. -/
def isSecondByte (lead second : UInt8) : Bool :=
  if lead.toNat = 0xE0 then decide (0xA0 ≤ second.toNat) && decide (second.toNat ≤ 0xBF)
  else if lead.toNat = 0xED then decide (0x80 ≤ second.toNat) && decide (second.toNat ≤ 0x9F)
  else if lead.toNat = 0xF0 then decide (0x90 ≤ second.toNat) && decide (second.toNat ≤ 0xBF)
  else if lead.toNat = 0xF4 then decide (0x80 ≤ second.toNat) && decide (second.toNat ≤ 0x8F)
  else isTailByte second

/-- The character at the front of the bytes, or the replacement of an ill-formed part, and
how many of the bytes after the first it takes. -/
def decodeChar (lead : UInt8) (rest : List UInt8) : Char × Nat :=
  if lead.toNat < 0x80 then (Char.ofNat lead.toNat, 0)
  else match rest with
    | [] => (replacement, 0)
    | second :: more =>
      if 0xC2 ≤ lead.toNat ∧ lead.toNat ≤ 0xDF then
        if isTailByte second then
          (Char.ofNat ((lead.toNat - 0xC0) * 64 + (second.toNat - 0x80)), 1)
        else (replacement, 0)
      else if 0xE0 ≤ lead.toNat ∧ lead.toNat ≤ 0xEF then
        if isSecondByte lead second then
          match more with
          | [] => (replacement, 1)
          | third :: _ =>
            if isTailByte third then
              (Char.ofNat ((lead.toNat - 0xE0) * 4096 + (second.toNat - 0x80) * 64 +
                (third.toNat - 0x80)), 2)
            else (replacement, 1)
        else (replacement, 0)
      else if 0xF0 ≤ lead.toNat ∧ lead.toNat ≤ 0xF4 then
        if isSecondByte lead second then
          match more with
          | [] => (replacement, 1)
          | third :: last =>
            if isTailByte third then
              match last with
              | [] => (replacement, 2)
              | fourth :: _ =>
                if isTailByte fourth then
                  (Char.ofNat ((lead.toNat - 0xF0) * 262144 + (second.toNat - 0x80) * 4096 +
                    (third.toNat - 0x80) * 64 + (fourth.toNat - 0x80)), 3)
                else (replacement, 2)
            else (replacement, 1)
        else (replacement, 0)
      else (replacement, 0)

def fromUtf8Lossy : List UInt8 → Text
  | [] => []
  | lead :: rest => (decodeChar lead rest).1 :: fromUtf8Lossy (rest.drop (decodeChar lead rest).2)
termination_by bytes => bytes.length
decreasing_by
  simp only [List.length_drop, List.length_cons]
  omega

def toUtf8 (text : Text) : List UInt8 :=
  text.flatMap String.utf8EncodeChar

theorem length_toUtf8 (text : Text) : (toUtf8 text).length = utf8Len text := by
  induction text with
  | nil => rfl
  | cons c rest ih =>
    simp only [toUtf8, List.flatMap_cons, List.length_append, utf8Len_cons,
      String.length_utf8EncodeChar] at ih ⊢
    omega

theorem toNat_byte {value : Nat} (small : value < 256) : (UInt8.ofNat value).toNat = value := by
  simp only [UInt8.toNat_ofNat']
  omega

theorem isTailByte_ofNat (value : Nat) : isTailByte (UInt8.ofNat (value % 64 + 128)) = true := by
  have byte : (UInt8.ofNat (value % 64 + 128)).toNat = value % 64 + 128 := toNat_byte (by omega)
  simp only [isTailByte, byte, Bool.and_eq_true, decide_eq_true_eq]
  omega

theorem decodeChar_encoded (c : Char) (rest : List UInt8) :
    ∃ lead tail, String.utf8EncodeChar c = lead :: tail ∧
      decodeChar lead (tail ++ rest) = (c, tail.length) := by
  have valid := c.valid
  simp only [UInt32.isValidChar, Nat.isValidChar] at valid
  have whole : Char.ofNat c.val.toNat = c := Char.ofNat_toNat c
  unfold String.utf8EncodeChar
  dsimp only
  split
  · rename_i small
    refine ⟨_, _, rfl, ?_⟩
    have lead : (UInt8.ofNat c.val.toNat).toNat = c.val.toNat := toNat_byte (by omega)
    have ascii : c.val.toNat < 0x80 := by omega
    simp only [decodeChar, lead, ascii, ↓reduceIte, whole, List.length_nil]
  · split
    · rename_i large small
      refine ⟨_, _, rfl, ?_⟩
      have lead : (UInt8.ofNat (c.val.toNat / 64 % 32 + 192)).toNat = c.val.toNat / 64 + 192 := by
        rw [toNat_byte (by omega)]
        omega
      have second : (UInt8.ofNat (c.val.toNat % 64 + 128)).toNat = c.val.toNat % 64 + 128 :=
        toNat_byte (by omega)
      have notAscii : ¬c.val.toNat / 64 + 192 < 0x80 := by omega
      have leadRange : 0xC2 ≤ c.val.toNat / 64 + 192 ∧ c.val.toNat / 64 + 192 ≤ 0xDF := by omega
      have value : (c.val.toNat / 64 + 192 - 0xC0) * 64 + (c.val.toNat % 64 + 128 - 0x80) =
          c.val.toNat := by omega
      simp only [decodeChar, List.cons_append, List.nil_append, lead, notAscii, ↓reduceIte,
        leadRange, and_self, isTailByte_ofNat, second, value, whole, List.length_cons,
        List.length_nil, Nat.zero_add]
    · split
      · rename_i large notTwo small
        refine ⟨_, _, rfl, ?_⟩
        have lead : (UInt8.ofNat (c.val.toNat / 4096 % 16 + 224)).toNat =
            c.val.toNat / 4096 + 224 := by
          rw [toNat_byte (by omega)]
          omega
        have second : (UInt8.ofNat (c.val.toNat / 64 % 64 + 128)).toNat =
            c.val.toNat / 64 % 64 + 128 := toNat_byte (by omega)
        have third : (UInt8.ofNat (c.val.toNat % 64 + 128)).toNat = c.val.toNat % 64 + 128 :=
          toNat_byte (by omega)
        have notAscii : ¬c.val.toNat / 4096 + 224 < 0x80 := by omega
        have notLeadTwo : ¬(0xC2 ≤ c.val.toNat / 4096 + 224 ∧ c.val.toNat / 4096 + 224 ≤ 0xDF) := by
          omega
        have leadRange : 0xE0 ≤ c.val.toNat / 4096 + 224 ∧ c.val.toNat / 4096 + 224 ≤ 0xEF := by
          omega
        have follows : isSecondByte (UInt8.ofNat (c.val.toNat / 4096 % 16 + 224))
            (UInt8.ofNat (c.val.toNat / 64 % 64 + 128)) = true := by
          simp only [isSecondByte, isTailByte, lead, second]
          repeat' split
          all_goals
            simp only [Bool.and_eq_true, decide_eq_true_eq]
            omega
        have value : (c.val.toNat / 4096 + 224 - 0xE0) * 4096 +
            (c.val.toNat / 64 % 64 + 128 - 0x80) * 64 + (c.val.toNat % 64 + 128 - 0x80) =
              c.val.toNat := by omega
        simp only [decodeChar, List.cons_append, List.nil_append, lead, notAscii, ↓reduceIte,
          notLeadTwo, leadRange, and_self, follows, isTailByte_ofNat, second, third, value, whole,
          List.length_cons, List.length_nil, Nat.zero_add, Nat.reduceAdd]
      · rename_i large notTwo notThree
        refine ⟨_, _, rfl, ?_⟩
        have lead : (UInt8.ofNat (c.val.toNat / 262144 % 8 + 240)).toNat =
            c.val.toNat / 262144 + 240 := by
          rw [toNat_byte (by omega)]
          omega
        have second : (UInt8.ofNat (c.val.toNat / 4096 % 64 + 128)).toNat =
            c.val.toNat / 4096 % 64 + 128 := toNat_byte (by omega)
        have third : (UInt8.ofNat (c.val.toNat / 64 % 64 + 128)).toNat =
            c.val.toNat / 64 % 64 + 128 := toNat_byte (by omega)
        have fourth : (UInt8.ofNat (c.val.toNat % 64 + 128)).toNat = c.val.toNat % 64 + 128 :=
          toNat_byte (by omega)
        have notAscii : ¬c.val.toNat / 262144 + 240 < 0x80 := by omega
        have notLeadTwo :
            ¬(0xC2 ≤ c.val.toNat / 262144 + 240 ∧ c.val.toNat / 262144 + 240 ≤ 0xDF) := by omega
        have notLeadThree :
            ¬(0xE0 ≤ c.val.toNat / 262144 + 240 ∧ c.val.toNat / 262144 + 240 ≤ 0xEF) := by omega
        have leadRange : 0xF0 ≤ c.val.toNat / 262144 + 240 ∧ c.val.toNat / 262144 + 240 ≤ 0xF4 := by
          omega
        have follows : isSecondByte (UInt8.ofNat (c.val.toNat / 262144 % 8 + 240))
            (UInt8.ofNat (c.val.toNat / 4096 % 64 + 128)) = true := by
          simp only [isSecondByte, isTailByte, lead, second]
          repeat' split
          all_goals
            simp only [Bool.and_eq_true, decide_eq_true_eq]
            omega
        have value : (c.val.toNat / 262144 + 240 - 0xF0) * 262144 +
            (c.val.toNat / 4096 % 64 + 128 - 0x80) * 4096 +
            (c.val.toNat / 64 % 64 + 128 - 0x80) * 64 + (c.val.toNat % 64 + 128 - 0x80) =
              c.val.toNat := by omega
        simp only [decodeChar, List.cons_append, List.nil_append, lead, notAscii, ↓reduceIte,
          notLeadTwo, notLeadThree, leadRange, and_self, follows, isTailByte_ofNat, second, third,
          fourth, value, whole, List.length_cons, List.length_nil, Nat.zero_add, Nat.reduceAdd]

theorem fromUtf8Lossy_toUtf8 (text : Text) : fromUtf8Lossy (toUtf8 text) = text := by
  induction text with
  | nil => simp [toUtf8, fromUtf8Lossy]
  | cons c rest ih =>
    obtain ⟨lead, tail, encoded, decoded⟩ := decodeChar_encoded c (toUtf8 rest)
    have bytes : toUtf8 (c :: rest) = lead :: (tail ++ toUtf8 rest) := by
      simp [toUtf8, encoded]
    rw [bytes, fromUtf8Lossy, decoded]
    simp [ih]

theorem utf8Len_fromUtf8Lossy (bytes : List UInt8) :
    utf8Len (fromUtf8Lossy bytes) ≤ 4 * bytes.length := by
  fun_induction fromUtf8Lossy bytes with
  | case1 => simp
  | case2 lead rest ih =>
    have size := Char.utf8Size_le_four (decodeChar lead rest).1
    have shorter : (rest.drop (decodeChar lead rest).2).length ≤ rest.length := by simp
    rw [utf8Len_cons, List.length_cons]
    omega

end Utf8Text
