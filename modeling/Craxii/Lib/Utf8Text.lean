import Mathlib

/-!
Text as a sequence of scalar values, measured in UTF-8 bytes, with the character classes and the
trimming of bounded identifiers.
-/

namespace Utf8Text

abbrev Text := List Char

instance : LawfulBEq Text := inferInstance

def utf8Len (text : Text) : Nat :=
  (text.map Char.utf8Size).sum

@[simp] theorem utf8Len_nil : utf8Len [] = 0 := rfl

@[simp] theorem utf8Len_cons (first : Char) (rest : Text) :
    utf8Len (first :: rest) = first.utf8Size + utf8Len rest := by
  simp [utf8Len]

@[simp] theorem utf8Len_append (first second : Text) :
    utf8Len (first ++ second) = utf8Len first + utf8Len second := by
  simp [utf8Len]

@[simp] theorem utf8Len_replicate (count : Nat) (c : Char) :
    utf8Len (List.replicate count c) = count * c.utf8Size := by
  simp [utf8Len]

def isControl (c : Char) : Bool :=
  c.toNat < 0x20 || (0x7f ≤ c.toNat && c.toNat < 0xa0)

def isWhitespace (c : Char) : Bool :=
  (0x9 ≤ c.toNat && c.toNat ≤ 0xd) || c.toNat == 0x20 || c.toNat == 0x85 || c.toNat == 0xa0 ||
    c.toNat == 0x1680 || (0x2000 ≤ c.toNat && c.toNat ≤ 0x200a) || c.toNat == 0x2028 ||
    c.toNat == 0x2029 || c.toNat == 0x202f || c.toNat == 0x205f || c.toNat == 0x3000

def trim (text : Text) : Text :=
  ((text.dropWhile isWhitespace).reverse.dropWhile isWhitespace).reverse

def isBoundedTrimmed (text : Text) (maximum : Nat) : Bool :=
  !text.isEmpty && decide (utf8Len text ≤ maximum) && trim text == text

def isIdentifier (text : Text) (maximum : Nat) : Bool :=
  isBoundedTrimmed text maximum && !text.any isControl

variable {larger smaller : Nat} {text : Text}

theorem isBoundedTrimmed_mono (bounds : smaller ≤ larger)
    (bounded : isBoundedTrimmed text smaller = true) : isBoundedTrimmed text larger = true := by
  simp only [isBoundedTrimmed, Bool.and_eq_true, decide_eq_true_eq] at bounded ⊢
  exact ⟨⟨bounded.1.1, Nat.le_trans bounded.1.2 bounds⟩, bounded.2⟩

theorem isBoundedTrimmed_of_isIdentifier {maximum : Nat}
    (identifier : isIdentifier text maximum = true) : isBoundedTrimmed text maximum = true := by
  simp only [isIdentifier, Bool.and_eq_true] at identifier
  exact identifier.1

theorem isIdentifier_mono (bounds : smaller ≤ larger)
    (identifier : isIdentifier text smaller = true) : isIdentifier text larger = true := by
  simp only [isIdentifier, Bool.and_eq_true] at identifier ⊢
  exact ⟨isBoundedTrimmed_mono bounds identifier.1, identifier.2⟩

theorem utf8Size_of_isDigit {c : Char} (digit : c.isDigit = true) : c.utf8Size = 1 := by
  simp only [Char.isDigit, Bool.and_eq_true, decide_eq_true_eq] at digit
  exact Char.utf8Size_eq_one_iff.mpr (UInt32.le_trans digit.2 (by decide))

theorem utf8Len_of_all_isDigit (digits : ∀ c ∈ text, c.isDigit = true) :
    utf8Len text = text.length := by
  induction text with
  | nil => rfl
  | cons c rest ih =>
    rw [utf8Len_cons, utf8Size_of_isDigit (digits c List.mem_cons_self),
      ih fun other found => digits other (List.mem_cons_of_mem _ found), List.length_cons, Nat.add_comm]

end Utf8Text
