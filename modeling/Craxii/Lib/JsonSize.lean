import Craxii.Lib.Json

/-!
Sizes of compact documents, measured by their members, whatever their order.
-/

open Utf8Text

namespace Json

theorem utf8Size_digitChar : ∀ digit, digit < 16 → (Nat.digitChar digit).utf8Size = 1 := by
  decide

theorem utf8Len_escapeChar (c : Char) : utf8Len (escapeChar c) ≤ 6 * c.utf8Size := by
  have positive := Char.utf8Size_pos c
  unfold escapeChar
  split
  · subst c
    decide
  split
  · subst c
    decide
  split
  · subst c
    decide
  split
  · subst c
    decide
  split
  · subst c
    decide
  split
  · subst c
    decide
  split
  · subst c
    decide
  split
  · rename_i small
    have high := utf8Size_digitChar (c.toNat / 16) (by omega)
    have low := utf8Size_digitChar (c.toNat % 16) (by omega)
    simp only [utf8Len_cons, utf8Len_nil, high, low]
    have quote : '\\'.utf8Size = 1 ∧ 'u'.utf8Size = 1 ∧ '0'.utf8Size = 1 := by decide
    omega
  · simp only [utf8Len_cons, utf8Len_nil]
    omega

theorem byteLen_str_le (text : Text) : (str text).byteLen ≤ 6 * utf8Len text + 2 := by
  have escaped : utf8Len (text.flatMap escapeChar) ≤ 6 * utf8Len text := by
    induction text with
    | nil => simp
    | cons c rest ih =>
      have first := utf8Len_escapeChar c
      simp only [List.flatMap_cons, utf8Len_append, utf8Len_cons]
      omega
  have quote : '"'.utf8Size = 1 := by decide
  simp only [byteLen, print, printText, utf8Len_cons, utf8Len_append, utf8Len_nil]
  omega

theorem escapeChar_printable {c : Char} (printable : 0x20 ≤ c.toNat) (notQuote : c ≠ '"')
    (notBackslash : c ≠ '\\') : escapeChar c = [c] := by
  have notControl (control : Char) (low : control.toNat < 0x20) : c ≠ control := by
    rintro rfl
    omega
  unfold escapeChar
  rw [if_neg notQuote, if_neg notBackslash, if_neg (notControl _ (by decide)),
    if_neg (notControl _ (by decide)), if_neg (notControl _ (by decide)),
    if_neg (notControl _ (by decide)), if_neg (notControl _ (by decide)), if_neg (by omega)]

theorem byteLen_str_of_unescaped {text : Text} (unescaped : ∀ c ∈ text, escapeChar c = [c]) :
    (str text).byteLen = utf8Len text + 2 := by
  have same : text.flatMap escapeChar = text := by
    induction text with
    | nil => rfl
    | cons c rest ih =>
      rw [List.flatMap_cons, unescaped c List.mem_cons_self,
        ih fun other found => unescaped other (List.mem_cons_of_mem _ found), List.singleton_append]
  have quote : '"'.utf8Size = 1 := by decide
  simp only [byteLen, print, printText, same, utf8Len_cons, utf8Len_append, utf8Len_nil]
  omega

theorem byteLen_natural_le {value count : Nat} (positive : 0 < count) (below : value < 10 ^ count) :
    (natural value).byteLen ≤ count := by
  have digits : utf8Len (Nat.toDigits 10 value) = (Nat.toDigits 10 value).length :=
    utf8Len_of_all_isDigit decimal_digits
  simp only [byteLen, natural, print, digits]
  exact (Nat.length_toDigits_le_iff (by decide) positive).mpr below

theorem utf8Len_printValues (values : List Json) :
    utf8Len (printValues values) = (values.map fun value => value.byteLen + 1).sum + 1 := by
  induction values with
  | nil => rfl
  | cons value rest ih =>
    have comma : ','.utf8Size = 1 := by decide
    simp only [printValues, utf8Len_cons, utf8Len_append, ih, List.map_cons, List.sum_cons, byteLen]
    omega

theorem byteLen_arr_le (values : List Json) :
    (arr values).byteLen ≤ (values.map fun value => value.byteLen + 1).sum + 2 := by
  cases values with
  | nil => decide
  | cons value rest =>
    have bracket : '['.utf8Size = 1 := by decide
    have others := utf8Len_printValues rest
    simp only [byteLen, print, utf8Len_cons, utf8Len_append, List.map_cons, List.sum_cons] at others ⊢
    omega

theorem utf8Len_printFields (fields : List (Text × Json)) :
    utf8Len (printFields fields) = (fields.map fun field => utf8Len (printField field) + 1).sum + 1 := by
  induction fields with
  | nil => rfl
  | cons field rest ih =>
    have comma : ','.utf8Size = 1 := by decide
    simp only [printFields, utf8Len_cons, utf8Len_append, ih, List.map_cons, List.sum_cons]
    omega

theorem byteLen_obj (field : Text × Json) (rest : List (Text × Json)) :
    (obj (field :: rest)).byteLen =
      ((field :: rest).map fun field => utf8Len (printField field) + 1).sum + 1 := by
  have brace : '\x7b'.utf8Size = 1 := by decide
  have others := utf8Len_printFields rest
  simp only [byteLen, print, utf8Len_cons, utf8Len_append, List.map_cons, List.sum_cons] at others ⊢
  omega

theorem utf8Len_printField (key : Text) (value : Json) :
    utf8Len (printField (key, value)) = (str key).byteLen + value.byteLen + 1 := by
  have colon : ':'.utf8Size = 1 := by decide
  simp only [printField, byteLen, print, utf8Len_append, utf8Len_cons]
  omega

theorem byteLen_obj_le (fields : List (Text × Json)) :
    (obj fields).byteLen ≤ (fields.map fun field => utf8Len (printField field) + 1).sum + 2 := by
  cases fields with
  | nil => decide
  | cons field rest =>
    rw [byteLen_obj]
    omega

variable {fields : List (Text × Json)} {bound : Nat}

section

variable (short : ∀ field ∈ fields, utf8Len (printField field) ≤ bound)
include short

theorem sum_members_le :
    (fields.map fun field => utf8Len (printField field) + 1).sum ≤ fields.length * (bound + 1) := by
  induction fields with
  | nil => simp
  | cons field rest ih =>
    have here := short field List.mem_cons_self
    have later := ih fun other found => short other (List.mem_cons_of_mem _ found)
    rw [List.map_cons, List.sum_cons, List.length_cons, Nat.succ_mul]
    omega

theorem byteLen_obj_le_of_short : (obj fields).byteLen ≤ fields.length * (bound + 1) + 2 :=
  Nat.le_trans (byteLen_obj_le fields) (Nat.add_le_add_right (sum_members_le short) 2)

theorem byteLen_obj_concat_le (last : Text × Json) :
    (obj (fields ++ [last])).byteLen ≤ fields.length * (bound + 1) + utf8Len (printField last) + 3 := by
  have whole := byteLen_obj_le (fields ++ [last])
  have members := sum_members_le short
  simp only [List.map_append, List.sum_append, List.map_cons, List.map_nil, List.sum_cons,
    List.sum_nil] at whole
  omega

end

theorem byteLen_obj_perm {first second : List (Text × Json)} (permuted : first.Perm second) :
    (obj first).byteLen = (obj second).byteLen := by
  cases first with
  | nil => rw [List.nil_perm.mp permuted]
  | cons field rest =>
    cases second with
    | nil => exact absurd permuted.symm (List.not_perm_nil_cons field rest)
    | cons other others =>
      rw [byteLen_obj, byteLen_obj]
      exact congrArg (· + 1) (permuted.map _).sum_nat

end Json
