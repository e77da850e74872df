import Craxii.Lib.Json

/-!
A reader for compact documents: every document is read back unchanged from what `Json.print`
writes.
-/

open Utf8Text

namespace Json

def hexValue (c : Char) : Nat :=
  if c.isDigit then c.toNat - 48 else c.toNat - 87

def unescapeChar (c : Char) : Char :=
  if c = 'b' then '\x08'
  else if c = 't' then '\t'
  else if c = 'n' then '\n'
  else if c = 'f' then '\x0c'
  else if c = 'r' then '\r'
  else c

def readText : Text → Option (Text × Text)
  | [] => none
  | '"' :: rest => some ([], rest)
  | '\\' :: 'u' :: '0' :: '0' :: high :: low :: rest => (readText rest).map fun (text, after) =>
      (Char.ofNat (16 * hexValue high + hexValue low) :: text, after)
  | '\\' :: c :: rest => (readText rest).map fun (text, after) => (unescapeChar c :: text, after)
  | c :: rest => (readText rest).map fun (text, after) => (c :: text, after)

def readNumber (text : Text) : Option (Json × Text) :=
  if valid : isNumberToken (text.takeWhile isNumberChar) = true then
    some (num ⟨text.takeWhile isNumberChar, valid⟩, text.dropWhile isNumberChar)
  else none

mutual

def readValue : Nat → Text → Option (Json × Text)
  | 0, _ | _, [] => none
  | fuel + 1, first :: rest =>
    if isNumberChar first then readNumber (first :: rest)
    else match first, rest with
      | 'n', 'u' :: 'l' :: 'l' :: after => some (null, after)
      | 't', 'r' :: 'u' :: 'e' :: after => some (bool true, after)
      | 'f', 'a' :: 'l' :: 's' :: 'e' :: after => some (bool false, after)
      | '"', after => (readText after).map fun (text, after) => (str text, after)
      | '[', ']' :: after => some (arr [], after)
      | '[', after => do
          let (value, after) ← readValue fuel after
          let (values, after) ← readValues fuel after
          return (arr (value :: values), after)
      | '\x7b', '\x7d' :: after => some (obj [], after)
      | '\x7b', after => do
          let (field, after) ← readField fuel after
          let (fields, after) ← readFields fuel after
          return (obj (field :: fields), after)
      | _, _ => none

def readValues : Nat → Text → Option (List Json × Text)
  | fuel + 1, ',' :: rest => do
      let (value, after) ← readValue fuel rest
      let (values, after) ← readValues fuel after
      return (value :: values, after)
  | _ + 1, ']' :: after => some ([], after)
  | _, _ => none

def readField : Nat → Text → Option ((Text × Json) × Text)
  | fuel + 1, '"' :: rest => do
      let (key, after) ← readText rest
      match after with
      | ':' :: after => do
          let (value, after) ← readValue fuel after
          return ((key, value), after)
      | _ => none
  | _, _ => none

def readFields : Nat → Text → Option (List (Text × Json) × Text)
  | fuel + 1, ',' :: rest => do
      let (field, after) ← readField fuel rest
      let (fields, after) ← readFields fuel after
      return (field :: fields, after)
  | _ + 1, '\x7d' :: after => some ([], after)
  | _, _ => none

end

def read (text : Text) : Option Json :=
  match readValue text.length text with
  | some (document, []) => some document
  | _ => none

theorem hexValue_digitChar : ∀ digit, digit < 16 → hexValue (Nat.digitChar digit) = digit := by
  decide

theorem readText_escapeChar (c : Char) (rest : Text) :
    readText (escapeChar c ++ rest) = (readText rest).map fun (text, after) => (c :: text, after) := by
  unfold escapeChar
  split
  · subst c
    rfl
  split
  · subst c
    rfl
  split
  · subst c
    rfl
  split
  · subst c
    rfl
  split
  · subst c
    rfl
  split
  · subst c
    rfl
  split
  · subst c
    rfl
  split
  · rename_i small
    have high := hexValue_digitChar (c.toNat / 16) (by omega)
    have low := hexValue_digitChar (c.toNat % 16) (by omega)
    have rebuilt : Char.ofNat (16 * (c.toNat / 16) + c.toNat % 16) = c := by
      rw [Nat.div_add_mod]
      exact Char.ofNat_toNat c
    simp only [List.cons_append, List.nil_append, readText, high, low, rebuilt]
  · rename_i notQuote notBackslash _ _ _ _ _ _
    simp only [List.cons_append, List.nil_append]
    rw [readText.eq_def]
    split <;> simp_all

theorem readText_printed (text rest : Text) :
    readText (text.flatMap escapeChar ++ '"' :: rest) = some (text, rest) := by
  induction text with
  | nil => rfl
  | cons c text ih =>
    simp only [List.flatMap_cons, List.append_assoc]
    rw [readText_escapeChar, ih]
    rfl

def EndsNumber (rest : Text) : Prop :=
  ∀ c after, rest = c :: after → isNumberChar c = false

theorem endsNumber_cons {c : Char} (notNumber : isNumberChar c = false) (after : Text) :
    EndsNumber (c :: after) := by
  intro found rest same
  cases same
  exact notNumber

theorem numberToken_chars (token : NumberToken) : ∀ c ∈ token.text, isNumberChar c = true := by
  have valid := token.valid
  simp only [isNumberToken, Bool.and_eq_true, List.all_eq_true] at valid
  exact valid.1.1.1

theorem numberToken_ne_nil (token : NumberToken) : token.text ≠ [] := by
  have valid := token.valid
  simp only [isNumberToken, Bool.and_eq_true, Bool.not_eq_true', List.isEmpty_eq_false_iff] at valid
  exact valid.1.1.2

theorem readNumber_token (token : NumberToken) {rest : Text} (ends : EndsNumber rest) :
    readNumber (token.text ++ rest) = some (num token, rest) := by
  have taken : (token.text ++ rest).takeWhile isNumberChar = token.text := by
    rw [List.takeWhile_append_of_pos (numberToken_chars token)]
    cases rest with
    | nil => simp
    | cons c after => simp [ends c after rfl]
  have dropped : (token.text ++ rest).dropWhile isNumberChar = rest := by
    rw [List.dropWhile_append_of_pos (numberToken_chars token)]
    cases rest with
    | nil => simp
    | cons c after => simp [ends c after rfl]
  unfold readNumber
  simp only [taken, dropped, token.valid, ↓reduceDIte]

/-! Documents. The recursion is on the document; the fuel only has to cover the
characters still to be read. -/

theorem print_cons (document : Json) :
    ∃ first rest, document.print = first :: rest ∧ first ≠ ']' := by
  match document with
  | null | bool true | bool false | arr [] | obj [] => exact ⟨_, _, rfl, by decide⟩
  | str _ | arr (_ :: _) | obj (_ :: _) => exact ⟨_, _, rfl, by decide⟩
  | num token =>
    cases shown : token.text with
    | nil => exact absurd shown (numberToken_ne_nil token)
    | cons first rest =>
      refine ⟨first, rest, shown, ?_⟩
      rintro rfl
      have char := numberToken_chars token ']' (by rw [shown]; simp)
      revert char
      decide

theorem printField_cons (field : Text × Json) : ∃ rest, printField field = '"' :: rest := by
  obtain ⟨key, value⟩ := field
  exact ⟨_, rfl⟩

mutual

theorem readValue_print (document : Json) (fuel : Nat) (rest : Text)
    (enough : document.print.length ≤ fuel) (ends : EndsNumber rest) :
    readValue fuel (document.print ++ rest) = some (document, rest) := by
  obtain ⟨first, tail, shown, _⟩ := print_cons document
  cases fuel with
  | zero => simp [shown] at enough
  | succ fuel =>
    match document with
    | null | bool true | bool false | arr [] | obj [] => rfl
    | str text =>
      simp only [print, printText, List.cons_append, List.append_assoc, List.nil_append]
      rw [readValue]
      simp [isNumberChar, Char.isDigit, readText_printed]
    | num token =>
      have number := readNumber_token token ends
      simp only [print] at shown ⊢
      have char := numberToken_chars token first (by rw [shown]; simp)
      rw [shown, List.cons_append] at number ⊢
      simp only [readValue, char, ↓reduceIte, number]
    | arr (value :: values) =>
      obtain ⟨head, others, printed, notClosing⟩ := print_cons value
      have valueRead := readValue_print value fuel (printValues values ++ rest)
        (by simp only [print, List.length_cons, List.length_append] at enough; omega)
        (by cases values <;> exact endsNumber_cons (by decide) _)
      have valuesRead := readValues_print values fuel rest
        (by simp only [print, List.length_cons, List.length_append] at enough; omega)
      rw [printed] at valueRead
      simp only [print, printed, List.cons_append, List.append_assoc]
      simp only [List.cons_append] at valueRead
      simp [readValue, isNumberChar, Char.isDigit, notClosing, valueRead, valuesRead]
    | obj (field :: fields) =>
      have fieldRead := readField_print field fuel (printFields fields ++ rest)
        (by simp only [print, List.length_cons, List.length_append] at enough; omega)
        (by cases fields <;> exact endsNumber_cons (by decide) _)
      have fieldsRead := readFields_print fields fuel rest
        (by simp only [print, List.length_cons, List.length_append] at enough; omega)
      obtain ⟨others, printed⟩ := printField_cons field
      rw [printed] at fieldRead
      simp only [print, printed, List.cons_append, List.append_assoc]
      simp only [List.cons_append] at fieldRead
      simp [readValue, isNumberChar, Char.isDigit, fieldRead, fieldsRead]

theorem readValues_print (values : List Json) (fuel : Nat) (rest : Text)
    (enough : (printValues values).length ≤ fuel) :
    readValues fuel (printValues values ++ rest) = some (values, rest) := by
  cases fuel with
  | zero => cases values <;> simp [printValues] at enough
  | succ fuel =>
    match values with
    | [] => rfl
    | value :: values =>
      have valueRead := readValue_print value fuel (printValues values ++ rest)
        (by simp only [printValues, List.length_cons, List.length_append] at enough; omega)
        (by cases values <;> exact endsNumber_cons (by decide) _)
      have valuesRead := readValues_print values fuel rest
        (by simp only [printValues, List.length_cons, List.length_append] at enough; omega)
      simp only [printValues, List.cons_append, List.append_assoc]
      simp [readValues, valueRead, valuesRead]

theorem readField_print (field : Text × Json) (fuel : Nat) (rest : Text)
    (enough : (printField field).length ≤ fuel) (ends : EndsNumber rest) :
    readField fuel (printField field ++ rest) = some (field, rest) := by
  match field with
  | (key, value) =>
    cases fuel with
    | zero => simp [printField, printText] at enough
    | succ fuel =>
      have valueRead := readValue_print value fuel rest
        (by simp only [printField, printText, List.length_cons, List.length_append] at enough; omega)
        ends
      simp only [printField, printText, List.cons_append, List.append_assoc, List.nil_append]
      simp [readField, readText_printed, valueRead]

theorem readFields_print (fields : List (Text × Json)) (fuel : Nat) (rest : Text)
    (enough : (printFields fields).length ≤ fuel) :
    readFields fuel (printFields fields ++ rest) = some (fields, rest) := by
  cases fuel with
  | zero => cases fields <;> simp [printFields] at enough
  | succ fuel =>
    match fields with
    | [] => rfl
    | field :: fields =>
      have fieldRead := readField_print field fuel (printFields fields ++ rest)
        (by simp only [printFields, List.length_cons, List.length_append] at enough; omega)
        (by cases fields <;> exact endsNumber_cons (by decide) _)
      have fieldsRead := readFields_print fields fuel rest
        (by simp only [printFields, List.length_cons, List.length_append] at enough; omega)
      simp only [printFields, List.cons_append, List.append_assoc]
      simp [readFields, fieldRead, fieldsRead]

end

theorem read_print (document : Json) : read document.print = some document := by
  have whole := readValue_print document document.print.length [] (Nat.le_refl _) (by
    intro c after same
    cases same)
  rw [List.append_nil] at whole
  simp [read, whole]

theorem print_injective : Function.Injective print := by
  intro first second same
  have reread := read_print first
  rw [same, read_print second] at reread
  exact (Option.some.inj reread).symm

instance : DecidableEq Json := fun first second =>
  decidable_of_iff (first.print = second.print) print_injective.eq_iff

/-! Values: documents whose objects are maps and whose numbers are in display form. -/

def keysIncrease : List Text → Bool
  | first :: second :: rest => decide (first < second) && keysIncrease (second :: rest)
  | _ => true

mutual

/-- Objects list their keys in strictly increasing order and numbers are display forms. -/
def isValue (isNumber : NumberToken → Bool) : Json → Bool
  | null | bool _ | str _ => true
  | num token => isNumber token
  | arr values => areValues isNumber values
  | obj fields => keysIncrease (fields.map (·.1)) && areFieldValues isNumber fields
termination_by structural document => document

def areValues (isNumber : NumberToken → Bool) : List Json → Bool
  | [] => true
  | value :: rest => isValue isNumber value && areValues isNumber rest
termination_by structural values => values

def isFieldValue (isNumber : NumberToken → Bool) : Text × Json → Bool
  | (_, value) => isValue isNumber value
termination_by structural field => field

def areFieldValues (isNumber : NumberToken → Bool) : List (Text × Json) → Bool
  | [] => true
  | field :: rest => isFieldValue isNumber field && areFieldValues isNumber rest
termination_by structural fields => fields

end

/-- A JSON library: its reader of whole documents, in member order, and its reader of
map-backed values, with the laws that printing and reading back change nothing. -/
structure Library where
  isNumber : NumberToken → Bool
  fromStrDocument : Text → Option Json
  fromStrValue : Text → Option Json
  document_reread : ∀ document, fromStrDocument document.print = some document
  value_reread : ∀ value, value.isValue isNumber = true → fromStrValue value.print = some value
  value_read : ∀ text value, fromStrValue text = some value → value.isValue isNumber = true

def compactLibrary : Library where
  isNumber := fun _ => true
  fromStrDocument := read
  fromStrValue := fun text => (read text).filter (isValue fun _ => true)
  document_reread := read_print
  value_reread := by
    intro value isValue
    simp [read_print, isValue]
  value_read := by
    intro text value found
    simp only [Option.filter_eq_some_iff] at found
    exact found.2

end Json
