import Craxii.Lib.Utf8Text

/-!
JSON documents and their compact text: no white space, members in the order of the document.
-/

open Utf8Text

def isDigits (text : Text) : Bool :=
  !text.isEmpty && text.all Char.isDigit

def isWholeToken : Text → Bool
  | ['0'] => true
  | '0' :: _ => false
  | text => isDigits text

def isExponentToken : Text → Bool
  | [] => true
  | 'e' :: '+' :: digits | 'e' :: '-' :: digits | 'E' :: '+' :: digits | 'E' :: '-' :: digits =>
    isDigits digits
  | 'e' :: digits | 'E' :: digits => isDigits digits
  | _ => false

def isFractionToken : Text → Bool
  | '.' :: rest => isDigits (rest.takeWhile Char.isDigit) && isExponentToken (rest.dropWhile Char.isDigit)
  | rest => isExponentToken rest

def isNumberChar (c : Char) : Bool :=
  c.isDigit || c == '-' || c == '+' || c == '.' || c == 'e' || c == 'E'

def dropMinus : Text → Text
  | '-' :: rest => rest
  | text => text

/-- The number grammar: an optional minus, the integer part, a fraction and an exponent. -/
def isNumberToken (text : Text) : Bool :=
  text.all isNumberChar && !text.isEmpty && isWholeToken ((dropMinus text).takeWhile Char.isDigit) &&
    isFractionToken ((dropMinus text).dropWhile Char.isDigit)

structure NumberToken where
  text : Text
  valid : isNumberToken text = true

theorem decimal_digits {value : Nat} : ∀ c ∈ Nat.toDigits 10 value, c.isDigit = true :=
  fun _ found => Nat.isDigit_of_mem_toDigits (by decide) (by decide) found

theorem decimal_head (value : Nat) :
    ∃ first rest, Nat.toDigits 10 value = first :: rest ∧ (first = '0' → value = 0) := by
  induction value using Nat.strongRecOn with
  | ind value ih =>
    by_cases small : value < 10
    · refine ⟨_, _, Nat.toDigits_of_lt_base small, ?_⟩
      simp
    · obtain ⟨first, rest, digits, zero⟩ := ih (value / 10) (by omega)
      refine ⟨first, rest ++ [Nat.digitChar (value % 10)], ?_, ?_⟩
      · rw [Nat.toDigits_of_base_le (by decide) (by omega), digits]
        rfl
      · intro isZero
        have quotientZero := zero isZero
        omega

theorem isWholeToken_decimal (value : Nat) : isWholeToken (Nat.toDigits 10 value) = true := by
  by_cases zero : value = 0
  · subst zero
    rfl
  · obtain ⟨first, rest, digits, head⟩ := decimal_head value
    have notZero : first ≠ '0' := fun same => zero (head same)
    have all : isDigits (Nat.toDigits 10 value) = true := by
      simp only [isDigits, Bool.and_eq_true, List.all_eq_true]
      exact ⟨by simp [Nat.toDigits_ne_nil], decimal_digits⟩
    rw [digits] at all ⊢
    unfold isWholeToken
    split <;> simp_all

theorem dropMinus_decimal (value : Nat) : dropMinus (Nat.toDigits 10 value) = Nat.toDigits 10 value := by
  unfold dropMinus
  split
  · rename_i rest shown
    have minus := decimal_digits '-' (by rw [shown]; simp)
    simp [Char.isDigit] at minus
  · rfl

theorem isNumberToken_decimal (value : Nat) : isNumberToken (Nat.toDigits 10 value) = true := by
  have digits := @decimal_digits value
  simp only [isNumberToken, dropMinus_decimal, List.takeWhile_eq_self_iff.mpr digits,
    List.dropWhile_eq_nil_iff.mpr digits, isWholeToken_decimal, Bool.and_eq_true, List.all_eq_true]
  refine ⟨⟨⟨?_, ?_⟩, trivial⟩, rfl⟩
  · intro c found
    simp [isNumberChar, digits c found]
  · simp [Nat.toDigits_ne_nil]

theorem isNumberToken_minus_decimal (value : Nat) :
    isNumberToken ('-' :: Nat.toDigits 10 value) = true := by
  have unsigned := isNumberToken_decimal value
  simp only [isNumberToken, dropMinus_decimal, Bool.and_eq_true] at unsigned
  simp only [isNumberToken, dropMinus, List.all_cons, Bool.and_eq_true]
  exact ⟨⟨⟨⟨rfl, unsigned.1.1.1⟩, rfl⟩, unsigned.1.2⟩, unsigned.2⟩

inductive Json
  | null
  | bool (value : Bool)
  | num (token : NumberToken)
  | str (text : Text)
  | arr (values : List Json)
  | obj (fields : List (Text × Json))

namespace Json

def natural (value : Nat) : Json :=
  num ⟨Nat.toDigits 10 value, isNumberToken_decimal value⟩

def integer : Int → Json
  | .ofNat value => natural value
  | .negSucc value => num ⟨'-' :: Nat.toDigits 10 (value + 1), isNumberToken_minus_decimal _⟩

def escapeChar (c : Char) : Text :=
  if c = '"' then ['\\', '"']
  else if c = '\\' then ['\\', '\\']
  else if c = '\x08' then ['\\', 'b']
  else if c = '\t' then ['\\', 't']
  else if c = '\n' then ['\\', 'n']
  else if c = '\x0c' then ['\\', 'f']
  else if c = '\r' then ['\\', 'r']
  else if c.toNat < 0x20 then
    ['\\', 'u', '0', '0', Nat.digitChar (c.toNat / 16), Nat.digitChar (c.toNat % 16)]
  else [c]

def printText (text : Text) : Text :=
  '"' :: (text.flatMap escapeChar ++ ['"'])

mutual

def print : Json → Text
  | null => "null".toList
  | bool true => "true".toList
  | bool false => "false".toList
  | num token => token.text
  | str text => printText text
  | arr [] => "[]".toList
  | arr (value :: rest) => '[' :: (print value ++ printValues rest)
  | obj [] => ['\x7b', '\x7d']
  | obj (field :: rest) => '\x7b' :: (printField field ++ printFields rest)
termination_by structural document => document

def printValues : List Json → Text
  | [] => [']']
  | value :: rest => ',' :: (print value ++ printValues rest)
termination_by structural values => values

def printField : Text × Json → Text
  | (key, value) => printText key ++ ':' :: print value
termination_by structural field => field

def printFields : List (Text × Json) → Text
  | [] => ['\x7d']
  | field :: rest => ',' :: (printField field ++ printFields rest)
termination_by structural fields => fields

end

def byteLen (document : Json) : Nat :=
  utf8Len document.print

end Json
