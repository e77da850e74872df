import Craxii.Lib.Utf8Text

/-!
Prefixes of a text cut at a byte budget between characters, and the partition of a text into such
pieces.
-/

namespace Utf8Text

def truncateUtf8 : Text → Nat → Text
  | [], _ => []
  | c :: rest, budget =>
    if c.utf8Size ≤ budget then c :: truncateUtf8 rest (budget - c.utf8Size) else []

theorem truncateUtf8_zero (text : Text) : truncateUtf8 text 0 = [] := by
  cases text with
  | nil => rfl
  | cons c rest =>
    have positive := Char.utf8Size_pos c
    rw [truncateUtf8, if_neg (by omega)]

theorem utf8Len_truncateUtf8 (text : Text) (budget : Nat) :
    utf8Len (truncateUtf8 text budget) ≤ budget := by
  induction text generalizing budget with
  | nil => simp [truncateUtf8]
  | cons c rest ih =>
    rw [truncateUtf8]
    split
    · have within := ih (budget - c.utf8Size)
      rw [utf8Len_cons]
      omega
    · simp

theorem truncateUtf8_isPrefix (text : Text) (budget : Nat) :
    ∃ rest, text = truncateUtf8 text budget ++ rest := by
  induction text generalizing budget with
  | nil => exact ⟨[], rfl⟩
  | cons c rest ih =>
    rw [truncateUtf8]
    split
    · obtain ⟨remaining, split⟩ := ih (budget - c.utf8Size)
      refine ⟨remaining, ?_⟩
      rw [List.cons_append, ← split]
    · exact ⟨c :: rest, rfl⟩

theorem utf8Len_truncateUtf8_le (text : Text) (budget : Nat) :
    utf8Len (truncateUtf8 text budget) ≤ utf8Len text := by
  obtain ⟨rest, split⟩ := truncateUtf8_isPrefix text budget
  have lengths := congrArg utf8Len split
  rw [utf8Len_append] at lengths
  omega

theorem truncateUtf8_fills (text : Text) (budget : Nat) :
    truncateUtf8 text budget = text ∨ budget < utf8Len (truncateUtf8 text budget) + 4 := by
  induction text generalizing budget with
  | nil => exact Or.inl rfl
  | cons c rest ih =>
    have size := Char.utf8Size_le_four c
    rw [truncateUtf8]
    split
    · rcases ih (budget - c.utf8Size) with whole | filled
      · exact Or.inl (by rw [whole])
      · right
        rw [utf8Len_cons]
        omega
    · right
      simp only [utf8Len_nil]
      omega

theorem truncateUtf8_ne_nil {c : Char} {rest : Text} {budget : Nat} (room : 4 ≤ budget) :
    truncateUtf8 (c :: rest) budget ≠ [] := by
  have size := Char.utf8Size_le_four c
  rw [truncateUtf8, if_pos (by omega)]
  simp

/-- Consecutive pieces of the text, each as long as the budget allows. The budget holds any
single character. -/
def slices (budget : Nat) (text : Text) : List Text :=
  match text with
  | [] => []
  | c :: rest =>
    if _room : 4 ≤ budget then
      truncateUtf8 (c :: rest) budget ::
        slices budget ((c :: rest).drop (truncateUtf8 (c :: rest) budget).length)
    else []
termination_by text.length
decreasing_by
  have positive := List.length_pos_iff.mpr (@truncateUtf8_ne_nil c rest budget _room)
  simp only [List.length_drop, List.length_cons]
  omega

section

variable {budget : Nat} (room : 4 ≤ budget)

include room

theorem slices_cons (c : Char) (rest : Text) :
    ∃ piece remaining, c :: rest = piece ++ remaining ∧ piece ≠ [] ∧ utf8Len piece ≤ budget ∧
      (remaining = [] ∨ budget < utf8Len piece + 4) ∧
      slices budget (c :: rest) = piece :: slices budget remaining := by
  obtain ⟨remaining, split⟩ := truncateUtf8_isPrefix (c :: rest) budget
  refine ⟨truncateUtf8 (c :: rest) budget, remaining, split, truncateUtf8_ne_nil room,
    utf8Len_truncateUtf8 _ _, ?_, ?_⟩
  · rcases truncateUtf8_fills (c :: rest) budget with whole | filled
    · left
      rw [whole] at split
      simpa using split
    · exact Or.inr filled
  · have dropped := congrArg (List.drop (truncateUtf8 (c :: rest) budget).length) split
    rw [List.drop_left] at dropped
    rw [slices, dif_pos room, dropped]

theorem slices_induction {motive : Text → List Text → Prop} (empty : motive [] [])
    (step : ∀ piece remaining, piece ≠ [] → utf8Len piece ≤ budget →
      (remaining = [] ∨ budget < utf8Len piece + 4) → motive remaining (slices budget remaining) →
      motive (piece ++ remaining) (piece :: slices budget remaining)) (text : Text) :
    motive text (slices budget text) := by
  induction size : text.length using Nat.strongRecOn generalizing text with
  | ind count ih =>
    cases text with
    | nil => simpa [slices] using empty
    | cons c rest =>
      obtain ⟨piece, remaining, split, nonempty, within, last, sliced⟩ := slices_cons room c rest
      have shorter : remaining.length < count := by
        have lengths := congrArg List.length split
        have positive := List.length_pos_iff.mpr nonempty
        rw [List.length_append] at lengths
        omega
      rw [sliced, split]
      exact step piece remaining nonempty within last (ih _ shorter remaining rfl)

theorem flatten_slices (text : Text) : (slices budget text).flatten = text := by
  refine slices_induction room (motive := fun text pieces => pieces.flatten = text) rfl ?_ text
  intro piece remaining _ _ _ flattened
  rw [List.flatten_cons, flattened]

theorem slices_bounded (text : Text) :
    ∀ piece ∈ slices budget text, piece ≠ [] ∧ utf8Len piece ≤ budget := by
  refine slices_induction room
    (motive := fun _ pieces => ∀ piece ∈ pieces, piece ≠ [] ∧ utf8Len piece ≤ budget) (by simp) ?_ text
  intro piece remaining nonempty within _ bounded other found
  rcases List.mem_cons.mp found with same | later
  · exact same ▸ ⟨nonempty, within⟩
  · exact bounded other later

theorem length_slices (text : Text) :
    (slices budget text).length * (budget - 3) ≤ utf8Len text + (budget - 3) := by
  refine slices_induction room
    (motive := fun text pieces => pieces.length * (budget - 3) ≤ utf8Len text + (budget - 3))
    (by simp) ?_ text
  intro piece remaining _ _ last counted
  rw [List.length_cons, Nat.succ_mul, utf8Len_append]
  rcases last with empty | filled
  · subst empty
    simp [slices]
  · omega

end

def rfind (mark : Text) : Text → Option Nat
  | [] => none
  | c :: rest =>
    match rfind mark rest with
    | some index => some (index + 1)
    | none => if mark.isPrefixOf (c :: rest) then some 0 else none

section Marks

variable {mark text : Text} (marked : mark ≠ [])

include marked

theorem rfind_eq_none (absent : rfind mark text = none) : ¬mark <:+: text := by
  induction text with
  | nil => simpa using marked
  | cons c rest ih =>
    simp only [rfind] at absent
    cases later : rfind mark rest with
    | some index => simp [later] at absent
    | none =>
      simp only [later, List.isPrefixOf_iff_prefix, ite_eq_right_iff, reduceCtorEq] at absent
      rw [List.infix_cons_iff]
      rintro (first | inRest)
      · exact absent first
      · exact ih later inRest

theorem rfind_eq_some {index : Nat} (found : rfind mark text = some index) :
    ∃ before after, text = before ++ mark ++ after ∧ before.length = index ∧ ¬mark <:+: after := by
  induction text generalizing index with
  | nil => cases found
  | cons c rest ih =>
    simp only [rfind] at found
    cases later : rfind mark rest with
    | some position =>
      simp only [later, Option.some.injEq] at found
      obtain ⟨before, after, rfl, length, last⟩ := ih later
      exact ⟨c :: before, after, rfl, by rw [List.length_cons, length, found], last⟩
    | none =>
      simp only [later, List.isPrefixOf_iff_prefix] at found
      split at found
      · rename_i first
        obtain ⟨after, split⟩ := first
        refine ⟨[], after, split.symm, Option.some.inj found, fun inAfter => ?_⟩
        obtain ⟨head, tail, rfl⟩ := List.exists_cons_of_ne_nil marked
        obtain rfl := (List.cons.inj split).2
        exact rfind_eq_none marked later (inAfter.trans (List.suffix_append _ _).isInfix)
      · cases found

end Marks

end Utf8Text
