import Mathlib

/-!
Finite maps as association lists with strictly increasing keys.
-/

namespace SortedFields

variable {Key Value : Type} [LinearOrder Key]

def insert (key : Key) (value : Value) : List (Key × Value) → List (Key × Value)
  | [] => [(key, value)]
  | entry :: rest =>
    if key < entry.1 then (key, value) :: entry :: rest
    else if key = entry.1 then (key, value) :: rest
    else entry :: insert key value rest

def Ordered (fields : List (Key × Value)) : Prop :=
  fields.Pairwise fun first second => first.1 < second.1

variable {key : Key} {entry : Key × Value} {fields : List (Key × Value)} {value : Value}

theorem mem_insert
    (found : entry ∈ insert key value fields) : entry = (key, value) ∨ entry ∈ fields := by
  induction fields with
  | nil => exact Or.inl (by simpa [insert] using found)
  | cons first rest ih =>
    rw [insert] at found
    split at found
    · rcases List.mem_cons.mp found with same | old
      · exact Or.inl same
      · exact Or.inr old
    · split at found
      · rcases List.mem_cons.mp found with same | old
        · exact Or.inl same
        · exact Or.inr (List.mem_cons_of_mem _ old)
      · rcases List.mem_cons.mp found with same | later
        · exact Or.inr (same ▸ List.mem_cons_self)
        · rcases ih later with inserted | old
          · exact Or.inl inserted
          · exact Or.inr (List.mem_cons_of_mem _ old)

theorem insert_mem (key : Key) (value : Value) (fields : List (Key × Value)) :
    (key, value) ∈ insert key value fields := by
  induction fields with
  | nil => simp [insert]
  | cons first rest ih =>
    rw [insert]
    split
    · simp
    · split
      · simp
      · exact List.mem_cons_of_mem _ ih

theorem mem_insert_of_ne (found : entry ∈ fields) (other : entry.1 ≠ key) :
    entry ∈ insert key value fields := by
  induction fields with
  | nil => cases found
  | cons first rest ih =>
    rw [insert]
    split
    · exact List.mem_cons_of_mem _ found
    · split
      · rename_i same
        rcases List.mem_cons.mp found with isFirst | later
        · exact absurd (isFirst ▸ same.symm) other
        · exact List.mem_cons_of_mem _ later
      · rcases List.mem_cons.mp found with isFirst | later
        · exact isFirst ▸ List.mem_cons_self
        · exact List.mem_cons_of_mem _ (ih later)

theorem Ordered.insert (ordered : Ordered fields) (key : Key)
    (value : Value) : Ordered (insert key value fields) := by
  induction fields with
  | nil => simp [SortedFields.insert, Ordered]
  | cons first rest ih =>
    obtain ⟨above, restOrdered⟩ := List.pairwise_cons.mp ordered
    rw [SortedFields.insert]
    split
    · rename_i below
      refine List.pairwise_cons.mpr ⟨?_, ordered⟩
      intro entry found
      rcases List.mem_cons.mp found with same | later
      · exact same ▸ below
      · exact lt_trans below (above entry later)
    · split
      · rename_i same
        refine List.pairwise_cons.mpr ⟨?_, restOrdered⟩
        intro entry found
        exact same ▸ above entry found
      · rename_i notBelow notSame
        refine List.pairwise_cons.mpr ⟨?_, ih restOrdered⟩
        intro entry found
        rcases mem_insert found with inserted | old
        · rw [inserted]
          exact lt_of_le_of_ne (not_lt.mp notBelow) (Ne.symm notSame)
        · exact above entry old

theorem sum_insert_le (cost : Key × Value → Nat) (key : Key) (value : Value)
    (fields : List (Key × Value)) :
    ((insert key value fields).map cost).sum ≤ cost (key, value) + (fields.map cost).sum := by
  induction fields with
  | nil => simp [insert]
  | cons first rest ih =>
    rw [insert]
    split
    · simp
    · split
      · simp
      · simp only [List.map_cons, List.sum_cons]
        omega

end SortedFields
