import Mathlib

/-!
Rows of a table looked up by a key predicate.
-/

namespace KeyedRows

variable {Row : Type}

variable {rows : List Row} {row : Row} {isKey : Row → Bool} {update : Row → Row}

theorem find?_narrow {wide narrow : Row → Bool}
    (found : rows.find? wide = some row) (meets : narrow row = true)
    (stronger : ∀ other, narrow other = true → wide other = true) :
    rows.find? narrow = some row := by
  induction rows with
  | nil => cases found
  | cons first rest ih =>
    rw [List.find?_cons] at found ⊢
    cases isKey : wide first with
    | true =>
      simp only [isKey, Option.some.injEq] at found
      subst found
      simp [meets]
    | false =>
      have notNarrow : narrow first = false := by
        by_contra isNarrow
        simp only [Bool.not_eq_false] at isNarrow
        rw [stronger first isNarrow] at isKey
        cases isKey
      simp only [isKey] at found
      simp only [notNarrow]
      exact ih found

theorem find?_update (update : Row → Row)
    (found : rows.find? isKey = some row) (keepsKey : ∀ other, isKey (update other) = isKey other) :
    (rows.map update).find? isKey = some (update row) := by
  have same : isKey ∘ update = isKey := funext keepsKey
  rw [List.find?_map, same, found]
  rfl

theorem any_of_find? (condition : Row → Bool)
    (found : rows.find? isKey = some row) (meets : condition row = true) :
    rows.any condition = true :=
  List.any_eq_true.mpr ⟨row, List.mem_of_find?_eq_some found, meets⟩

def updateFirst (isKey : Row → Bool) (update : Row → Row) : List Row → List Row
  | [] => []
  | row :: rest => if isKey row then update row :: rest else row :: updateFirst isKey update rest

theorem mem_updateFirst_of_ne {first : Row}
    (isFirst : rows.find? isKey = some first) (found : row ∈ rows) (other : row ≠ first) :
    row ∈ updateFirst isKey update rows := by
  induction rows with
  | nil => cases found
  | cons head rest ih =>
    rw [List.find?_cons] at isFirst
    simp only [updateFirst]
    cases keyed : isKey head with
    | true =>
      simp only [keyed, Option.some.injEq] at isFirst
      subst isFirst
      rcases List.mem_cons.mp found with same | later
      · exact absurd same other
      · exact List.mem_cons_of_mem _ later
    | false =>
      simp only [keyed] at isFirst
      rcases List.mem_cons.mp found with rfl | later
      · exact List.mem_cons_self
      · exact List.mem_cons_of_mem _ (ih isFirst later)

theorem mem_updateFirst_updated
    (found : rows.find? isKey = some row) : update row ∈ updateFirst isKey update rows := by
  induction rows with
  | nil => cases found
  | cons first rest ih =>
    rw [List.find?_cons] at found
    simp only [updateFirst]
    cases isFirst : isKey first with
    | true =>
      simp only [isFirst, Option.some.injEq] at found
      subst found
      exact List.mem_cons_self
    | false =>
      simp only [isFirst] at found
      exact List.mem_cons_of_mem _ (ih found)

theorem map_updateFirst {Value : Type} {value : Row → Value}
    (keeps : ∀ row, value (update row) = value row) (rows : List Row) :
    (updateFirst isKey update rows).map value = rows.map value := by
  induction rows with
  | nil => rfl
  | cons row rest ih =>
    simp only [updateFirst]
    split
    · simp [keeps]
    · simp [ih]

end KeyedRows
