import Mathlib

/-!
Tables as lists of rows with a key column, and guarded updates that keep every key.
-/

namespace Tables

variable {Row Key : Type}

def update (selects : Row → Bool) (set : Row → Row) (table : List Row) : List Row :=
  table.map fun row => if selects row then set row else row

def Keyed (key : Row → Key) (table : List Row) : Prop :=
  (table.map key).Nodup

variable {key : Row → Key} {selects : Row → Bool} {set : Row → Row} {table : List Row} {row : Row}

theorem mem_concat {new : Row} (member : row ∈ table ++ [new]) : row ∈ table ∨ row = new := by
  simpa using member

theorem forall_mem_concat {Holds : Row → Prop} {new : Row} (old : ∀ row ∈ table, Holds row)
    (newest : Holds new) : ∀ row ∈ table ++ [new], Holds row := by
  intro row member
  rcases mem_concat member with before | rfl
  · exact old row before
  · exact newest

theorem exists_find?_update {isKey : Row → Bool} {Holds : Row → Prop}
    (found : ∃ row, table.find? isKey = some row ∧ Holds row)
    (keeps : ∀ row, isKey (set row) = isKey row ∧ (Holds row → Holds (set row))) :
    ∃ row, (update selects set table).find? isKey = some row ∧ Holds row := by
  obtain ⟨row, isRow, holds⟩ := found
  have same : (isKey ∘ fun row => if selects row then set row else row) = isKey := by
    funext row
    by_cases selected : selects row = true
    · simp [selected, (keeps row).1]
    · simp [selected]
  refine ⟨_, by rw [update, List.find?_map, same, isRow]; rfl, ?_⟩
  dsimp only
  split
  · exact (keeps row).2 holds
  · exact holds

@[simp] theorem length_update : (update selects set table).length = table.length := by
  simp [update]

theorem mem_update : row ∈ update selects set table ↔
    ∃ old ∈ table, row = if selects old then set old else old := by
  simp only [update, List.mem_map]
  constructor
  · rintro ⟨old, member, same⟩
    exact ⟨old, member, same.symm⟩
  · rintro ⟨old, member, same⟩
    exact ⟨old, member, same.symm⟩

theorem mem_update_of_unselected (member : row ∈ table) (unselected : selects row = false) :
    row ∈ update selects set table :=
  mem_update.mpr ⟨row, member, by simp [unselected]⟩

theorem mem_update_of_selected (member : row ∈ table) (selected : selects row = true) :
    set row ∈ update selects set table :=
  mem_update.mpr ⟨row, member, by simp [selected]⟩

theorem update_congr {selects' : Row → Bool} {set' : Row → Row}
    (sameRows : ∀ row ∈ table, selects row = selects' row)
    (sameSet : ∀ row ∈ table, selects row = true → set row = set' row) :
    update selects set table = update selects' set' table := by
  refine List.map_congr_left fun row member => ?_
  rw [← sameRows row member]
  by_cases selected : selects row = true
  · simp [selected, sameSet row member selected]
  · simp [selected]

theorem map_key_update (keepsKey : ∀ row, key (set row) = key row) :
    (update selects set table).map key = table.map key := by
  simp only [update, List.map_map]
  refine List.map_congr_left fun row _ => ?_
  by_cases selected : selects row = true <;> simp [selected, keepsKey]

theorem map_update_of_kept {Column : Type} {column : Row → Column}
    (kept : ∀ row ∈ table, selects row = true → column (set row) = column row) :
    (update selects set table).map column = table.map column := by
  simp only [update, List.map_map]
  refine List.map_congr_left fun row member => ?_
  by_cases selected : selects row = true
  · simp [selected, kept row member selected]
  · simp [selected]

theorem Keyed.update (keyed : Keyed key table) (keepsKey : ∀ row, key (set row) = key row) :
    Keyed key (update selects set table) := by
  rw [Keyed, map_key_update keepsKey]
  exact keyed

theorem Keyed.append (keyed : Keyed key table) (fresh : ∀ old ∈ table, key old ≠ key row) :
    Keyed key (table ++ [row]) := by
  rw [Keyed, List.map_append, List.nodup_append]
  refine ⟨keyed, by simp, ?_⟩
  intro first firstIn second secondIn same
  obtain ⟨old, oldIn, rfl⟩ := List.mem_map.mp firstIn
  simp only [List.map_cons, List.map_nil, List.mem_singleton] at secondIn
  exact fresh old oldIn (same.trans secondIn)

theorem Keyed.eq (keyed : Keyed key table) {first second : Row} (firstIn : first ∈ table)
    (secondIn : second ∈ table) (same : key first = key second) : first = second :=
  List.inj_on_of_nodup_map keyed firstIn secondIn same

theorem Keyed.filter_eq_singleton (keyed : Keyed key table) (member : row ∈ table)
    (selected : selects row = true) (only : ∀ other ∈ table, selects other = true → other = row) :
    table.filter selects = [row] := by
  obtain ⟨before, after, split⟩ := List.append_of_mem member
  have distinct : table.Nodup := keyed.of_map
  rw [split, List.nodup_middle, List.nodup_cons, List.mem_append, not_or] at distinct
  have unselected : ∀ {part : List Row}, part ⊆ table → row ∉ part → part.filter selects = [] := by
    intro part inTable absent
    rw [List.filter_eq_nil_iff]
    intro other otherIn chosen
    exact absent (only other (inTable otherIn) chosen ▸ otherIn)
  have beforeNone := unselected (split ▸ List.subset_append_left _ _) distinct.1.1
  have afterNone := unselected (split ▸ fun _ listed =>
    List.mem_append_right _ (List.mem_cons_of_mem _ listed)) distinct.1.2
  rw [split, List.filter_append, List.filter_cons_of_pos selected, beforeNone, afterNone, List.nil_append]

/-! Ordered queries, where a measure decides first. -/

section Ordered

variable {before : Row → Row → Prop} [DecidableRel before] {measure : Row → Nat}
  (earlier : ∀ first second, before first second → measure first ≤ measure second)
  (later : ∀ first second, ¬before first second → measure second ≤ measure first)
include earlier later

theorem pairwise_orderedInsert {rows : List Row}
    (ordered : rows.Pairwise fun first second => measure first ≤ measure second) :
    (rows.orderedInsert before row).Pairwise fun first second => measure first ≤ measure second := by
  induction rows with
  | nil => simp
  | cons head rest ih =>
    obtain ⟨headLeast, restOrdered⟩ := List.pairwise_cons.mp ordered
    rw [List.orderedInsert_cons]
    split
    · rename_i inFront
      refine List.pairwise_cons.mpr ⟨?_, ordered⟩
      intro other member
      rcases List.mem_cons.mp member with rfl | inRest
      · exact earlier _ _ inFront
      · exact Nat.le_trans (earlier _ _ inFront) (headLeast other inRest)
    · rename_i behind
      refine List.pairwise_cons.mpr ⟨?_, ih restOrdered⟩
      intro other member
      rcases (List.mem_orderedInsert before).mp member with rfl | inRest
      · exact later _ _ behind
      · exact headLeast other inRest

variable (measure) in
theorem measure_le_of_first {rows rest : List Row}
    (sorted : rows.insertionSort before = row :: rest) :
    row ∈ rows ∧ ∀ other ∈ rows, measure row ≤ measure other := by
  have ordered : (rows.insertionSort before).Pairwise
      fun first second => measure first ≤ measure second := by
    clear sorted
    induction rows with
    | nil => simp
    | cons head tail ih => exact pairwise_orderedInsert earlier later ih
  have listed : ∀ {other}, other ∈ rows.insertionSort before ↔ other ∈ rows :=
    fun {_} => List.mem_insertionSort before
  rw [sorted] at ordered listed
  refine ⟨listed.mp List.mem_cons_self, ?_⟩
  intro other member
  rcases List.mem_cons.mp (listed.mpr member) with rfl | inRest
  · exact Nat.le_refl _
  · exact (List.pairwise_cons.mp ordered).1 other inRest

end Ordered

variable [DecidableEq Key]

theorem mem_of_lookup {wanted : Key} (found : table.find? (fun row => key row == wanted) = some row) :
    row ∈ table ∧ key row = wanted :=
  ⟨List.mem_of_find?_eq_some found, by simpa using List.find?_some found⟩

theorem Keyed.lookup (keyed : Keyed key table) (member : row ∈ table) :
    table.find? (fun other => key other == key row) = some row := by
  cases found : table.find? (fun other => key other == key row) with
  | none =>
    rw [List.find?_eq_none] at found
    simpa using found row member
  | some other =>
    obtain ⟨otherIn, same⟩ := mem_of_lookup found
    rw [keyed.eq otherIn member same]

end Tables
