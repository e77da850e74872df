import Mathlib

/-!
Append-only logs ordered by a key, read by half-open windows: a page is the first entries of a
window, and the window up to its last entry is the page itself.
-/

namespace OrderedLog

variable {Entry : Type} (key : Entry → Nat)

def Ordered (log : List Entry) : Prop :=
  log.Pairwise fun first second => key first < key second

def window (log : List Entry) (after through : Nat) : List Entry :=
  log.filter fun entry => decide (after < key entry) && decide (key entry ≤ through)

variable {key} {log : List Entry}

variable {entry last : Entry} {after limit through : Nat}

theorem mem_window :
    entry ∈ window key log after through ↔ entry ∈ log ∧ after < key entry ∧ key entry ≤ through := by
  simp [window]

theorem Ordered.window (ordered : Ordered key log) (after through : Nat) :
    Ordered key (window key log after through) :=
  List.Pairwise.filter _ ordered

theorem Ordered.concat (ordered : Ordered key log)
    (later : ∀ earlier ∈ log, key earlier < key entry) : Ordered key (log ++ [entry]) := by
  refine List.pairwise_append.mpr ⟨ordered, List.pairwise_singleton _ _, ?_⟩
  intro earlier found last isLast
  rw [List.mem_singleton.mp isLast]
  exact later earlier found

theorem window_concat (beyond : through < key entry) :
    window key (log ++ [entry]) after through = window key log after through := by
  have outside : ¬ key entry ≤ through := Nat.not_le.mpr beyond
  simp [window, List.filter_append, outside]

theorem window_empty (backward : through ≤ after) : window key log after through = [] := by
  rw [List.eq_nil_iff_forall_not_mem]
  intro entry found
  have inside := mem_window.mp found
  omega

theorem window_append_window {middle : Nat} (ordered : Ordered key log)
    (first : after ≤ middle) (second : middle ≤ through) :
    window key log after middle ++ window key log middle through = window key log after through := by
  induction log with
  | nil => rfl
  | cons entry rest ih =>
    obtain ⟨later, restOrdered⟩ := List.pairwise_cons.mp ordered
    have joined := ih restOrdered
    by_cases low : key entry ≤ middle
    · have notSecond : ¬ middle < key entry := Nat.not_lt.mpr low
      have within : key entry ≤ through := Nat.le_trans low second
      by_cases started : after < key entry
      · simp only [window, List.filter_cons, started, low, within, notSecond, decide_true,
          decide_false, Bool.true_and, Bool.false_and, if_true, Bool.false_eq_true, if_false,
          List.cons_append] at joined ⊢
        rw [joined]
      · simp only [window, List.filter_cons, started, notSecond, decide_false, Bool.false_and,
          Bool.false_eq_true, if_false] at joined ⊢
        exact joined
    · -- Past the middle nothing is left of the first window.
      have none : window key (entry :: rest) after middle = [] := by
        rw [List.eq_nil_iff_forall_not_mem]
        intro other found
        obtain ⟨inLog, _, small⟩ := mem_window.mp found
        rcases List.mem_cons.mp inLog with rfl | inRest
        · exact low small
        · have := later other inRest
          omega
      rw [none, List.nil_append]
      apply List.filter_congr
      intro other found
      have high : middle < key other := by
        rcases List.mem_cons.mp found with rfl | inRest
        · omega
        · have := later other inRest
          omega
      have started : after < key other := by omega
      simp [high, started]

theorem Ordered.last_greatest {rows : List Entry} (ordered : Ordered key rows)
    (isLast : rows.getLast? = some last) : ∀ entry ∈ rows, key entry ≤ key last := by
  obtain ⟨before, rfl⟩ := List.getLast?_eq_some_iff.mp isLast
  intro entry found
  rcases List.mem_append.mp found with earlier | final
  · exact Nat.le_of_lt ((List.pairwise_append.mp ordered).2.2 entry earlier last List.mem_cons_self)
  · exact Nat.le_of_eq (congrArg key (List.mem_singleton.mp final))

theorem page_eq_window (ordered : Ordered key log)
    (isLast : ((window key log after through).take limit).getLast? = some last) :
    window key log after (key last) = (window key log after through).take limit := by
  have whole := ordered.window after through
  have parted := List.take_append_drop limit (window key log after through)
  rw [← parted] at whole
  obtain ⟨pageOrdered, _, across⟩ := List.pairwise_append.mp whole
  have lastInPage := List.mem_of_getLast? isLast
  have lastInWindow := mem_window.mp (List.mem_of_mem_take lastInPage)
  have restricted : window key log after (key last) =
      (window key log after through).filter fun entry => decide (key entry ≤ key last) := by
    rw [window, window, List.filter_filter]
    apply List.filter_congr
    intro entry _
    by_cases small : key entry ≤ key last
    · have : key entry ≤ through := by omega
      simp [small, this]
    · simp [small]
  rw [restricted]
  nth_rewrite 1 [← parted]
  rw [List.filter_append]
  have kept : ((window key log after through).take limit).filter
      (fun entry => decide (key entry ≤ key last)) = (window key log after through).take limit := by
    rw [List.filter_eq_self]
    intro entry found
    exact decide_eq_true (Ordered.last_greatest pageOrdered isLast entry found)
  have dropped : ((window key log after through).drop limit).filter
      (fun entry => decide (key entry ≤ key last)) = [] := by
    rw [List.filter_eq_nil_iff]
    intro entry found
    have beyond := across last lastInPage entry found
    simp only [decide_eq_true_eq, Nat.not_le]
    exact beyond
  rw [kept, dropped, List.append_nil]

theorem page_complete (ordered : Ordered key log)
    (isLast : ((window key log after through).take limit).getLast? = some last)
    (nothing : ∀ entry ∈ log, key last < key entry → ¬ key entry ≤ through) :
    window key log after through = (window key log after through).take limit := by
  have lastInWindow := mem_window.mp (List.mem_of_mem_take (List.mem_of_getLast? isLast))
  have empty : window key log (key last) through = [] := by
    rw [List.eq_nil_iff_forall_not_mem]
    intro entry found
    obtain ⟨inLog, later, inside⟩ := mem_window.mp found
    exact nothing entry inLog later inside
  have joined := window_append_window ordered (Nat.le_of_lt lastInWindow.2.1) lastInWindow.2.2
  rw [empty, List.append_nil, page_eq_window ordered isLast] at joined
  exact joined.symm

theorem window_of_empty_page (positive : 0 < limit)
    (empty : ((window key log after through).take limit).getLast? = none) :
    window key log after through = [] := by
  have none := List.getLast?_eq_none_iff.mp empty
  rcases List.take_eq_nil_iff.mp none with zero | nothing
  · omega
  · exact nothing

end OrderedLog
