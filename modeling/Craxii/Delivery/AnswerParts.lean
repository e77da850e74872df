import Craxii.Delivery.Planner
import Craxii.Domain.Lifecycle

/-!
How many messages an answer takes: a short part leaves a window of text without separators, whose
bytes pay for the parts around it.
-/

namespace Craxii

open Utf8Text

/-- A stretch of a rendered answer of which `mass` bytes belong to its blocks. It begins
inside a block, after one newline of a separator, or after both. -/
inductive Rendered : Nat → Text → Nat → Prop
  | done {seen : Nat} (few : seen ≤ 2) : Rendered seen [] 0
  | text {seen mass : Nat} {c : Char} {rest : Text} (placed : seen = 0 ∨ seen = 2)
      (later : Rendered 0 rest mass) : Rendered seen (c :: rest) (c.utf8Size + mass)
  | separator {seen mass : Nat} {rest : Text} (inside : seen < 2)
      (later : Rendered (seen + 1) rest mass) : Rendered seen ('\n' :: rest) mass

section Stretch

variable {seen mass owed : Nat} {text gap part after : Text}

theorem Rendered.append_inv {rest : Text} (rendered : Rendered seen (text ++ rest) mass) :
    ∃ first next last, mass = first + last ∧ Rendered seen text first ∧ Rendered next rest last := by
  induction text generalizing seen mass with
  | nil =>
    have few : seen ≤ 2 := by
      cases rendered <;> omega
    exact ⟨0, seen, mass, by omega, .done few, rendered⟩
  | cons c text ih =>
    cases rendered with
    | text placed later =>
      obtain ⟨first, next, last, sum, begins, ends⟩ := ih later
      exact ⟨c.utf8Size + first, next, last, by omega, .text placed begins, ends⟩
    | separator inside later =>
      obtain ⟨first, next, last, sum, begins, ends⟩ := ih later
      exact ⟨first, next, last, sum, .separator inside begins, ends⟩

theorem Rendered.bytes_le (rendered : Rendered seen text mass) : utf8Len text + seen ≤ 3 * mass + 2 := by
  induction rendered with
  | done few => simpa using few
  | @text _ _ c _ _ _ ih =>
    have positive := Char.utf8Size_pos c
    rw [utf8Len_cons]
    omega
  | separator _ _ ih =>
    rw [utf8Len_cons, show '\n'.utf8Size = 1 by decide]
    omega

theorem Rendered.bytes_of_unbroken (rendered : Rendered seen text mass)
    (unbroken : ¬paragraphBreak <:+: text) :
    utf8Len text ≤ mass + 2 ∧ (seen ≠ 1 → utf8Len text ≤ mass + 1) := by
  induction rendered with
  | done => simp
  | text _ _ ih =>
    have tail := ih fun inside => unbroken (inside.trans (List.infix_cons List.infix_rfl))
    rw [utf8Len_cons]
    omega
  | @separator seen mass rest inside later ih =>
    have tail := ih fun inside => unbroken (inside.trans (List.infix_cons List.infix_rfl))
    rw [utf8Len_cons, show '\n'.utf8Size = 1 by decide]
    cases later with
    | done => simp
    | text => omega
    | separator => exact absurd ⟨[], _, rfl⟩ unbroken

theorem Rendered.bytes_of_plain (rendered : Rendered seen text mass) (plain : '\n' ∉ text) :
    utf8Len text = mass := by
  induction rendered with
  | done => rfl
  | text _ _ ih => rw [utf8Len_cons, ih (List.not_mem_of_not_mem_cons plain)]
  | separator => simp at plain

/-- What the parts so far owe to a window's rest, of whose bytes they were paid. -/
inductive Owed : Text → Nat → Prop
  | nothing : Owed [] 0
  | unbroken {gap : Text} (unbroken : ¬paragraphBreak <:+: gap) : Owed gap (utf8Len gap)
  | plain {gap : Text} (plain : '\n' ∉ gap) : Owed gap (2 * utf8Len gap)

theorem Owed.paid (debt : Owed gap owed) (begins : gap <+: part) (rendered : Rendered seen part mass) :
    utf8Len part + owed ≤ 3 * mass + 8 := by
  obtain ⟨rest, rfl⟩ := begins
  obtain ⟨first, next, last, rfl, ofGap, ofRest⟩ := rendered.append_inv
  have bytesRest := ofRest.bytes_le
  rw [utf8Len_append]
  cases debt with
  | nothing => simp; omega
  | unbroken unbroken =>
    have bytesGap := (ofGap.bytes_of_unbroken unbroken).1
    omega
  | plain plain =>
    have bytesGap := ofGap.bytes_of_plain plain
    omega

theorem CutAt.pays {rest : Text} (cut : CutAt part after) (rendered : Rendered seen part mass)
    (within : utf8Len (part ++ after) ≤ 4096) (filled : 4096 < utf8Len (part ++ after) + 4)
    (debt : Owed gap owed) (begins : gap <+: part ++ rest) (short : utf8Len gap ≤ 4096) :
    ∃ next, Owed after next ∧ 4000 + owed ≤ 3 * mass + next := by
  rw [utf8Len_append] at within filled
  have nested (apart : ¬part <+: gap) : gap <+: part :=
    (List.prefix_or_prefix_of_prefix begins (List.prefix_append part rest)).resolve_right apart
  cases cut with
  | @paragraph before after last =>
    refine ⟨_, .unbroken last, ?_⟩
    have inPart : gap <+: before ++ paragraphBreak := by
      cases debt with
      | nothing => exact List.nil_prefix
      | unbroken unbroken =>
        refine nested fun inGap => unbroken ?_
        exact (List.suffix_append before paragraphBreak).isInfix.trans inGap.isInfix
      | plain plain =>
        refine nested fun inGap => plain (inGap.subset ?_)
        simp [paragraphBreak]
    have paid := debt.paid inPart rendered
    omega
  | @newline before after single last =>
    refine ⟨_, .plain last, ?_⟩
    have bytes := (rendered.bytes_of_unbroken
      fun inside => single (inside.trans (List.prefix_append _ _).isInfix)).1
    cases debt with
    | nothing => omega
    | unbroken => omega
    | plain plain =>
      have inPart := nested fun inGap => plain (inGap.subset (by simp))
      obtain ⟨more, whole⟩ := inPart
      have lengths := congrArg utf8Len whole
      rw [utf8Len_append] at lengths
      omega
  | whole plain =>
    refine ⟨0, .nothing, ?_⟩
    have bytes := rendered.bytes_of_plain plain
    rw [utf8Len_nil] at within filled
    cases debt with
    | nothing | unbroken | plain => omega

theorem GreedyCuts.count_le {parts : List Text} (cuts : GreedyCuts 4096 text parts)
    (rendered : Rendered seen text mass) (debt : Owed gap owed) (begins : gap <+: text)
    (short : utf8Len gap ≤ 4096) : 4000 * parts.length + owed ≤ 3 * mass + 4008 := by
  induction cuts generalizing seen mass gap owed with
  | last =>
    have paid := debt.paid begins rendered
    rw [List.length_singleton]
    omega
  | @cut text rest parts long split later ih =>
    obtain ⟨after, tail, whole, cut, _, within, filled⟩ := cut_spec (by decide) long
    rw [split] at rendered begins
    obtain ⟨first, next, last, rfl, ofPart, ofRest⟩ := rendered.append_inv
    obtain ⟨left, owes, pays⟩ := cut.pays ofPart within filled debt begins short
    have resumed : rest = after ++ tail := by
      rw [List.append_assoc] at whole
      exact List.append_cancel_left (split.symm.trans whole)
    rw [utf8Len_append] at within
    have counted := ih ofRest owes (resumed ▸ List.prefix_append after tail) (by omega)
    rw [List.length_cons]
    omega

end Stretch

theorem rendered_block {block rest : Text} {mass : Nat} (later : Rendered 0 rest mass) :
    Rendered 0 (block ++ rest) (utf8Len block + mass) := by
  induction block with
  | nil => simpa using later
  | cons c block ih =>
    rw [utf8Len_cons, Nat.add_assoc]
    exact .text (.inl rfl) ih

theorem rendered_blocks {blocks : List Text} (filled : ∀ block ∈ blocks, block ≠ []) :
    Rendered 2 (paragraphBreak.intercalate blocks) (blocks.map utf8Len).sum := by
  induction blocks with
  | nil => exact .done (Nat.le_refl 2)
  | cons block blocks ih =>
    obtain ⟨c, more, rfl⟩ := List.exists_cons_of_ne_nil (filled block List.mem_cons_self)
    have rest := ih fun block member => filled block (List.mem_cons_of_mem _ member)
    cases blocks with
    | nil =>
      have ends : Rendered 0 (more ++ []) _ := rendered_block (.done (Nat.zero_le 2))
      simpa [List.intercalate_singleton] using Rendered.text (c := c) (.inr rfl) ends
    | cons next blocks =>
      have separated : Rendered 0 (paragraphBreak ++ paragraphBreak.intercalate (next :: blocks)) _ :=
        .separator (by decide) (.separator (by decide) rest)
      rw [List.intercalate_cons_cons, List.append_assoc, List.map_cons, List.sum_cons, utf8Len_cons,
        Nat.add_assoc]
      exact .text (.inr rfl) (rendered_block separated)

end Craxii
