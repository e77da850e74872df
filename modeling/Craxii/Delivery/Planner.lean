import Craxii.Delivery.PlannerCore

/-!
How an answer is cut into messages: the loop is the greedy cutting as long as the parts suffice.
-/

namespace Craxii

open Utf8Text

def paragraphBreak : Text := ['\n', '\n']

/-- Where a window is cut: after its last paragraph break, else after its last newline, else
at its end. -/
inductive CutAt : Text → Text → Prop
  | paragraph {before after : Text} (last : ¬paragraphBreak <:+: after) :
      CutAt (before ++ paragraphBreak) after
  | newline {before after : Text} (single : ¬paragraphBreak <:+: before ++ ['\n'] ++ after)
      (last : '\n' ∉ after) : CutAt (before ++ ['\n']) after
  | whole {window : Text} (plain : '\n' ∉ window) : CutAt window []

theorem not_mem_of_unbroken {c : Char} {text : Text} (absent : ¬[c] <:+: text) : c ∉ text := by
  intro member
  obtain ⟨before, after, split⟩ := List.append_of_mem member
  exact absent ⟨before, after, by simp [split]⟩

theorem nextPart_cases (limit : Nat) (text : Text) :
    ∃ after, truncateUtf8 text limit = nextPart limit text ++ after ∧ CutAt (nextPart limit text) after := by
  unfold nextPart
  dsimp only
  generalize truncateUtf8 text limit = window
  cases paragraph : rfind ['\n', '\n'] window with
  | some index =>
    dsimp only
    obtain ⟨before, after, rfl, rfl, last⟩ := rfind_eq_some (by simp) paragraph
    rw [List.take_left' (by simp)]
    exact ⟨after, rfl, .paragraph last⟩
  | none =>
    have single := rfind_eq_none (by simp) paragraph
    cases newline : rfind ['\n'] window with
    | some index =>
      dsimp only
      obtain ⟨before, after, rfl, rfl, last⟩ := rfind_eq_some (by simp) newline
      rw [List.take_left' (by simp)]
      exact ⟨after, rfl, .newline single (not_mem_of_unbroken last)⟩
    | none => exact ⟨[], by simp, .whole (not_mem_of_unbroken (rfind_eq_none (by simp) newline))⟩

theorem CutAt.ne_nil {part after : Text} (cut : CutAt part after) (some : part ++ after ≠ []) :
    part ≠ [] := by
  cases cut with
  | paragraph | newline => simp [paragraphBreak]
  | whole => simpa using some

inductive GreedyCuts (limit : Nat) : Text → List Text → Prop
  | last {text : Text} (fits : utf8Len text ≤ limit) : GreedyCuts limit text [text]
  | cut {text rest : Text} {parts : List Text} (long : limit < utf8Len text)
      (split : text = nextPart limit text ++ rest) (later : GreedyCuts limit rest parts) :
      GreedyCuts limit text (nextPart limit text :: parts)

section Cutting

variable {limit : Nat} {text : Text} {parts : List Text}

theorem cut_spec (room : 4 ≤ limit) (long : limit < utf8Len text) :
    ∃ after rest, text = nextPart limit text ++ after ++ rest ∧
      CutAt (nextPart limit text) after ∧ nextPart limit text ≠ [] ∧
      utf8Len (nextPart limit text ++ after) ≤ limit ∧
      limit < utf8Len (nextPart limit text ++ after) + 4 := by
  obtain ⟨rest, split⟩ := truncateUtf8_isPrefix text limit
  obtain ⟨after, window, cut⟩ := nextPart_cases limit text
  have within := utf8Len_truncateUtf8 text limit
  have filled : limit < utf8Len (truncateUtf8 text limit) + 4 := by
    rcases truncateUtf8_fills text limit with whole | filled
    · rw [whole] at within
      omega
    · exact filled
  rw [window] at within filled
  have some : nextPart limit text ++ after ≠ [] := by
    intro empty
    rw [empty, utf8Len_nil] at filled
    omega
  exact ⟨after, rest, window ▸ split, cut, cut.ne_nil some, within, filled⟩

theorem greedyCuts_exists (room : 4 ≤ limit) (text : Text) : ∃ parts, GreedyCuts limit text parts := by
  induction size : text.length using Nat.strongRecOn generalizing text with
  | ind count ih =>
    by_cases fits : utf8Len text ≤ limit
    · exact ⟨[text], .last fits⟩
    · obtain ⟨after, rest, split, _, nonempty, _⟩ := cut_spec room (Nat.lt_of_not_le fits)
      have shorter : (after ++ rest).length < count := by
        have lengths := congrArg List.length split
        have positive := List.length_pos_iff.mpr nonempty
        simp only [List.length_append] at lengths ⊢
        omega
      obtain ⟨parts, cuts⟩ := ih _ shorter (after ++ rest) rfl
      exact ⟨_, .cut (Nat.lt_of_not_le fits) (by simpa using split) cuts⟩

theorem GreedyCuts.parts_pos (cuts : GreedyCuts limit text parts) : 0 < parts.length := by
  cases cuts with
  | last | cut => simp

theorem GreedyCuts.flatten (cuts : GreedyCuts limit text parts) : parts.flatten = text := by
  induction cuts with
  | last => simp
  | cut _ split _ ih => rw [List.flatten_cons, ih, ← split]

theorem GreedyCuts.bounded (room : 4 ≤ limit) (cuts : GreedyCuts limit text parts) (some : text ≠ []) :
    ∀ part ∈ parts, part ≠ [] ∧ utf8Len part ≤ limit := by
  induction cuts with
  | last fits => simpa using ⟨some, fits⟩
  | @cut text rest parts long split later ih =>
    obtain ⟨after, tail, _, _, nonempty, within, _⟩ := cut_spec room long
    rw [utf8Len_append] at within
    have more : rest ≠ [] := by
      rintro rfl
      rw [split, List.append_nil] at long
      omega
    intro part member
    rcases List.mem_cons.mp member with rfl | inRest
    · exact ⟨nonempty, by omega⟩
    · exact ih more part inRest

theorem splitLoop_eq {maxParts : Nat} (room : 4 ≤ limit) (cuts : GreedyCuts limit text parts)
    (some : text ≠ []) : ∀ turns done, text.length ≤ turns → done.length < maxParts →
      splitLoop limit maxParts turns done text =
        .some (if done.length + parts.length ≤ maxParts then .ok (done ++ parts)
          else .error .payloadTooLarge) := by
  induction cuts with
  | @last text fits =>
    intro turns done enough left
    obtain ⟨turns, rfl⟩ : ∃ less, turns = less + 1 :=
      ⟨turns - 1, by have := List.length_pos_iff.mpr some; omega⟩
    simp only [splitLoop, some, fits, if_true, if_false, List.length_singleton]
    rw [if_pos (by omega)]
  | @cut text rest parts long split later ih =>
    intro turns done enough left
    obtain ⟨after, tail, _, _, nonempty, within, filled⟩ := cut_spec room long
    have window : truncateUtf8 text limit ≠ [] := by
      intro empty
      simp [nextPart, empty, rfind] at nonempty
    have more : rest ≠ [] := by
      rintro rfl
      rw [split, List.append_nil] at long
      rw [utf8Len_append] at within
      omega
    have lengths := congrArg List.length split
    rw [List.length_append] at lengths
    have positive := List.length_pos_iff.mpr nonempty
    have remaining := congrArg (List.drop (nextPart limit text).length) split
    rw [List.drop_left] at remaining
    obtain ⟨turns, rfl⟩ : ∃ less, turns = less + 1 := ⟨turns - 1, by omega⟩
    have counted := later.parts_pos
    have next := ih more turns (done ++ [nextPart limit text]) (by omega)
    simp only [List.length_append, List.length_cons, List.length_nil] at next
    simp only [splitLoop, some, Nat.not_le_of_lt long, window, nonempty, if_false, remaining,
      List.length_append, List.length_cons, List.length_nil]
    by_cases full : maxParts ≤ done.length + (0 + 1)
    · rw [if_pos full, if_neg (by omega)]
    · rw [if_neg full, next (by omega), List.append_assoc, List.singleton_append, Nat.add_assoc,
        Nat.zero_add, Nat.add_comm 1]

theorem splitTextV1_eq {profile : ChannelDeliveryProfile}
    (cuts : GreedyCuts profile.maxTextUtf8Bytes text parts) (some : text ≠ []) :
    splitTextV1 text profile = .some (if parts.length ≤ profile.maxParts then .ok parts
      else .error .payloadTooLarge) := by
  have room : 4 ≤ profile.maxTextUtf8Bytes := Nat.le_trans (by decide) profile.bytesMin
  have looped := splitLoop_eq room cuts some text.length [] (Nat.le_refl _) profile.partsMin
  simp only [List.length_nil, Nat.zero_add, List.nil_append] at looped
  simp only [splitTextV1, some, if_false, looped, Option.bind_eq_bind, Option.bind_some]
  by_cases enough : parts.length ≤ profile.maxParts
  · have parted : parts ≠ [] := List.length_pos_iff.mp cuts.parts_pos
    have filled : [] ∉ parts := fun member => (cuts.bounded room some [] member).1 rfl
    have most := profile.partsMax
    have checked : ¬(parts = [] ∨ profile.maxParts < parts.length ∨ 64 < parts.length ∨ [] ∈ parts ∨
        parts.flatten ≠ text) := by
      simp only [parted, filled, cuts.flatten, maxDeliveryParts, ne_eq, not_true_eq_false, or_false,
        false_or] at most ⊢
      omega
    rw [if_pos enough]
    simp only [checked, if_false]
    rfl
  · rw [if_neg enough]
    rfl

end Cutting

theorem split_text_exact (profile : ChannelDeliveryProfile) (text : Text) (some : text ≠ []) :
    (∃ parts, GreedyCuts profile.maxTextUtf8Bytes text parts) ∧
      ∀ parts, GreedyCuts profile.maxTextUtf8Bytes text parts →
        splitTextV1 text profile = .some (if parts.length ≤ profile.maxParts then .ok parts
          else .error .payloadTooLarge) ∧
        parts.flatten = text ∧
        ∀ part ∈ parts, part ≠ [] ∧ utf8Len part ≤ profile.maxTextUtf8Bytes := by
  have room : 4 ≤ profile.maxTextUtf8Bytes := Nat.le_trans (by decide) profile.bytesMin
  refine ⟨greedyCuts_exists room text, fun parts cuts => ?_⟩
  have bounded := cuts.bounded room some
  refine ⟨splitTextV1_eq cuts some, cuts.flatten, bounded⟩

theorem split_text_exact_plain :
    splitTextV1 ['h', 'i'] telegramDeliveryProfile = .some (.ok [['h', 'i']]) ∧
      [['h', 'i']].flatten = ['h', 'i'] :=
  have exact := (split_text_exact telegramDeliveryProfile ['h', 'i'] (by decide)).2 [['h', 'i']]
    (.last (by decide))
  ⟨exact.1, exact.2.1⟩

inductive Remains (limit : Nat) : Text → Text → Prop
  | start {text : Text} : Remains limit text text
  | later {text rest left : Text} (long : limit < utf8Len text)
      (split : text = nextPart limit text ++ rest) (reached : Remains limit rest left) :
      Remains limit text left

def Blank (text : Text) : Prop := ∀ c ∈ text, isWhitespace c = true

/-- Only whitespace stands before the break at which the rest is cut next, or the rest is the
last part and holds nothing else. -/
def BeginsBlank (limit : Nat) (rest : Text) : Prop :=
  if utf8Len rest ≤ limit then Blank rest
  else
    let window := truncateUtf8 rest limit
    match rfind paragraphBreak window with
    | some index => Blank (window.take index)
    | none =>
      match rfind ['\n'] window with
      | some index => Blank (window.take index)
      | none => False

section Visible

variable {limit : Nat} {text rest : Text} {parts : List Text}

theorem Remains.isSuffix (reached : Remains limit text rest) : rest <:+ text := by
  induction reached with
  | start => exact List.suffix_rfl
  | later _ split _ ih =>
    rw [split]
    exact ih.trans (List.suffix_append _ _)

theorem GreedyCuts.mem_iff (cuts : GreedyCuts limit text parts) (part : Text) :
    part ∈ parts ↔ ∃ rest, Remains limit text rest ∧
      part = if utf8Len rest ≤ limit then rest else nextPart limit rest := by
  induction cuts with
  | @last text fits =>
    constructor
    · intro member
      exact ⟨text, .start, by rw [if_pos fits]; exact List.mem_singleton.mp member⟩
    · rintro ⟨rest, reached, rfl⟩
      cases reached with
      | start => simp [fits]
      | later long => omega
  | @cut text tail parts long split later ih =>
    rw [List.mem_cons, ih]
    constructor
    · rintro (rfl | ⟨rest, reached, same⟩)
      · exact ⟨text, .start, by rw [if_neg (by omega)]⟩
      · exact ⟨rest, .later long split reached, same⟩
    · rintro ⟨rest, reached, rfl⟩
      cases reached with
      | start =>
        left
        rw [if_neg (by omega)]
      | later _ again reached =>
        right
        obtain rfl := List.append_cancel_left (split.symm.trans again)
        exact ⟨rest, reached, rfl⟩

theorem blank_append {before after : Text} : Blank (before ++ after) ↔ Blank before ∧ Blank after :=
  List.forall_mem_append

theorem blank_nextPart (long : limit < utf8Len text) (dense : ¬Blank (truncateUtf8 text limit)) :
    Blank (nextPart limit text) ↔ BeginsBlank limit text := by
  rw [BeginsBlank, if_neg (by omega)]
  unfold nextPart
  dsimp only [paragraphBreak]
  generalize truncateUtf8 text limit = window at dense ⊢
  cases paragraph : rfind ['\n', '\n'] window with
  | some index =>
    dsimp only
    obtain ⟨before, after, rfl, rfl, _⟩ := rfind_eq_some (by simp) paragraph
    rw [List.take_left' (by simp), List.append_assoc, List.take_left' rfl, blank_append]
    exact and_iff_left (by simp [Blank]; decide)
  | none =>
    cases newline : rfind ['\n'] window with
    | some index =>
      dsimp only
      obtain ⟨before, after, rfl, rfl, _⟩ := rfind_eq_some (by simp) newline
      rw [List.take_left' (by simp), List.append_assoc, List.take_left' rfl, blank_append]
      exact and_iff_left (by simp [Blank]; decide)
    | none => exact iff_of_false dense id

end Visible

end Craxii
