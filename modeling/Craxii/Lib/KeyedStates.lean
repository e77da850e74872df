import Mathlib

/-!
Lists of keys with the state each is in, the newest first, in which at most the newest may still
be open.
-/

namespace KeyedStates

variable {Key State : Type}

def moveState [DecidableEq Key] [DecidableEq State] (key : Key) (expected next : State) (entries : List (Key × State)) :
    List (Key × State) :=
  entries.map fun entry => if entry = (key, expected) then (key, next) else entry

def AllClosed (closed : State → Bool) (entries : List (Key × State)) : Prop :=
  ∀ entry ∈ entries, closed entry.2 = true

def Holds (closed : State → Bool) (entries : List (Key × State)) (key : Key) (state : State) : Prop :=
  ∃ older, entries = (key, state) :: older ∧ closed state = false ∧ AllClosed closed older

variable {closed : State → Bool} {entries : List (Key × State)} {key : Key} {state next : State}

theorem AllClosed.opens (allClosed : AllClosed closed entries) (opened : closed state = false) :
    Holds closed ((key, state) :: entries) key state :=
  ⟨entries, rfl, opened, allClosed⟩

variable [DecidableEq Key] [DecidableEq State]

@[simp] theorem length_moveState (key : Key) (expected next : State) (entries : List (Key × State)) :
    (moveState key expected next entries).length = entries.length := by
  simp [moveState]

@[simp] theorem map_fst_moveState (key : Key) (expected next : State) (entries : List (Key × State)) :
    (moveState key expected next entries).map Prod.fst = entries.map Prod.fst := by
  rw [moveState, List.map_map]
  apply List.map_congr_left
  intro entry _
  by_cases moved : entry = (key, expected)
  · simp [moved]
  · simp [moved]

theorem Holds.contains (held : Holds closed entries key state) :
    entries.contains (key, state) = true := by
  obtain ⟨older, rfl, _, _⟩ := held
  simp

theorem moveState_newest (held : Holds closed ((key, state) :: entries) key state) :
    moveState key state next ((key, state) :: entries) = (key, next) :: entries := by
  obtain ⟨older, same, opened, olderClosed⟩ := held
  cases same
  have unmoved : entries.map (fun entry => if entry = (key, state) then (key, next) else entry) =
      entries := by
    refine (List.map_congr_left ?_).trans (List.map_id entries)
    intro entry member
    by_cases expected : entry = (key, state)
    · have entryClosed := olderClosed entry member
      rw [expected] at entryClosed
      simp [opened] at entryClosed
    · simp [expected]
  simp [moveState, unmoved]

theorem Holds.moved (held : Holds closed entries key state) (stillOpen : closed next = false) :
    Holds closed (moveState key state next entries) key next := by
  obtain ⟨older, rfl, opened, olderClosed⟩ := held
  rw [moveState_newest ⟨older, rfl, opened, olderClosed⟩]
  exact ⟨older, rfl, stillOpen, olderClosed⟩

theorem Holds.allClosed (held : Holds closed entries key state) (nowClosed : closed next = true) :
    AllClosed closed (moveState key state next entries) := by
  obtain ⟨older, rfl, opened, olderClosed⟩ := held
  rw [moveState_newest ⟨older, rfl, opened, olderClosed⟩]
  intro entry member
  rcases List.mem_cons.mp member with rfl | elder
  · exact nowClosed
  · exact olderClosed entry elder

end KeyedStates
