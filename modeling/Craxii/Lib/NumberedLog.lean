import Mathlib

/-!
Append-only logs whose entries carry an offset in the log and a sequence number in their stream,
both counted from one without gaps.
-/

namespace NumberedLog

variable {Entry Stream : Type}

def Counted (number : Entry → Nat) (log : List Entry) : Prop :=
  log.map number = List.range' 1 log.length

section Counted

variable {number : Entry → Nat} {log : List Entry}

theorem Counted.nil : Counted number ([] : List Entry) := rfl

variable {entry first second : Entry}

section

variable (counted : Counted number log)
include counted

theorem Counted.append
    (next : number entry = log.length + 1) : Counted number (log ++ [entry]) := by
  rw [Counted, List.map_append, counted, List.length_append, List.length_singleton,
    List.range'_1_concat, List.map_singleton, next, Nat.add_comm]

theorem Counted.pairwise : log.Pairwise fun first second => number first < number second := by
  rw [← List.pairwise_map, counted]
  exact List.pairwise_lt_range'

theorem Counted.eq (firstIn : first ∈ log)
    (secondIn : second ∈ log) (same : number first = number second) : first = second := by
  have distinct : (log.map number).Nodup := by
    rw [counted]
    exact List.nodup_range'
  exact List.inj_on_of_nodup_map distinct firstIn secondIn same

theorem Counted.number_of_split {before after : List Entry}
    (split : log = before ++ entry :: after) : number entry = before.length + 1 := by
  have numbers : (log.map number)[before.length]? = some (number entry) := by
    simp [split]
  rw [counted, List.getElem?_range' (by simp [split])] at numbers
  simp only [Option.some.injEq] at numbers
  omega

theorem Counted.related {Related : Entry → Entry → Prop}
    (pairwise : log.Pairwise Related) (firstIn : first ∈ log)
    (secondIn : second ∈ log) (before : number first < number second) : Related first second := by
  obtain ⟨i, iBound, rfl⟩ := List.mem_iff_getElem.mp firstIn
  obtain ⟨j, jBound, rfl⟩ := List.mem_iff_getElem.mp secondIn
  refine List.pairwise_iff_getElem.mp pairwise i j iBound jBound (Nat.lt_of_not_le fun notLess => ?_)
  have increasing := List.pairwise_iff_getElem.mp counted.pairwise j i jBound iBound
  rcases Nat.lt_or_eq_of_le notLess with less | same
  · exact absurd (increasing less) (Nat.lt_asymm before)
  · subst same
    exact Nat.lt_irrefl _ before

theorem Counted.number_le (member : entry ∈ log) : number entry ≤ log.length := by
  obtain ⟨before, after, split⟩ := List.append_of_mem member
  rw [counted.number_of_split split, split, List.length_append, List.length_cons]
  omega

end

end Counted

inductive Built (Allowed : List Entry → Entry → Prop) : List Entry → Prop
  | nil : Built Allowed []
  | append {log : List Entry} {entry : Entry} (built : Built Allowed log) (allowed : Allowed log entry) :
      Built Allowed (log ++ [entry])

theorem Built.allowed {Allowed : List Entry → Entry → Prop} {log before after : List Entry}
    {entry : Entry}
    (built : Built Allowed log) (split : log = before ++ entry :: after) : Allowed before entry := by
  induction built generalizing after with
  | nil => simp at split
  | append built allowed ih =>
    rcases List.eq_nil_or_concat after with rfl | ⟨earlier, last, rfl⟩
    · obtain ⟨sameLog, sameEntry⟩ := List.append_inj' split rfl
      rw [← sameLog, ← List.singleton_inj.mp sameEntry]
      exact allowed
    · rw [List.concat_eq_append, ← List.cons_append, ← List.append_assoc] at split
      exact ih (List.append_inj' split rfl).1

section Streams

variable [DecidableEq Stream] {stream : Entry → Stream} {number : Entry → Nat} {log : List Entry}

def StreamCounted (stream : Entry → Stream) (number : Entry → Nat) (log : List Entry) : Prop :=
  ∀ id, Counted number (log.filter fun entry => stream entry == id)

theorem StreamCounted.nil : StreamCounted stream number ([] : List Entry) := fun _ => rfl

theorem StreamCounted.append {entry : Entry} (counted : StreamCounted stream number log)
    (next : number entry = log.countP (fun other => stream other == stream entry) + 1) :
    StreamCounted stream number (log ++ [entry]) := by
  intro id
  rw [List.filter_append]
  by_cases same : stream entry = id
  · subst same
    rw [List.filter_cons_of_pos (by simp), List.filter_nil]
    exact (counted _).append (by rw [next, List.countP_eq_length_filter])
  · rw [List.filter_cons_of_neg (by simpa using same), List.filter_nil, List.append_nil]
    exact counted id

theorem StreamCounted.find_previous (counted : StreamCounted stream number log)
    {before after : List Entry} {entry previous : Entry} (split : log = before ++ entry :: after)
    (last : (before.filter fun other => stream other == stream entry).getLast? = some previous) :
    log.find? (fun other => stream other == stream entry && number other + 1 == number entry) =
      some previous := by
  obtain ⟨earlier, earlierEq⟩ := List.getLast?_eq_some_iff.mp last
  have inStream : log.filter (fun other => stream other == stream entry) =
      (earlier ++ [previous]) ++ entry :: after.filter fun other => stream other == stream entry := by
    rw [split, List.filter_append, earlierEq, List.filter_cons_of_pos (by simp)]
  have entryNumber := (counted (stream entry)).number_of_split inStream
  have previousNumber := (counted (stream entry)).number_of_split
    (inStream.trans (List.append_assoc _ _ _))
  have previousIn : previous ∈ log.filter fun other => stream other == stream entry := by
    rw [inStream]
    simp
  simp only [List.length_append, List.length_singleton] at entryNumber
  cases found : log.find? (fun other => stream other == stream entry && number other + 1 == number entry) with
  | none =>
    rw [List.find?_eq_none] at found
    have absent := found previous (List.mem_of_mem_filter previousIn)
    have sameStream : stream previous = stream entry := by
      simpa using (List.mem_filter.mp previousIn).2
    simp [sameStream, entryNumber, previousNumber] at absent
  | some other =>
    have satisfies := List.find?_some found
    simp only [Bool.and_eq_true, beq_iff_eq] at satisfies
    have otherIn : other ∈ log.filter fun other => stream other == stream entry :=
      List.mem_filter.mpr ⟨List.mem_of_find?_eq_some found, by simpa using satisfies.1⟩
    rw [(counted (stream entry)).eq otherIn previousIn (by omega)]

end Streams

end NumberedLog
