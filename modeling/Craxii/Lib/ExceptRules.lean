import Mathlib

/-!
Early-return checks in `Except` and their inversion rules.
-/

namespace ExceptRules

variable {Error Value Result : Type}

def refuseIf (condition : Bool) (failure : Error) : Except Error Unit :=
  if condition then .error failure else .ok ()

def orRefuse (value : Option Value) (failure : Error) : Except Error Value :=
  match value with
  | some found => .ok found
  | none => .error failure

variable {condition : Bool} {failure : Error} {first result : Except Error Value}
  {values : List Value} {State : Type} {value : Value} {answer rest : Value → Except Error Result}

theorem bind_eq_ok {result : Result} :
    (first >>= rest) = .ok result ↔ ∃ value, first = .ok value ∧ rest value = .ok result := by
  cases first with
  | error => simp [bind, Except.bind]
  | ok value => simp [bind, Except.bind]

theorem bind_eq_error :
    (first >>= rest) = .error failure ↔
      first = .error failure ∨ ∃ value, first = .ok value ∧ rest value = .error failure := by
  cases first with
  | error => simp [bind, Except.bind]
  | ok value => simp [bind, Except.bind]

@[simp] theorem ok_bind (value : Value) (rest : Value → Except Error Result) :
    ((.ok value : Except Error Value) >>= rest) = rest value := rfl

@[simp] theorem error_bind (failure : Error) (rest : Value → Except Error Result) :
    ((.error failure : Except Error Value) >>= rest) = .error failure := rfl

@[simp] theorem pure_eq_ok {other : Value} :
    (pure value : Except Error Value) = .ok other ↔ value = other := by
  simp [pure, Except.pure]

@[simp] theorem refuseIf_false (failure : Error) : refuseIf false failure = .ok () := rfl

@[simp] theorem refuseIf_true (failure : Error) : refuseIf true failure = .error failure := rfl

@[simp] theorem refuseIf_eq_ok {value : Unit} :
    refuseIf condition failure = .ok value ↔ condition = false := by
  cases condition <;> simp [refuseIf]

@[simp] theorem orRefuse_some (value : Value) (failure : Error) :
    orRefuse (some value) failure = .ok value := rfl

@[simp] theorem orRefuse_none (failure : Error) :
    orRefuse (none : Option Value) failure = .error failure := rfl

@[simp] theorem orRefuse_eq_ok {value : Option Value} {found : Value} :
    orRefuse value failure = .ok found ↔ value = some found := by
  cases value <;> simp [orRefuse]

@[simp] theorem mapError_eq_ok {Raised : Type} {convert : Error → Raised} :
    result.mapError convert = .ok value ↔ result = .ok value := by
  cases result <;> simp [Except.mapError]

@[simp] theorem toOption_eq_some : result.toOption = some value ↔ result = .ok value := by
  cases result <;> simp [Except.toOption]

theorem mapM_eq_ok :
    ∀ {values : List Value} {results : List Result}, values.mapM answer = .ok results →
      (∀ value ∈ values, ∃ result ∈ results, answer value = .ok result) ∧
        ∀ result ∈ results, ∃ value ∈ values, answer value = .ok result := by
  intro values
  induction values with
  | nil =>
    intro results traversed
    simp only [List.mapM_nil, pure, Except.pure, Except.ok.injEq] at traversed
    subst traversed
    simp
  | cons value rest ih =>
    intro results traversed
    simp only [List.mapM_cons, bind_eq_ok, pure, Except.pure, Except.ok.injEq] at traversed
    obtain ⟨first, answered, others, traversedRest, rfl⟩ := traversed
    obtain ⟨forward, backward⟩ := ih traversedRest
    constructor
    · intro asked member
      rcases List.mem_cons.mp member with rfl | inRest
      · exact ⟨first, List.mem_cons_self, answered⟩
      · obtain ⟨result, found, same⟩ := forward asked inRest
        exact ⟨result, List.mem_cons_of_mem _ found, same⟩
    · intro result member
      rcases List.mem_cons.mp member with rfl | inOthers
      · exact ⟨value, List.mem_cons_self, answered⟩
      · obtain ⟨asked, found, same⟩ := backward result inOthers
        exact ⟨asked, List.mem_cons_of_mem _ found, same⟩

theorem exists_mapM_ok (answered : ∀ value ∈ values, ∃ result, answer value = .ok result) :
    ∃ results, values.mapM answer = .ok results := by
  induction values with
  | nil => exact ⟨[], rfl⟩
  | cons value rest ih =>
    obtain ⟨first, firstOk⟩ := answered value List.mem_cons_self
    obtain ⟨others, othersOk⟩ := ih fun other member => answered other (List.mem_cons_of_mem _ member)
    exact ⟨first :: others, by simp [List.mapM_cons, firstOk, othersOk, pure, Except.pure]⟩

theorem forM_ok {check : Value → Except Error PUnit}
    (checked : ∀ value ∈ values, check value = .ok ()) : values.forM check = .ok () := by
  induction values with
  | nil => rfl
  | cons value rest ih =>
    rw [List.forM_eq_forM, List.forM_cons, checked value List.mem_cons_self, ok_bind]
    exact ih fun other member => checked other (List.mem_cons_of_mem _ member)

theorem foldlM_history {turn : State → Value → Except Error State}
    (Holds : List Value → State → Prop)
    (preserved : ∀ read state value next, Holds read state → turn state value = .ok next →
      Holds (read ++ [value]) next) :
    ∀ {values read : List Value} {state final : State}, Holds read state →
      values.foldlM turn state = .ok final → Holds (read ++ values) final := by
  intro values
  induction values with
  | nil =>
    intro read state final holds folded
    simp only [List.foldlM_nil, pure, Except.pure, Except.ok.injEq] at folded
    rwa [← folded, List.append_nil]
  | cons value rest ih =>
    intro read state final holds folded
    rw [List.foldlM_cons, bind_eq_ok] at folded
    obtain ⟨next, turned, foldedRest⟩ := folded
    rw [← List.singleton_append, ← List.append_assoc]
    exact ih (preserved read state value next holds turned) foldedRest

theorem foldlM_concat {turn : State → Value → Except Error State} {start : State} :
    (values ++ [value]).foldlM turn start = values.foldlM turn start >>= (turn · value) := by
  simp [List.foldlM_append]

theorem isOk_iff : result.isOk = true ↔ ∃ value, result = .ok value := by
  cases result with
  | error => simp [Except.isOk, Except.toBool]
  | ok value => simp [Except.isOk, Except.toBool]

end ExceptRules
