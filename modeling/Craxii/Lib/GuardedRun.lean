import Mathlib

/-!
Runs of a guarded step function.
-/

namespace GuardedRun

variable {State Input : Type}

def offer (step : State → Input → Option State) (state : State) (input : Input) : State :=
  (step state input).getD state

def replay (step : State → Input → Option State) (state : State) (inputs : List Input) : State :=
  inputs.foldl (offer step) state

def acceptedCount (step : State → Input → Option State) : State → List Input → Nat
  | _, [] => 0
  | state, input :: rest =>
    (if (step state input).isSome then 1 else 0) + acceptedCount step (offer step state input) rest

def Admits (step : State → Input → Option State) (Allowed : State → Input → Prop) :
    State → List Input → Prop
  | _, [] => True
  | state, input :: rest => Allowed state input ∧ Admits step Allowed (offer step state input) rest

variable {step : State → Input → Option State}

instance Admits.decidable {Allowed : State → Input → Prop}
    [∀ state input, Decidable (Allowed state input)] :
    ∀ (state : State) (inputs : List Input), Decidable (Admits step Allowed state inputs)
  | _, [] => isTrue trivial
  | state, input :: rest =>
    @instDecidableAnd _ _ _ (Admits.decidable (offer step state input) rest)

variable {input : Input} {inputs : List Input} {state : State} {Allowed : State → Input → Prop}

theorem offer_accepted {next : State} (accepted : step state input = some next) :
    offer step state input = next := by
  simp [offer, accepted]

theorem offer_refused (refused : step state input = none) : offer step state input = state := by
  simp [offer, refused]

@[simp] theorem replay_nil (state : State) : replay step state [] = state := rfl

@[simp] theorem replay_cons (state : State) (input : Input) (rest : List Input) :
    replay step state (input :: rest) = replay step (offer step state input) rest := rfl

theorem replay_append (state : State) (first second : List Input) :
    replay step state (first ++ second) = replay step (replay step state first) second := by
  simp [replay, List.foldl_append]

@[simp] theorem replay_concat (state : State) (first : List Input) (input : Input) :
    replay step state (first ++ [input]) = offer step (replay step state first) input := by
  rw [replay_append]
  rfl

theorem replay_invariant (Holds : State → Prop)
    (preserved : ∀ state input next, Holds state → step state input = some next → Holds next) (initial : Holds state) (inputs : List Input) :
    Holds (replay step state inputs) := by
  induction inputs generalizing state with
  | nil => exact initial
  | cons input rest ih =>
    rw [replay_cons]
    apply ih
    cases outcome : step state input with
    | none => rwa [offer_refused outcome]
    | some next =>
      rw [offer_accepted outcome]
      exact preserved state input next initial outcome

theorem replay_invariant_admitted (Holds : State → Prop)
    (preserved : ∀ state input next, Holds state → Allowed state input →
      step state input = some next → Holds next) : ∀ {state : State}, Holds state → Admits step Allowed state inputs →
      Holds (replay step state inputs) := by
  induction inputs with
  | nil => exact fun initial _ => initial
  | cons input rest ih =>
    intro state initial admitted
    obtain ⟨allowed, restAdmitted⟩ := admitted
    rw [replay_cons]
    apply ih ?_ restAdmitted
    cases outcome : step state input with
    | none => rwa [offer_refused outcome]
    | some next =>
      rw [offer_accepted outcome]
      exact preserved state input next initial allowed outcome

theorem Admits.concat :
    ∀ {state : State}, Admits step Allowed state inputs → Allowed (replay step state inputs) input →
      Admits step Allowed state (inputs ++ [input]) := by
  induction inputs with
  | nil => exact fun _ allowed => ⟨allowed, trivial⟩
  | cons first rest ih =>
    intro state admitted allowed
    obtain ⟨here, later⟩ := admitted
    exact ⟨here, ih later allowed⟩

theorem replay_counts (measure : State → Nat)
    (raised : ∀ state input next, step state input = some next → measure next = measure state + 1)
    (state : State) (inputs : List Input) :
    measure (replay step state inputs) = measure state + acceptedCount step state inputs := by
  induction inputs generalizing state with
  | nil => simp [acceptedCount]
  | cons input rest ih =>
    rw [replay_cons, ih, acceptedCount]
    cases outcome : step state input with
    | none => simp [offer_refused outcome]
    | some next =>
      rw [offer_accepted outcome, raised state input next outcome]
      simp
      omega

end GuardedRun
