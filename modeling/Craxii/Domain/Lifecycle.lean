import Craxii.Domain.LifecycleCore
import Craxii.Lib.GuardedRun

/-!
Runs of the Work state machine, read off one inversion lemma for an accepted decision.
-/

namespace Craxii

open ExceptRules GuardedRun

abbrev WorkInput := WorkTransitionGuard × WorkTransitionRequest

variable (workId : WorkId) (inputs : List WorkInput)

def workAfter : WorkLifecycleSnapshot :=
  replay stepWork (.initial workId) inputs

def WorkLifecycleSnapshot.shapeOk (snapshot : WorkLifecycleSnapshot) : Bool :=
  workShapeOk snapshot.state snapshot.runtimeOwner snapshot.currentAttempt
    snapshot.cancellationReason snapshot.terminalReason

theorem validateWorkShape_ok_iff (state : WorkState) (owner : Option RuntimeInstanceId)
    (attempt : CurrentWorkAttempt) (cancellationReason : Option WorkCancellationReason)
    (terminalReason : Option WorkTerminalReason) :
    validateWorkShape state owner attempt cancellationReason terminalReason = .ok () ↔
      workShapeOk state owner attempt cancellationReason terminalReason = true := by
  unfold validateWorkShape
  split
  · simp_all
  · split <;> simp_all

theorem validateShape_ok_iff (snapshot : WorkLifecycleSnapshot) :
    snapshot.validateShape = .ok () ↔ snapshot.shapeOk = true :=
  validateWorkShape_ok_iff _ _ _ _ _

structure AcceptedWork (current : WorkLifecycleSnapshot) (guard : WorkTransitionGuard)
    (request : WorkTransitionRequest) (next : WorkLifecycleSnapshot) : Prop where
  shape : current.shapeOk = true
  guarded : checkGuard current guard = .ok ()
  live : current.state.isTerminal = false
  legal : isLegalWorkPair current.state request.targetState = true
  version : current.projectionVersion.checkedIncrement = some next.projectionVersion
  fields : ∃ eventKind requiredEffect, transitionFields current request =
    .ok ⟨next.runtimeOwner, next.currentAttempt, next.cancellationReason, next.terminalReason,
      eventKind, requiredEffect⟩
  nextShape : next.shapeOk = true
  sameWork : next.workId = current.workId
  target : next.state = request.targetState

theorem isLegalWorkPair_irrefl (state : WorkState) : isLegalWorkPair state state = false := by
  cases state <;> rfl

theorem stepWork_eq_some_iff (current : WorkLifecycleSnapshot) (guard : WorkTransitionGuard)
    (request : WorkTransitionRequest) (next : WorkLifecycleSnapshot) :
    stepWork current (guard, request) = some next ↔ AcceptedWork current guard request next := by
  constructor
  · intro accepted
    simp only [stepWork, Option.map_eq_some_iff] at accepted
    obtain ⟨decision, decided, rfl⟩ := accepted
    have decidedOk := toOption_eq_some.mp decided
    simp only [decideWorkTransition, bind_eq_ok, refuseIf_eq_ok, orRefuse_eq_ok, pure_eq_ok] at decidedOk
    obtain ⟨_, shape, _, guarded, _, live, _, legal, version, versionOk, fields, fieldsOk, _,
      nextShape, rfl⟩ := decidedOk
    simp only [Bool.or_eq_false_iff, Bool.not_eq_false'] at legal
    exact ⟨(validateShape_ok_iff _).mp shape, guarded, live, legal.2, versionOk,
      ⟨fields.eventKind, fields.requiredEffect, fieldsOk⟩,
      (validateWorkShape_ok_iff _ _ _ _ _).mp nextShape, rfl, rfl⟩
  · rintro ⟨shape, guarded, live, legal, version, ⟨eventKind, requiredEffect, fields⟩, nextShape,
      sameWork, target⟩
    have different : (current.state == request.targetState) = false := by
      by_contra same
      simp only [Bool.not_eq_false, beq_iff_eq] at same
      rw [← same, isLegalWorkPair_irrefl] at legal
      exact Bool.false_ne_true legal
    have shapeOk := (validateShape_ok_iff current).mpr shape
    have nextShapeOk : validateWorkShape request.targetState next.runtimeOwner next.currentAttempt
        next.cancellationReason next.terminalReason = .ok () := by
      rw [← target]
      exact (validateWorkShape_ok_iff _ _ _ _ _).mpr nextShape
    simp only [stepWork, decideWorkTransition, shapeOk, guarded, live, legal, different, version,
      fields, nextShapeOk, ok_bind, refuseIf_false, orRefuse_some, pure, Except.pure,
      Bool.not_true, Bool.or_self, Except.toOption, Option.map_some, Option.some.injEq]
    rw [← sameWork, ← target]

variable {owner : RuntimeInstanceId} {current next : WorkLifecycleSnapshot}
  {guard : WorkTransitionGuard} {request : WorkTransitionRequest}

theorem AcceptedWork.owner_kept (accepted : AcceptedWork current guard request next)
    (notStart : ∀ owner, request ≠ .start owner) (nextLive : next.state.isTerminal = false) :
    next.runtimeOwner = current.runtimeOwner := by
  obtain ⟨eventKind, requiredEffect, fields⟩ := accepted.fields
  have target := accepted.target
  cases request with
  | start owner => exact absurd rfl (notStart owner)
  | waitForModel | waitForTool | requestCancellation =>
    simp only [transitionFields, Except.ok.injEq, WorkTransitionFields.mk.injEq] at fields
    exact fields.1.symm
  | resumeFromModel | resumeFromTool =>
    simp only [transitionFields] at fields
    split at fields
    · cases fields
    · simp only [Except.ok.injEq, WorkTransitionFields.mk.injEq] at fields
      exact fields.1.symm
  | complete | fail | cancel | interrupt =>
    simp [WorkTransitionRequest.targetState] at target
    simp [target, WorkState.isTerminal] at nextLive

theorem AcceptedWork.start_state (accepted : AcceptedWork current guard (.start owner) next) :
    current.state = .queued ∨ current.state = .waitingOnModel ∨ current.state = .waitingOnTool := by
  have legal := accepted.legal
  cases state : current.state <;> simp_all [isLegalWorkPair, WorkTransitionRequest.targetState]

theorem AcceptedWork.start_owner (accepted : AcceptedWork current guard (.start owner) next) :
    next.runtimeOwner = some owner := by
  obtain ⟨_, _, fields⟩ := accepted.fields
  simp only [transitionFields, Except.ok.injEq, WorkTransitionFields.mk.injEq] at fields
  exact fields.1.symm

/-- How a work that waits on the attempt `waited` may leave its waiting state, with
`resume` the request that names the attempt. -/
def ExitsWaiting (waited : CurrentWorkAttempt) (resume : WorkTransitionRequest) (mayFail : Bool)
    (request : WorkTransitionRequest) (next : WorkLifecycleSnapshot) : Prop :=
  request = resume ∨
    (∃ reason, request = .requestCancellation reason ∧ next.currentAttempt = waited) ∨
    (∃ reason, request = .interrupt reason) ∨
    (mayFail = true ∧ ∃ reason cleanup, request = .fail reason cleanup)

theorem AcceptedWork.cancellation_attempt {reason : WorkCancellationReason}
    (accepted : AcceptedWork current guard (.requestCancellation reason) next) :
    next.currentAttempt = current.currentAttempt := by
  obtain ⟨_, _, fields⟩ := accepted.fields
  simp only [transitionFields, Except.ok.injEq, WorkTransitionFields.mk.injEq] at fields
  exact fields.2.1.symm

theorem AcceptedWork.model_wait_exit {attempt : ModelInvocationId}
    (accepted : AcceptedWork current guard request next)
    (waiting : current.state = .waitingOnModel) (waited : current.currentAttempt = .model attempt)
    (notStart : ∀ owner, request ≠ .start owner) :
    ExitsWaiting (.model attempt) (.resumeFromModel attempt) true request next := by
  have legal := accepted.legal
  obtain ⟨_, _, fields⟩ := accepted.fields
  cases request with
  | start owner => exact absurd rfl (notStart owner)
  | resumeFromModel named =>
    simp only [transitionFields, waited] at fields
    split at fields
    · cases fields
    · rename_i same
      simp only [ne_eq, CurrentWorkAttempt.model.injEq, not_not] at same
      exact Or.inl (by rw [same])
  | resumeFromTool named => simp [transitionFields, waited] at fields
  | requestCancellation reason =>
    exact Or.inr (Or.inl ⟨reason, rfl, accepted.cancellation_attempt.trans waited⟩)
  | interrupt reason => exact Or.inr (Or.inr (Or.inl ⟨reason, rfl⟩))
  | fail reason cleanup => exact Or.inr (Or.inr (Or.inr ⟨rfl, reason, cleanup, rfl⟩))
  | waitForModel | waitForTool | complete | cancel =>
    simp [waiting, isLegalWorkPair, WorkTransitionRequest.targetState] at legal

theorem AcceptedWork.tool_wait_exit {attempt : ToolExecutionId}
    (accepted : AcceptedWork current guard request next)
    (waiting : current.state = .waitingOnTool) (waited : current.currentAttempt = .tool attempt)
    (notStart : ∀ owner, request ≠ .start owner) :
    ExitsWaiting (.tool attempt) (.resumeFromTool attempt) false request next := by
  have legal := accepted.legal
  obtain ⟨_, _, fields⟩ := accepted.fields
  cases request with
  | start owner => exact absurd rfl (notStart owner)
  | resumeFromTool named =>
    simp only [transitionFields, waited] at fields
    split at fields
    · cases fields
    · rename_i same
      simp only [ne_eq, CurrentWorkAttempt.tool.injEq, not_not] at same
      exact Or.inl (by rw [same])
  | resumeFromModel named => simp [transitionFields, waited] at fields
  | requestCancellation reason =>
    exact Or.inr (Or.inl ⟨reason, rfl, accepted.cancellation_attempt.trans waited⟩)
  | interrupt reason => exact Or.inr (Or.inr (Or.inl ⟨reason, rfl⟩))
  | waitForModel | waitForTool | complete | fail | cancel =>
    simp [waiting, isLegalWorkPair, WorkTransitionRequest.targetState] at legal

/-! Facts about every reached snapshot, whatever the pairs offered. -/

theorem workAfter_shape : (workAfter workId inputs).shapeOk = true := by
  refine replay_invariant (fun snapshot : WorkLifecycleSnapshot => snapshot.shapeOk = true) ?_ rfl inputs
  intro current input next _ accepted
  exact ((stepWork_eq_some_iff current input.1 input.2 next).mp accepted).nextShape

theorem workAfter_workId : (workAfter workId inputs).workId = workId := by
  refine replay_invariant (fun snapshot : WorkLifecycleSnapshot => snapshot.workId = workId) ?_ rfl inputs
  intro current input next same accepted
  exact ((stepWork_eq_some_iff current input.1 input.2 next).mp accepted).sameWork.trans same

theorem workAfter_version :
    (workAfter workId inputs).projectionVersion.value =
      1 + acceptedCount stepWork (.initial workId) inputs := by
  refine replay_counts (fun snapshot : WorkLifecycleSnapshot => snapshot.projectionVersion.value) ?_ _ inputs
  intro current input next accepted
  exact PositiveInteger.checkedIncrement_some
    ((stepWork_eq_some_iff current input.1 input.2 next).mp accepted).version

theorem stepWork_terminal (terminal : current.state.isTerminal = true)
    (input : WorkInput) : stepWork current input = none := by
  cases outcome : stepWork current input with
  | none => rfl
  | some next =>
    have live := ((stepWork_eq_some_iff current input.1 input.2 next).mp outcome).live
    rw [terminal] at live
    cases live

theorem replay_terminal (terminal : current.state.isTerminal = true)
    (inputs : List WorkInput) : replay stepWork current inputs = current := by
  induction inputs with
  | nil => rfl
  | cons input rest ih =>
    rw [replay_cons, offer_refused (stepWork_terminal terminal input)]
    exact ih

/-! The run contract and the exact condition under which it holds. -/

def StartHitsWaiting (current : WorkLifecycleSnapshot) (input : WorkInput) : Prop :=
  (∃ owner, input.2 = .start owner) ∧
    (current.state = .waitingOnModel ∨ current.state = .waitingOnTool) ∧
    checkGuard current input.1 = .ok () ∧ current.projectionVersion.value < i64Max

def NoStartWhileWaiting : Prop :=
  ∀ before input after, inputs = before ++ input :: after →
    ¬StartHitsWaiting (workAfter workId before) input

structure WorkRunContract (workId : WorkId) (inputs : List WorkInput) : Prop where
  startOnlyQueued : ∀ before guard owner after, inputs = before ++ (guard, .start owner) :: after →
    (stepWork (workAfter workId before) (guard, .start owner)).isSome = true →
      (workAfter workId before).state = .queued
  ownerKept : ∀ before guard owner middle after,
    inputs = before ++ (guard, .start owner) :: (middle ++ after) →
    (stepWork (workAfter workId before) (guard, .start owner)).isSome = true →
    (workAfter workId (before ++ (guard, .start owner) :: middle)).state.isTerminal = false →
      (workAfter workId (before ++ (guard, .start owner) :: middle)).runtimeOwner = some owner
  modelWaitExit : ∀ before guard request after attempt next,
    inputs = before ++ (guard, request) :: after →
    (workAfter workId before).state = .waitingOnModel →
    (workAfter workId before).currentAttempt = .model attempt →
    stepWork (workAfter workId before) (guard, request) = some next →
      ExitsWaiting (.model attempt) (.resumeFromModel attempt) true request next
  toolWaitExit : ∀ before guard request after attempt next,
    inputs = before ++ (guard, request) :: after →
    (workAfter workId before).state = .waitingOnTool →
    (workAfter workId before).currentAttempt = .tool attempt →
    stepWork (workAfter workId before) (guard, request) = some next →
      ExitsWaiting (.tool attempt) (.resumeFromTool attempt) false request next
  reachedShape : ∀ before after, inputs = before ++ after →
    (workAfter workId before).validateShape = .ok () ∧
      (workAfter workId before).workId = workId ∧
      (workAfter workId before).projectionVersion.value =
        1 + acceptedCount stepWork (.initial workId) before
  terminalAbsorbs : ∀ before input after, inputs = before ++ input :: after →
    (workAfter workId before).state.isTerminal = true →
      stepWork (workAfter workId before) input = none

theorem start_accepted_of_hits (shape : current.shapeOk = true)
    (hits : StartHitsWaiting current (guard, .start owner)) :
    (stepWork current (guard, .start owner)).isSome = true := by
  obtain ⟨_, waiting, guarded, below⟩ := hits
  obtain ⟨version, incremented⟩ := Option.isSome_iff_exists.mp
    ((PositiveInteger.checkedIncrement_isSome_iff current.projectionVersion).mpr below)
  have accepted : AcceptedWork current guard (.start owner)
      ⟨current.workId, .running, version, some owner, .none, none, none⟩ := by
    refine ⟨shape, guarded, ?_, ?_, incremented, ⟨_, _, rfl⟩, rfl, rfl, rfl⟩
    · rcases waiting with waiting | waiting <;> rw [waiting] <;> rfl
    · rcases waiting with waiting | waiting <;> rw [waiting] <;> rfl
  rw [(stepWork_eq_some_iff _ _ _ _).mpr accepted]
  rfl

theorem hits_of_start_accepted (accepted : AcceptedWork current guard (.start owner) next)
    (notQueued : current.state ≠ .queued) : StartHitsWaiting current (guard, .start owner) := by
  refine ⟨⟨owner, rfl⟩, accepted.start_state.resolve_left notQueued, accepted.guarded, ?_⟩
  apply (PositiveInteger.checkedIncrement_isSome_iff current.projectionVersion).mp
  rw [accepted.version]
  rfl

theorem replay_owner_kept :
    ∀ current : WorkLifecycleSnapshot, current.runtimeOwner = some owner → current.shapeOk = true →
      (∀ before input after, inputs = before ++ input :: after →
        ¬StartHitsWaiting (replay stepWork current before) input) →
      (replay stepWork current inputs).state.isTerminal = false →
        (replay stepWork current inputs).runtimeOwner = some owner := by
  induction inputs with
  | nil => exact fun current owned _ _ _ => owned
  | cons input rest ih =>
    intro current owned shape quiet live
    rw [replay_cons] at live ⊢
    have restQuiet : ∀ before later after, rest = before ++ later :: after →
        ¬StartHitsWaiting (replay stepWork (offer stepWork current input) before) later := by
      intro before later after split
      exact quiet (input :: before) later after (by rw [split]; rfl)
    cases outcome : stepWork current input with
    | none =>
      rw [offer_refused outcome] at live restQuiet ⊢
      exact ih current owned shape restQuiet live
    | some next =>
      rw [offer_accepted outcome] at live restQuiet ⊢
      have accepted := (stepWork_eq_some_iff current input.1 input.2 next).mp outcome
      by_cases nextTerminal : next.state.isTerminal = true
      · rw [replay_terminal nextTerminal, nextTerminal] at live
        cases live
      · apply ih next ?_ accepted.nextShape restQuiet live
        rw [accepted.owner_kept ?_ (by simpa using nextTerminal), owned]
        intro named isStart
        -- A queued work has no owner, so an accepted `Start` here would hit a waiting work.
        apply quiet [] input rest rfl
        have startAccepted : AcceptedWork current input.1 (.start named) next := by
          rw [← isStart]
          exact accepted
        have hits := hits_of_start_accepted startAccepted (by
          intro queued
          simp [WorkLifecycleSnapshot.shapeOk, workShapeOk, queued, owned] at shape)
        exact ⟨⟨named, isStart⟩, hits.2⟩

theorem not_start_of_quiet {workId : WorkId} {inputs before after : List WorkInput}
    (quiet : NoStartWhileWaiting workId inputs) (split : inputs = before ++ (guard, request) :: after)
    (accepted : AcceptedWork (workAfter workId before) guard request next)
    (notQueued : (workAfter workId before).state ≠ .queued) (owner : RuntimeInstanceId) :
    request ≠ .start owner := by
  rintro rfl
  exact quiet before _ after split (hits_of_start_accepted accepted notQueued)

theorem workRun_contract_iff :
    WorkRunContract workId inputs ↔ NoStartWhileWaiting workId inputs := by
  constructor
  · rintro contract before ⟨guard, request⟩ after split hits
    obtain ⟨⟨owner, isStart⟩, waiting, rest⟩ := hits
    simp only at isStart
    subst isStart
    have queued := contract.startOnlyQueued before guard owner after split
      (start_accepted_of_hits (workAfter_shape workId before) ⟨⟨owner, rfl⟩, waiting, rest⟩)
    rcases waiting with waiting | waiting <;> rw [queued] at waiting <;> cases waiting
  · intro quiet
    refine ⟨?_, ?_, ?_, ?_, ?_, ?_⟩
    · intro before guard owner after split isAccepted
      obtain ⟨next, outcome⟩ := Option.isSome_iff_exists.mp isAccepted
      by_contra notQueued
      exact quiet before _ after split
        (hits_of_start_accepted ((stepWork_eq_some_iff _ _ _ _).mp outcome) notQueued)
    · intro before guard owner middle after split isAccepted live
      obtain ⟨next, outcome⟩ := Option.isSome_iff_exists.mp isAccepted
      have accepted := (stepWork_eq_some_iff _ _ _ _).mp outcome
      have reached : workAfter workId (before ++ (guard, .start owner) :: middle) =
          replay stepWork next middle := by
        rw [workAfter, replay_append, replay_cons]
        exact congrArg (fun state => replay stepWork state middle) (offer_accepted outcome)
      rw [reached] at live ⊢
      apply replay_owner_kept middle next accepted.start_owner accepted.nextShape ?_ live
      intro first input rest middleSplit
      have hitsNowhere := quiet (before ++ (guard, .start owner) :: first) input (rest ++ after) (by
        rw [split, middleSplit]
        simp)
      rwa [show workAfter workId (before ++ (guard, .start owner) :: first) =
        replay stepWork next first by
          rw [workAfter, replay_append, replay_cons]
          exact congrArg (fun state => replay stepWork state first) (offer_accepted outcome)]
        at hitsNowhere
    · intro before guard request after attempt next split waiting waited outcome
      have accepted := (stepWork_eq_some_iff _ _ _ _).mp outcome
      exact accepted.model_wait_exit waiting waited
        (not_start_of_quiet quiet split accepted (by rw [waiting]; decide))
    · intro before guard request after attempt next split waiting waited outcome
      have accepted := (stepWork_eq_some_iff _ _ _ _).mp outcome
      exact accepted.tool_wait_exit waiting waited
        (not_start_of_quiet quiet split accepted (by rw [waiting]; decide))
    · intro before after _
      exact ⟨(validateShape_ok_iff _).mpr (workAfter_shape workId before),
        workAfter_workId workId before, workAfter_version workId before⟩
    · intro before input after _ terminal
      exact stepWork_terminal terminal input

def sampleHex (digit : Nat) : Fin 16 := Fin.ofNat 16 digit

def sampleUuid (digit : Nat) : Uuid where
  text := "0190a0b0-c0d0-7000-8000-00000000000".toList ++ [Nat.digitChar (sampleHex digit)]
  canonical := by
    generalize sampleHex digit = hex
    revert hex
    decide

def sampleNumber (value : Nat) : PositiveInteger :=
  (PositiveInteger.tryNew value).getD .one

def secondStartRun : List WorkInput :=
  let first : RuntimeInstanceId := ⟨sampleUuid 1⟩
  let second : RuntimeInstanceId := ⟨sampleUuid 2⟩
  let attempt : ModelInvocationId := ⟨sampleUuid 3⟩
  [(⟨.queued, sampleNumber 1, none, .none⟩, .start first),
   (⟨.running, sampleNumber 2, some first, .none⟩, .waitForModel attempt),
   (⟨.waitingOnModel, sampleNumber 3, some first, .model attempt⟩, .start second)]

theorem second_start_takes_waiting_work :
    (workAfter ⟨sampleUuid 0⟩ secondStartRun).state = .running ∧
      (workAfter ⟨sampleUuid 0⟩ secondStartRun).runtimeOwner = some ⟨sampleUuid 2⟩ ∧
      ¬WorkRunContract ⟨sampleUuid 0⟩ secondStartRun := by
  refine ⟨by decide, by decide, ?_⟩
  intro contract
  have queued := contract.startOnlyQueued (secondStartRun.take 2) _ _ [] rfl (by decide)
  revert queued
  decide

end Craxii
