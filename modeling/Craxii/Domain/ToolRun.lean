import Craxii.Domain.ToolCore
import Craxii.Lib.GuardedRun

/-!
Runs of `decide_tool_transition`: what one may end in depends on whether `dispatching`, the
side-effect boundary, was ever reached.
-/

namespace Craxii

open ExceptRules GuardedRun

structure ToolLifecycleReference where
  toolExecutionId : ToolExecutionId
  executionId : ExecutionId
  workId : WorkId
  runtimeInstanceId : RuntimeInstanceId
  sourceModelInvocationId : ModelInvocationId
  agentStepNo : AgentStepNo
  toolOrdinal : ToolOrdinal

structure ToolExecutionLifecycle where
  reference : ToolLifecycleReference
  state : ToolExecutionState

variable (reference : ToolLifecycleReference)

def ToolExecutionLifecycle.requested : ToolExecutionLifecycle :=
  ⟨reference, .requested⟩

inductive ToolLifecycleEffect
  | dispatchIntentMustCommitBeforeAction
  | terminalResult (result : ToolResultClass) (cleanupStatus : CleanupStatus)
  | externalSideEffectDefinitelyAbsent
  | dispatchOutcomeOrCleanupUnknown

structure ToolTransitionDecision where
  next : ToolExecutionLifecycle
  effect : ToolLifecycleEffect

def toolTransitionEffect (target : ToolExecutionState) : ToolTransitionRequest → ToolLifecycleEffect
  | .beginDispatch => .dispatchIntentMustCommitBeforeAction
  | .interruptBeforeDispatch => .externalSideEffectDefinitelyAbsent
  | .markOutcomeUnknown => .dispatchOutcomeOrCleanupUnknown
  | .complete result cleanupStatus =>
    if target = .outcomeUnknown then .dispatchOutcomeOrCleanupUnknown
    else .terminalResult result cleanupStatus

def ToolExecutionLifecycle.decide (current : ToolExecutionLifecycle) (request : ToolTransitionRequest) :
    Except LifecycleTransitionError ToolTransitionDecision := do
  let target ← decideToolTransition current.state request
  return ⟨⟨current.reference, target⟩, toolTransitionEffect target request⟩

def stepTool (current : ToolExecutionLifecycle) (request : ToolTransitionRequest) :
    Option ToolExecutionLifecycle :=
  (current.decide request).toOption.map ToolTransitionDecision.next

/-- What an accepted request does, one constructor for each way it is accepted. -/
inductive AcceptedTool : ToolExecutionState → ToolTransitionRequest → ToolExecutionState → Prop
  | dispatch : AcceptedTool .requested .beginDispatch .dispatching
  | interrupt : AcceptedTool .requested .interruptBeforeDispatch .interruptedBeforeDispatch
  | reject (result : ToolResultClass) (allowed : result.allowedBeforeDispatch = true) :
      AcceptedTool .requested (.complete result .notRequired) .completed
  | complete (result : ToolResultClass) (cleanupStatus : CleanupStatus)
      (known : cleanupStatus ≠ .unconfirmed)
      (cleaned : result.requiresConfirmedCleanup = true → cleanupStatus = .confirmed) :
      AcceptedTool .dispatching (.complete result cleanupStatus) .completed
  | lose : AcceptedTool .dispatching .markOutcomeUnknown .outcomeUnknown
  | unconfirmed (result : ToolResultClass) :
      AcceptedTool .dispatching (.complete result .unconfirmed) .outcomeUnknown

variable {current : ToolExecutionLifecycle} {next : ToolExecutionState}
  {request : ToolTransitionRequest}

theorem decideToolTransition_eq_ok_iff {current : ToolExecutionState} :
    decideToolTransition current request = .ok next ↔ AcceptedTool current request next := by
  constructor
  · intro accepted
    cases current with
    | completed | interruptedBeforeDispatch | outcomeUnknown =>
      simp [decideToolTransition, ToolExecutionState.isTerminal] at accepted
    | requested =>
      cases request with
      | beginDispatch =>
        cases accepted
        exact .dispatch
      | interruptBeforeDispatch =>
        cases accepted
        exact .interrupt
      | markOutcomeUnknown => cases accepted
      | complete result cleanupStatus =>
        cases cleanupStatus <;> cases allowed : result.allowedBeforeDispatch <;>
          simp [decideToolTransition, toolTransitionTarget, ToolExecutionState.isTerminal, allowed,
            bind, Except.bind, pure, Except.pure, isLegalToolPair] at accepted
        subst accepted
        exact .reject result allowed
    | dispatching =>
      cases request with
      | beginDispatch | interruptBeforeDispatch => cases accepted
      | markOutcomeUnknown =>
        cases accepted
        exact .lose
      | complete result cleanupStatus =>
        cases cleanupStatus <;> cases required : result.requiresConfirmedCleanup <;>
          simp [decideToolTransition, toolTransitionTarget, ToolExecutionState.isTerminal, required,
            bind, Except.bind, pure, Except.pure, isLegalToolPair] at accepted <;>
          subst accepted
        · exact .complete result .notRequired (by decide) (by simp [required])
        · exact .complete result .confirmed (by decide) (fun _ => rfl)
        · exact .complete result .confirmed (by decide) (fun _ => rfl)
        · exact .unconfirmed result
        · exact .unconfirmed result
  · intro accepted
    cases accepted with
    | dispatch | interrupt | lose => rfl
    | reject result allowed => cases result <;> first | rfl | cases allowed
    | complete result cleanupStatus known cleaned =>
      cases cleanupStatus with
      | unconfirmed => exact absurd rfl known
      | confirmed => cases result <;> rfl
      | notRequired => cases result <;> first | rfl | cases cleaned rfl
    | unconfirmed result => rfl

theorem decideToolTransition_terminal {current : ToolExecutionState}
    (terminal : current.isTerminal = true) (request : ToolTransitionRequest) :
    decideToolTransition current request = .error (.conflict .illegalTransition) := by
  simp [decideToolTransition, terminal]

theorem ToolExecutionLifecycle.decide_eq_ok {decision : ToolTransitionDecision}
    (decided : current.decide request = .ok decision) :
    decision.next.reference = current.reference ∧
      AcceptedTool current.state request decision.next.state := by
  obtain ⟨target, accepted, returned⟩ := bind_eq_ok.mp decided
  cases returned
  exact ⟨rfl, decideToolTransition_eq_ok_iff.mp accepted⟩

theorem ToolExecutionLifecycle.decide_of_accepted
    (accepted : AcceptedTool current.state request next) :
    current.decide request =
      .ok ⟨⟨current.reference, next⟩, toolTransitionEffect next request⟩ := by
  have decided := decideToolTransition_eq_ok_iff.mpr accepted
  simp only [ToolExecutionLifecycle.decide, decided, ok_bind]
  rfl

theorem ToolExecutionLifecycle.decide_terminal
    (terminal : current.state.isTerminal = true) (request : ToolTransitionRequest) :
    current.decide request = .error (.conflict .illegalTransition) := by
  simp only [ToolExecutionLifecycle.decide, decideToolTransition_terminal terminal, error_bind]

theorem stepTool_eq_some {next : ToolExecutionLifecycle}
    (stepped : stepTool current request = some next) :
    next.reference = current.reference ∧ AcceptedTool current.state request next.state := by
  obtain ⟨decision, decided, rfl⟩ := Option.map_eq_some_iff.mp stepped
  exact ToolExecutionLifecycle.decide_eq_ok (toOption_eq_some.mp decided)

variable (requests : List ToolTransitionRequest)

def toolRun : ToolExecutionLifecycle :=
  replay stepTool (.requested reference) requests

def ToolRunVisits (state : ToolExecutionState) : Prop :=
  ∃ earlier, earlier <+: requests ∧ (toolRun reference earlier).state = state

variable {reference : ToolLifecycleReference}

theorem toolRun_concat (request : ToolTransitionRequest) :
    toolRun reference (requests ++ [request]) = offer stepTool (toolRun reference requests) request :=
  replay_concat _ _ _

theorem toolRunVisits_end : ToolRunVisits reference requests (toolRun reference requests).state :=
  ⟨requests, List.prefix_rfl, rfl⟩

variable {requests : List ToolTransitionRequest} {request : ToolTransitionRequest}

theorem toolRunVisits_concat {state : ToolExecutionState} :
    ToolRunVisits reference (requests ++ [request]) state ↔
      ToolRunVisits reference requests state ∨
        (toolRun reference (requests ++ [request])).state = state := by
  constructor
  · rintro ⟨earlier, isEarlier, reached⟩
    rcases List.prefix_concat_iff.mp isEarlier with rfl | shorter
    · exact Or.inr reached
    · exact Or.inl ⟨earlier, shorter, reached⟩
  · rintro (⟨earlier, isEarlier, reached⟩ | reached)
    · exact ⟨earlier, isEarlier.trans (List.prefix_append _ _), reached⟩
    · exact ⟨_, List.prefix_rfl, reached⟩

def CompletedBy (reference : ToolLifecycleReference) (requests : List ToolTransitionRequest)
    (result : ToolResultClass) (cleanupStatus : CleanupStatus) : Prop :=
  ∃ earlier later, requests = earlier ++ .complete result cleanupStatus :: later ∧
    (toolRun reference earlier).state = .dispatching ∧
    (toolRun reference (earlier ++ [.complete result cleanupStatus])).state = .completed

theorem CompletedBy.concat {result : ToolResultClass}
    {cleanupStatus : CleanupStatus} (completed : CompletedBy reference requests result cleanupStatus)
    (request : ToolTransitionRequest) :
    CompletedBy reference (requests ++ [request]) result cleanupStatus := by
  obtain ⟨earlier, later, rfl, dispatched, ended⟩ := completed
  exact ⟨earlier, later ++ [request], by simp, dispatched, ended⟩

def ToolHistoryOk (reference : ToolLifecycleReference) (requests : List ToolTransitionRequest) : Prop :=
  match (toolRun reference requests).state with
  | .requested | .interruptedBeforeDispatch => ¬ToolRunVisits reference requests .dispatching
  | .dispatching | .outcomeUnknown => ToolRunVisits reference requests .dispatching
  | .completed => ToolRunVisits reference requests .dispatching →
      ∃ result cleanupStatus, CompletedBy reference requests result cleanupStatus ∧
        (result.requiresConfirmedCleanup = true → cleanupStatus = .confirmed)

theorem ToolHistoryOk.accepted
    {next : ToolExecutionLifecycle} (history : ToolHistoryOk reference requests)
    (stepped : stepTool (toolRun reference requests) request = some next) :
    ToolHistoryOk reference (requests ++ [request]) := by
  have reached : toolRun reference (requests ++ [request]) = next := by
    rw [toolRun_concat]
    exact offer_accepted stepped
  have visits := @toolRunVisits_concat reference requests request .dispatching
  obtain ⟨_, accepted⟩ := stepTool_eq_some stepped
  unfold ToolHistoryOk at history ⊢
  rw [reached] at visits ⊢
  generalize fromState : (toolRun reference requests).state = before at accepted history
  generalize toState : next.state = after at accepted visits
  cases accepted with
  | dispatch => exact visits.mpr (Or.inr rfl)
  | interrupt =>
    intro visited
    rcases visits.mp visited with earlier | now
    · exact history earlier
    · cases now
  | reject result allowed =>
    intro visited
    rcases visits.mp visited with earlier | now
    · exact absurd earlier history
    · cases now
  | complete result cleanupStatus known cleaned =>
    intro _
    refine ⟨result, cleanupStatus, ⟨requests, [], rfl, fromState, ?_⟩, cleaned⟩
    rw [reached]
    exact toState
  | lose | unconfirmed => exact visits.mpr (Or.inl history)

theorem ToolHistoryOk.refused (history : ToolHistoryOk reference requests)
    (refused : stepTool (toolRun reference requests) request = none) :
    ToolHistoryOk reference (requests ++ [request]) := by
  have kept : toolRun reference (requests ++ [request]) = toolRun reference requests := by
    rw [toolRun_concat]
    exact offer_refused refused
  have visits : ToolRunVisits reference (requests ++ [request]) .dispatching ↔
      ToolRunVisits reference requests .dispatching := by
    rw [toolRunVisits_concat, kept]
    constructor
    · rintro (earlier | now)
      · exact earlier
      · exact now ▸ toolRunVisits_end requests
    · exact Or.inl
  unfold ToolHistoryOk at history ⊢
  rw [kept]
  cases state : (toolRun reference requests).state with
  | requested | interruptedBeforeDispatch | dispatching | outcomeUnknown =>
    simp only [state] at history ⊢
    rwa [visits]
  | completed =>
    simp only [state] at history ⊢
    intro visited
    obtain ⟨result, cleanupStatus, completed, cleaned⟩ := history (visits.mp visited)
    exact ⟨result, cleanupStatus, completed.concat request, cleaned⟩

theorem toolHistoryOk (requests : List ToolTransitionRequest) : ToolHistoryOk reference requests := by
  induction requests using List.reverseRecOn with
  | nil =>
    rintro ⟨earlier, isEarlier, reached⟩
    rw [List.prefix_nil.mp isEarlier] at reached
    cases reached
  | append_singleton requests request ih =>
    cases stepped : stepTool (toolRun reference requests) request with
    | none => exact ih.refused stepped
    | some next => exact ih.accepted stepped

theorem replay_terminal_tool {current : ToolExecutionLifecycle}
    (terminal : current.state.isTerminal = true) (later : List ToolTransitionRequest) :
    replay stepTool current later = current := by
  induction later with
  | nil => rfl
  | cons request rest ih =>
    have refused : stepTool current request = none := by
      simp [stepTool, ToolExecutionLifecycle.decide_terminal terminal, Except.toOption]
    rw [replay_cons, offer_refused refused]
    exact ih

theorem dispatching_of_visited (visited : ToolRunVisits reference requests .dispatching)
    (active : (toolRun reference requests).state.isTerminal = false) :
    (toolRun reference requests).state = .dispatching := by
  have history := @toolHistoryOk reference requests
  unfold ToolHistoryOk at history
  cases state : (toolRun reference requests).state with
  | dispatching => rfl
  | requested =>
    simp only [state] at history
    exact absurd visited history
  | completed | interruptedBeforeDispatch | outcomeUnknown =>
    rw [state] at active
    cases active

theorem tool_run_respects_boundary (reference : ToolLifecycleReference)
    (requests : List ToolTransitionRequest) :
    ((toolRun reference requests).state = .interruptedBeforeDispatch →
      ¬ToolRunVisits reference requests .dispatching) ∧
    ((toolRun reference requests).state = .outcomeUnknown →
      ToolRunVisits reference requests .dispatching) ∧
    ((toolRun reference requests).state = .completed →
      ToolRunVisits reference requests .dispatching →
      ∃ result cleanupStatus, CompletedBy reference requests result cleanupStatus ∧
        (result.requiresConfirmedCleanup = true → cleanupStatus = .confirmed)) ∧
    (∀ result, ToolRunVisits reference requests .dispatching →
      (toolRun reference requests).state.isTerminal = false →
      (toolRun reference (requests ++ [.complete result .unconfirmed])).state = .outcomeUnknown) ∧
    ((toolRun reference requests).state.isTerminal = true →
      (∀ request, (toolRun reference requests).decide request =
        .error (.conflict .illegalTransition)) ∧
      ∀ later, toolRun reference (requests ++ later) = toolRun reference requests) := by
  have history := @toolHistoryOk reference requests
  unfold ToolHistoryOk at history
  refine ⟨?_, ?_, ?_, ?_, ?_⟩
  · intro state
    simpa only [state] using history
  · intro state
    simpa only [state] using history
  · intro state
    simpa only [state] using history
  · intro result visited active
    have dispatching := dispatching_of_visited visited active
    have accepted : AcceptedTool (toolRun reference requests).state
        (.complete result .unconfirmed) .outcomeUnknown := by
      rw [dispatching]
      exact .unconfirmed result
    have stepped : stepTool (toolRun reference requests) (.complete result .unconfirmed) =
        some ⟨(toolRun reference requests).reference, .outcomeUnknown⟩ := by
      simp [stepTool, ToolExecutionLifecycle.decide_of_accepted accepted, Except.toOption]
    rw [toolRun_concat, offer_accepted stepped]
  · intro terminal
    refine ⟨ToolExecutionLifecycle.decide_terminal terminal, ?_⟩
    intro later
    rw [toolRun, replay_append]
    exact replay_terminal_tool terminal later

end Craxii
