import Craxii.Domain.Lifecycle

/-!
A requested cancellation wins: the work can only be cancelled for the same reason or interrupted.
-/

namespace Craxii

open GuardedRun

def WorkLifecycleSnapshot.StopsFor (snapshot : WorkLifecycleSnapshot) (reason : WorkCancellationReason) :
    Prop :=
  snapshot.state = .cancelRequested ∧ snapshot.cancellationReason = some reason ∨
    snapshot.state = .cancelled ∧ snapshot.terminalReason = some (.cancellation reason) ∨
    snapshot.state = .interrupted

def EndsCancellation (reason : WorkCancellationReason) (request : WorkTransitionRequest)
    (next : WorkLifecycleSnapshot) : Prop :=
  (∃ cleanup, request = .cancel reason cleanup ∧ cleanup ≠ .unconfirmed ∧ next.state = .cancelled ∧
      next.terminalReason = some (.cancellation reason)) ∨
    ∃ interruption, request = .interrupt interruption ∧ next.state = .interrupted

section Steps

variable {current next : WorkLifecycleSnapshot} {guard : WorkTransitionGuard}
  {request : WorkTransitionRequest} {reason : WorkCancellationReason}

theorem AcceptedWork.ends_cancellation (accepted : AcceptedWork current guard request next)
    (requested : current.state = .cancelRequested) (because : current.cancellationReason = some reason) :
    EndsCancellation reason request next := by
  have legal := accepted.legal
  have target := accepted.target
  obtain ⟨_, _, fields⟩ := accepted.fields
  rw [requested] at legal
  cases request with
  | cancel named cleanup =>
    simp only [transitionFields, requested, because] at fields
    split at fields
    · cases fields
    · rename_i kept
      simp only [Except.ok.injEq, WorkTransitionFields.mk.injEq] at fields
      simp only [Bool.or_eq_true, beq_iff_eq, Bool.and_eq_true, bne_iff_ne, ne_eq, not_or, not_and,
        not_not, Option.some.injEq] at kept
      obtain ⟨⟨confirmed, _⟩, same⟩ := kept
      have named : reason = named := same trivial
      exact Or.inl ⟨cleanup, by rw [named], confirmed, target, by rw [named]; exact fields.2.2.2.1.symm⟩
  | interrupt interruption => exact Or.inr ⟨interruption, rfl, target⟩
  | start _ | waitForModel _ | resumeFromModel _ | waitForTool _ | resumeFromTool _
  | requestCancellation | complete | fail => cases legal

theorem StopsFor_step (stops : current.StopsFor reason)
    (accepted : AcceptedWork current guard request next) : next.StopsFor reason := by
  have live := accepted.live
  rcases stops with ⟨requested, because⟩ | ⟨cancelled, _⟩ | interrupted
  · rcases accepted.ends_cancellation requested because with ⟨_, _, _, state, terminal⟩ | ⟨_, _, state⟩
    · exact Or.inr (Or.inl ⟨state, terminal⟩)
    · exact Or.inr (Or.inr state)
  · rw [cancelled] at live
    cases live
  · rw [interrupted] at live
    cases live

theorem replay_stopsFor (stops : current.StopsFor reason) (inputs : List WorkInput) :
    (replay stepWork current inputs).StopsFor reason := by
  refine replay_invariant (fun snapshot : WorkLifecycleSnapshot => snapshot.StopsFor reason) ?_ stops inputs
  intro before input after stopping accepted
  exact StopsFor_step stopping ((stepWork_eq_some_iff before input.1 input.2 after).mp accepted)

theorem AcceptedWork.ends_of_stopsFor (accepted : AcceptedWork current guard request next)
    (stops : current.StopsFor reason) : EndsCancellation reason request next := by
  have live := accepted.live
  rcases stops with ⟨requested, because⟩ | ⟨cancelled, _⟩ | interrupted
  · exact accepted.ends_cancellation requested because
  · rw [cancelled] at live
    cases live
  · rw [interrupted] at live
    cases live

theorem AcceptedWork.requests_cancellation
    (accepted : AcceptedWork current guard (.requestCancellation reason) next) : next.StopsFor reason := by
  obtain ⟨_, _, fields⟩ := accepted.fields
  simp only [transitionFields, Except.ok.injEq, WorkTransitionFields.mk.injEq] at fields
  exact Or.inl ⟨accepted.target, fields.2.2.1.symm⟩

theorem AcceptedWork.completes (accepted : AcceptedWork current guard request next)
    (completed : next.state = .completed) :
    current.state = .running ∧ ∃ completion, request = .complete completion .satisfied := by
  have legal := accepted.legal
  obtain ⟨_, _, fields⟩ := accepted.fields
  have target : request.targetState = .completed := accepted.target.symm.trans completed
  cases request with
  | complete completion evidence =>
    simp only [transitionFields] at fields
    split at fields
    · cases fields
    · rename_i satisfied
      have state : current.state = .running := by
        cases found : current.state <;> rw [found] at legal <;>
          first
            | rfl
            | cases legal
      refine ⟨state, completion, ?_⟩
      cases evidence
      simp_all [WorkCompletionEvidence.isSatisfied, WorkCompletionEvidence.satisfied]
  | start _ | waitForModel _ | resumeFromModel _ | waitForTool _ | resumeFromTool _
  | requestCancellation | fail | cancel | interrupt => cases target

end Steps

theorem workAfter_append (workId : WorkId) (first second : List WorkInput) :
    workAfter workId (first ++ second) = replay stepWork (workAfter workId first) second :=
  replay_append _ _ _

theorem cancellation_wins (workId : WorkId) :
    (∀ before reason, (workAfter workId before).state = .cancelRequested →
      (workAfter workId before).cancellationReason = some reason → ∀ later,
        (∀ guard request next, stepWork (workAfter workId (before ++ later)) (guard, request) = some next →
          EndsCancellation reason request next) ∧
        ((workAfter workId (before ++ later)).state = .cancelRequested ∨
          (workAfter workId (before ++ later)).state = .cancelled ∧
            (workAfter workId (before ++ later)).terminalReason = some (.cancellation reason) ∨
          (workAfter workId (before ++ later)).state = .interrupted)) ∧
    ∀ inputs guard request next, stepWork (workAfter workId inputs) (guard, request) = some next →
      next.state = .completed →
        (workAfter workId inputs).state = .running ∧
        (∃ completion, request = .complete completion .satisfied) ∧
        ∀ before asked reason after, inputs = before ++ (asked, .requestCancellation reason) :: after →
          stepWork (workAfter workId before) (asked, .requestCancellation reason) = none := by
  constructor
  · intro before reason requested because later
    have stops : (workAfter workId (before ++ later)).StopsFor reason := by
      rw [workAfter_append]
      exact replay_stopsFor (Or.inl ⟨requested, because⟩) later
    refine ⟨?_, ?_⟩
    · intro guard request next stepped
      exact ((stepWork_eq_some_iff _ guard request next).mp stepped).ends_of_stopsFor stops
    · rcases stops with ⟨state, _⟩ | cancelled | interrupted
      · exact Or.inl state
      · exact Or.inr (Or.inl cancelled)
      · exact Or.inr (Or.inr interrupted)
  · intro inputs guard request next stepped completed
    have accepted := (stepWork_eq_some_iff _ guard request next).mp stepped
    obtain ⟨running, completion⟩ := accepted.completes completed
    refine ⟨running, completion, ?_⟩
    intro before asked reason after split
    cases outcome : stepWork (workAfter workId before) (asked, .requestCancellation reason) with
    | none => rfl
    | some stopped =>
      exfalso
      have requests := ((stepWork_eq_some_iff _ asked _ stopped).mp outcome).requests_cancellation
      have stops : (workAfter workId inputs).StopsFor reason := by
        rw [split, workAfter_append, replay_cons, offer_accepted outcome]
        exact replay_stopsFor requests after
      rcases stops with ⟨state, _⟩ | ⟨state, _⟩ | state <;> rw [running] at state <;> cases state

def sampleRequested : List WorkInput :=
  let owner : RuntimeInstanceId := ⟨sampleUuid 1⟩
  [(⟨.queued, sampleNumber 1, none, .none⟩, .start owner),
   (⟨.running, sampleNumber 2, some owner, .none⟩, .requestCancellation .userRequest)]

theorem cancellation_wins_sample :
    (∃ guard request next, stepWork (workAfter ⟨sampleUuid 0⟩ (sampleRequested ++ []))
      (guard, request) = some next ∧ EndsCancellation .userRequest request next) ∧
    ∃ guard request next, stepWork (workAfter ⟨sampleUuid 0⟩ (sampleRequested.take 1))
      (guard, request) = some next ∧ next.state = .completed ∧
        (workAfter ⟨sampleUuid 0⟩ (sampleRequested.take 1)).state = .running := by
  have cancelled : (stepWork (workAfter ⟨sampleUuid 0⟩ (sampleRequested ++ []))
      (.forSnapshot (workAfter ⟨sampleUuid 0⟩ sampleRequested),
        .cancel .userRequest .confirmed)).isSome = true := by decide
  have completed : ((stepWork (workAfter ⟨sampleUuid 0⟩ (sampleRequested.take 1))
      (.forSnapshot (workAfter ⟨sampleUuid 0⟩ (sampleRequested.take 1)),
        .complete .answered .satisfied)).map fun next => next.state) = some .completed := by decide
  obtain ⟨ended, endedOk⟩ := Option.isSome_iff_exists.mp cancelled
  obtain ⟨answered, answeredOk, state⟩ := Option.map_eq_some_iff.mp completed
  refine ⟨⟨_, _, ended, endedOk, ?_⟩, _, _, answered, answeredOk, state, ?_⟩
  · exact (((cancellation_wins _).1 sampleRequested .userRequest (by decide) (by decide) []).1
      _ _ _ endedOk)
  · exact ((cancellation_wins _).2 _ _ _ _ answeredOk state).1

end Craxii
