import Craxii.Gateway.Attempt
import Craxii.Gateway.InvokeCore
import Craxii.Lib.Tables

/-!
The attempts that `decide_next_model_attempt` and `decide_model_transition` let grow form one
retry chain.
-/

namespace Craxii

open ExceptRules GuardedRun

structure ModelInvocationLifecycle where
  reference : ModelAttemptReference
  state : ModelInvocationState

def ModelInvocationLifecycle.start (reference : ModelAttemptReference) :
    Except LifecycleTransitionError ModelInvocationLifecycle := do
  refuseIf ((reference.attemptNo.value == 1) != reference.retryOf.isNone) (.invariant .invalidStateShape)
  return ⟨reference, .requesting⟩

def ModelInvocationLifecycle.decide (current : ModelInvocationLifecycle)
    (request : ModelTransitionRequest) : Except LifecycleTransitionError ModelInvocationLifecycle := do
  let state ← decideModelTransition current.state request
  return { current with state }

def decideNextModelAttempt (predecessor : ModelInvocationLifecycle) (candidate : ModelAttemptReference)
    (existing : List ModelInvocationLifecycle) :
    Except LifecycleTransitionError ModelInvocationLifecycle := do
  let previous := predecessor.reference
  refuseIf (!predecessor.state.isTerminal) (.conflict .illegalTransition)
  refuseIf (candidate.modelInvocationId == previous.modelInvocationId ||
    existing.any fun attempt => attempt.reference.modelInvocationId == candidate.modelInvocationId)
    (.conflict .duplicateAttemptIdentity)
  refuseIf ((existing.any fun attempt =>
      attempt.reference.logicalInvocationId == candidate.logicalInvocationId &&
        attempt.reference.workId == candidate.workId &&
        attempt.reference.attemptNo == candidate.attemptNo) ||
    candidate.attemptNo == previous.attemptNo) (.conflict .duplicateAttemptNumber)
  let expected ← orRefuse previous.attemptNo.checkedIncrement (.invariant .versionOverflow)
  refuseIf (!(candidate.logicalInvocationId == previous.logicalInvocationId &&
    candidate.workId == previous.workId && candidate.contextManifestId == previous.contextManifestId &&
    candidate.agentStepNo == previous.agentStepNo && candidate.attemptNo == expected &&
    candidate.retryOf == some previous.modelInvocationId)) (.conflict .illegalTransition)
  ModelInvocationLifecycle.start candidate

inductive AttemptMove
  | retry (predecessor : Nat) (candidate : ModelAttemptReference)
  | transition (request : ModelTransitionRequest)

def extendAttempts (attempts : List ModelInvocationLifecycle) :
    AttemptMove → Option (List ModelInvocationLifecycle)
  | .retry index candidate => do
    let predecessor ← attempts[index]?
    let next ← (decideNextModelAttempt predecessor candidate attempts).toOption
    return attempts ++ [next]
  | .transition request => do
    let newest ← attempts.getLast?
    let next ← (newest.decide request).toOption
    return attempts.dropLast ++ [next]

def ModelAttemptReference.invocation (reference : ModelAttemptReference) :
    LogicalInvocationId × WorkId × ContextManifestId × AgentStepNo :=
  (reference.logicalInvocationId, reference.workId, reference.contextManifestId, reference.agentStepNo)

/-- The attempts are numbered from one, each but the first retries the one before it, and
they belong to one invocation. -/
structure RetryChain (first : ModelAttemptReference) (references : List ModelAttemptReference) : Prop where
  begins : references.head? = some first ∧ first.retryOf = none
  numbered : references.map (·.attemptNo.value) = List.range' 1 references.length
  distinct : (references.map (·.modelInvocationId)).Nodup
  linked : references.IsChain fun earlier later => later.retryOf = some earlier.modelInvocationId
  shared : ∀ reference ∈ references, reference.invocation = first.invocation

structure AttemptsOk (first : ModelAttemptReference) (attempts : List ModelInvocationLifecycle) : Prop where
  chain : RetryChain first (attempts.map (·.reference))
  ended : ∀ attempt ∈ attempts.dropLast, attempt.state.isTerminal = true

section

variable {first candidate previous : ModelAttemptReference} {references : List ModelAttemptReference}
  {attempts next : List ModelInvocationLifecycle} {predecessor started : ModelInvocationLifecycle}

theorem decideNextModelAttempt_eq_ok
    (decided : decideNextModelAttempt predecessor candidate attempts = .ok started) :
    started = ⟨candidate, .requesting⟩ ∧ predecessor.state.isTerminal = true ∧
      (∀ attempt ∈ attempts, attempt.reference.modelInvocationId ≠ candidate.modelInvocationId) ∧
      (∀ attempt ∈ attempts, attempt.reference.invocation = predecessor.reference.invocation →
        attempt.reference.attemptNo.value ≠ candidate.attemptNo.value) ∧
      candidate.invocation = predecessor.reference.invocation ∧
      candidate.attemptNo.value = predecessor.reference.attemptNo.value + 1 ∧
      candidate.retryOf = some predecessor.reference.modelInvocationId := by
  simp only [decideNextModelAttempt, ModelInvocationLifecycle.start, bind_eq_ok, refuseIf_eq_ok,
    orRefuse_eq_ok, pure_eq_ok, exists_const, Bool.or_eq_false_iff, Bool.and_eq_true, beq_iff_eq,
    List.any_eq_false, Bool.not_eq_eq_eq_not, Bool.not_false] at decided
  obtain ⟨terminal, ⟨_, fresh⟩, ⟨numbers, _⟩, expected, incremented,
    ⟨⟨⟨⟨⟨logical, work⟩, manifest⟩, step⟩, number⟩, retry⟩, _, rfl⟩ := decided
  have same : candidate.invocation = predecessor.reference.invocation := by
    simp only [ModelAttemptReference.invocation, logical, work, manifest, step]
  refine ⟨rfl, terminal, fresh, ?_, same, ?_, retry⟩
  · intro attempt member invocation sameNumber
    rw [← same] at invocation
    refine numbers attempt member ⟨⟨congrArg (·.1) invocation, congrArg (·.2.1) invocation⟩, ?_⟩
    cases own : attempt.reference.attemptNo
    cases taken : candidate.attemptNo
    simpa [own, taken] using sameNumber
  · rw [number]
    exact PositiveInteger.checkedIncrement_some incremented

theorem RetryChain.number (chain : RetryChain first references) {index : Nat}
    (found : references[index]? = some candidate) : candidate.attemptNo.value = index + 1 := by
  have entry := congrArg (·[index]?) chain.numbered
  obtain ⟨within, _⟩ := List.getElem?_eq_some_iff.mp found
  simp only [List.getElem?_map, found, Option.map_some, List.getElem?_range' within,
    Option.some.injEq] at entry
  omega

theorem RetryChain.append (chain : RetryChain first (references ++ [previous]))
    (fresh : ∀ reference ∈ references ++ [previous],
      reference.modelInvocationId ≠ candidate.modelInvocationId)
    (same : candidate.invocation = previous.invocation)
    (number : candidate.attemptNo.value = previous.attemptNo.value + 1)
    (retry : candidate.retryOf = some previous.modelInvocationId) :
    RetryChain first (references ++ [previous] ++ [candidate]) := by
  have last := chain.number (List.getElem?_concat_length ..)
  refine ⟨⟨?_, chain.begins.2⟩, ?_, ?_, ?_, ?_⟩
  · rw [List.head?_append, chain.begins.1]
    rfl
  · have grows : (references ++ [previous] ++ [candidate]).length =
        (references ++ [previous]).length + 1 := by simp
    rw [List.map_append, chain.numbered, grows, List.range'_1_concat, List.map_singleton, number, last,
      List.length_append, List.length_singleton, Nat.add_comm 1]
  · rw [List.map_append]
    refine List.nodup_append.mpr ⟨chain.distinct, List.nodup_singleton _, ?_⟩
    intro id member other otherIn sameId
    obtain ⟨reference, found, rfl⟩ := List.mem_map.mp member
    rw [List.map_singleton, List.mem_singleton] at otherIn
    exact fresh reference found (sameId.trans otherIn)
  · refine List.isChain_append.mpr ⟨chain.linked, .singleton _, ?_⟩
    intro earlier isEarlier later isLater
    rw [List.getLast?_concat, Option.mem_some_iff] at isEarlier
    rw [List.head?_cons, Option.mem_some_iff] at isLater
    rw [← isEarlier, ← isLater]
    exact retry
  · exact Tables.forall_mem_concat chain.shared (same.trans (chain.shared previous (by simp)))

theorem AttemptsOk.predecessor_last (ok : AttemptsOk first attempts) {index : Nat}
    (found : attempts[index]? = some predecessor)
    (decided : decideNextModelAttempt predecessor candidate attempts = .ok started) :
    attempts.getLast? = some predecessor := by
  obtain ⟨_, _, _, numbers, _, number, _⟩ := decideNextModelAttempt_eq_ok decided
  obtain ⟨within, _⟩ := List.getElem?_eq_some_iff.mp found
  have own := ok.chain.number (show (attempts.map (·.reference))[index]? = _ by
    rw [List.getElem?_map, found, Option.map_some])
  by_cases more : index + 1 < attempts.length
  · have after := List.getElem?_eq_getElem more
    have taken := ok.chain.number (show (attempts.map (·.reference))[index + 1]? = _ by
      rw [List.getElem?_map, after, Option.map_some])
    have shared := ok.chain.shared predecessor.reference (List.mem_map_of_mem (List.mem_of_getElem? found))
    have afterShared := ok.chain.shared _ (List.mem_map_of_mem (List.mem_of_getElem? after))
    have free := numbers _ (List.mem_of_getElem? after) (afterShared.trans shared.symm)
    omega
  · rw [List.getLast?_eq_getElem?, show attempts.length - 1 = index by omega]
    exact found

theorem extendAttempts_ok {move : AttemptMove} (ok : AttemptsOk first attempts)
    (stepped : extendAttempts attempts move = some next) : AttemptsOk first next := by
  cases move with
  | retry index candidate =>
    simp only [extendAttempts, Option.bind_eq_bind, Option.bind_eq_some_iff, toOption_eq_some,
      Option.pure_def, Option.some.injEq] at stepped
    obtain ⟨predecessor, found, started, decided, rfl⟩ := stepped
    obtain ⟨earlier, rfl⟩ := List.getLast?_eq_some_iff.mp (ok.predecessor_last found decided)
    obtain ⟨rfl, terminal, fresh, _, same, number, retry⟩ := decideNextModelAttempt_eq_ok decided
    have chain := ok.chain
    have ended := ok.ended
    rw [List.dropLast_concat] at ended
    constructor
    · rw [List.map_append] at chain
      rw [List.map_append, List.map_append]
      refine chain.append (Tables.forall_mem_concat ?_ (fresh _ (by simp))) same number retry
      intro reference member
      obtain ⟨attempt, attemptIn, rfl⟩ := List.mem_map.mp member
      exact fresh attempt (List.mem_append_left _ attemptIn)
    · rw [List.dropLast_concat]
      exact Tables.forall_mem_concat ended terminal
  | transition request =>
    simp only [extendAttempts, Option.bind_eq_bind, Option.bind_eq_some_iff, toOption_eq_some,
      Option.pure_def, Option.some.injEq, ModelInvocationLifecycle.decide, bind_eq_ok, pure_eq_ok]
      at stepped
    obtain ⟨newest, isNewest, _, ⟨state, _, rfl⟩, rfl⟩ := stepped
    obtain ⟨earlier, rfl⟩ := List.getLast?_eq_some_iff.mp isNewest
    have chain := ok.chain
    have ended := ok.ended
    rw [List.dropLast_concat] at ended ⊢
    refine ⟨by simpa using chain, ?_⟩
    rw [List.dropLast_concat]
    exact ended

theorem model_attempts_chained (first : ModelAttemptReference) (isFirst : first.attemptNo.value = 1)
    (started : ModelInvocationLifecycle) (starts : ModelInvocationLifecycle.start first = .ok started)
    (moves : List AttemptMove) : AttemptsOk first (replay extendAttempts [started] moves) := by
  simp only [ModelInvocationLifecycle.start, isFirst, bind_eq_ok, refuseIf_eq_ok, pure_eq_ok,
    exists_const, beq_self_eq_true, Bool.true_bne, Bool.not_eq_false', Option.isNone_iff_eq_none] at starts
  obtain ⟨fresh, rfl⟩ := starts
  refine replay_invariant (AttemptsOk first) (fun _ _ _ => extendAttempts_ok)
    ⟨⟨⟨rfl, fresh⟩, ?_, ?_, ?_, ?_⟩, ?_⟩ moves
  · simpa using isFirst
  · exact List.nodup_singleton _
  · exact .singleton _
  · intro reference member
    rw [List.mem_singleton.mp member]
  · intro attempt member
    cases member

end

def firstAttempt : ModelAttemptReference :=
  ⟨⟨sampleUuid 1⟩, ⟨sampleUuid 2⟩, ⟨sampleUuid 3⟩, ⟨sampleUuid 6⟩,
    ⟨sampleUuid 4⟩, .one, .one, sampleTarget.reference, none⟩

def retriedAttempt : List AttemptMove :=
  [.transition (.fail true), .retry 0 { firstAttempt with
    modelInvocationId := ⟨sampleUuid 5⟩
    attemptNo := sampleNumber 2
    retryOf := some firstAttempt.modelInvocationId }]

theorem model_attempts_chained_retry :
    (replay extendAttempts [⟨firstAttempt, .requesting⟩] retriedAttempt).length = 2 ∧
      AttemptsOk firstAttempt (replay extendAttempts [⟨firstAttempt, .requesting⟩] retriedAttempt) :=
  ⟨by decide, model_attempts_chained firstAttempt rfl _ rfl retriedAttempt⟩

end Craxii
