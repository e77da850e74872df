import Craxii.Domain.ModelCore

/-!
Embedding of `ports/model_provider.rs`: classified failures, the retry classifier and the bounded
backoff.
-/

namespace Craxii

inductive ProviderErrorKind
  | authentication | authorization | invalidRequest | unknownModel | rateLimited
  | temporarilyUnavailable | transportBeforeResponse | transportAfterPossibleProcessing
  | timeoutBeforeOutput | timeoutAfterOutput | malformedResponse | malformedCompletedToolArguments
  | outputTooLarge | unsupportedResponseItem | contextError | safetyRefusal | cancelled
  | providerOutcomeUnknown | internalProviderError | scriptMismatch | invalidScriptProgram
deriving DecidableEq

def ProviderErrorKind.transientBeforeOutput : ProviderErrorKind → Bool
  | .rateLimited | .temporarilyUnavailable | .transportBeforeResponse | .timeoutBeforeOutput => true
  | _ => false

inductive ProviderOutcomeCertainty
  | definitelyNotSent | definiteProviderFailure | definitelyCompleted | semanticOutputObserved
  | providerOutcomeUnknown
deriving DecidableEq

def ProviderOutcomeCertainty.normalized : ProviderOutcomeCertainty → Certainty
  | .providerOutcomeUnknown => .outcomeUnknown
  | _ => .definite

def ProviderOutcomeCertainty.isUnprocessed : ProviderOutcomeCertainty → Bool
  | .definitelyNotSent | .definiteProviderFailure => true
  | _ => false

theorem ProviderOutcomeCertainty.isUnprocessed_iff (certainty : ProviderOutcomeCertainty) :
    certainty.isUnprocessed = true ↔
      certainty = .definitelyNotSent ∨ certainty = .definiteProviderFailure := by
  cases certainty <;> simp [isUnprocessed]

structure ProviderError where
  kind : ProviderErrorKind
  certainty : ProviderOutcomeCertainty
  (retryAfter providerHttpStatus : Option Nat)
  providerRequestId : Option ProviderEvidenceId
deriving DecidableEq

def ProviderError.new (kind : ProviderErrorKind) (certainty : ProviderOutcomeCertainty) :
    ProviderError :=
  ⟨kind, certainty, none, none, none⟩

def providerHttpStatus? (status : Nat) : Option Nat :=
  if 100 ≤ status ∧ status ≤ 599 then some status else none

def ProviderError.normalized (error : ProviderError) : NormalizedError :=
  if error.kind.transientBeforeOutput && error.certainty.isUnprocessed then
    .providerBounded error.certainty.normalized (error.providerHttpStatus.bind providerHttpStatus?)
  else if error.kind == .cancelled then .cancellation error.certainty.normalized
  else .provider error.certainty.normalized (error.providerHttpStatus.bind providerHttpStatus?)

def maxProviderAttempts : Nat := 3
def providerBackoffBase : Nat := 250000000
def providerBackoffLocalCap : Nat := 5000000000
def providerRetryAfterCap : Nat := 30000000000
def defaultProviderInvocationLimit : Nat := 300000000000
def defaultProviderIdleTimeout : Nat := 60000000000

def providerAttempt? (value : Nat) : Option Nat :=
  if value = 0 ∨ maxProviderAttempts < value then none else some value

inductive RetryReasonCode
  | classifiedTransientBeforeOutput | semanticOutputObserved | nonretryableCategory
  | providerOutcomeAmbiguous | attemptCapReached | cancelled | deadlineExhausted
deriving DecidableEq

structure ProviderRetryDecision where
  retryable : Bool
  reason : RetryReasonCode
  certainty : ProviderOutcomeCertainty
  attemptCap : Nat
  providerRetryAfter : Option Nat

def retryReason (error : ProviderError) (semanticOutputObserved : Bool) (currentAttempt : Nat)
    (cancellationRequested deadlineExhausted : Bool) : RetryReasonCode :=
  if cancellationRequested || error.kind == .cancelled then .cancelled
  else if deadlineExhausted then .deadlineExhausted
  else if semanticOutputObserved || error.certainty == .semanticOutputObserved then
    .semanticOutputObserved
  else if error.certainty == .providerOutcomeUnknown || error.kind == .providerOutcomeUnknown ||
      error.kind == .transportAfterPossibleProcessing then .providerOutcomeAmbiguous
  else if maxProviderAttempts ≤ currentAttempt then .attemptCapReached
  else if error.kind.transientBeforeOutput && error.certainty.isUnprocessed then
    .classifiedTransientBeforeOutput
  else .nonretryableCategory

def classifyProviderRetry (error : ProviderError) (semanticOutputObserved : Bool)
    (currentAttempt : Nat) (cancellationRequested deadlineExhausted : Bool) :
    ProviderRetryDecision :=
  let reason := retryReason error semanticOutputObserved currentAttempt cancellationRequested
    deadlineExhausted
  { retryable := reason == .classifiedTransientBeforeOutput
    reason
    certainty := error.certainty
    attemptCap := maxProviderAttempts
    providerRetryAfter := error.retryAfter }

structure ProviderRetryEvidence where
  reason : RetryReasonCode
  delay : Nat
  providerRetryAfter : Option Nat

inductive BackoffDecision
  | delay (duration : Nat)
  | cancelled
  | deadlineInsufficient

def providerBackoff (failedAttempt : Nat) (retryAfter : Option Nat) (jitter : Nat → Nat)
    (cancellationRequested : Bool) (remainingBudget : Option Nat) : BackoffDecision :=
  if cancellationRequested then .cancelled
  else
    let factor := 2 ^ min (failedAttempt - 1) 31
    let localCeiling := min (providerBackoffBase * factor) providerBackoffLocalCap
    let ceiling := (retryAfter.map (min · providerRetryAfterCap)).getD localCeiling
    let upperMillis := ceiling / 1000000
    let delay := min (jitter upperMillis) upperMillis * 1000000
    if remainingBudget.any (· ≤ delay) then .deadlineInsufficient else .delay delay

theorem classifyProviderRetry_retryable {error : ProviderError} {semanticOutputObserved : Bool}
    {currentAttempt : Nat} {cancellationRequested deadlineExhausted : Bool}
    (retryable : (classifyProviderRetry error semanticOutputObserved currentAttempt
      cancellationRequested deadlineExhausted).retryable = true) :
    semanticOutputObserved = false ∧ cancellationRequested = false ∧
      currentAttempt < maxProviderAttempts ∧ error.kind.transientBeforeOutput = true ∧
      error.certainty.isUnprocessed = true := by
  simp only [classifyProviderRetry, retryReason, beq_iff_eq] at retryable
  repeat' split at retryable
  all_goals simp_all

end Craxii
