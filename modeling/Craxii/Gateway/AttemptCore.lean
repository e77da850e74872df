import Craxii.Store.ModelAttemptCore

/-!
Embedding of one physical attempt of `model_gateway.rs`: the stream accumulator, the loop of
`run_physical_attempt` and the two ways it finishes an attempt durably.
-/

namespace Craxii

open Utf8Text ExceptRules

inductive ModelGatewayError
  | invalidComposition | invalidInvocation | stateStore | clock | artifact | lifecycle

structure ModelGatewayLimits where
  (maximumAttemptsPerLogicalInvocation maximumAttemptsPerWork providerInvocationLimit : Nat)
  (streamIdleLimit maximumOrderedOutputItemsPerResponse maximumRawToolArgumentBytes : Nat)

def maxProviderAttemptsPerWork : Nat := 32
def maxStreamEvents : Nat := 4096

variable (limits : ModelGatewayLimits)

def ModelGatewayLimits.isValid : Bool :=
  limits.maximumAttemptsPerLogicalInvocation != 0 &&
    decide (limits.maximumAttemptsPerLogicalInvocation ≤ maxProviderAttempts) &&
    limits.maximumAttemptsPerWork != 0 &&
    decide (limits.maximumAttemptsPerWork ≤ maxProviderAttemptsPerWork) &&
    decide (limits.maximumAttemptsPerLogicalInvocation ≤ limits.maximumAttemptsPerWork) &&
    limits.providerInvocationLimit != 0 &&
    decide (limits.providerInvocationLimit ≤ defaultProviderInvocationLimit) &&
    limits.streamIdleLimit != 0 &&
    decide (limits.streamIdleLimit ≤ defaultProviderIdleTimeout) &&
    decide (limits.streamIdleLimit ≤ limits.providerInvocationLimit) &&
    limits.maximumOrderedOutputItemsPerResponse != 0 &&
    decide (limits.maximumOrderedOutputItemsPerResponse ≤ maxModelOutputItems) &&
    limits.maximumRawToolArgumentBytes != 0 &&
    decide (limits.maximumRawToolArgumentBytes ≤ maxModelToolArgumentBytes)

inductive ModelSelectionReason
  | explicit
  | configuredDefault
deriving DecidableEq

structure ModelSelectionResult where
  selectedTarget : ModelTarget
  reason : ModelSelectionReason
deriving DecidableEq

/-- One logical invocation: the work's snapshot, the assembled context's identities and the deadlines. -/
structure GatewayInvocation where
  craxiiId : CraxiiId
  conversationId : ConversationId
  work : WorkLifecycleSnapshot
  logicalInvocationId : LogicalInvocationId
  contextManifestId : ContextManifestId
  requestTarget : ModelTarget
  (packageSelection selection : ModelSelectionResult)
  agentStep : AgentStepNo
  correlationId : CorrelationId
  causationEventId : JournalEventId
  workDeadline : Nat
  shutdownDeadline : Option Nat
  workAttemptsBeforeInvocation : Nat

/-! The accumulator. Its `observe` keeps what it changed even when it reports an error. -/

structure CanonicalStreamAccumulator where
  events : List ModelStreamEvent := []
  semanticOutputObserved : Bool := false
  providerRequestId : Option Text := none
  providerResponseId : Option Text := none
  usage : Option ModelUsage := none
  toolArgumentBytes : List (Text × Nat) := []

variable (accumulator : CanonicalStreamAccumulator) (work : WorkLifecycleSnapshot) (attemptId : ModelInvocationId)

namespace CanonicalStreamAccumulator

def itemOrdinal? : ModelStreamEvent → Option Nat
  | .textDelta ordinal _ | .reasoningSummaryDelta ordinal _ | .toolCallStarted ordinal _ _
  | .toolArgumentDelta ordinal _ _ | .toolCallCompleted ordinal _ | .refusalDelta ordinal _
  | .refusalCompleted ordinal | .structuredData ordinal _ => some ordinal
  | _ => none

def argumentBytes (callId : Text) : Nat :=
  (accumulator.toolArgumentBytes.lookup callId).getD 0

def setArgumentBytes (callId : Text) (bytes : Nat) : CanonicalStreamAccumulator :=
  { accumulator with
    toolArgumentBytes :=
      (callId, bytes) :: accumulator.toolArgumentBytes.filter fun entry => entry.1 != callId }

def enforceConfiguredContentLimits (event : ModelStreamEvent) :
    CanonicalStreamAccumulator × Option ModelContractErrorKind :=
  if (itemOrdinal? event).any fun ordinal =>
      decide (limits.maximumOrderedOutputItemsPerResponse ≤ ordinal) then
    (accumulator, some .tooManyOutputItems)
  else match event with
    | .toolCallStarted _ callId _ =>
      (accumulator.setArgumentBytes callId.text (accumulator.argumentBytes callId.text), none)
    | .toolArgumentDelta _ callId delta =>
      let bytes := accumulator.argumentBytes callId.text + utf8Len delta
      (accumulator.setArgumentBytes callId.text bytes,
        if limits.maximumRawToolArgumentBytes < bytes then some .toolArgumentsTooLarge else none)
    | .toolCallCompleted _ call =>
      (accumulator,
        if limits.maximumRawToolArgumentBytes < utf8Len call.rawArguments then
          some .toolArgumentsTooLarge
        else none)
    | .completed response =>
      (accumulator,
        if limits.maximumOrderedOutputItemsPerResponse < response.outputItems.length then
          some .tooManyOutputItems
        else if response.outputItems.any fun item => item.toolCall?.any fun call =>
            decide (limits.maximumRawToolArgumentBytes < utf8Len call.rawArguments) then
          some .toolArgumentsTooLarge
        else none)
    | _ => (accumulator, none)

def record (event : ModelStreamEvent) : CanonicalStreamAccumulator :=
  let identified : CanonicalStreamAccumulator := match event with
    | .responseStarted _ requestId responseId =>
      { accumulator with
        providerRequestId := requestId.map (·.text)
        providerResponseId := responseId.map (·.text) }
    | .usage usage => { accumulator with usage := some usage }
    | _ => accumulator
  { identified with
    semanticOutputObserved := identified.semanticOutputObserved || event.isSemanticOutput
    events := identified.events ++ [event] }

def observe
    (event : ModelStreamEvent) : CanonicalStreamAccumulator × Option ModelContractErrorKind :=
  if maxStreamEvents ≤ accumulator.events.length then
    (accumulator, some .normalizedOutputTooLarge)
  else match enforceConfiguredContentLimits limits accumulator event with
    | (limited, some kind) => (limited, some kind)
    | (limited, none) =>
      let recorded := limited.record event
      match validateModelStream recorded.events with
      | .error kind => (recorded, some kind)
      | .ok _ => (recorded, none)

end CanonicalStreamAccumulator

inductive StreamTerminal
  | completed (response : ModelResponse)
  | providerError (kind : ModelStreamProviderErrorKind)

def CanonicalStreamAccumulator.finish :
    Except ModelContractErrorKind StreamTerminal := do
  let state ← validateModelStream accumulator.events
  match state, accumulator.events.getLast? with
  | .completed, some (.completed response) => do
      response.requireSupportedSemantics
      return .completed response
  | _, some (.providerError kind) => return .providerError kind
  | _, _ => .error .invalidStreamOrdering

def semanticOrUnknown (semantic : Bool) : ProviderOutcomeCertainty :=
  if semantic then .semanticOutputObserved else .providerOutcomeUnknown

def contractErrorKind : ModelContractErrorKind → ProviderErrorKind
  | .invalidToolArguments | .toolArgumentsTooLarge => .malformedCompletedToolArguments
  | .tooManyOutputItems | .normalizedOutputTooLarge => .outputTooLarge
  | .unknownSemanticItem => .unsupportedResponseItem
  | _ => .malformedResponse

def streamError (kind : ModelStreamProviderErrorKind) (semantic : Bool) : ProviderError :=
  match kind with
  | .definiteFailure => .new .internalProviderError .definiteProviderFailure
  | .transientUnavailable => .new .temporarilyUnavailable .definiteProviderFailure
  | .cancelled => .new .cancelled .providerOutcomeUnknown
  | .outcomeUnknown => .new .providerOutcomeUnknown .providerOutcomeUnknown
  | .timeoutBeforeOutput => .new .timeoutBeforeOutput .providerOutcomeUnknown
  | .timeoutAfterOutput => .new .timeoutAfterOutput .semanticOutputObserved
  | .protocolFailure => .new .malformedResponse (semanticOrUnknown semantic)

def timeoutError (semantic : Bool) : ProviderError :=
  if semantic then .new .timeoutAfterOutput .semanticOutputObserved
  else .new .timeoutBeforeOutput .providerOutcomeUnknown

def ModelStreamEvent.hasDraftDelta : ModelStreamEvent → Bool
  | .textDelta _ _ | .refusalDelta _ _ => true
  | _ => false

def startedIds : ModelStreamEvent → Option Text × Option Text
  | .responseStarted _ requestId responseId => (requestId.map (·.text), responseId.map (·.text))
  | _ => (none, none)

/-- One poll that delivers an event: the monotonic time before it, the event, the wall
clock after it and whether an offered draft was exposed. -/
structure EventTurn where
  now : Nat
  event : ModelStreamEvent
  wallNow : Option UtcTimestamp
  draftExposed : Bool

inductive FinalOutcome
  | cancelled
  | idle
  | closed
  | failed (error : ProviderError)

structure FinalTurn where
  now : Nat
  outcome : FinalOutcome

structure StreamScript where
  turns : List EventTurn
  final : FinalTurn

inductive OpenOutcome
  | cancelled
  | timedOut
  | refused (error : ProviderError)
  | opened (script : StreamScript)

structure FinishScript where
  cancelled : Bool
  ownedWork : Option (WorkLifecycleSnapshot × JournalEventId)
  wallNow : Option UtcTimestamp
  (modelEvent workEvent : JournalEventId)

structure AttemptScript where
  (startedMono nowBeforeOpen : Nat)
  cancelledBeforeOpen : Bool
  opening : OpenOutcome
  streamingEvent : JournalEventId
  capture : Nat → ProviderOpaqueEvidence → Option PreparedArtifact
  (finish fallbackFinish : FinishScript)

structure MarkModelStreamingRequest where
  expectedWork : WorkExpectation
  expectedModel : ModelExpectation
  firstByteAt : UtcTimestamp
  firstOutputAt : Option UtcTimestamp
  (providerRequestId providerResponseId : Option Text)
  event : EventIntent

structure AttemptOps (Store : Type) where
  markModelStreaming : Store → MarkModelStreamingRequest → Except StoreRefusal Store
  finishModelInvocation : Store → FinishModelInvocationRequest → Except StoreRefusal Store

structure DurableModelAttempt where
  modelInvocationId : ModelInvocationId
  logicalInvocationId : LogicalInvocationId
  attemptNo : Nat
  (terminalModelEventId terminalWorkEventId : JournalEventId)
  work : WorkLifecycleSnapshot

inductive PhysicalAttemptResult
  | completed (response : ModelResponse) (attempt : DurableModelAttempt)
  | interrupted (errorKind : ProviderErrorKind) (attempt : DurableModelAttempt)
  | failed (error : ProviderError) (semanticOutputObserved draftExposed : Bool)
      (attempt : DurableModelAttempt)
  | infrastructure (error : ModelGatewayError)

structure FinishReport (Store : Type) where
  store : Store
  result : PhysicalAttemptResult
  accepted : Option FinishModelInvocationRequest

structure AttemptReport (Store : Type) extends FinishReport Store where
  delivered : List EventTurn

section

variable {Store : Type} (ops : AttemptOps Store) (limits : ModelGatewayLimits)
  (sha256 : Text → Sha256Digest)

/-- The local variables of `run_physical_attempt` while the stream is read, and the polls
that delivered an event so far. -/
structure StreamProgress (Store : Type) where
  store : Store
  accumulator : CanonicalStreamAccumulator
  modelState : ModelInvocationState
  lastAttemptEvent : JournalEventId
  (firstByteAt firstOutputAt : Option UtcTimestamp)
  draftExposed : Bool
  delivered : List EventTurn

inductive StreamEnd
  | failed (error : ProviderError)
  | completed (response : ModelResponse)
  | infrastructure (error : ModelGatewayError)

def StreamProgress.semantic (progress : StreamProgress Store) : Bool :=
  progress.accumulator.semanticOutputObserved

def noteFirstByte (invocation : GatewayInvocation) (attemptId : ModelInvocationId)
    (streamingEvent : JournalEventId) (event : ModelStreamEvent) (observedAt : UtcTimestamp)
    (progress : StreamProgress Store) : Except StoreRefusal (StreamProgress Store) :=
  match progress.firstByteAt with
  | some _ => .ok progress
  | none => do
      let store ← ops.markModelStreaming progress.store {
        expectedWork := .forSnapshot invocation.work
        expectedModel := ⟨attemptId, .requesting⟩
        firstByteAt := observedAt
        firstOutputAt := if event.isSemanticOutput then some observedAt else none
        providerRequestId := (startedIds event).1
        providerResponseId := (startedIds event).2
        event := ⟨streamingEvent, invocation.correlationId, some progress.lastAttemptEvent⟩ }
      return { progress with
        store
        firstByteAt := some observedAt
        modelState := .streaming
        lastAttemptEvent := streamingEvent }

def noteOutput (turn : EventTurn) (observedAt : UtcTimestamp) (progress : StreamProgress Store) :
    StreamProgress Store :=
  { progress with
    firstOutputAt :=
      if turn.event.isSemanticOutput && progress.firstOutputAt.isNone then some observedAt
      else progress.firstOutputAt
    draftExposed :=
      progress.draftExposed || (turn.event.hasDraftDelta && turn.draftExposed) }

def StreamProgress.deliver (turn : EventTurn) (progress : StreamProgress Store) :
    StreamProgress Store :=
  { progress with delivered := progress.delivered ++ [turn] }

def trailingPoll (deadline : Nat) (final : FinalTurn) :
    List EventTurn → Option (Except ProviderError Bool)
  | next :: _ =>
    if min limits.streamIdleLimit (deadline - next.now) = 0 then none else some (.ok true)
  | [] =>
    if min limits.streamIdleLimit (deadline - final.now) = 0 then none
    else match final.outcome with
      | .cancelled | .idle => none
      | .closed => some (.ok false)
      | .failed error => some (.error error)

def trailingDelivered (deadline : Nat) : List EventTurn → List EventTurn
  | next :: _ => if min limits.streamIdleLimit (deadline - next.now) = 0 then [] else [next]
  | [] => []

def closeStream (deadline : Nat) (final : FinalTurn) (rest : List EventTurn)
    (accumulator : CanonicalStreamAccumulator) : StreamEnd :=
  let semantic := accumulator.semanticOutputObserved
  match trailingPoll limits deadline final rest with
  | some (.ok true) =>
    .failed (.new .malformedResponse
      (if semantic then .semanticOutputObserved else .definiteProviderFailure))
  | some (.error _) | none => .failed (.new .providerOutcomeUnknown .providerOutcomeUnknown)
  | some (.ok false) =>
    match accumulator.finish with
    | .ok (.completed response) => .completed response
    | .ok (.providerError kind) => .failed (streamError kind semantic)
    | .error kind => .failed (.new (contractErrorKind kind) (semanticOrUnknown semantic))

def streamLoop (invocation : GatewayInvocation) (attemptId : ModelInvocationId)
    (streamingEvent : JournalEventId) (deadline : Nat) (final : FinalTurn) :
    List EventTurn → StreamProgress Store → StreamProgress Store × StreamEnd
  | [], progress =>
    if deadline ≤ final.now then (progress, .failed (timeoutError progress.semantic))
    else match final.outcome with
      | .cancelled => (progress, .failed (.new .cancelled .providerOutcomeUnknown))
      | .idle => (progress, .failed (timeoutError progress.semantic))
      | .closed =>
        (progress, .failed (.new .malformedResponse (semanticOrUnknown progress.semantic)))
      | .failed error => (progress, .failed error)
  | turn :: rest, progress =>
    if deadline ≤ turn.now then (progress, .failed (timeoutError progress.semantic))
    else
      let delivered := progress.deliver turn
      match turn.wallNow with
      | none => (delivered, .infrastructure .clock)
      | some observedAt =>
        match noteFirstByte ops invocation attemptId streamingEvent turn.event observedAt
            delivered with
        | .error _ => (delivered, .infrastructure .stateStore)
        | .ok marked =>
          let noted := noteOutput turn observedAt marked
          match noted.accumulator.observe limits turn.event with
          | (accumulator, some kind) =>
            ({ noted with accumulator },
              .failed (.new (contractErrorKind kind)
                (semanticOrUnknown accumulator.semanticOutputObserved)))
          | (accumulator, none) =>
            if turn.event.isTerminal then
              let ending := closeStream limits deadline final rest accumulator
              let delivered := noted.delivered ++ trailingDelivered limits deadline rest
              let firstOutputAt := match ending with
                | .completed response =>
                  if noted.firstOutputAt.isNone && !response.outputItems.isEmpty then
                    some observedAt
                  else noted.firstOutputAt
                | _ => noted.firstOutputAt
              ({ noted with accumulator, firstOutputAt, delivered }, ending)
            else
              streamLoop invocation attemptId streamingEvent deadline final rest
                { noted with accumulator }

def decideNext (request : WorkTransitionRequest) : Except ModelGatewayError WorkLifecycleSnapshot :=
  match decideWorkTransition work (.forSnapshot work) request with
  | .ok decision => .ok decision.next
  | .error _ => .error .lifecycle

def resumeFromModel : Except ModelGatewayError WorkLifecycleSnapshot :=
  decideNext work (.resumeFromModel attemptId)

def confirmCancellation :
    Except ModelGatewayError WorkLifecycleSnapshot := do
  let reason ← orRefuse work.cancellationReason .lifecycle
  decideNext work (.cancel reason .confirmed)

/-- `refresh_durable_cancellation`: the owned work, when it durably waits for this attempt's cancellation. -/
def refreshDurableCancellation (ownedWork : Option (WorkLifecycleSnapshot × JournalEventId)) :
    Option (WorkLifecycleSnapshot × JournalEventId) :=
  if work.runtimeOwner.isNone then none
  else ownedWork.filter fun (owned, _) =>
    owned.state == .cancelRequested && owned.currentAttempt == .model attemptId

def finishBasis
    (cause : JournalEventId) (script : FinishScript) : WorkLifecycleSnapshot × JournalEventId :=
  if script.cancelled then
    (refreshDurableCancellation work attemptId script.ownedWork).getD (work, cause)
  else (work, cause)

structure FinishEvidence where
  modelState : ModelInvocationState
  cause : JournalEventId
  (semanticOutputObserved draftExposed : Bool)
  (firstByteAt firstOutputAt : Option UtcTimestamp)
  (providerRequestId providerResponseId : Option Text)
  usage : Option ModelUsage

def storedUsage (usage : ModelUsage) : StoredModelUsage where
  inputTokens := usage.inputTokens
  cachedInputTokens := usage.cachedInputTokens
  outputTokens := usage.outputTokens
  reasoningTokens := usage.reasoningTokens
  totalTokens := usage.totalTokens

def ProviderError.isAmbiguous (error : ProviderError) : Bool :=
  error.certainty == .providerOutcomeUnknown || error.kind == .transportAfterPossibleProcessing ||
    error.kind == .providerOutcomeUnknown

def ProviderError.isLocalCancellation (error : ProviderError) : Bool :=
  error.kind == .cancelled && error.certainty == .definitelyNotSent

def failedWorkNext (error : ProviderError) : Except ModelGatewayError WorkLifecycleSnapshot :=
  if error.isAmbiguous then decideNext work (.interrupt .providerOutcomeUnknown)
  else if error.isLocalCancellation && work.state == .cancelRequested then confirmCancellation work
  else resumeFromModel work attemptId

def failedTerminalState (error : ProviderError) : ModelInvocationState :=
  if error.isAmbiguous then .providerOutcomeUnknown
  else if error.isLocalCancellation then .cancelledLocally
  else .failed

def failedOutcome (error : ProviderError) (evidence : FinishEvidence) (completedAt : UtcTimestamp) :
    ModelTerminalOutcome where
  state := failedTerminalState error
  responseSha256 := none
  responseArtifactId := none
  normalizedOutput := none
  providerRequestId := evidence.providerRequestId
  providerResponseId := evidence.providerResponseId
  firstByteAt := evidence.firstByteAt
  firstOutputAt := evidence.firstOutputAt
  completedAt
  usage := evidence.usage.map storedUsage
  usageStatus := if evidence.usage.isSome then .reported else .unavailable
  providerErrorKind := some (if error.isAmbiguous then .providerOutcomeUnknown else error.kind)
  providerOutcomeCertainty :=
    if failedTerminalState error == .failed && evidence.semanticOutputObserved then
      .semanticOutputObserved
    else error.certainty
  billingAmbiguity := error.isAmbiguous
  stopReason := none
  toolCallCount := none
  draftExposed := evidence.draftExposed
  normalizedError :=
    some (if error.isAmbiguous then .provider .outcomeUnknown none else error.normalized)

def finishRequest (invocation : GatewayInvocation) (work : WorkLifecycleSnapshot)
    (attemptId : ModelInvocationId) (modelState : ModelInvocationState) (cause : JournalEventId)
    (outcome : ModelTerminalOutcome) (artifacts : List PreparedArtifact)
    (workNext : WorkLifecycleSnapshot) (script : FinishScript) : FinishModelInvocationRequest where
  expectedWork := .forSnapshot work
  expectedModel := ⟨attemptId, modelState⟩
  outcome
  artifacts
  workNext
  modelEvent := ⟨script.modelEvent, invocation.correlationId, some cause⟩
  workEvent := ⟨script.workEvent, invocation.correlationId, some script.modelEvent⟩

def durableAttempt (invocation : GatewayInvocation) (attemptId : ModelInvocationId) (attemptNo : Nat)
    (script : FinishScript) (work : WorkLifecycleSnapshot) : DurableModelAttempt where
  modelInvocationId := attemptId
  logicalInvocationId := invocation.logicalInvocationId
  attemptNo
  terminalModelEventId := script.modelEvent
  terminalWorkEventId := script.workEvent
  work

def finishFailedAttempt (invocation : GatewayInvocation) (attemptId : ModelInvocationId)
    (attemptNo : Nat) (error : ProviderError) (evidence : FinishEvidence) (script : FinishScript)
    (store : Store) : FinishReport Store :=
  let (work, cause) := finishBasis invocation.work attemptId evidence.cause script
  match script.wallNow with
  | none => ⟨store, .infrastructure .clock, none⟩
  | some completedAt =>
    match failedWorkNext work attemptId error with
    | .error failure => ⟨store, .infrastructure failure, none⟩
    | .ok workNext =>
      let request := finishRequest invocation work attemptId evidence.modelState cause
        (failedOutcome error evidence completedAt) [] workNext script
      match ops.finishModelInvocation store request with
      | .error _ => ⟨store, .infrastructure .stateStore, none⟩
      | .ok finished =>
        let attempt := durableAttempt invocation attemptId attemptNo script workNext
        ⟨finished,
          if error.isAmbiguous then .interrupted error.kind attempt
          else .failed error evidence.semanticOutputObserved evidence.draftExposed attempt,
          some request⟩

def finishProviderError (invocation : GatewayInvocation) (attemptId : ModelInvocationId)
    (attemptNo : Nat) (error : ProviderError) (evidence : FinishEvidence) (script : FinishScript)
    (store : Store) : FinishReport Store :=
  finishFailedAttempt ops invocation attemptId attemptNo error
    { evidence with
      providerRequestId :=
        evidence.providerRequestId.orElse fun _ => error.providerRequestId.map (·.text) }
    script store

def joinParts (parts : List ModelTextPart) : Text :=
  parts.flatMap (·.text)

def capturedItem (evidence : ProviderOpaqueEvidence) (artifact : PreparedArtifact) :
    NormalizedModelOutputItem :=
  .providerOpaque evidence.providerId evidence.typeLabel.text evidence.sha256
    artifact.metadata.artifactId

def prepareItem (capture : Nat → ProviderOpaqueEvidence → Option PreparedArtifact) (index : Nat) :
    ModelOutputItem → Option (NormalizedModelOutputItem × List PreparedArtifact)
  | .text parts => some (.text (joinParts parts), [])
  | .toolCall call => do
      let arguments ← call.parsedArguments
      return (.toolCall call.callId.text call.name arguments.print, [])
  | .structuredData data => some (.structuredData data.print, [])
  | .refusal parts => some (.refusal (joinParts parts), [])
  | .reasoningSummary parts => some (.reasoningSummary (joinParts parts), [])
  | .providerOpaque evidence => do
      let artifact ← capture index evidence
      return (capturedItem evidence artifact, [artifact])
  | .unknownProviderItem _ => none

def prepareItems (capture : Nat → ProviderOpaqueEvidence → Option PreparedArtifact) :
    Nat → List ModelOutputItem → Option (NormalizedModelOutput × List PreparedArtifact)
  | _, [] => some ([], [])
  | index, item :: rest => do
      let (normalized, artifacts) ← prepareItem capture index item
      let (others, otherArtifacts) ← prepareItems capture (index + 1) rest
      return (normalized :: others, artifacts ++ otherArtifacts)

def carriesContinuation (items : List ModelOutputItem) (continuation : ProviderOpaqueEvidence) :
    Bool :=
  items.any fun
    | .providerOpaque evidence =>
      evidence.providerId == continuation.providerId &&
        evidence.typeLabel == continuation.typeLabel && evidence.sha256 == continuation.sha256
    | _ => false

def prepareNormalizedOutput (capture : Nat → ProviderOpaqueEvidence → Option PreparedArtifact)
    (response : ModelResponse) : Option (NormalizedModelOutput × List PreparedArtifact) := do
  let (items, artifacts) ← prepareItems capture 0 response.outputItems
  match response.providerContinuation with
  | none => return (items, artifacts)
  | some continuation =>
    if carriesContinuation response.outputItems continuation then return (items, artifacts)
    else do
      let artifact ← capture response.outputItems.length continuation
      return (items ++ [capturedItem continuation artifact], artifacts ++ [artifact])

def completedOutcome (response : ModelResponse) (output : NormalizedModelOutput)
    (evidence : FinishEvidence) (completedAt : UtcTimestamp) : ModelTerminalOutcome where
  state := .completed
  responseSha256 := some (sha256 response.semanticValue.print)
  responseArtifactId := none
  normalizedOutput := some output
  providerRequestId := response.providerRequestId.map (·.text)
  providerResponseId := response.providerResponseId.map (·.text)
  firstByteAt := evidence.firstByteAt
  firstOutputAt := evidence.firstOutputAt
  completedAt
  usage := response.usage.map storedUsage
  usageStatus := if response.usage.isSome then .reported else .unavailable
  providerErrorKind := none
  providerOutcomeCertainty := .definitelyCompleted
  billingAmbiguity := false
  stopReason := some response.stopReason.asStr
  toolCallCount := some (response.outputItems.countP (·.toolCall?.isSome))
  draftExposed := evidence.draftExposed
  normalizedError := none

def completedWorkNext : Except ModelGatewayError WorkLifecycleSnapshot :=
  if work.state == .cancelRequested then confirmCancellation work
  else resumeFromModel work attemptId

def finishCompletedAttempt (invocation : GatewayInvocation) (attemptId : ModelInvocationId)
    (attemptNo : Nat) (response : ModelResponse) (evidence : FinishEvidence)
    (script : AttemptScript) (store : Store) : FinishReport Store :=
  let (work, cause) := finishBasis invocation.work attemptId evidence.cause script.finish
  match script.finish.wallNow with
  | none => ⟨store, .infrastructure .clock, none⟩
  | some completedAt =>
    match prepareNormalizedOutput script.capture response with
    | none =>
      finishFailedAttempt ops { invocation with work } attemptId attemptNo
        (.new .providerOutcomeUnknown .providerOutcomeUnknown)
        { evidence with
          cause
          semanticOutputObserved := true
          providerRequestId := response.providerRequestId.map (·.text)
          providerResponseId := response.providerResponseId.map (·.text)
          usage := response.usage }
        script.fallbackFinish store
    | some (output, artifacts) =>
      match completedWorkNext work attemptId with
      | .error failure => ⟨store, .infrastructure failure, none⟩
      | .ok workNext =>
        let request := finishRequest invocation work attemptId evidence.modelState cause
          (completedOutcome sha256 response output evidence completedAt) artifacts workNext
          script.finish
        match ops.finishModelInvocation store request with
        | .error _ => ⟨store, .infrastructure .stateStore, none⟩
        | .ok finished =>
          ⟨finished,
            .completed response
              (durableAttempt invocation attemptId attemptNo script.finish workNext),
            some request⟩

def durationMax : Nat := 18446744073709551615 * 1000000000 + 999999999

def effectiveDeadline (invocation : GatewayInvocation) (localDeadline : Nat) : Nat :=
  (invocation.shutdownDeadline.toList ++ [invocation.workDeadline]).foldl min localDeadline

def unopenedEvidence (waitingEvent : JournalEventId) : FinishEvidence where
  modelState := .requesting
  cause := waitingEvent
  semanticOutputObserved := false
  draftExposed := false
  firstByteAt := none
  firstOutputAt := none
  providerRequestId := none
  providerResponseId := none
  usage := none

def StreamProgress.evidence (progress : StreamProgress Store) : FinishEvidence where
  modelState := progress.modelState
  cause := progress.lastAttemptEvent
  semanticOutputObserved := progress.semantic
  draftExposed := progress.draftExposed
  firstByteAt := progress.firstByteAt
  firstOutputAt := progress.firstOutputAt
  providerRequestId := progress.accumulator.providerRequestId
  providerResponseId := progress.accumulator.providerResponseId
  usage := progress.accumulator.usage

def openedProgress (store : Store) (startedEvent : JournalEventId) : StreamProgress Store where
  store
  accumulator := {}
  modelState := .requesting
  lastAttemptEvent := startedEvent
  firstByteAt := none
  firstOutputAt := none
  draftExposed := false
  delivered := []

def FinishReport.delivering {Store : Type} (report : FinishReport Store)
    (delivered : List EventTurn) : AttemptReport Store :=
  { report with delivered }

def runPhysicalAttempt (invocation : GatewayInvocation) (attemptNo : Nat)
    (attemptId : ModelInvocationId) (startedEvent waitingEvent : JournalEventId)
    (script : AttemptScript) (store : Store) : AttemptReport Store :=
  let localDeadline := script.startedMono + limits.providerInvocationLimit
  if durationMax < localDeadline then
    FinishReport.delivering ⟨store, .infrastructure .clock, none⟩ []
  else if limits.streamIdleLimit = 0 ∨ defaultProviderIdleTimeout < limits.streamIdleLimit then
    FinishReport.delivering ⟨store, .infrastructure .invalidComposition, none⟩ []
  else
    let deadline := effectiveDeadline invocation localDeadline
    let unopened := unopenedEvidence waitingEvent
    if deadline ≤ script.nowBeforeOpen then
      (finishFailedAttempt ops invocation attemptId attemptNo
        (.new .timeoutBeforeOutput .definitelyNotSent) unopened script.finish store).delivering []
    else if script.cancelledBeforeOpen then
      (finishFailedAttempt ops invocation attemptId attemptNo
        (.new .cancelled .definitelyNotSent) unopened script.finish store).delivering []
    else match script.opening with
      | .cancelled =>
        (finishFailedAttempt ops invocation attemptId attemptNo
          (.new .cancelled .providerOutcomeUnknown) unopened script.finish store).delivering []
      | .timedOut =>
        (finishFailedAttempt ops invocation attemptId attemptNo
          (.new .timeoutBeforeOutput .providerOutcomeUnknown) unopened script.finish
          store).delivering []
      | .refused error =>
        (finishProviderError ops invocation attemptId attemptNo error unopened script.finish
          store).delivering []
      | .opened stream =>
        match streamLoop ops limits invocation attemptId script.streamingEvent deadline
            stream.final stream.turns (openedProgress store startedEvent) with
        | (progress, .infrastructure failure) =>
          FinishReport.delivering ⟨progress.store, .infrastructure failure, none⟩
            progress.delivered
        | (progress, .failed error) =>
          (finishProviderError ops invocation attemptId attemptNo error progress.evidence
            script.finish progress.store).delivering progress.delivered
        | (progress, .completed response) =>
          (finishCompletedAttempt ops sha256 invocation attemptId attemptNo response
            progress.evidence script progress.store).delivering progress.delivered

end

end Craxii
