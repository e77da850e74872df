import Craxii.Store.ToolAttemptCore
import Craxii.Store.WorkProjection

/-!
When `finish_tool` accepts the completion of a dispatched execution.
-/

namespace Craxii

open Utf8Text ExceptRules KeyedRows

structure WaitsOnTool (work : WorkLifecycleSnapshot) (toolExecutionId : ToolExecutionId) : Prop where
  state : work.state = .waitingOnTool
  attempt : work.currentAttempt = .tool toolExecutionId
  shape : work.shapeOk = true

theorem WaitsOnTool.reasons {work : WorkLifecycleSnapshot} {toolExecutionId : ToolExecutionId}
    (waits : WaitsOnTool work toolExecutionId) :
    work.runtimeOwner.isSome = true ∧ work.cancellationReason = none ∧ work.terminalReason = none := by
  have shape := waits.shape
  simp only [WorkLifecycleSnapshot.shapeOk, workShapeOk, waits.state, waits.attempt,
    Bool.and_eq_true, Option.isNone_iff_eq_none] at shape
  exact ⟨shape.1.1.1, shape.1.2, shape.2⟩

def ToolRow.isTool (toolExecutionId : ToolExecutionId) (row : ToolRow) : Bool :=
  row.toolExecutionId == toolExecutionId

structure HoldsTool (store : ToolStore) (work : WorkLifecycleSnapshot)
    (toolExecutionId : ToolExecutionId) (craxiiId : CraxiiId) (correlationId : CorrelationId) :
    Prop where
  workRow : ∃ row, store.works.find? (WorkRow.isWork work.workId) = some row ∧
    row.lifecycle = work ∧ row.craxiiId = craxiiId ∧ row.correlationId = correlationId ∧
    row.startedAt.isSome = true
  toolRow : ∃ row, store.tools.find? (ToolRow.isTool toolExecutionId) = some row ∧
    row.workId = work.workId ∧ row.state = .dispatching ∧
    work.runtimeOwner = some row.runtimeInstanceId

/-- The artifacts of a request are the ones its outcome names, with facts that agree. -/
structure ConsistentArtifacts (request : FinishToolExecutionRequest) (craxiiId : CraxiiId)
    (correlationId : CorrelationId) : Prop where
  facts : ∀ artifact ∈ request.artifacts, artifactFactsOk request.expectedWork.workId
    (.tool request.expectedTool.toolExecutionId) artifact = true
  origin : ∀ artifact ∈ request.artifacts,
    artifact.metadata.craxiiId = craxiiId ∧ artifact.event.correlationId = correlationId
  events : (request.artifacts.map (·.event.eventId)).Nodup
  named : request.artifacts.map (·.metadata.artifactId) = referencedArtifacts request.outcome
  distinct : (referencedArtifacts request.outcome).Nodup
  stdout : streamArtifactOk request.artifacts request.outcome.stdoutArtifactId
    request.outcome.stdoutCounts = true
  stderr : streamArtifactOk request.artifacts request.outcome.stderrArtifactId
    request.outcome.stderrCounts = true

namespace ConsistentArtifacts

variable {request : FinishToolExecutionRequest} {craxiiId : CraxiiId} {correlationId : CorrelationId}
  (consistent : ConsistentArtifacts request craxiiId correlationId)

include consistent

theorem indexed : indexValidatedArtifacts request.artifacts request.expectedWork.workId
    (.tool request.expectedTool.toolExecutionId) = .ok () := by
  have distinct := consistent.distinct
  rw [← consistent.named] at distinct
  simp only [indexValidatedArtifacts, List.all_eq_true.mpr consistent.facts, consistent.events,
    distinct, decide_true, Bool.and_self, Bool.not_true, refuseIf_false]

theorem exact_set :
    requireExactArtifactSet request.artifacts (referencedArtifacts request.outcome) = .ok () := by
  rw [← consistent.named]
  have supplied : request.artifacts.all (fun artifact =>
      (request.artifacts.map (·.metadata.artifactId)).contains artifact.metadata.artifactId) = true := by
    rw [List.all_eq_true]
    intro artifact found
    exact List.contains_iff_mem.mpr (List.mem_map_of_mem found)
  have referenced : (request.artifacts.map (·.metadata.artifactId)).all (fun id =>
      (request.artifacts.map (·.metadata.artifactId)).contains id) = true := by
    rw [List.all_eq_true]
    exact fun id found => List.contains_iff_mem.mpr found
  simp only [requireExactArtifactSet, supplied, referenced, Bool.and_self, Bool.not_true,
    refuseIf_false]

theorem same_origin : (request.artifacts.any fun artifact =>
    artifact.metadata.craxiiId != craxiiId || artifact.event.correlationId != correlationId) =
      false := by
  rw [List.any_eq_false]
  intro artifact found
  obtain ⟨craxii, correlation⟩ := consistent.origin artifact found
  simp [craxii, correlation]

end ConsistentArtifacts

/-- The completion of a dispatched execution whose observation the store's table has. -/
structure CompletesDispatched (request : FinishToolExecutionRequest) (evidence : ToolResultEvidence) :
    Prop where
  completed : request.outcome.state = .completed
  dispatched : request.expectedTool.state = .dispatching
  result : request.outcome.result = some evidence
  noAuthority : request.outcome.predispatchAuthority = none
  noError : request.outcome.normalizedError = none
  observed : toolObservationOk evidence.resultKind true request.outcome.startedAt.isSome
    request.outcome.exitCode request.outcome.signal (some (request.outcome.timedOut.getD false))
    (some (request.outcome.cancelled.getD false)) = true
  allowed : transitionAllowed .dispatching
    (.complete evidence.resultKind (cleanupStatusOf request.outcome.cleanupConfirmed)) = true

theorem CompletesDispatched.terminalResult {request : FinishToolExecutionRequest}
    {evidence : ToolResultEvidence} (completes : CompletesDispatched request evidence)
    (owned : request.expectedWork.runtimeOwner.isSome = true) :
    toolTerminalResult request = (encodeToolResult evidence).map some := by
  have hasOwner : request.expectedWork.runtimeOwner.isNone = false := by simpa using owned
  simp only [toolTerminalResult, completes.completed, completes.dispatched, completes.result,
    completes.noAuthority, completes.noError, observedFlags, completes.observed, completes.allowed,
    hasOwner, orRefuse_some, ok_bind, reduceCtorEq, ↓reduceIte, Option.isSome_none, and_self,
    Option.all_none, beq_self_eq_true, Bool.not_true, refuseIf_false]
  cases encodeToolResult evidence with
  | error => rfl
  | ok => rfl

section

variable {store : ToolStore} {work : WorkLifecycleSnapshot} {request : FinishToolExecutionRequest}
  {evidence : ToolResultEvidence} {craxiiId : CraxiiId} {correlationId : CorrelationId}
  {version : ProjectionVersion}

section

variable (completes : CompletesDispatched request evidence) (waits : WaitsOnTool work request.expectedTool.toolExecutionId)
include completes waits

theorem toolLifecycleOk_completed (expects : request.expectedWork = .forSnapshot work)
    (resumes : request.workNext = resumedWork work version)
    (caused : request.workEvent.causationEventId = some request.toolEvent.eventId) :
    toolLifecycleOk request = true := by
  simp [toolLifecycleOk, completes.completed, expects, WorkExpectation.forSnapshot, waits.state,
    waits.attempt, resumes, resumedWork, caused, ToolExecutionState.isTerminal]

theorem finishTool_completed_isOk_iff
    (holds : HoldsTool store work request.expectedTool.toolExecutionId craxiiId correlationId)
    (expects : request.expectedWork = .forSnapshot work)
    (incremented : work.projectionVersion.checkedIncrement = some version)
    (resumes : request.workNext = resumedWork work version)
    (caused : request.workEvent.causationEventId = some request.toolEvent.eventId)
    (correlated : request.toolEvent.correlationId = correlationId ∧
      request.workEvent.correlationId = correlationId)
    (consistent : ConsistentArtifacts request craxiiId correlationId) :
    (finishTool store request).isOk = true ↔
      (encodeToolResult evidence).isOk = true ∧ streamEvidenceOk request.outcome = true := by
  obtain ⟨owned, _, open_⟩ := waits.reasons
  obtain ⟨row, found, lifecycle, craxii, correlation, started⟩ := holds.workRow
  obtain ⟨toolRow, toolFound, toolWork, dispatching, owner⟩ := holds.toolRow
  have workId : request.expectedWork.workId = work.workId := by
    rw [expects]
    rfl
  have owner? : request.expectedWork.runtimeOwner = work.runtimeOwner := by
    rw [expects]
    rfl
  have terminal := completes.terminalResult (by rw [owner?]; exact owned)
  have loaded := loadWorkContext_started found started
  have matched : store.tools.find? (·.matchesExpectation work.workId request.expectedTool) =
      some toolRow := by
    refine find?_narrow toolFound ?_ ?_
    · have isTool := List.find?_some toolFound
      simp only [ToolRow.isTool, beq_iff_eq] at isTool
      simp [ToolRow.matchesExpectation, isTool, toolWork, dispatching, completes.dispatched]
    · intro other matching
      simp only [ToolRow.matchesExpectation, Bool.and_eq_true] at matching
      exact matching.1.1
  obtain ⟨works, updated, _⟩ := @guardedWorkUpdate_current store.works work row
    (resumedWork work version) ⟨row.startedAt, none, none⟩ found lifecycle rfl (by rw [waits.state]; rfl)
    (PositiveInteger.checkedIncrement_some incremented) (by rw [waits.state]; rfl)
    (by simp [validTimeShape, resumedWork, started])
  have snapshot : expectedSnapshot request.expectedWork = .ok work := by
    rw [expects]
    exact expectedSnapshot_forSnapshot waits.shape open_
  have running : (resumedWork work version).state.isTerminal = false := rfl
  have indexed := consistent.indexed
  rw [workId] at indexed
  simp only [finishTool, toolLifecycleOk_completed completes waits expects resumes caused, terminal,
    workId, owner?, indexed, consistent.distinct, consistent.exact_set, consistent.stdout,
    consistent.stderr, completes.noAuthority, loaded, craxii, correlation,
    consistent.same_origin, matched, owner, Bool.not_true,
    refuseIf_false, ok_bind, decide_true, Bool.and_self, Option.all_none, orRefuse_some,
    bne_self_eq_false, resumes, snapshot, running, Bool.false_eq_true, ↓reduceIte, updated, correlated,
    Bool.or_self]
  cases encodeToolResult evidence with
  | error => simp [Except.map, Except.isOk, Except.toBool]
  | ok json =>
    cases streamEvidenceOk request.outcome <;>
      simp [Except.map, Except.isOk, Except.toBool, pure, Except.pure]

end

end

end Craxii
