import Craxii.Domain.Lifecycle
import Craxii.Lib.KeyedRows
import Craxii.Store.ModelAttemptCore

/-!
The guarded projection of a work row that still is as its expectation says.
-/

namespace Craxii

open ExceptRules KeyedRows

theorem checkGuard_forSnapshot (work : WorkLifecycleSnapshot) :
    checkGuard work (.forSnapshot work) = .ok () := by
  simp [checkGuard, WorkTransitionGuard.forSnapshot]

def resumedWork (work : WorkLifecycleSnapshot) (version : ProjectionVersion) :
    WorkLifecycleSnapshot :=
  ⟨work.workId, .running, version, work.runtimeOwner, .none, none, none⟩

def interruptedWork (work : WorkLifecycleSnapshot) (version : ProjectionVersion)
    (reason : WorkInterruptionReason) : WorkLifecycleSnapshot :=
  ⟨work.workId, .interrupted, version, none, .none, none, some (.interruption reason)⟩

def WorkRow.isWork (workId : WorkId) (row : WorkRow) : Bool :=
  row.lifecycle.workId == workId

variable {works : List WorkRow} {work : WorkLifecycleSnapshot} {row : WorkRow}

theorem loadWorkContext_started {workId : WorkId}
    (found : works.find? (WorkRow.isWork workId) = some row) (started : row.startedAt.isSome = true) :
    loadWorkContext works workId = .ok row := by
  have startedFound : row.startedAt.isNone = false := by simpa using started
  have loaded : works.find? (fun row => row.lifecycle.workId == workId) = some row := found
  simp only [loadWorkContext, loaded, orRefuse_some, ok_bind, startedFound, refuseIf_false, pure,
    Except.pure]

theorem guardedWorkUpdate_current {next : WorkLifecycleSnapshot} {times : WorkProjectionTimes}
    (found : works.find? (WorkRow.isWork work.workId) = some row) (current : row.lifecycle = work)
    (sameWork : next.workId = work.workId) (live : work.state.isTerminal = false)
    (version : next.projectionVersion.value = work.projectionVersion.value + 1)
    (legal : isLegalWorkPair work.state next.state = true)
    (timeShape : validTimeShape next.state times = true) :
    ∃ updated, guardedWorkUpdate works work next times = .ok updated ∧
      updated.find? (WorkRow.isWork work.workId) = some { row with lifecycle := next } := by
  have matching : row.matchesGuard work = true := by
    simp [WorkRow.matchesGuard, current]
  have anyMatching : (works.any fun row => row.matchesGuard work) = true :=
    any_of_find? (fun row => row.matchesGuard work) found matching
  refine ⟨works.map (WorkRow.project work next), ?_, ?_⟩
  · simp only [guardedWorkUpdate, sameWork, live, version, legal, timeShape, bne_self_eq_false,
      Bool.not_true, Bool.or_self, refuseIf_false, ok_bind, anyMatching, pure,
      Except.pure]
  · rw [find?_update _ found]
    · simp [WorkRow.project, matching]
    · intro other
      by_cases guarded : other.matchesGuard work = true
      · have key := guarded
        simp only [WorkRow.matchesGuard, Bool.and_eq_true, beq_iff_eq] at key
        simp [WorkRow.isWork, WorkRow.project, guarded, sameWork, key.1.1.1.1]
      · simp [WorkRow.isWork, WorkRow.project, guarded]

theorem expectedSnapshot_forSnapshot (shape : work.shapeOk = true)
    (open_ : work.terminalReason = none) : expectedSnapshot (.forSnapshot work) = .ok work := by
  have shapeOk : workShapeOk work.state work.runtimeOwner work.currentAttempt
      work.cancellationReason none = true := by
    rw [← open_]
    exact shape
  simp only [expectedSnapshot, WorkExpectation.forSnapshot, shapeOk, Bool.not_true, refuseIf_false,
    ok_bind, pure, Except.pure]
  rw [← open_]

end Craxii
