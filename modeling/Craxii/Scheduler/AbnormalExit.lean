import Craxii.Scheduler.Cancellation
import Craxii.Store.Recovery

/-!
The no-op branches of `interrupt_owned_work` and `recover_work_unit` for an ended work.
-/

namespace Craxii

open ExceptRules GuardedRun

section Terminal

variable {rows : RunnerRows} {unit : WorkUnit}

theorem interruptOwnedWork_terminal (terminal : rows.work.state.isTerminal = true)
    (runtimeId : RuntimeInstanceId) :
    interruptOwnedWork rows runtimeId = .error .inconsistentSchema := by
  simp [interruptOwnedWork, decodeActiveWorkRow_terminal terminal]

theorem joinMove_terminal {composition : RunnerComposition} {system : RunnerSystem}
    (exited : system.runner = .exited .abnormal) (terminal : system.rows.work.state.isTerminal = true)
    (clock : Bool) :
    joinMove composition system clock = some { system with scheduler := .failed } := by
  cases clock <;>
    simp [joinMove, exited, RunnerSystem.closedBy, interruptOwnedWork_terminal terminal]

end Terminal

/-- Both calls succeed on an ended unit and leave its rows and its stream as they are. -/
def LeavesEnded (unit : WorkUnit) (request : RecoverStaleRuntimeRequest) (streamed : Bool) : Prop :=
  unit.work.state.isTerminal = true →
    interruptOwnedWork unit.rows request.staleRuntimeId = .ok unit.rows ∧
      ∃ counters, recoverUnit unit request streamed = .ok ⟨unit, [], counters⟩

def SurvivesEnded (composition : RunnerComposition) (system : RunnerSystem) : Prop :=
  system.rows.work.state.isTerminal = true → ∀ clock joined,
    joinMove composition system clock = some joined → joined.scheduler ≠ .failed

def panickedHandler : List RunnerMove :=
  List.replicate 7 (.run (plainAnswers .event)) ++
    [.run (plainAnswers (.ended (.completed .toolContinuation [true])))] ++
    List.replicate 11 (.run (plainAnswers .event)) ++
    [.run { plainAnswers .event with tool := .endsUnknown .handlerPanickedAfterPossibleHandoff },
      .run (plainAnswers .event), .run (plainAnswers .event)]

end Craxii
