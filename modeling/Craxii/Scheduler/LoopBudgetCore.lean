import Craxii.Scheduler.RunnerCore

/-!
One `AgentLoop::run` whose work row and cancellation flag other tasks may change between two
steps, and whose store operations may fail, whether or not their transaction took effect.
-/

namespace Craxii

structure ToolCallPlace where
  (agentStep index : Nat)

structure ToolResponse where
  (agentStep calls : Nat)

def ToolResponse.places (response : ToolResponse) : List ToolCallPlace :=
  (List.range response.calls).map (ToolCallPlace.mk response.agentStep)

structure RequestedCall where
  place : ToolCallPlace
  toolId : ToolExecutionId

structure LoopLedger where
  invocations : Nat
  responses : List ToolResponse
  requests : List RequestedCall

def LoopLedger.place (ledger : LoopLedger) (batch : ToolBatch) : ToolCallPlace where
  agentStep := batch.agentStep
  index := (match ledger.responses.getLast? with
    | some response => response.calls
    | none => 0) - (batch.remaining + 1)

/-- The entries a step adds: `invoke` is called, a response with calls is taken, or the
row of a tool execution is written. -/
def LoopLedger.observe (ledger : LoopLedger) (rows updated : RunnerRows)
    (before after : RunnerPoint) : LoopLedger :=
  match before, after with
  | .checking _ _, .enteringGateway _ _ => { ledger with invocations := ledger.invocations + 1 }
  | .attempt _ _, .batchLoading batch =>
    { ledger with responses := ledger.responses ++ [⟨batch.agentStep, batch.remaining⟩] }
  | .tool run (.requesting toolId), _ =>
    if updated.tools.length = rows.tools.length then ledger
    else { ledger with requests := ledger.requests ++ [⟨ledger.place run.batch, toolId⟩] }
  | _, _ => ledger

def stillWaits (before after : RunnerPoint) : Bool :=
  match before, after with
  | .attempt _ .exchanging, .attempt _ .exchanging => true
  | .tool before (.handling _), .tool after (.handling _) => decide (before = after)
  | _, _ => false

def storeFailurePoint (answers : Answers) (flag : Bool) : RunnerPoint → Option RunnerPoint
  | .loading _ | .failing _ _ | .batchLoading _ | .reloading _ | .beginning _ _
  | .completing _ _ _ | .terminalizing _ _ => some (.exited .abnormal)
  | .attempt _ .exchanging | .attempt _ (.committing _) => some (.exited .abnormal)
  -- `refresh_durable_cancellation` keeps the snapshot it has.
  | .attempt opened (.settling ending) => some (.attempt opened (.committing ending))
  | .tool run phase =>
    if answers.forwards && flag && run.notice.isNone then some (.exited .abnormal)
    else match phase with
      | .requesting _ | .intending _ | .recording _ _ _ =>
        some (.tool run (.returned (some .stateStore)))
      | _ => none
  | _ => none

structure AgentRun where
  rows : RunnerRows
  flag : Bool
  point : RunnerPoint
  ledger : LoopLedger
  (steps waits : Nat)

inductive LoopMove
  | world (work : WorkLifecycleSnapshot) (flag : Bool)
  | run (answers : Answers)
  | storeFails (answers : Answers) (kept : Bool)

def AgentRun.reach (run : AgentRun) (rows : RunnerRows) (point : RunnerPoint) : AgentRun where
  rows := rows
  flag := run.flag
  point := point
  ledger := run.ledger.observe run.rows rows run.point point
  steps := run.steps + 1
  waits := run.waits + if stillWaits run.point point then 1 else 0

section

variable (composition : RunnerComposition)

def AgentRun.claimed : AgentRun where
  rows := (RunnerSystem.claimed composition).rows
  flag := false
  point := .starting
  ledger := ⟨0, [], []⟩
  steps := 0
  waits := 0

def loopMove (run : AgentRun) : LoopMove → Option AgentRun
  | .world work flag => some { run with rows := { run.rows with work }, flag }
  | .run answers =>
    (runnerStep composition.limits composition.gateway composition.runtimeId answers run.flag
      run.rows run.point).map fun (rows, point) => run.reach rows point
  | .storeFails answers kept =>
    match runnerStep composition.limits composition.gateway composition.runtimeId answers run.flag
        run.rows run.point, storeFailurePoint answers run.flag run.point with
    | some (rows, _), some point => some (run.reach (if kept then rows else run.rows) point)
    | _, _ => none

end

end Craxii
