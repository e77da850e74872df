import Craxii.Domain.LifecycleCore
import Craxii.Domain.ModelCore

/-!
Embedding of the tool vocabulary: result classes and the tool transition decision of
`lifecycle.rs`, logical paths and resolved path evidence.
-/

namespace Craxii

open Utf8Text

inductive ToolResultClass
  | success | validationRejection | unknownTool | authorityDenial | fileError | processExit
  | signalTermination | timeout | cancellation | spawnFailure | cleanupFailure
deriving DecidableEq

namespace ToolResultClass

def asStr : ToolResultClass → Text
  | success => "success".toList
  | validationRejection => "validation_rejection".toList
  | unknownTool => "unknown_tool".toList
  | authorityDenial => "authority_denial".toList
  | fileError => "file_error".toList
  | processExit => "process_exit".toList
  | signalTermination => "signal_termination".toList
  | timeout => "timeout".toList
  | cancellation => "cancellation".toList
  | spawnFailure => "spawn_failure".toList
  | cleanupFailure => "cleanup_failure".toList

def allowedBeforeDispatch : ToolResultClass → Bool
  | validationRejection | unknownTool | authorityDenial | fileError | cancellation => true
  | _ => false

def requiresConfirmedCleanup : ToolResultClass → Bool
  | processExit | signalTermination | timeout | cancellation | cleanupFailure => true
  | _ => false

end ToolResultClass

def isLegalToolPair : ToolExecutionState → ToolExecutionState → Bool
  | .requested, .dispatching
  | .requested, .completed
  | .requested, .interruptedBeforeDispatch
  | .dispatching, .completed
  | .dispatching, .outcomeUnknown => true
  | _, _ => false

inductive ToolTransitionRequest
  | beginDispatch
  | interruptBeforeDispatch
  | markOutcomeUnknown
  | complete (result : ToolResultClass) (cleanupStatus : CleanupStatus)

def toolTransitionTarget (current : ToolExecutionState) :
    ToolTransitionRequest → Except LifecycleTransitionError ToolExecutionState
  | .beginDispatch => .ok .dispatching
  | .interruptBeforeDispatch => .ok .interruptedBeforeDispatch
  | .markOutcomeUnknown => .ok .outcomeUnknown
  | .complete result cleanupStatus =>
    if current = .requested then
      if !result.allowedBeforeDispatch || cleanupStatus != .notRequired then
        .error (.invariant .missingRequiredEvidence)
      else .ok .completed
    else if cleanupStatus = .unconfirmed then .ok .outcomeUnknown
    else if result.requiresConfirmedCleanup && cleanupStatus != .confirmed then
      .error (.invariant .missingRequiredEvidence)
    else .ok .completed

def decideToolTransition (current : ToolExecutionState) (request : ToolTransitionRequest) :
    Except LifecycleTransitionError ToolExecutionState := do
  if current.isTerminal then .error (.conflict .illegalTransition)
  else
    let target ← toolTransitionTarget current request
    if current == target || !isLegalToolPair current target then
      .error (.conflict .illegalTransition)
    else return target

inductive PrivilegeMode
  | user
  | administrative
deriving DecidableEq

inductive LogicalPathKind
  | workspaceRelative
  | absolute
deriving DecidableEq

def maxLogicalPathBytes : Nat := 4096

structure LogicalPathReference where
  kind : LogicalPathKind
  canonical : Text
  nonempty : canonical ≠ []
  bounded : utf8Len canonical ≤ maxLogicalPathBytes
  noNul : '\x00' ∉ canonical
deriving DecidableEq

structure ResolvedPathEvidence where
  workstationId : WorkstationId
  workstationGeneration : WorkstationGeneration
  workspaceId : WorkspaceId
  requestedPath : LogicalPathReference
  resolvedAbsolutePath : Text
  absolute : resolvedAbsolutePath.head? = some '/'
  bounded : utf8Len resolvedAbsolutePath ≤ maxLogicalPathBytes
  noNul : '\x00' ∉ resolvedAbsolutePath
deriving DecidableEq

end Craxii
