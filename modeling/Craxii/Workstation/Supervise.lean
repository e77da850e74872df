import Craxii.Workstation.Execution
import Craxii.Workstation.SuperviseCore

/-!
A command that outlives its budget and whose process tree is gone once it is signalled.
-/

namespace Craxii

def ElapsesAt (budgets : Budgets) (time : Nat) : List ObservationTurn → Prop
  | [] => False
  | turn :: rest => (turn.leader = .pending ∨ turn.leader = .interrupted) ∧
      match turn.woken with
      | .slept => ElapsesAt budgets time rest
      | .runtimeBudget => budgets.runtimeDue ≤ turn.now ∧ turn.now = time
      | .absoluteBudget => budgets.absoluteDue ≤ turn.now ∧ turn.now = time
      | .causeChanged => False

theorem observeLeader_elapses {budgets : Budgets} {time : Nat} {turns : List ObservationTurn}
    (elapses : ElapsesAt budgets time turns) :
    observeLeader budgets turns = some ⟨false, true, some .timeout⟩ ∧
      min budgets.runtimeDue budgets.absoluteDue ≤ time := by
  induction turns with
  | nil => exact elapses.elim
  | cons turn rest ih =>
    obtain ⟨leader, woken, now⟩ := turn
    obtain ⟨running, continues⟩ := elapses
    have looks : observeLeader budgets (⟨leader, woken, now⟩ :: rest) =
        observeLeader budgets (⟨.pending, woken, now⟩ :: rest) := by
      rcases running with isRunning | isRunning
      · rw [show leader = .pending from isRunning]
      · rw [show leader = .interrupted from isRunning]
        rfl
    rw [looks]
    cases woken with
    | slept => exact ih continues
    | runtimeBudget | absoluteBudget =>
      obtain ⟨due, rfl⟩ := continues
      dsimp only at due ⊢
      simp only [observeLeader, due, ↓reduceIte, true_and]
      omega
    | causeChanged => exact continues.elim

def CleanupTurn.Gone (turn : CleanupTurn) : Prop :=
  turn.leader = .terminal ∧ turn.cgroupEmpty = true

variable {deadline now : Nat} {supervision : Supervision}

theorem cleanupLoop_gone {shutdown phase : Option Nat} {turns : List CleanupTurn}
    (looks : turns ≠ []) (gone : ∀ turn ∈ turns, turn.Gone) :
    ∃ state, cleanupLoop deadline shutdown phase turns ⟨false, true, false⟩ = some state ∧
      (state = ⟨false, true, false⟩ ∨ state = ⟨true, true, true⟩) := by
  cases turns with
  | nil => exact absurd rfl looks
  | cons turn rest =>
    obtain ⟨terminal, empty⟩ := gone turn List.mem_cons_self
    by_cases granted : waitForCleanupTick deadline shutdown phase turn = true
    · refine ⟨⟨true, true, true⟩, ?_, .inr rfl⟩
      have refreshed : TreeState.refresh ⟨false, true, false⟩ turn.leader turn.cgroupEmpty =
          ⟨true, true, true⟩ := by
        rw [terminal, empty]
        rfl
      have lives : TreeState.lives ⟨false, true, false⟩ = true := rfl
      simp only [cleanupLoop, lives, granted, ↓reduceIte, refreshed]
      cases rest with
      | nil => rfl
      | cons => rfl
    · refine ⟨⟨false, true, false⟩, ?_, .inl rfl⟩
      have lives : TreeState.lives ⟨false, true, false⟩ = true := rfl
      simp only [cleanupLoop, lives, granted, Bool.false_eq_true, ↓reduceIte]

structure TreeGone (supervision : Supervision) (status : ExitStatus) : Prop where
  graceLooks : supervision.graceTurns ≠ []
  grace : ∀ turn ∈ supervision.graceTurns, turn.Gone
  killLooks : supervision.killTurns ≠ []
  kill : ∀ turn ∈ supervision.killTurns, turn.Gone
  cgroupLooks : supervision.cgroupTurns ≠ []
  cgroup : ∀ turn ∈ supervision.cgroupTurns, turn.empty = true
  empty : supervision.cgroupFinallyEmpty = true
  removed : supervision.cgroupRemoved = true
  reaped : supervision.reap = .reaped status

theorem finishOwnedProcessTree_gone {status : ExitStatus}
    (gone : TreeGone supervision status) (deadline : Nat) (latched : Option TerminalCause) :
    finishOwnedProcessTree deadline supervision ⟨false, true, latched⟩ =
      some ⟨some status, true, true, true⟩ := by
  have cgroup : cgroupLoop deadline supervision.shutdown supervision.cgroupTurns = some () := by
    cases turns : supervision.cgroupTurns with
    | nil => exact absurd turns gone.cgroupLooks
    | cons turn rest =>
      have empty := gone.cgroup turn (by rw [turns]; exact List.mem_cons_self)
      simp only [cgroupLoop, empty, ↓reduceIte]
  obtain ⟨asked, askedIs, asks⟩ := @cleanupLoop_gone deadline supervision.shutdown
    (some (supervision.graceStart +
      min ((effectiveCleanupRemaining deadline supervision.shutdown supervision.graceAt).getD 0)
        executionTermGrace)) _ gone.graceLooks gone.grace
  obtain ⟨killed, killedIs, kills⟩ :=
    @cleanupLoop_gone deadline supervision.shutdown none _ gone.killLooks gone.kill
  unfold finishOwnedProcessTree
  simp only [Bool.and_false, Bool.false_and, askedIs, Option.bind_eq_bind, Option.bind_some, cgroup,
    gone.reaped, gone.empty, gone.removed, Bool.and_true]
  rcases asks with rfl | rfl
  · have lives : TreeState.lives ⟨false, true, false⟩ = true := rfl
    simp only [lives, ↓reduceIte, killedIs, Option.bind_some]
    rcases kills with rfl | rfl
    · rfl
    · rfl
  · rfl

theorem effectiveCleanupRemaining_early (early : now < deadline) :
    effectiveCleanupRemaining deadline none now = some (deadline - now) := by
  have left : ¬deadline - now = 0 := by omega
  simp [effectiveCleanupRemaining, remainingTime, early, left]

theorem effectiveCleanupRemaining_late (late : ¬now < deadline) :
    effectiveCleanupRemaining deadline none now = none := by
  simp [effectiveCleanupRemaining, remainingTime, late]

def StreamName.other : StreamName → StreamName
  | .stdout => .stderr
  | .stderr => .stdout

structure DrainsClosed (supervision : Supervision) (streams : StreamName → ExecutionStreamResult)
    (joinedAt lastJoinedAt : Nat) : Prop where
  joins : ∃ first rest, supervision.drains =
    ⟨joinedAt, .joined first (some (streams first))⟩ ::
      ⟨lastJoinedAt, .joined first.other (some (streams first.other))⟩ :: rest
  ordered : joinedAt < lastJoinedAt

theorem drainLoop_closed {streams : StreamName → ExecutionStreamResult}
    {joinedAt lastJoinedAt : Nat} (closed : DrainsClosed supervision streams joinedAt lastJoinedAt)
    (deadline : Nat) :
    ∃ drains, drainLoop deadline none supervision.drains ⟨true, true, none, none⟩ = some drains ∧
      (lastJoinedAt < deadline →
        drains.stdout = some (streams .stdout) ∧ drains.stderr = some (streams .stderr)) ∧
      (¬lastJoinedAt < deadline → drains.stdout = none ∨ drains.stderr = none) := by
  obtain ⟨⟨first, rest, turns⟩, ordered⟩ := closed
  rw [turns]
  by_cases firstEarly : joinedAt < deadline
  · have firstLeft := effectiveCleanupRemaining_early firstEarly
    by_cases lastEarly : lastJoinedAt < deadline
    · have lastLeft := effectiveCleanupRemaining_early lastEarly
      cases first with
      | stdout =>
        refine ⟨⟨false, false, some (streams .stdout), some (streams .stderr)⟩, ?_, fun _ => ⟨rfl, rfl⟩,
          fun late => absurd lastEarly late⟩
        simp only [drainLoop, Bool.or_self, ↓reduceIte, firstLeft, Drains.join, Bool.or_true, lastLeft,
          StreamName.other]
        cases rest with
        | nil => rfl
        | cons => rfl
      | stderr =>
        refine ⟨⟨false, false, some (streams .stdout), some (streams .stderr)⟩, ?_, fun _ => ⟨rfl, rfl⟩,
          fun late => absurd lastEarly late⟩
        simp only [drainLoop, Bool.or_self, ↓reduceIte, firstLeft, Drains.join, Bool.or_false, lastLeft,
          StreamName.other]
        cases rest with
        | nil => rfl
        | cons => rfl
    · have lastNone := effectiveCleanupRemaining_late lastEarly
      cases first with
      | stdout =>
        refine ⟨⟨false, true, some (streams .stdout), none⟩, ?_, fun early => absurd early lastEarly,
          fun _ => .inr rfl⟩
        simp only [drainLoop, Bool.or_self, ↓reduceIte, firstLeft, Drains.join, Bool.or_true, lastNone]
      | stderr =>
        refine ⟨⟨true, false, none, some (streams .stderr)⟩, ?_, fun early => absurd early lastEarly,
          fun _ => .inl rfl⟩
        simp only [drainLoop, Bool.or_self, ↓reduceIte, firstLeft, Drains.join, Bool.or_false, lastNone]
  · have firstNone := effectiveCleanupRemaining_late firstEarly
    refine ⟨⟨true, true, none, none⟩, ?_, fun early => absurd early (by omega), fun _ => .inl rfl⟩
    simp only [drainLoop, Bool.or_self, ↓reduceIte, firstNone]

structure Runnable (request : SupervisedRequest) (supervision : Supervision) : Prop where
  command : 0 < request.commandBytes ∧ request.commandBytes ≤ hardExecutionCommandMaxBytes
  timeout : 0 < request.timeoutMs ∧ request.timeoutMs ≤ hardExecutionTimeoutMs
  stdout : 0 < request.stdoutMaxBytes ∧ request.stdoutMaxBytes ≤ hardExecutionStreamCaptureBytes
  stderr : 0 < request.stderrMaxBytes ∧ request.stderrMaxBytes ≤ hardExecutionStreamCaptureBytes
  access : supervision.access = none
  foreground : supervision.foregroundCapable = true
  administrative : request.effectivePrivilege = .administrative → supervision.administrativeCapable = true
  reserved : supervision.reservation = none

/-- A command that is started, outlives its budget and is gone once it is signalled, with no
cancellation and no shutdown. -/
structure TimesOut (request : SupervisedRequest) (supervision : Supervision) where
  runnable : Runnable request supervision
  unshut : supervision.shutdown = none
  uncaused : supervision.otherCause = none ∧ supervision.causeBeforeSpawn = none
  started : supervision.spawn = .running
  elapsedAt : Nat
  elapses : ElapsesAt (supervision.budgets request) elapsedAt supervision.observations
  status : ExitStatus
  gone : TreeGone supervision status
  streams : StreamName → ExecutionStreamResult
  (joinedAt lastJoinedAt : Nat)
  closed : DrainsClosed supervision streams joinedAt lastJoinedAt

section

variable {request : SupervisedRequest} {supervision : Supervision}

theorem Runnable.validate (runnable : Runnable request supervision) :
    validateRequest request supervision =
      if supervision.validatedAt < request.deadline then none else some .timeout := by
  obtain ⟨command, timeout, stdout, stderr, _, foreground, administrative, _⟩ := runnable
  have shaped : ¬(request.commandBytes = 0 ∨ hardExecutionCommandMaxBytes < request.commandBytes ∨
      request.timeoutMs = 0 ∨ hardExecutionTimeoutMs < request.timeoutMs ∨
      request.stdoutMaxBytes = 0 ∨ request.stderrMaxBytes = 0 ∨
      hardExecutionStreamCaptureBytes < request.stdoutMaxBytes ∨
      hardExecutionStreamCaptureBytes < request.stderrMaxBytes) := by omega
  have capable : (!supervision.foregroundCapable ||
      (request.effectivePrivilege == .administrative && !supervision.administrativeCapable)) = false := by
    rw [foreground]
    by_cases asked : request.effectivePrivilege = .administrative
    · simp [administrative asked]
    · simp [asked]
  unfold validateRequest remainingTime
  rw [if_neg shaped, capable]
  by_cases early : supervision.validatedAt < request.deadline
  · simp [early]
  · simp [early]

theorem executeCommand_expired (runnable : Runnable request supervision)
    (late : ¬supervision.validatedAt < request.deadline) :
    executeCommand request supervision = some (.error (.new .timeout)) := by
  simp [executeCommand, runnable.access, runnable.validate, late]

theorem executeCommand_timesOut (timesOut : TimesOut request supervision)
    (early : supervision.validatedAt < request.deadline) :
    ∃ stdout stderr, executeCommand request supervision =
        some (.ok (supervisedResult request.toExecutionRequest .timeout (some timesOut.status) true
          (some true) (some true) stdout stderr supervision.duration)) ∧
      (timesOut.lastJoinedAt < request.deadline →
        stdout = some (timesOut.streams .stdout) ∧ stderr = some (timesOut.streams .stderr)) ∧
      (¬timesOut.lastJoinedAt < request.deadline → stdout = none ∨ stderr = none) := by
  obtain ⟨drains, drained, inTime, late⟩ := drainLoop_closed timesOut.closed request.deadline
  refine ⟨drains.stdout, drains.stderr, ?_, inTime, late⟩
  have observed := (observeLeader_elapses timesOut.elapses).1
  have owned := finishOwnedProcessTree_gone timesOut.gone request.deadline (some .timeout)
  simp only [executeCommand, timesOut.runnable.access, timesOut.runnable.validate, early, ↓reduceIte,
    timesOut.runnable.reserved, Option.or_none, superviseInner, timesOut.uncaused.2, timesOut.started,
    superviseRunning, observed, Option.bind_eq_bind, Option.bind_some, owned, timesOut.unshut, drained,
    timesOut.uncaused.1, Option.none_or]
  rfl

theorem TimesOut.deadline_le (timesOut : TimesOut request supervision)
    (spent : request.deadline ≤ supervision.runtimeStart + request.timeoutMs * nanosPerMilli) :
    request.deadline ≤ timesOut.elapsedAt := by
  have due := (observeLeader_elapses timesOut.elapses).2
  have absolute : request.deadline ≤ (supervision.budgets request).absoluteDue := by
    simp only [Supervision.budgets, remainingTime]
    by_cases early : supervision.absoluteStart < request.deadline
    · simp only [early, ↓reduceIte, Option.getD_some]
      omega
    · simp only [early, ↓reduceIte, Option.getD_none]
      omega
  have runtime : request.deadline ≤ (supervision.budgets request).runtimeDue := spent
  omega

end

theorem drainStream_counts {digest : List UInt8 → Sha256Digest} {artifactId : ArtifactId}
    {hardLimit : Nat} {chunks : List (List UInt8)} {stream : ExecutionStreamResult}
    (drained : drainStream digest (beginCapture artifactId hardLimit) chunks = some stream) :
    stream.observedBytes ≤ i64Max ∧ stream.capturedBytes ≤ i64Max := by
  rw [drainStream_bytes] at drained
  split at drained
  · rename_i counted
    obtain rfl := Option.some.inj drained
    have captured : (chunks.flatten.take hardLimit).length ≤ chunks.flatten.length := by
      rw [List.length_take]
      omega
    exact ⟨counted, Nat.le_trans captured counted⟩
  · cases drained

end Craxii
