import Craxii.Tools.CallOutcome
import Craxii.Tools.Execution

/-!
The order of one tool call and what it leaves behind.
-/

namespace Craxii

open Utf8Text ExceptRules

@[simp] theorem CallWorld.log_trace (world : CallWorld) (action : CallAction) :
    (world.log action).trace = action :: world.trace := rfl

@[simp] theorem CallWorld.log_stored (world : CallWorld) (action : CallAction) :
    (world.log action).stored = world.stored := rfl

@[simp] theorem CallWorld.record_trace (world : CallWorld) (request : FinishToolExecutionRequest) :
    (world.record request).trace = world.trace := rfl

/-! The hand-off. -/

/-- Nothing was handed off, and no check saw a notice or a passed deadline. -/
structure Unhindered (trace : List CallAction) : Prop where
  unhanded : .handOff ∉ trace
  unnoticed : .noticeCheck true ∉ trace
  uncancelled : .authorityCheck true ∉ trace
  inTime : .deadlineCheck true ∉ trace

def HandOffGuarded (trace : List CallAction) : Prop :=
  ∀ later earlier, trace = later ++ .handOff :: earlier →
    .handOff ∉ later ∧ .requestCommit true ∈ earlier ∧ .dispatchCommit true ∈ earlier ∧
      Unhindered earlier

theorem HandOffGuarded.of_unhanded {trace : List CallAction} (unhanded : .handOff ∉ trace) :
    HandOffGuarded trace := by
  intro later earlier split
  refine absurd ?_ unhanded
  rw [split]
  exact List.mem_append_right _ List.mem_cons_self

theorem HandOffGuarded.log {trace : List CallAction} (guarded : HandOffGuarded trace)
    {action : CallAction} (other : action ≠ .handOff) : HandOffGuarded (action :: trace) := by
  intro later earlier split
  cases later with
  | nil => exact absurd (List.cons.inj split).1 other
  | cons newest rest =>
    obtain ⟨rfl, restSplit⟩ := List.cons.inj split
    obtain ⟨once, facts⟩ := guarded rest earlier restSplit
    refine ⟨?_, facts⟩
    intro found
    rcases List.mem_cons.mp found with same | inRest
    · exact other same.symm
    · exact once inRest

theorem HandOffGuarded.handOff {trace : List CallAction} (requested : .requestCommit true ∈ trace)
    (dispatched : .dispatchCommit true ∈ trace) (unhindered : Unhindered trace) :
    HandOffGuarded (.handOff :: trace) := by
  intro later earlier split
  cases later with
  | nil =>
    obtain rfl := (List.cons.inj split).2
    exact ⟨List.not_mem_nil, requested, dispatched, unhindered⟩
  | cons newest rest =>
    refine absurd ?_ unhindered.unhanded
    rw [(List.cons.inj split).2]
    exact List.mem_append_right _ List.mem_cons_self

/-! What a run has to leave. -/

section Outcome

variable (digest : List UInt8 → Sha256Digest) (service : ToolService) (context : CallContext)
  (answers : CallAnswers)

def NoticeSeen (trace : List CallAction) : Prop :=
  .noticeCheck true ∈ trace ∨ .authorityCheck true ∈ trace

def CancellationUnconfirmed (trace : List CallAction) : Prop :=
  .cancelExecution ∈ trace ∧
    (answers.handler.cancel = .cleanupUnconfirmed ∨ answers.handler.cancel = .fails)

/-- The handler panicked, reported an uncertain error or unconfirmed cleanup, or returned
evidence that does not match the call. -/
def UncertainPoll (input : ValidatedToolInput) (trace : List CallAction) : HandlerPoll → Prop
  | .cancelledBeforeHandoff => False
  | .panicked => True
  | .failed error => error.certainty = .outcomeUnknown ∨ CancellationUnconfirmed answers trace
  | .readFile observation =>
    observation.operationId ≠ answers.handlerOperationId ∨
      ∃ path maxBytes, input = .readFile path maxBytes ∧
        readUntrusted digest context.call path observation.result = true
  | .runShell observation => (observation.operationId ≠ answers.handlerOperationId ∨
        observation.result.executionId ≠ answers.executionId) ∨
      ∃ commandBytes commandSha256 cwd privilege timeoutMs prepared,
        input = .runShell commandBytes commandSha256 cwd privilege timeoutMs ∧
          answers.preparation = .answers prepared ∧
          executionUntrusted context.call
            ⟨context.requestedCwd, prepared.resolvedCwd, privilege, commandSha256⟩
            observation.result = true

def Uncertain (trace : List CallAction) : Prop :=
  .handOff ∈ trace ∧ ∃ input poll, context.requested.input = some input ∧
    handlerPoll answers.handler input.tool = some poll ∧
    UncertainPoll digest context answers input trace poll

/-- The execution is stored as terminal: unknown with the work interrupted where the answer
is uncertain, and otherwise completed with the work running, or cancelled after a notice. -/
def RecordsOutcome (run : CallRun) : Prop :=
  ∃ stored, run.world.stored = some stored ∧
    (Uncertain digest context answers run.world.trace →
      stored.state = .outcomeUnknown ∧ stored.work.state = .interrupted) ∧
    (¬Uncertain digest context answers run.world.trace →
      stored.state = .completed ∧
        (NoticeSeen run.world.trace → stored.work.state = .cancelled) ∧
        (¬NoticeSeen run.world.trace → stored.work.state = .running))

/-- The request committed, no later operation of store, clock or artifacts failed, and the
call returned. -/
structure Undisturbed (run : CallRun) : Prop where
  requested : .requestCommit true ∈ run.world.trace
  healthy : .operationFailed ∉ run.world.trace
  returned : run.ending ≠ .pending

def Counted (trace : List CallAction) : Prop :=
  .handOff ∈ trace → ∀ input observation, context.requested.input = some input →
    handlerPoll answers.handler input.tool = some (.runShell observation) →
    ¬UncertainPoll digest context answers input trace (.runShell observation) →
    CanonicalCounts observation.result.stdout ∧ CanonicalCounts observation.result.stderr

/-- The authority evaluation saw no notice, the work's version can be raised, and the
stream counts are canonical. -/
structure Recordable (run : CallRun) : Prop where
  unseen : .authorityCheck true ∉ run.world.trace
  room : ∀ expected, .finishing expected ∈ run.world.trace → expected.projectionVersion.value < i64Max
  counted : Counted digest context answers run.world.trace

structure SoundCall (run : CallRun) : Prop where
  guarded : HandOffGuarded run.world.trace
  recorded : Undisturbed run →
    (RecordsOutcome digest context answers run ↔ Recordable digest context answers run)

end Outcome

section

variable {digest : List UInt8 → Sha256Digest} {service : ToolService} {context : CallContext}
  {answers : CallAnswers} {world : CallWorld}

theorem SoundCall.waits (guarded : HandOffGuarded world.trace) :
    SoundCall digest context answers world.waits :=
  ⟨guarded, fun undisturbed => absurd rfl undisturbed.returned⟩

theorem SoundCall.breaks (guarded : HandOffGuarded world.trace) (kind : ToolExecutionServiceErrorKind) :
    SoundCall digest context answers (world.breaks kind) :=
  ⟨guarded.log (by decide), fun undisturbed => absurd List.mem_cons_self undisturbed.healthy⟩

theorem SoundCall.unrequested (unhanded : .handOff ∉ world.trace)
    (unrequested : .requestCommit true ∉ world.trace) (kind : ToolExecutionServiceErrorKind) :
    SoundCall digest context answers (world.fails kind) :=
  ⟨.of_unhanded unhanded, fun undisturbed => absurd undisturbed.requested unrequested⟩

/-! One finish. -/

theorem uncertain_log {trace : List CallAction} {action : CallAction} (notHandOff : action ≠ .handOff)
    (notCancel : action ≠ .cancelExecution) :
    Uncertain digest context answers (action :: trace) ↔ Uncertain digest context answers trace := by
  have cancelled : CancellationUnconfirmed answers (action :: trace) ↔
      CancellationUnconfirmed answers trace := by
    simp [CancellationUnconfirmed, notCancel.symm]
  have poll (input : ValidatedToolInput) (poll : HandlerPoll) :
      UncertainPoll digest context answers input (action :: trace) poll ↔
        UncertainPoll digest context answers input trace poll := by
    cases poll <;> simp [UncertainPoll, cancelled]
  simp [Uncertain, notHandOff.symm, poll]

theorem counted_log {trace : List CallAction} {action : CallAction} (notHandOff : action ≠ .handOff) :
    Counted digest context answers (action :: trace) ↔ Counted digest context answers trace := by
  simp [Counted, notHandOff.symm, UncertainPoll]

structure ReadyToFinish (answers : CallAnswers) (world : CallWorld) (expected : WorkLifecycleSnapshot) :
    Prop where
  awaits : AwaitsOutcome expected answers.toolId
  guarded : HandOffGuarded world.trace
  unfinished : ∀ work, .finishing work ∉ world.trace
  opened : ∀ stored ∈ world.stored, stored.state ≠ .completed ∧ stored.state ≠ .outcomeUnknown
  noticed : expected.state = .cancelRequested ↔ .noticeCheck true ∈ world.trace
  exclusive : .noticeCheck true ∈ world.trace ∨ .handOff ∈ world.trace →
    .authorityCheck true ∉ world.trace

section

variable {expected : WorkLifecycleSnapshot} {planned : Except ToolExecutionServiceErrorKind FinishPlan}
  {interruption : Option WorkInterruptionReason} {Recorded : ToolTerminalOutcome → Prop}

theorem concludeCall_guarded (guarded : HandOffGuarded world.trace) :
    HandOffGuarded (concludeCall answers.finish expected planned world).world.trace := by
  have logged : HandOffGuarded (world.log (.finishing expected)).trace :=
    guarded.log CallAction.noConfusion
  unfold concludeCall
  dsimp only
  split
  · split
    · exact logged
    · split
      · exact logged
      · refine HandOffGuarded.log ?_ (by decide)
        split
        · exact logged
        · exact logged
  · exact logged.log (by decide)

theorem mem_concludeCall {action : CallAction} (logged : action ∈ world.trace) :
    action ∈ (concludeCall answers.finish expected planned world).world.trace := by
  have kept : action ∈ (world.log (.finishing expected)).trace := List.mem_cons_of_mem _ logged
  unfold concludeCall
  dsimp only
  split
  · split
    · exact kept
    · split
      · exact kept
      · refine List.mem_cons_of_mem _ ?_
        split
        · exact kept
        · exact kept
  · exact List.mem_cons_of_mem _ kept

theorem concludeCall_full (clock : answers.finish.clock = true)
    (awaits : AwaitsOutcome expected answers.toolId)
    (plans : Plans planned (terminalWorkNext expected answers.toolId interruption) Recorded)
    (full : ¬expected.projectionVersion.value < i64Max) :
    concludeCall answers.finish expected planned world =
      ⟨world.log (.finishing expected), .returned (some .invalidCallContext)⟩ := by
  have failed := plans.1 _ (awaits.exhausted interruption full)
  simp only [concludeCall, clock, ↓reduceIte, failed]
  rfl

theorem concludeCall_commits (clock : answers.finish.clock = true)
    (commits : answers.finish.store = .commits) (awaits : AwaitsOutcome expected answers.toolId)
    (plans : Plans planned (terminalWorkNext expected answers.toolId interruption) Recorded)
    (room : expected.projectionVersion.value < i64Max) :
    ∃ outcome work failure, Recorded outcome ∧ work.state = outcomeWorkState expected interruption ∧
      concludeCall answers.finish expected planned world =
        ⟨⟨.finishing expected :: world.trace, some ⟨outcome.state, work, some outcome⟩⟩,
          .returned failure⟩ := by
  obtain ⟨next, ready, state⟩ := awaits.next interruption room
  obtain ⟨plan, planOk, sameWork, recorded⟩ := plans.2 next ready
  refine ⟨_, _, plan.failure, recorded, sameWork ▸ state, ?_⟩
  simp only [concludeCall, clock, ↓reduceIte, planOk, commits]
  rfl

theorem concludeCall_undisturbed (awaits : AwaitsOutcome expected answers.toolId)
    (plans : Plans planned (terminalWorkNext expected answers.toolId interruption) Recorded)
    (undisturbed : Undisturbed (concludeCall answers.finish expected planned world)) :
    (concludeCall answers.finish expected planned world).world.trace =
        .finishing expected :: world.trace ∧
      (¬expected.projectionVersion.value < i64Max →
        (concludeCall answers.finish expected planned world).world.stored = world.stored) ∧
      (expected.projectionVersion.value < i64Max →
        ∃ outcome work, Recorded outcome ∧ work.state = outcomeWorkState expected interruption ∧
          (concludeCall answers.finish expected planned world).world.stored =
            some ⟨outcome.state, work, some outcome⟩) := by
  have healthy := undisturbed.healthy
  by_cases clock : answers.finish.clock = true
  · by_cases room : expected.projectionVersion.value < i64Max
    · cases store : answers.finish.store with
      | fails kept =>
        obtain ⟨next, ready, _⟩ := awaits.next interruption room
        obtain ⟨plan, planOk, _, _⟩ := plans.2 next ready
        simp only [concludeCall, clock, ↓reduceIte, planOk, store] at healthy
        exact absurd List.mem_cons_self healthy
      | commits =>
        obtain ⟨outcome, work, failure, recorded, state, concluded⟩ :=
          @concludeCall_commits answers world _ _ _ _ clock store awaits plans room
        rw [concluded]
        exact ⟨rfl, fun full => absurd room full, fun _ => ⟨outcome, work, recorded, state, rfl⟩⟩
    · rw [concludeCall_full clock awaits plans room]
      exact ⟨rfl, fun _ => rfl, fun some => absurd some room⟩
  · simp only [concludeCall, clock] at healthy
    exact absurd List.mem_cons_self healthy

variable (ready : ReadyToFinish answers world expected)
  (plans : Plans planned (terminalWorkNext expected answers.toolId interruption) Recorded)

include ready plans

theorem concludeCall_sound (states : ∀ outcome, Recorded outcome →
      outcome.state = if interruption.isSome then .outcomeUnknown else .completed)
    (certain : Uncertain digest context answers world.trace ↔ interruption.isSome = true)
    (counted : Counted digest context answers world.trace) :
    SoundCall digest context answers (concludeCall answers.finish expected planned world) := by
  refine ⟨concludeCall_guarded ready.guarded, fun undisturbed => ?_⟩
  obtain ⟨trace, full, room⟩ := concludeCall_undisturbed ready.awaits plans undisturbed
  have uncertain : Uncertain digest context answers
      (concludeCall answers.finish expected planned world).world.trace ↔ interruption.isSome = true := by
    rw [trace, uncertain_log CallAction.noConfusion CallAction.noConfusion]
    exact certain
  have seen : NoticeSeen (concludeCall answers.finish expected planned world).world.trace ↔
      expected.state = .cancelRequested ∨ .authorityCheck true ∈ world.trace := by
    simp [trace, NoticeSeen, ready.noticed]
  constructor
  · rintro ⟨stored, found, whenUncertain, whenCertain⟩
    have hasRoom : expected.projectionVersion.value < i64Max := by
      by_contra isFull
      obtain ⟨open1, open2⟩ := ready.opened stored (by rw [← full isFull]; exact found)
      by_cases unknown : interruption.isSome = true
      · exact open2 (whenUncertain (uncertain.mpr unknown)).1
      · exact open1 (whenCertain fun is => unknown (uncertain.mp is)).1
    obtain ⟨outcome, work, recorded, state, storedIs⟩ := room hasRoom
    obtain rfl := Option.some.inj (found.symm.trans storedIs)
    refine ⟨?_, ?_, ?_⟩
    · -- A notice that only the evaluation saw would have to cancel the work.
      intro onTop
      have evaluated : .authorityCheck true ∈ world.trace := by simpa [trace] using onTop
      have resumed : expected.state ≠ .cancelRequested := fun is =>
        ready.exclusive (.inl (ready.noticed.mp is)) evaluated
      have definite : ¬interruption.isSome = true := fun is =>
        ready.exclusive (.inr (certain.mpr is).1) evaluated
      have cancelled := ((whenCertain fun is => definite (uncertain.mp is)).2.1
        (seen.mpr (.inr evaluated)))
      simp only [state, outcomeWorkState, definite, resumed, Bool.false_eq_true, ↓reduceIte,
        reduceCtorEq] at cancelled
    · intro work finishing
      rw [trace] at finishing
      rcases List.mem_cons.mp finishing with same | earlier
      · cases same
        exact hasRoom
      · exact absurd earlier (ready.unfinished work)
    · rw [trace, counted_log CallAction.noConfusion]
      exact counted
  · intro recordable
    have hasRoom := recordable.room expected (by rw [trace]; exact List.mem_cons_self)
    have unseen : .authorityCheck true ∉ world.trace := fun found =>
      recordable.unseen (by rw [trace]; exact List.mem_cons_of_mem _ found)
    obtain ⟨outcome, work, recorded, state, storedIs⟩ := room hasRoom
    refine ⟨_, storedIs, fun isUncertain => ?_, fun isCertain => ?_⟩
    · have unknown := uncertain.mp isUncertain
      exact ⟨by simpa [unknown] using states outcome recorded, by simp [state, outcomeWorkState, unknown]⟩
    · have definite : ¬interruption.isSome = true := fun is => isCertain (uncertain.mpr is)
      refine ⟨by simpa [definite] using states outcome recorded, fun noticed => ?_, fun unnoticed => ?_⟩
      · have cancelled := (seen.mp noticed).resolve_right unseen
        simp [state, outcomeWorkState, definite, cancelled]
      · have running : expected.state ≠ .cancelRequested := fun is => unnoticed (seen.mpr (.inl is))
        simp [state, outcomeWorkState, definite, running]

theorem concludeCall_uncounted (unknown : ∀ outcome, Recorded outcome → outcome.state = .outcomeUnknown)
    (certain : ¬Uncertain digest context answers world.trace)
    (uncounted : ¬Counted digest context answers world.trace) :
    SoundCall digest context answers (concludeCall answers.finish expected planned world) := by
  refine ⟨concludeCall_guarded ready.guarded, fun undisturbed => ?_⟩
  obtain ⟨trace, full, room⟩ := concludeCall_undisturbed ready.awaits plans undisturbed
  constructor
  · rintro ⟨stored, found, _, whenCertain⟩
    rw [trace, uncertain_log CallAction.noConfusion CallAction.noConfusion] at whenCertain
    have completed := (whenCertain certain).1
    by_cases hasRoom : expected.projectionVersion.value < i64Max
    · obtain ⟨outcome, work, recorded, _, storedIs⟩ := room hasRoom
      obtain rfl := Option.some.inj (found.symm.trans storedIs)
      rw [show outcome.state = _ from unknown outcome recorded] at completed
      cases completed
    · exact absurd completed (ready.opened stored (by rw [← full hasRoom]; exact found)).1
  · intro recordable
    have counted := recordable.counted
    rw [trace, counted_log CallAction.noConfusion] at counted
    exact absurd counted uncounted

end

/-! Stages before the hand-off. -/

def CallAction.isHarmless : CallAction → Bool
  | .handOff | .cancelExecution | .noticeCheck true | .authorityCheck true | .deadlineCheck true
  | .finishing _ => false
  | _ => true

structure Course (world : CallWorld) : Prop where
  requested : .requestCommit true ∈ world.trace
  unhindered : Unhindered world.trace
  uncalled : .cancelExecution ∉ world.trace
  unfinished : ∀ work, .finishing work ∉ world.trace
  opened : ∀ stored ∈ world.stored, stored.state ≠ .completed ∧ stored.state ≠ .outcomeUnknown

theorem Course.log (course : Course world) {action : CallAction} (harmless : action.isHarmless = true) :
    Course (world.log action) := by
  obtain ⟨requested, ⟨unhanded, unnoticed, uncancelled, inTime⟩, uncalled, unfinished, opened⟩ := course
  refine ⟨List.mem_cons_of_mem _ requested, ⟨?_, ?_, ?_, ?_⟩, ?_, fun work => ?_, opened⟩
  all_goals
    intro found
    rcases List.mem_cons.mp found with rfl | earlier
  · cases harmless
  · exact unhanded earlier
  · cases harmless
  · exact unnoticed earlier
  · cases harmless
  · exact uncancelled earlier
  · cases harmless
  · exact inTime earlier
  · cases harmless
  · exact uncalled earlier
  · cases harmless
  · exact unfinished work earlier

variable {go : CallWorld → CallRun} {toolId : ToolExecutionId} {outcome : ToolTerminalOutcome}
  {waiting : WorkLifecycleSnapshot}

theorem WaitsOnTool.awaits {work : WorkLifecycleSnapshot}
    (waits : WaitsOnTool work toolId) : AwaitsOutcome work toolId :=
  ⟨.inl waits.state, waits.attempt, waits.shape⟩

section

variable (course : Course world) (waits : WaitsOnTool waiting answers.toolId)
include course waits

theorem Course.ready : ReadyToFinish answers world waiting := by
  refine ⟨waits.awaits, .of_unhanded course.unhindered.unhanded, course.unfinished, course.opened,
    ⟨fun is => ?_, fun found => absurd found course.unhindered.unnoticed⟩, fun _ =>
      course.unhindered.uncancelled⟩
  rw [waits.state] at is
  cases is

theorem Course.ready_late : ReadyToFinish answers (world.log (.deadlineCheck true)) waiting := by
  obtain ⟨awaits, guarded, unfinished, opened, noticed, exclusive⟩ := course.ready waits
  exact ⟨awaits, guarded.log (by decide), by simpa using unfinished, opened, by simpa using noticed,
    by simpa using exclusive⟩

theorem Course.ready_evaluated (seen : Bool) :
    ReadyToFinish answers (world.log (.authorityCheck seen)) waiting := by
  obtain ⟨awaits, guarded, unfinished, opened, noticed, exclusive⟩ := course.ready waits
  refine ⟨awaits, guarded.log CallAction.noConfusion, by simpa using unfinished, opened,
    by simpa using noticed, ?_⟩
  rintro (found | found)
  · exact absurd (by simpa using found) course.unhindered.unnoticed
  · exact absurd (by simpa using found) course.unhindered.unhanded

end

theorem Course.ready_noticed (course : Course world) {expected : WorkLifecycleSnapshot}
    (awaits : AwaitsOutcome expected answers.toolId) (cancelled : expected.state = .cancelRequested) :
    ReadyToFinish answers (world.log (.noticeCheck true)) expected := by
  refine ⟨awaits, (HandOffGuarded.of_unhanded course.unhindered.unhanded).log (by decide),
    by simpa using course.unfinished, course.opened, ⟨fun _ => List.mem_cons_self, fun _ => cancelled⟩,
    fun _ => ?_⟩
  simpa using course.unhindered.uncancelled

theorem not_uncertain_of_unhanded {trace : List CallAction} (unhanded : .handOff ∉ trace) :
    ¬Uncertain digest context answers trace :=
  fun uncertain => unhanded uncertain.1

theorem plannedOutcome_sound {expectedTool : ToolExpectation}
    (ready : ReadyToFinish answers world waiting) (unhanded : .handOff ∉ world.trace)
    (sameTool : expectedTool.toolExecutionId = answers.toolId)
    (completed : outcome.state = .completed) (causation : JournalEventId) :
    SoundCall digest context answers
      (concludeCall answers.finish waiting
        (planOutcome context.call expectedTool causation answers.finish.stamp waiting outcome) world) := by
  have plans := @planOutcome_plans context.call answers.finish.stamp waiting expectedTool causation outcome
  rw [sameTool] at plans
  refine concludeCall_sound ready plans (fun recorded same => ?_) ?_ fun handed => absurd handed unhanded
  · rw [same, completed]
    rfl
  · simp [not_uncertain_of_unhanded unhanded]

theorem concludePredispatch_sound
    (ready : ReadyToFinish answers world waiting) (unhanded : .handOff ∉ world.trace) (completed : outcome.state = .completed) :
    SoundCall digest context answers (concludePredispatch context answers waiting outcome world) :=
  plannedOutcome_sound ready unhanded rfl completed _

theorem noticeSnapshot_ok (notice : NoticeFor toolId) :
    ∃ expected, noticeSnapshot notice.val toolId = .ok expected ∧ AwaitsOutcome expected toolId ∧
      expected.state = .cancelRequested := by
  obtain ⟨notice, isFor⟩ := notice
  have facts := isFor
  simp only [ToolCancellationNotice.isFor, Bool.and_eq_true, beq_iff_eq] at facts
  simp only [noticeSnapshot, isFor, workShapeOk, facts.2, Bool.not_true, refuseIf_false, ok_bind,
    Option.isSome_some, Option.isNone_none, Bool.and_self]
  refine ⟨_, rfl, ⟨.inr rfl, facts.1.2, ?_⟩, rfl⟩
  simp [WorkLifecycleSnapshot.shapeOk, workShapeOk, facts.2]

theorem cancelBeforeDispatch_sound (course : Course world) (notice : NoticeFor answers.toolId) :
    SoundCall digest context answers
      (cancelBeforeDispatch context answers (world.log (.noticeCheck true)) notice) := by
  obtain ⟨expected, snapshot, awaits, cancelled⟩ := noticeSnapshot_ok notice
  simp only [cancelBeforeDispatch, snapshot]
  exact concludePredispatch_sound (course.ready_noticed awaits cancelled)
    (by simpa using course.unhindered.unhanded) rfl

theorem cancelBeforeHandoff_sound (course : Course world) (notice : NoticeFor answers.toolId) :
    SoundCall digest context answers
      (cancelBeforeHandoff context answers (world.log (.noticeCheck true)) notice) := by
  obtain ⟨expected, snapshot, awaits, cancelled⟩ := noticeSnapshot_ok notice
  simp only [cancelBeforeHandoff, snapshot]
  exact plannedOutcome_sound (course.ready_noticed awaits cancelled)
    (by simpa using course.unhindered.unhanded) rfl rfl _

theorem checkNotice_sound {Notice : Type} (course : Course world) {notice : Option Notice}
    {stop : CallWorld → Notice → CallRun}
    (stopped : ∀ notice, SoundCall digest context answers (stop (world.log (.noticeCheck true)) notice))
    (goes : Course (world.log (.noticeCheck false)) →
      SoundCall digest context answers (go (world.log (.noticeCheck false)))) :
    SoundCall digest context answers (world.checkNotice notice stop go) := by
  cases notice with
  | some notice => exact stopped notice
  | none => exact goes (course.log rfl)

theorem checkDeadline_sound (course : Course world) {now deadline : Nat} {stop : CallWorld → CallRun}
    (stopped : SoundCall digest context answers (stop (world.log (.deadlineCheck true))))
    (goes : Course (world.log (.deadlineCheck false)) →
      SoundCall digest context answers (go (world.log (.deadlineCheck false)))) :
    SoundCall digest context answers (world.checkDeadline now deadline stop go) := by
  unfold CallWorld.checkDeadline
  split
  · exact stopped
  · exact goes (course.log rfl)

theorem refused_sound (course : Course world) (waits : WaitsOnTool waiting answers.toolId)
    (completed : outcome.state = .completed) :
    SoundCall digest context answers (concludePredispatch context answers waiting outcome world) ∧
      SoundCall digest context answers
        (concludePredispatch context answers waiting outcome (world.log (.deadlineCheck true))) :=
  ⟨concludePredispatch_sound (course.ready waits) course.unhindered.unhanded completed,
    concludePredispatch_sound (course.ready_late waits) (by simpa using course.unhindered.unhanded)
      completed⟩

/-! The loop of `await_handler`. -/

/-- What one turn of the loop knows before it: the hand-off and the notice are what the trace
shows, and nothing was cancelled yet. -/
structure Awaiting (answers : CallAnswers) (state : AwaitState answers.toolId) (world : CallWorld) : Prop where
  requested : .requestCommit true ∈ world.trace
  dispatched : .dispatchCommit true ∈ world.trace
  guarded : HandOffGuarded world.trace
  unfinished : ∀ work, .finishing work ∉ world.trace
  uncancelled : .authorityCheck true ∉ world.trace
  inTime : .deadlineCheck true ∉ world.trace
  handed : state.handoffStarted = true ↔ .handOff ∈ world.trace
  noticed : state.notice.isSome = true ↔ .noticeCheck true ∈ world.trace
  unconfirmed : state.cancellationUnconfirmed = true ↔ CancellationUnconfirmed answers world.trace

structure Awaited (answers : CallAnswers) (tool : RegisteredTool) (stored : Option StoredCall)
    (ended : CallWorld × Option (Polled answers.toolId)) : Prop where
  guarded : HandOffGuarded ended.1.trace
  stored : ended.1.stored = stored
  unfinished : ∀ work, .finishing work ∉ ended.1.trace
  uncancelled : .authorityCheck true ∉ ended.1.trace
  noticed : ∀ polled ∈ ended.2, polled.notice.isSome = true ↔ .noticeCheck true ∈ ended.1.trace
  polled : ∀ polled ∈ ended.2,
    (polled.poll = .cancelledBeforeHandoff ∧ .handOff ∉ ended.1.trace) ∨
      (.handOff ∈ ended.1.trace ∧ handlerPoll answers.handler tool = some polled.poll ∧
        (polled.cancellationUnconfirmed = true ↔ CancellationUnconfirmed answers ended.1.trace))

section Await

variable {tool : RegisteredTool} {state : AwaitState answers.toolId}

section

variable (awaiting : Awaiting answers state world)
include awaiting

theorem Awaiting.handOver (polled : Bool)
    (unnoticed : state.handoffStarted = false → state.notice = none) :
    Awaiting answers (state.handOver polled world).1 (state.handOver polled world).2 ∧
      (state.handOver polled world).2.stored = world.stored ∧
      (state.handOver polled world).1.notice = state.notice ∧
      (polled = true → (state.handOver polled world).1.handoffStarted = true) := by
  obtain ⟨requested, dispatched, guarded, unfinished, uncancelled, inTime, handed, noticed,
    unconfirmed⟩ := awaiting
  unfold AwaitState.handOver
  split
  · rename_i first
    simp only [Bool.and_eq_true, Bool.not_eq_true'] at first
    have unhanded : .handOff ∉ world.trace := fun found => by
      rw [handed.mpr found] at first
      cases first.2
    have silent : .noticeCheck true ∉ world.trace := fun found => by
      have seen := noticed.mpr found
      rw [unnoticed first.2] at seen
      cases seen
    refine ⟨⟨List.mem_cons_of_mem _ requested, List.mem_cons_of_mem _ dispatched,
      .handOff requested dispatched ⟨unhanded, silent, uncancelled, inTime⟩, by simpa using unfinished,
      by simpa using uncancelled, by simpa using inTime, by simp, by simpa using noticed, ?_⟩, rfl, rfl,
      fun _ => rfl⟩
    simpa [CancellationUnconfirmed] using unconfirmed
  · rename_i again
    refine ⟨⟨requested, dispatched, guarded, unfinished, uncancelled, inTime, handed, noticed,
      unconfirmed⟩, rfl, rfl, fun isPolled => ?_⟩
    simpa [isPolled] using again

theorem Awaiting.resolve (unnoticed : state.handoffStarted = false → state.notice = none) :
    Awaited answers tool world.stored (state.resolve answers.handler tool world) := by
  obtain ⟨after, stored, notice, started⟩ := awaiting.handOver true unnoticed
  unfold AwaitState.resolve
  refine ⟨after.guarded, stored, after.unfinished, after.uncancelled, ?_, ?_⟩
  · intro polled found
    obtain ⟨poll, _, rfl⟩ := Option.map_eq_some_iff.mp found
    exact after.noticed
  · intro polled found
    obtain ⟨poll, answered, rfl⟩ := Option.map_eq_some_iff.mp found
    exact .inr ⟨after.handed.mp (started rfl), answered, after.unconfirmed⟩

theorem Awaiting.requestCancellation :
    ∃ reached, (state.requestCancellation answers.handler tool world).1 = reached ∧
      HandOffGuarded reached.trace ∧ reached.stored = world.stored ∧
      (∀ work, .finishing work ∉ reached.trace) ∧ .authorityCheck true ∉ reached.trace ∧
      ∀ next ∈ (state.requestCancellation answers.handler tool world).2,
        Awaiting answers next reached ∧ next.notice = state.notice ∧
          next.handoffStarted = state.handoffStarted := by
  refine ⟨_, rfl, ?_⟩
  obtain ⟨requested, dispatched, guarded, unfinished, uncancelled, inTime, handed, noticed,
    unconfirmed⟩ := awaiting
  have logged : HandOffGuarded (.cancelExecution :: world.trace) := guarded.log (by decide)
  unfold AwaitState.requestCancellation
  split
  · have keeps (value : Bool) (unsure : value = true ↔
        CancellationUnconfirmed answers (.cancelExecution :: world.trace)) :
        Awaiting answers { state with cancellationSent := true, cancellationUnconfirmed := value }
          (world.log .cancelExecution) :=
      ⟨List.mem_cons_of_mem _ requested, List.mem_cons_of_mem _ dispatched, logged,
        by simpa using unfinished, by simpa using uncancelled, by simpa using inTime,
        by simpa using handed, by simpa using noticed, unsure⟩
    cases cancel : answers.handler.cancel with
    | never =>
      exact ⟨logged, rfl, by simpa using unfinished, by simpa using uncancelled,
        fun next found => by cases found⟩
    | settled =>
      refine ⟨logged, rfl, by simpa using unfinished, by simpa using uncancelled, ?_⟩
      rintro next ⟨⟩
      exact ⟨keeps false (by simp [CancellationUnconfirmed, cancel]), rfl, rfl⟩
    | cleanupUnconfirmed | fails =>
      refine ⟨logged, rfl, by simpa using unfinished, by simpa using uncancelled, ?_⟩
      rintro next ⟨⟩
      exact ⟨keeps true (by simp [CancellationUnconfirmed, cancel]), rfl, rfl⟩
  · refine ⟨guarded, rfl, unfinished, uncancelled, ?_⟩
    rintro next ⟨⟩
    exact ⟨⟨requested, dispatched, guarded, unfinished, uncancelled, inTime, handed, noticed,
      unconfirmed⟩, rfl, rfl⟩

theorem Awaiting.heard (silent : state.notice = none) (notice : Option (NoticeFor answers.toolId)) :
    Awaiting answers { state with notice } (world.log (.noticeCheck notice.isSome)) := by
  obtain ⟨requested, dispatched, guarded, unfinished, uncancelled, inTime, handed, noticed,
    unconfirmed⟩ := awaiting
  rw [silent] at noticed
  refine ⟨List.mem_cons_of_mem _ requested, List.mem_cons_of_mem _ dispatched,
    guarded.log CallAction.noConfusion, by simpa using unfinished, by simpa using uncancelled,
    by simpa using inTime, by simpa using handed, ?_, ?_⟩
  · have quiet : .noticeCheck true ∉ world.trace := by simpa using noticed
    simp [quiet]
  · simpa [CancellationUnconfirmed] using unconfirmed

theorem awaitTurn_awaited
    {listen : AwaitState answers.toolId → CallWorld → CallWorld × Option (Polled answers.toolId)}
    (listens : ∀ {state : AwaitState answers.toolId} {world : CallWorld}, Awaiting answers state world →
      state.notice = none → Awaited answers tool world.stored (listen state world)) :
    Awaited answers tool world.stored (awaitTurn answers.handler tool listen state world) := by
  unfold awaitTurn
  split
  · rename_i early
    simp only [Bool.and_eq_true, Bool.not_eq_true'] at early
    refine ⟨awaiting.guarded, rfl, awaiting.unfinished, awaiting.uncancelled, ?_, ?_⟩
    · rintro polled ⟨⟩
      exact awaiting.noticed
    · rintro polled ⟨⟩
      refine .inl ⟨rfl, fun handed => ?_⟩
      rw [awaiting.handed.mpr handed] at early
      cases early.2
  · rename_i goesOn
    have unnoticed : state.handoffStarted = false → state.notice = none := by
      intro notStarted
      simpa [notStarted] using goesOn
    obtain ⟨reached, isReached, guarded, stored, unfinished, uncancelled, continues⟩ :=
      @Awaiting.requestCancellation _ _ tool _ awaiting
    split
    · rename_i after asked
      rw [asked] at isReached
      subst isReached
      refine ⟨guarded, stored, unfinished, uncancelled, ?_, ?_⟩
      all_goals
        intro polled found
        cases found
    · rename_i after next asked
      rw [asked] at isReached continues
      subst isReached
      obtain ⟨awaitingNext, sameNotice, sameStart⟩ := continues next rfl
      rw [← stored]
      split
      · refine awaitingNext.resolve fun notStarted => ?_
        rw [sameNotice]
        exact unnoticed (sameStart ▸ notStarted)
      · rename_i listening
        simp only [Bool.or_eq_true, Bool.not_eq_true', not_or, Bool.not_eq_true,
          Option.isSome_eq_false_iff, Option.isNone_iff_eq_none] at listening
        exact listens awaitingNext listening.2

end

theorem awaitLoop_awaited (turns : List (SelectTurn answers.toolId)) :
    ∀ {state : AwaitState answers.toolId} {world : CallWorld}, Awaiting answers state world →
      Awaited answers tool world.stored (awaitLoop answers.handler tool turns state world) := by
  induction turns with
  | nil => exact fun awaiting => awaitTurn_awaited awaiting fun next silent => next.resolve fun _ => silent
  | cons turn rest ih =>
    intro state world awaiting
    cases turn with
    | senderDropped polled =>
      refine awaitTurn_awaited awaiting fun {state world} next silent => ?_
      obtain ⟨after, stored, notice, _⟩ := next.handOver polled fun _ => silent
      rw [← stored]
      exact after.resolve fun _ => notice.trans silent
    | changed polled notice =>
      refine awaitTurn_awaited awaiting fun {state world} next silent => ?_
      obtain ⟨after, stored, kept, _⟩ := next.handOver polled fun _ => silent
      rw [← stored]
      exact ih (after.heard (kept.trans silent) notice)

theorem awaitHandler_awaited (course : Course world) (dispatched : .dispatchCommit true ∈ world.trace) :
    Awaited answers tool world.stored (awaitHandler answers.handler tool world) := by
  have silent : Awaiting answers ⟨none, false, false, false⟩ world :=
    ⟨course.requested, dispatched, .of_unhanded course.unhindered.unhanded, course.unfinished,
      course.unhindered.uncancelled, course.unhindered.inTime, by simp [course.unhindered.unhanded],
      by simp [course.unhindered.unnoticed], by simp [CancellationUnconfirmed, course.uncalled]⟩
  exact awaitLoop_awaited _ (silent.heard rfl _)

end Await

/-! The handler's end. -/

structure HandedFor (context : CallContext) (answers : CallAnswers) (handover : Handover)
    (input : ValidatedToolInput) : Prop where
  given : context.requested.input = some input
  waits : WaitsOnTool handover.waiting answers.toolId
  privilege : handover.privilege = input.requestedPrivilege
  prepared : ∃ prepared, answers.preparation = .answers prepared ∧
    prepared.resolvedCwd = handover.resolvedCwd

section Settle

variable {handover : Handover} {input : ValidatedToolInput} {expected : WorkLifecycleSnapshot}
  (handed : .handOff ∈ world.trace) (given : context.requested.input = some input) {poll : HandlerPoll}
  (answered : handlerPoll answers.handler input.tool = some poll)

include handed given answered

theorem uncertain_iff : Uncertain digest context answers world.trace ↔
    UncertainPoll digest context answers input world.trace poll := by
  constructor
  · rintro ⟨_, otherInput, otherPoll, otherGiven, otherAnswered, uncertain⟩
    obtain rfl := Option.some.inj (given.symm.trans otherGiven)
    obtain rfl := Option.some.inj (answered.symm.trans otherAnswered)
    exact uncertain
  · exact fun uncertain => ⟨handed, input, poll, given, answered, uncertain⟩

theorem counted_iff : Counted digest context answers world.trace ↔
    ∀ observation, poll = .runShell observation →
      ¬UncertainPoll digest context answers input world.trace poll →
      CanonicalCounts observation.result.stdout ∧ CanonicalCounts observation.result.stderr := by
  constructor
  · rintro counted observation rfl certain
    exact counted handed input observation given answered certain
  · intro counts _ otherInput observation otherGiven otherAnswered certain
    obtain rfl := Option.some.inj (given.symm.trans otherGiven)
    obtain rfl := Option.some.inj (answered.symm.trans otherAnswered)
    exact counts observation rfl certain

theorem concludeUnknown_sound (ready : ReadyToFinish answers world expected)
    (uncertain : UncertainPoll digest context answers input world.trace poll)
    (failure : ToolExecutionServiceErrorKind) :
    SoundCall digest context answers
      (concludeUnknown context answers handover expected failure world) := by
  refine concludeCall_sound ready (persistOutcomeUnknown_plans _ _) (fun _ unknown => unknown) ?_ ?_
  · rw [uncertain_iff handed given answered]
    exact ⟨fun _ => rfl, fun _ => uncertain⟩
  · rw [counted_iff handed given answered]
    exact fun _ _ certain => absurd uncertain certain

theorem concludeFailed_sound {error : WorkstationError} (isError : poll = .failed error)
    (ready : ReadyToFinish answers world expected)
    (certain : ¬UncertainPoll digest context answers input world.trace poll) :
    SoundCall digest context answers (concludeDispatched context answers expected
      (dispatchedErrorOutcome answers.finish.stamp error) world) := by
  refine concludeCall_sound ready (planOutcome_plans _) ?_ ?_ ?_
  · rintro outcome rfl
    rfl
  · rw [uncertain_iff handed given answered]
    simp [certain]
  · rw [counted_iff handed given answered]
    rintro observation rfl
    cases isError

theorem settleReadFile_sound {path : LogicalPathReference} {maxBytes : Nat}
    {observation : ReadObservation} (isRead : input = .readFile path maxBytes)
    (observed : poll = .readFile observation) (ready : ReadyToFinish answers world expected)
    (same : observation.operationId = answers.handlerOperationId) :
    SoundCall digest context answers
      (settleReadFile digest service context answers handover expected path observation world) := by
  have untrusted : UncertainPoll digest context answers input world.trace poll ↔
      readUntrusted digest context.call path observation.result = true := by
    simp [observed, UncertainPoll, same, isRead]
  have counted : Counted digest context answers world.trace := by
    rw [counted_iff handed given answered]
    rintro _ rfl
    cases observed
  unfold settleReadFile
  dsimp only
  split
  · refine ⟨concludeCall_guarded (ready.guarded.log (by decide)), fun undisturbed => ?_⟩
    exact absurd (mem_concludeCall List.mem_cons_self) undisturbed.healthy
  · cases trusted : readUntrusted digest context.call path observation.result with
    | true =>
      have unknown : finishReadFile digest service.limits.toToolRuntimeLimits context.call
          (dispatchedTool answers handover) answers.finish.stamp expected path observation.result
          answers.operationDuration =
        persistOutcomeUnknown context.call (dispatchedTool answers handover) answers.finish.stamp
          expected (.workstation .outcomeUnknown none) .outcomeUnknown := by
        simp [finishReadFile, trusted]
      rw [unknown]
      exact concludeUnknown_sound handed given answered ready (untrusted.mpr trusted) _
    | false =>
      refine concludeCall_sound ready (finishReadFile_plans trusted observation.canonical _)
        (fun _ completed => completed) ?_ counted
      rw [uncertain_iff handed given answered, untrusted, trusted]
      simp

theorem settleRunShell_sound {commandBytes timeoutMs : Nat} {commandSha256 : Sha256Digest}
    {cwd : Option LogicalPathReference} {privilege : PrivilegeMode} {observation : ShellObservation}
    (isShell : input = .runShell commandBytes commandSha256 cwd privilege timeoutMs)
    (observed : poll = .runShell observation) (ready : ReadyToFinish answers world expected)
    (handedFor : HandedFor context answers handover input)
    (same : observation.operationId = answers.handlerOperationId)
    (sameExecution : observation.result.executionId = answers.executionId) :
    SoundCall digest context answers
      (settleRunShell service context answers handover expected commandSha256 observation world) := by
  obtain ⟨prepared, isPrepared, sameCwd⟩ := handedFor.prepared
  have samePrivilege : handover.privilege = privilege := by
    rw [handedFor.privilege, isShell]
    rfl
  have untrusted : UncertainPoll digest context answers input world.trace poll ↔
      executionUntrusted context.call (expectedExecution context handover commandSha256)
        observation.result = true := by
    simp [observed, UncertainPoll, same, sameExecution, isShell, isPrepared, sameCwd,
      expectedExecution, samePrivilege]
  unfold settleRunShell
  dsimp only
  split
  · exact .breaks ready.guarded _
  · cases trusted : executionUntrusted context.call (expectedExecution context handover commandSha256)
        observation.result with
    | true =>
      have unknown : finishRunShell service.limits.toToolRuntimeLimits context.call
          (dispatchedTool answers handover) answers.finish.stamp expected
          (expectedExecution context handover commandSha256) observation.result =
        persistOutcomeUnknown context.call (dispatchedTool answers handover) answers.finish.stamp
          expected (.workstation .outcomeUnknown none) .outcomeUnknown := by
        simp [finishRunShell, trusted]
      rw [unknown]
      exact concludeUnknown_sound handed given answered ready (untrusted.mpr trusted) _
    | false =>
      have certain : ¬UncertainPoll digest context answers input world.trace poll := by
        simp [untrusted, trusted]
      by_cases counts : CanonicalCounts observation.result.stdout ∧
          CanonicalCounts observation.result.stderr
      · refine concludeCall_sound ready (finishRunShell_plans service.inlineCanonical trusted
          sameExecution observation.exitCode observation.signal counts.1 counts.2)
          (fun _ completed => completed.1) ?_ ?_
        · rw [uncertain_iff handed given answered]
          simp [certain]
        · rw [counted_iff handed given answered, observed]
          rintro _ ⟨⟩ _
          exact counts
      · rw [finishRunShell_uncounted service.inlineCanonical trusted sameExecution counts]
        refine concludeCall_uncounted ready (persistOutcomeUnknown_plans _ _) (fun _ unknown => unknown)
          ?_ ?_
        · rw [uncertain_iff handed given answered]
          exact certain
        · rw [counted_iff handed given answered]
          exact fun counted => counts (counted observation observed certain)

end Settle

theorem handlerPoll_answered {tool : RegisteredTool} :
    handlerPoll answers.handler tool ≠ some .cancelledBeforeHandoff := by
  intro answered
  cases tool with
  | readFile =>
    simp only [handlerPoll] at answered
    cases read : answers.handler.readFile <;> simp [read, HandlerAnswer.poll] at answered
  | runShell =>
    simp only [handlerPoll] at answered
    cases run : answers.handler.runShell <;> simp [run, HandlerAnswer.poll] at answered

theorem expectedWorkOf_ok {waiting : WorkLifecycleSnapshot} (waits : WaitsOnTool waiting answers.toolId)
    (notice : Option (NoticeFor answers.toolId)) :
    ∃ expected, expectedWorkOf answers waiting notice = .ok expected ∧
      AwaitsOutcome expected answers.toolId ∧
      (expected.state = .cancelRequested ↔ notice.isSome = true) := by
  cases notice with
  | none => exact ⟨waiting, rfl, waits.awaits, by simp [waits.state]⟩
  | some notice =>
    obtain ⟨expected, snapshot, awaits, cancelled⟩ := noticeSnapshot_ok notice
    exact ⟨expected, snapshot, awaits, by simp [cancelled]⟩

variable {handover : Handover} {input : ValidatedToolInput}

theorem settleHandler_sound {polled : Polled answers.toolId} {stored : Option StoredCall}
    (handedFor : HandedFor context answers handover input)
    (opened : ∀ found ∈ stored, found.state ≠ .completed ∧ found.state ≠ .outcomeUnknown)
    (awaited : Awaited answers input.tool stored (world, some polled)) :
    SoundCall digest context answers
      (settleHandler digest service context answers handover input polled world) := by
  obtain ⟨expected, snapshot, awaits, cancelled⟩ := expectedWorkOf_ok handedFor.waits polled.notice
  have ready : ReadyToFinish answers world expected :=
    ⟨awaits, awaited.guarded, awaited.unfinished, by rw [awaited.stored]; exact opened,
      cancelled.trans (awaited.noticed polled rfl), fun _ => awaited.uncancelled⟩
  simp only [settleHandler, snapshot]
  rcases awaited.polled polled rfl with ⟨early, unhanded⟩ | ⟨handed, answered, unconfirmed⟩
  · rw [early]
    exact plannedOutcome_sound ready unhanded rfl rfl _
  · have given := handedFor.given
    cases poll : polled.poll with
    | cancelledBeforeHandoff => exact absurd (answered.trans (congrArg some poll)) handlerPoll_answered
    | panicked =>
      rw [poll] at answered
      exact concludeUnknown_sound handed given answered ready trivial _
    | failed error =>
      rw [poll] at answered
      have uncertain : UncertainPoll digest context answers input world.trace (.failed error) ↔
          (error.certainty == .outcomeUnknown || polled.cancellationUnconfirmed) = true := by
        simp [UncertainPoll, unconfirmed]
      dsimp only
      split
      · rename_i isUncertain
        exact concludeUnknown_sound handed given answered ready (uncertain.mpr isUncertain) _
      · rename_i isCertain
        exact concludeFailed_sound handed given answered rfl ready fun is => isCertain (uncertain.mp is)
    | readFile observation =>
      rw [poll] at answered
      cases isInput : input with
      | runShell => exact .waits awaited.guarded
      | readFile path maxBytes =>
        dsimp only
        split
        · rename_i differs
          exact concludeUnknown_sound handed given answered ready (.inl differs) _
        · rename_i same
          exact settleReadFile_sound handed given answered isInput rfl ready (not_not.mp same)
    | runShell observation =>
      rw [poll] at answered
      cases isInput : input with
      | readFile => exact .waits awaited.guarded
      | runShell commandBytes commandSha256 cwd privilege timeoutMs =>
        dsimp only
        split
        · rename_i differs
          exact concludeUnknown_sound handed given answered ready (.inl differs) _
        · rename_i same
          obtain ⟨sameOperation, sameExecution⟩ := not_or.mp same
          exact settleRunShell_sound handed given answered isInput rfl ready handedFor
            (not_not.mp sameOperation) (not_not.mp sameExecution)

theorem runHandler_sound (course : Course world)
    (dispatched : .dispatchCommit true ∈ world.trace) (handedFor : HandedFor context answers handover input) :
    SoundCall digest context answers (runHandler digest service context answers handover input world) := by
  have awaited := @awaitHandler_awaited answers world input.tool course dispatched
  unfold runHandler
  split
  · rename_i reached ended
    rw [ended] at awaited
    exact .waits awaited.guarded
  · rename_i reached polled ended
    rw [ended] at awaited
    exact settleHandler_sound handedFor course.opened awaited

/-! The stages in the order of the call, the last one first. -/

theorem evaluateAuthority_allow {input : AuthorityEvaluationInput}
    (allowed : (evaluateAuthority input).decision = .allow) :
    input.workCancelled = false ∧
      (evaluateAuthority input).effectivePrivilege = input.requestedPrivilege := by
  unfold evaluateAuthority at allowed ⊢
  dsimp only at allowed ⊢
  split at allowed
  · rename_i reason
    refine ⟨?_, by rw [if_pos reason]⟩
    by_contra cancelled
    simp only [denialReason, Bool.eq_true_of_not_eq_false cancelled, ↓reduceIte] at reason
    exact absurd reason (by decide)
  · cases allowed

theorem afterDispatch_sound {deadline : Nat}
    (course : Course world) (dispatched : .dispatchCommit true ∈ world.trace)
    (handedFor : HandedFor context answers handover input) :
    SoundCall digest context answers
      (afterDispatch digest service context answers deadline handover input world) := by
  refine checkNotice_sound course (cancelBeforeHandoff_sound course) fun noticed => ?_
  refine checkDeadline_sound noticed ?_ fun inTime => ?_
  · exact plannedOutcome_sound (noticed.ready_late handedFor.waits)
      (by simpa using course.unhindered.unhanded) rfl rfl _
  · exact runHandler_sound inTime (by simpa using dispatched) handedFor

section Stages

variable {deadline policyTimeoutMs timeoutMs : Nat} {waiting : WorkLifecycleSnapshot}
  {privilege : PrivilegeMode} {input : ValidatedToolInput} {arguments : ValidatedToolArguments}
  (course : Course world) (waits : WaitsOnTool waiting answers.toolId)

include course waits

theorem commitDispatch_sound {prepared : PreparationResult}
    (given : context.requested.input = some input)
    (isPrepared : answers.preparation = .answers prepared) (allowed : privilege = input.requestedPrivilege) :
    SoundCall digest context answers
      (commitDispatch digest service context answers deadline waiting prepared.resolvedCwd privilege input
        world) := by
  have unhanded := course.unhindered.unhanded
  unfold commitDispatch
  split
  · exact .breaks (.of_unhanded unhanded) _
  · rename_i dispatchAt _
    dsimp only
    split
    · refine .breaks (.of_unhanded ?_) _
      split
      · simpa using unhanded
      · simpa using unhanded
    · refine afterDispatch_sound ?_ List.mem_cons_self
        ⟨given, waits, allowed, prepared, isPrepared, rfl⟩
      have stored : Course { world with stored := some ⟨.dispatching, waiting, none⟩ } := by
        refine ⟨course.requested, course.unhindered, course.uncalled, course.unfinished, ?_⟩
        rintro stored ⟨⟩
        simp
      exact stored.log rfl

theorem prepareWorkstation_sound (given : context.requested.input = some input)
    (allowed : privilege = input.requestedPrivilege) :
    SoundCall digest context answers
      (prepareWorkstation digest service context answers deadline waiting privilege input world) := by
  have refused (error : WorkstationError) := @refused_sound digest context answers world
    (predispatchErrorOutcome answers.finish.stamp error) waiting course waits rfl
  unfold prepareWorkstation
  dsimp only
  split
  · exact .waits (.of_unhanded course.unhindered.unhanded)
  · exact (refused _).1
  · rename_i prepared isPrepared
    split
    · refine checkNotice_sound course (cancelBeforeDispatch_sound course) fun noticed => ?_
      refine checkDeadline_sound noticed (refused_sound noticed waits rfl).2 fun inTime => ?_
      exact commitDispatch_sound inTime waits given isPrepared allowed
    · exact (refused _).1

theorem evaluateCall_sound {capabilities : WorkstationCapabilities}
    (given : context.requested = .valid arguments) :
    SoundCall digest context answers
      (evaluateCall digest service context answers deadline timeoutMs waiting arguments capabilities
        world) := by
  unfold evaluateCall
  dsimp only
  split
  · rename_i allowed
    obtain ⟨unseen, privilege⟩ := evaluateAuthority_allow allowed
    have evaluated : Course (world.log (.authorityCheck answers.noticeAtAuthority.isSome)) := by
      rw [show answers.noticeAtAuthority.isSome = false from unseen]
      exact course.log rfl
    refine checkNotice_sound evaluated (cancelBeforeDispatch_sound evaluated) fun noticed => ?_
    exact prepareWorkstation_sound noticed waits (by rw [given]; rfl) privilege
  · exact concludePredispatch_sound (course.ready_evaluated waits _)
      (by simpa using course.unhindered.unhanded) rfl

theorem queryCapabilities_sound (given : context.requested = .valid arguments) :
    SoundCall digest context answers
      (queryCapabilities digest service context answers deadline policyTimeoutMs waiting arguments
        world) := by
  have refused (error : WorkstationError) := @refused_sound digest context answers world
    (predispatchErrorOutcome answers.finish.stamp error) waiting course waits rfl
  unfold queryCapabilities
  dsimp only
  split
  · exact .waits (.of_unhanded course.unhindered.unhanded)
  · exact (refused _).1
  · split
    · split
      · exact (refused _).1
      · exact checkDeadline_sound course (refused _).2 fun inTime => evaluateCall_sound inTime waits given
    · exact (refused _).1

theorem afterRequest_sound :
    SoundCall digest context answers
      (afterRequest digest service context answers deadline policyTimeoutMs waiting world) := by
  unfold afterRequest
  split
  · exact (refused_sound course waits rfl).1
  · rename_i arguments screened
    have given : context.requested = .valid arguments := by
      cases requested : context.requested with
      | unknown | invalid => simp [requested, RequestedTool.screen] at screened
      | valid found =>
        simp only [requested, RequestedTool.screen] at screened
        split at screened
        · rw [Except.ok.inj screened]
        · cases screened
    refine checkDeadline_sound course (refused_sound course waits rfl).2 fun inTime => ?_
    refine checkNotice_sound inTime (cancelBeforeDispatch_sound inTime) fun noticed => ?_
    exact queryCapabilities_sound noticed waits given

end Stages

theorem waitingSnapshot_ok {work : WorkLifecycleSnapshot} {toolId : ToolExecutionId}
    {decision : WorkTransitionDecision} (runtimeId : RuntimeInstanceId)
    (decided : decideWorkTransition work (.forSnapshot work) (.waitForTool toolId) = .ok decision) :
    ∃ waiting, waitingSnapshot work.workId runtimeId work.projectionVersion toolId = .ok waiting ∧
      WaitsOnTool waiting toolId ∧
      waiting.projectionVersion.value = work.projectionVersion.value + 1 := by
  have stepped : stepWork work (.forSnapshot work, .waitForTool toolId) = some decision.next := by
    simp [stepWork, decided, Except.toOption]
  have version := ((stepWork_eq_some_iff _ _ _ _).mp stepped).version
  simp only [waitingSnapshot, version, orRefuse_some, ok_bind, workShapeOk, Option.isSome_some,
    Option.isNone_none, Bool.and_self, Bool.not_true, refuseIf_false]
  exact ⟨_, rfl, ⟨rfl, rfl, rfl⟩, PositiveInteger.checkedIncrement_some version⟩

theorem commitRequest_sound {deadline policyTimeoutMs : Nat} :
    SoundCall digest context answers
      (commitRequest digest service context answers deadline policyTimeoutMs ⟨[], none⟩) := by
  unfold commitRequest
  split
  · exact .unrequested (by simp) (by simp) _
  · rename_i decision decided
    dsimp only
    split
    · refine .breaks (.of_unhanded ?_) _
      split
      · simp
      · simp
    · obtain ⟨waiting, snapshot, waits, _⟩ := waitingSnapshot_ok context.runtimeInstanceId decided
      simp only [snapshot]
      refine afterRequest_sound ⟨List.mem_cons_self, ⟨?_, ?_, ?_, ?_⟩, ?_, fun work => ?_, ?_⟩ waits
      all_goals simp [CallWorld.log]

theorem refuseCall_sound {refused : Bool} {kind : ToolExecutionServiceErrorKind}
    {go : CallWorld → CallRun} (goes : SoundCall digest context answers (go ⟨[], none⟩)) :
    SoundCall digest context answers (refuseCall refused kind go ⟨[], none⟩) := by
  unfold refuseCall
  split
  · exact .unrequested (by simp) (by simp) _
  · exact goes

theorem executeCall_sound :
    SoundCall digest context answers (executeCall digest service context answers) := by
  refine refuseCall_sound (refuseCall_sound (refuseCall_sound (refuseCall_sound ?_)))
  split
  · exact .unrequested (by simp) (by simp) _
  · split
    · exact commitRequest_sound
    · exact .breaks (.of_unhanded (by simp)) _

end

/-- The hand-off is guarded in every call, and an undisturbed call ends with the outcome its
answers call for exactly if that can be recorded. -/
theorem execute_call_recorded_iff (digest : List UInt8 → Sha256Digest) (service : ToolService)
    (context : CallContext) (answers : CallAnswers) :
    (HandOffGuarded (executeCall digest service context answers).world.trace ∧
        (Undisturbed (executeCall digest service context answers) →
          RecordsOutcome digest context answers (executeCall digest service context answers))) ↔
      (Undisturbed (executeCall digest service context answers) →
        Recordable digest context answers (executeCall digest service context answers)) := by
  obtain ⟨guarded, recorded⟩ := @executeCall_sound digest service context answers
  exact ⟨fun holds undisturbed => (recorded undisturbed).mp (holds.2 undisturbed),
    fun recordable => ⟨guarded, fun undisturbed => (recorded undisturbed).mpr (recordable undisturbed)⟩⟩

/-! A call that is cancelled while the capabilities are queried. -/

def sampleService : ToolService where
  limits := {
    toToolRuntimeLimits := sampleToolLimits
    readFileDefaultBytes := 65536
    readFileMaxBytes := 1048576
    runShellCommandMaxBytes := 65536
    runShellDefaultTimeoutMs := 120000
    runShellMaxTimeoutMs := 900000
    stdoutCaptureBytes := 8388608
    stderrCaptureBytes := 8388608 }
  valid := rfl
  inlineCanonical := by decide

def sampleContext : CallContext where
  craxiiId := sampleCall.craxiiId
  work := {
    workId := sampleCall.workId
    state := .running
    projectionVersion := .one
    runtimeOwner := some ⟨sampleUuid 1⟩
    currentAttempt := .none
    cancellationReason := none
    terminalReason := none }
  runtimeInstanceId := ⟨sampleUuid 1⟩
  named := true
  requested := .valid ⟨.runShell 4 zeroDigest none .user 1000, 40⟩
  correlationId := sampleCall.correlationId
  workstationId := sampleCall.workstationId
  workstationGeneration := .one
  workspaceId := sampleCall.workspaceId
  workspaceCraxiiId := sampleCall.craxiiId
  workspaceWorkstationId := sampleCall.workstationId
  logicalRoot := samplePath
  workDeadline := 3600000000000
  shutdownDeadline := none
  authorityConstraints := ⟨true, true⟩

def sampleCapabilities : WorkstationCapabilities where
  workstationId := sampleCall.workstationId
  generation := .one
  workspaces := [sampleCall.workspaceId]
  filesystemRead := true
  foregroundExecute := true
  privilegeUser := true
  privilegeAdministrative := false
  maxExecutionTimeoutMs := hardExecutionTimeoutMs
  maxStdoutBytes := hardExecutionStreamCaptureBytes
  maxStderrBytes := hardExecutionStreamCaptureBytes

def sampleNotice : NoticeFor sampleToolId :=
  ⟨⟨⟨sampleCall.workId, .cancelRequested, sampleNumber 3, some ⟨sampleUuid 1⟩,
    .tool sampleToolId, some .userRequest⟩, .userRequest⟩, by decide⟩

def cancelledAnswers : CallAnswers where
  toolId := sampleToolId
  executionId := sampleTool.executionId
  requestEventId := ⟨sampleUuid 15⟩
  dispatchEventId := sampleTool.causation
  handlerOperationId := ⟨sampleUuid 0⟩
  start := 0
  afterRequest := 1
  afterCapabilities := 2
  beforeDispatch := 3
  afterDispatch := 4
  operationDuration := ⟨1, by decide⟩
  noticeAtStart := none
  noticeAfterRequest := none
  noticeAtAuthority := some sampleNotice
  noticeAfterAuthority := some sampleNotice
  noticeAfterPreparation := some sampleNotice
  noticeAfterDispatch := some sampleNotice
  requestClock := true
  request := .commits
  capabilities := .answers ⟨true, sampleCapabilities⟩
  preparation := .answers ⟨true, sampleResolvedPath⟩
  dispatchAt := some 2
  dispatch := .commits
  handler := ⟨true, some sampleNotice, [], .settled, .never, .never⟩
  finish := ⟨sampleStamp, true, true, true, .commits⟩

theorem cancelled_call_left_running :
    ¬(Undisturbed (executeCall (fun _ => zeroDigest) sampleService sampleContext cancelledAnswers) →
      RecordsOutcome (fun _ => zeroDigest) sampleContext cancelledAnswers
        (executeCall (fun _ => zeroDigest) sampleService sampleContext cancelledAnswers)) := by
  have seen : NoticeSeen (executeCall (fun _ => zeroDigest) sampleService sampleContext
      cancelledAnswers).world.trace := .inr (by decide +kernel)
  have unhanded : .handOff ∉ (executeCall (fun _ => zeroDigest) sampleService sampleContext
      cancelledAnswers).world.trace := by decide +kernel
  have running : (executeCall (fun _ => zeroDigest) sampleService sampleContext
      cancelledAnswers).world.stored.map (·.work.state) = some .running := by decide +kernel
  intro holds
  obtain ⟨stored, found, _, certain⟩ := holds
    ⟨by decide +kernel, by decide +kernel, by decide +kernel⟩
  have cancelled := (certain (not_uncertain_of_unhanded unhanded)).2.1 seen
  rw [found, Option.map_some, cancelled] at running
  cases running

end Craxii
