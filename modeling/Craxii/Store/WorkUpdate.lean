import Craxii.Domain.Lifecycle
import Craxii.Store.WorkUpdateCore

/-!
No update is lost: a version of a row is stored once, so a loaded row is the stored one or has an
older version, and then its update is refused.
-/

namespace Craxii

open ExceptRules Tables GuardedRun

def Decides (current next : WorkLifecycleSnapshot) : Prop :=
  ∃ guard request, stepWork current (guard, request) = some next

structure WorkColumns.Agrees (row : WorkColumns) (expected : WorkLifecycleSnapshot) : Prop where
  state : row.state = expected.state
  version : row.stateVersion = expected.projectionVersion.value
  owner : row.runtimeInstanceId = expected.runtimeOwner
  attempt : (row.currentModelInvocationId, row.currentToolExecutionId) =
    attemptColumns expected.currentAttempt
  cancellation : row.cancellationReason = expected.cancellationReason

section Rows

variable {accepts : List WorkColumns → Bool} {rows : List WorkColumns} {row : WorkColumns}
  {expected next snapshot : WorkLifecycleSnapshot} {times : WorkProjectionTimes}

theorem WorkColumns.Agrees.storedRow (times : WorkProjectionTimes) :
    (storedRow snapshot times).Agrees snapshot :=
  ⟨rfl, rfl, rfl, rfl, rfl⟩

theorem WorkColumns.Agrees.matchesGuard (agrees : row.Agrees expected)
    (same : row.workId = expected.workId) : row.matchesGuard expected = true := by
  have model : row.currentModelInvocationId = (attemptColumns expected.currentAttempt).1 :=
    congrArg Prod.fst agrees.attempt
  have tool : row.currentToolExecutionId = (attemptColumns expected.currentAttempt).2 :=
    congrArg Prod.snd agrees.attempt
  simp [WorkColumns.matchesGuard, same, agrees.state, agrees.version, agrees.owner, model, tool]

theorem currentAttempt_storedRow :
    (storedRow snapshot times).currentAttempt = .ok snapshot.currentAttempt := by
  cases attempt : snapshot.currentAttempt <;>
    simp [WorkColumns.currentAttempt, storedRow, attempt, attemptColumns]

theorem load_storedRow {terminalReason : Option WorkTerminalReason} {loaded : LoadedWork}
    (read : (storedRow snapshot times).load terminalReason = .ok loaded) :
    loaded = ⟨{ snapshot with terminalReason }, times.startedAt⟩ := by
  have version : 0 < (storedRow snapshot times).stateVersion ∧
      (storedRow snapshot times).stateVersion ≤ i64Max :=
    ⟨snapshot.projectionVersion.positive, snapshot.projectionVersion.bounded⟩
  simp only [WorkColumns.load, currentAttempt_storedRow, ok_bind, dif_pos version, bind_eq_ok,
    refuseIf_eq_ok, exists_const, pure_eq_ok] at read
  exact read.2.symm

section

variable (keyed : Keyed WorkColumns.workId rows) (member : row ∈ rows) (same : row.workId = expected.workId) (newer : expected.projectionVersion.value < row.stateVersion)
include keyed member same newer

theorem classifyWorkConflict_newer :
    ∃ kind, classifyWorkConflict rows expected = .conflict kind := by
  have found : rows.find? (fun other => other.workId == expected.workId) = some row :=
    same ▸ keyed.lookup member
  simp only [classifyWorkConflict, found]
  by_cases sameState : row.state = expected.state
  · have stale : row.stateVersion ≠ expected.projectionVersion.value := by omega
    exact ⟨.staleVersion, by simp [sameState, stale]⟩
  · exact ⟨.staleState, by simp [sameState]⟩

theorem countP_matchesGuard_newer : (rows.countP fun other => other.matchesGuard expected) = 0 := by
  rw [List.countP_eq_zero]
  intro other otherIn guarded
  simp only [WorkColumns.matchesGuard, Bool.and_eq_true, beq_iff_eq] at guarded
  obtain ⟨⟨⟨⟨⟨otherId, _⟩, version⟩, _⟩, _⟩, _⟩ := guarded
  rw [keyed.eq otherIn member (otherId.trans same.symm)] at version
  omega

end

theorem guardedColumnsUpdate_eq_ok {updated : List WorkColumns}
    (applied : guardedColumnsUpdate accepts rows expected next times = .ok updated) :
    (∃ row ∈ rows, row.workId = expected.workId ∧
      row.stateVersion = expected.projectionVersion.value) ∧ next.workId = expected.workId ∧
      updated = update (fun row => row.matchesGuard expected) (fun _ => storedRow next times) rows := by
  simp only [guardedColumnsUpdate, bind_eq_ok, refuseIf_eq_ok, exists_const, Bool.or_eq_false_iff,
    bne_eq_false_iff_eq] at applied
  obtain ⟨⟨⟨⟨⟨sameWork, _⟩, _⟩, _⟩, _⟩, terminalReason, terminal, branch⟩ := applied
  have unchanged : terminalReason = next.terminalReason := by
    unfold terminalColumns at terminal
    split at terminal
    · simp only [bind_eq_ok, refuseIf_eq_ok, exists_const, pure_eq_ok] at terminal
      rw [← terminal.2]
      simp_all
    · exact (Except.ok.inj terminal).symm
  have stored : { storedRow next times with terminalReason } = storedRow next times := by
    rw [unchanged]
    rfl
  rw [stored] at branch
  split at branch
  · cases branch
  · rename_i one
    simp only [bind_eq_ok, refuseIf_eq_ok, exists_const, pure_eq_ok] at branch
    refine ⟨?_, sameWork.symm, branch.2.symm⟩
    obtain ⟨row, member, guarded⟩ := List.countP_pos_iff.mp (by rw [one]; exact Nat.one_pos)
    simp only [WorkColumns.matchesGuard, Bool.and_eq_true, beq_iff_eq] at guarded
    exact ⟨row, member, guarded.1.1.1.1.1, guarded.1.1.1.2⟩
  · cases branch

end Rows

def Timed (state : WorkState) (startedAt : Option UtcTimestamp) : Prop :=
  state = .queued ∨ state.isTerminal = true ∨ startedAt.isSome = true

section Decisions

variable {loaded : LoadedWork} {guard : WorkTransitionGuard} {request : WorkTransitionRequest}
  {decision : WorkTransitionDecision} {now : UtcTimestamp}

theorem decided_accepts (decided : decideWorkTransition loaded.snapshot guard request = .ok decision) :
    AcceptedWork loaded.snapshot guard request decision.next := by
  rw [← stepWork_eq_some_iff, stepWork, decided]
  rfl

variable {current next : WorkLifecycleSnapshot}

theorem AcceptedWork.queued_request
    (accepted : AcceptedWork current guard request next) (queued : current.state = .queued) :
    (∃ owner, request = .start owner) ∨ ∃ reason cleanup, request = .cancel reason cleanup := by
  have legal := accepted.legal
  have shape := accepted.shape
  obtain ⟨_, _, fields⟩ := accepted.fields
  simp only [WorkLifecycleSnapshot.shapeOk, queued, workShapeOk, Bool.and_eq_true, beq_iff_eq] at shape
  rw [queued] at legal
  cases request with
  | start owner => exact Or.inl ⟨owner, rfl⟩
  | cancel reason cleanup => exact Or.inr ⟨reason, cleanup, rfl⟩
  | resumeFromModel | resumeFromTool => simp [transitionFields, shape.1.1.2] at fields
  | waitForModel | waitForTool | requestCancellation | complete | fail | interrupt =>
    cases legal

section

variable (timed : Timed loaded.snapshot.state loaded.startedAt) (decided : decideWorkTransition loaded.snapshot guard request = .ok decision)
include timed decided

theorem projectionTimes_valid :
    validTimeShape decision.next.state (projectionTimes loaded request now) = true := by
  have accepted := decided_accepts decided
  have live := accepted.live
  rw [accepted.target]
  rcases timed with queued | terminal | started
  · rcases accepted.queued_request queued with ⟨owner, rfl⟩ | ⟨reason, cleanup, rfl⟩
    · rfl
    · rfl
  · rw [terminal] at live
    cases live
  · cases request <;>
      simp [validTimeShape, projectionTimes, WorkTransitionRequest.targetState, WorkState.isTerminal, started]

theorem timed_next : Timed decision.next.state (projectionTimes loaded request now).startedAt := by
  have valid : validTimeShape decision.next.state (projectionTimes loaded request now) = true :=
    projectionTimes_valid timed decided
  cases state : decision.next.state <;> simp_all [Timed, validTimeShape, WorkState.isTerminal]

end

theorem terminalColumns_decided (accepted : AcceptedWork current guard request next) :
    terminalColumns next.terminalReason = .ok next.terminalReason := by
  obtain ⟨_, _, fields⟩ := accepted.fields
  cases terminal : next.terminalReason with
  | none => rfl
  | some reason =>
    rw [terminal] at fields
    cases reason with
    | completion | cancellation | interruption => rfl
    | failure failure =>
      cases failure with
      | providerExhausted | invalidModelOutput | limit => rfl
      | definite error =>
        have definite : error.certainty = .definite := by
          cases request with
          | fail named cleanup =>
            cases named with
            | definite named =>
              simp only [transitionFields, ite_eq_iff, reduceCtorEq, and_false, false_or,
                Bool.or_eq_true, not_or, bne_iff_ne, not_not, Except.ok.injEq,
                WorkTransitionFields.mk.injEq, Option.some.injEq,
                WorkTerminalReason.failure.injEq, WorkFailureReason.definite.injEq] at fields
              obtain ⟨⟨_, certain⟩, _, _, _, rfl, _⟩ := fields
              exact certain
            | providerExhausted | invalidModelOutput | limit =>
              simp [transitionFields, ite_eq_iff] at fields
          | start | waitForModel | waitForTool | requestCancellation | interrupt =>
            simp [transitionFields] at fields
          | resumeFromModel | resumeFromTool | complete | cancel =>
            simp only [transitionFields] at fields
            split at fields <;> simp at fields
        simp [terminalColumns, definite, pure, Except.pure]

section Updates

variable {accepts : List WorkColumns → Bool} {rows : List WorkColumns}

section

variable (timed : Timed loaded.snapshot.state loaded.startedAt) (decided : decideWorkTransition loaded.snapshot guard request = .ok decision)
include timed decided

theorem decision_checks :
    (loaded.snapshot.workId != decision.next.workId || loaded.snapshot.state.isTerminal ||
      decision.next.projectionVersion.value != loaded.snapshot.projectionVersion.value + 1 ||
      !isLegalWorkPair loaded.snapshot.state decision.next.state ||
      !validTimeShape decision.next.state (projectionTimes loaded request now)) = false := by
  have accepted := decided_accepts decided
  have legal := accepted.legal
  rw [← accepted.target] at legal
  have version := PositiveInteger.checkedIncrement_some accepted.version
  simp [accepted.sameWork, accepted.live, version, legal, projectionTimes_valid timed decided]

theorem applyDecision_unmatched
    (unmatched : (rows.countP fun row => row.matchesGuard loaded.snapshot) = 0) :
    applyDecision accepts rows loaded guard request now =
      .error (.update (classifyWorkConflict rows loaded.snapshot)) := by
  simp only [applyDecision, decided, guardedColumnsUpdate, decision_checks timed decided, refuseIf_false,
    terminalColumns_decided (decided_accepts decided), unmatched, Except.mapError, ok_bind, error_bind]

theorem applyDecision_matched
    (matched : (rows.countP fun row => row.matchesGuard loaded.snapshot) = 1) :
    applyDecision accepts rows loaded guard request now =
      let updated := update (fun row => row.matchesGuard loaded.snapshot)
        (fun _ => storedRow decision.next (projectionTimes loaded request now)) rows
      if accepts updated then .ok (updated, decision.next) else .error (.update .storage) := by
  have stored : { storedRow decision.next (projectionTimes loaded request now) with
      terminalReason := decision.next.terminalReason } =
        storedRow decision.next (projectionTimes loaded request now) := rfl
  by_cases accepted : accepts (update (fun row => row.matchesGuard loaded.snapshot)
      (fun _ => storedRow decision.next (projectionTimes loaded request now)) rows) = true
  · simp only [applyDecision, decided, guardedColumnsUpdate, decision_checks timed decided, refuseIf_false,
      terminalColumns_decided (decided_accepts decided), matched, Except.mapError, ok_bind, stored, accepted,
      Bool.not_true, if_true, pure, Except.pure]
  · rw [Bool.not_eq_true] at accepted
    simp only [applyDecision, decided, guardedColumnsUpdate, decision_checks timed decided, refuseIf_false,
      terminalColumns_decided (decided_accepts decided), matched, Except.mapError, ok_bind, error_bind,
      stored, accepted, Bool.not_false, refuseIf_true, Bool.false_eq_true, if_false]

end

end Updates

end Decisions

theorem terminalReason_of_live {snapshot : WorkLifecycleSnapshot} (shape : snapshot.shapeOk = true)
    (live : snapshot.state.isTerminal = false) : snapshot.terminalReason = none := by
  cases state : snapshot.state <;>
    simp_all [WorkLifecycleSnapshot.shapeOk, workShapeOk, WorkState.isTerminal]

theorem attemptColumns_injective {first second : CurrentWorkAttempt}
    (same : attemptColumns first = attemptColumns second) : first = second := by
  cases first <;> cases second <;> simp_all [attemptColumns]

variable {first second : WorkLifecycleSnapshot}

theorem storedRow_inj {firstTimes secondTimes : WorkProjectionTimes}
    (same : storedRow first firstTimes = storedRow second secondTimes) :
    first = second ∧ firstTimes = secondTimes := by
  obtain ⟨firstId, firstState, firstVersion, firstOwner, firstAttempt, firstReason, firstTerminal⟩ := first
  obtain ⟨secondId, secondState, secondVersion, secondOwner, secondAttempt, secondReason, secondTerminal⟩ :=
    second
  simp only [storedRow, WorkColumns.mk.injEq] at same
  obtain ⟨rfl, rfl, version, rfl, model, tool, rfl, rfl, started, requested, ended⟩ := same
  have sameVersion : firstVersion = secondVersion := by
    cases firstVersion
    cases secondVersion
    simpa using version
  have sameAttempt : firstAttempt = secondAttempt := attemptColumns_injective (Prod.ext model tool)
  subst sameVersion sameAttempt
  cases firstTimes
  cases secondTimes
  simp_all

def LoadedWork.Current (loaded : LoadedWork) (row : WorkColumns) : Prop :=
  loaded.snapshot.projectionVersion.value < row.stateVersion ∨
    ∃ last times, row = storedRow last times ∧
      loaded = ⟨{ last with terminalReason := loaded.snapshot.terminalReason }, times.startedAt⟩

structure Updated {Client : Type} (system : UpdateSystem Client)
    (log : List (WorkLifecycleSnapshot × WorkLifecycleSnapshot)) : Prop where
  keyed : Keyed WorkColumns.workId system.rows
  stored : ∀ row ∈ system.rows, (storedSnapshots row.workId log).IsChain Decides ∧
    ∃ last times, (storedSnapshots row.workId log).getLast? = some last ∧ row = storedRow last times ∧
      last.shapeOk = true ∧ Timed last.state times.startedAt
  known : ∀ applied ∈ log, ∃ row ∈ system.rows, row.workId = applied.1.workId ∧
    applied.1.projectionVersion.value < row.stateVersion
  once : (log.map fun applied => (applied.1.workId, applied.1.projectionVersion)).Nodup
  held : ∀ client loaded, system.held client = some loaded →
    Timed loaded.snapshot.state loaded.startedAt ∧
      ∃ row ∈ system.rows, row.workId = loaded.snapshot.workId ∧ loaded.Current row

theorem storedSnapshots_other {workId : WorkId}
    {log : List (WorkLifecycleSnapshot × WorkLifecycleSnapshot)} (other : first.workId ≠ workId) :
    storedSnapshots workId (log ++ [(first, second)]) = storedSnapshots workId log := by
  simp [storedSnapshots, other]

theorem storedSnapshots_same (first second : WorkLifecycleSnapshot)
    (log : List (WorkLifecycleSnapshot × WorkLifecycleSnapshot)) :
    storedSnapshots first.workId (log ++ [(first, second)]) =
      storedSnapshots first.workId log ++ [second] := by
  simp [storedSnapshots]

section Steps

variable {Client : Type} {accepts : List WorkColumns → Bool} {system : UpdateSystem Client}
  {log : List (WorkLifecycleSnapshot × WorkLifecycleSnapshot)}

theorem Updated.insert (updated : Updated system log) {workId : WorkId}
    (fresh : ∀ row ∈ system.rows, row.workId ≠ workId) :
    Updated { system with rows := system.rows ++ [storedRow (.initial workId) ⟨none, none, none⟩] } log := by
  refine ⟨updated.keyed.append fresh, ?_, ?_, updated.once, ?_⟩
  · intro row member
    rcases List.mem_append.mp member with old | new
    · exact updated.stored row old
    · rw [List.mem_singleton.mp new]
      have none : (log.filter fun applied => applied.1.workId == workId) = [] := by
        rw [List.filter_eq_nil_iff]
        intro applied appliedIn same
        obtain ⟨known, knownIn, knownId, _⟩ := updated.known applied appliedIn
        exact fresh known knownIn (knownId.trans (beq_iff_eq.mp same))
      have only : storedSnapshots workId log = [.initial workId] := by simp [storedSnapshots, none]
      have isId : (storedRow (.initial workId) ⟨.none, .none, .none⟩).workId = workId := rfl
      rw [isId, only]
      exact ⟨.singleton _, .initial workId, _, rfl, rfl, rfl, Or.inl rfl⟩
  · intro applied appliedIn
    obtain ⟨known, knownIn, facts⟩ := updated.known applied appliedIn
    exact ⟨known, List.mem_append_left _ knownIn, facts⟩
  · intro client loaded isHeld
    obtain ⟨timed, row, rowIn, facts⟩ := updated.held client loaded isHeld
    exact ⟨timed, row, List.mem_append_left _ rowIn, facts⟩

variable {client : Client} {loaded : LoadedWork} {row : WorkColumns} {guard : WorkTransitionGuard}
  {request : WorkTransitionRequest}

theorem Updated.load [DecidableEq Client] (updated : Updated system log)
    {terminalReason : Option WorkTerminalReason} (member : row ∈ system.rows)
    (read : row.load terminalReason = .ok loaded) :
    Updated { system with held := Function.update system.held client (some loaded) } log := by
  refine ⟨updated.keyed, updated.stored, updated.known, updated.once, ?_⟩
  intro other held isHeld
  by_cases same : other = client
  · subst same
    simp only [Function.update_self, Option.some.injEq] at isHeld
    subst isHeld
    obtain ⟨_, last, times, _, rfl, _, timed⟩ := updated.stored row member
    obtain rfl := load_storedRow read
    exact ⟨timed, _, member, rfl, Or.inr ⟨last, times, rfl, rfl⟩⟩
  · simp only [Function.update_of_ne same] at isHeld
    exact updated.held other held isHeld

theorem Updated.found (updated : Updated system log) {decision : WorkTransitionDecision}
    (isHeld : system.held client = some loaded)
    (decided : decideWorkTransition loaded.snapshot guard request = .ok decision)
    (member : row ∈ system.rows) (same : row.workId = loaded.snapshot.workId)
    (version : row.stateVersion = loaded.snapshot.projectionVersion.value) :
    (storedSnapshots row.workId log).getLast? = some loaded.snapshot ∧
      ∃ times, row = storedRow loaded.snapshot times := by
  have accepted := decided_accepts decided
  obtain ⟨_, found, foundIn, foundId, newer | ⟨read, times, isRow, isLoaded⟩⟩ :=
    updated.held client loaded isHeld
  · rw [updated.keyed.eq foundIn member (foundId.trans same.symm)] at newer
    omega
  · rw [updated.keyed.eq foundIn member (foundId.trans same.symm)] at isRow
    obtain ⟨_, last, lastTimes, isLast, isStored, shape, _⟩ := updated.stored row member
    obtain ⟨rfl, rfl⟩ := storedRow_inj (isRow.symm.trans isStored)
    have snapshot : loaded.snapshot = { read with terminalReason := loaded.snapshot.terminalReason } :=
      congrArg LoadedWork.snapshot isLoaded
    have live : read.state.isTerminal = false := by
      have sameState := congrArg WorkLifecycleSnapshot.state snapshot
      rw [← sameState]
      exact accepted.live
    have sameTerminal : loaded.snapshot.terminalReason = read.terminalReason := by
      rw [terminalReason_of_live accepted.shape accepted.live, terminalReason_of_live shape live]
    rw [sameTerminal] at snapshot
    rw [snapshot]
    exact ⟨isLast, times, isRow⟩

theorem Updated.apply (updated : Updated system log) {now : UtcTimestamp}
    {rows : List WorkColumns} {next : WorkLifecycleSnapshot} (isHeld : system.held client = some loaded)
    (applied : applyDecision accepts system.rows loaded guard request now = .ok (rows, next)) :
    Updated { system with rows } (log ++ [(loaded.snapshot, next)]) := by
  simp only [applyDecision, bind_eq_ok, mapError_eq_ok, pure_eq_ok,
    Prod.mk.injEq] at applied
  obtain ⟨decision, decided, changed, updateOk, rfl, rfl⟩ := applied
  have accepted := decided_accepts decided
  have timed := (updated.held client loaded isHeld).1
  obtain ⟨⟨row, member, same, version⟩, sameWork, rfl⟩ := guardedColumnsUpdate_eq_ok updateOk
  obtain ⟨isLast, times, isRow⟩ := updated.found isHeld decided member same version
  have selected : row.matchesGuard loaded.snapshot = true := by
    rw [isRow]
    exact (WorkColumns.Agrees.storedRow times).matchesGuard rfl
  have nextVersion : decision.next.projectionVersion.value = row.stateVersion + 1 := by
    rw [PositiveInteger.checkedIncrement_some accepted.version, version]
  -- Every row but the selected one is kept.
  have cases_ : ∀ {other}, other ∈ update (fun row => row.matchesGuard loaded.snapshot)
      (fun _ => storedRow decision.next (projectionTimes loaded request now)) system.rows →
        other = storedRow decision.next (projectionTimes loaded request now) ∨
          other ∈ system.rows ∧ other.workId ≠ loaded.snapshot.workId := by
    intro other otherIn
    obtain ⟨old, oldIn, rfl⟩ := mem_update.mp otherIn
    by_cases guarded : old.matchesGuard loaded.snapshot = true
    · exact Or.inl (if_pos guarded)
    · rw [if_neg guarded]
      refine Or.inr ⟨oldIn, fun sameId => guarded ?_⟩
      rw [updated.keyed.eq oldIn member (sameId.trans same.symm)]
      exact selected
  have newIn : storedRow decision.next (projectionTimes loaded request now) ∈
      update (fun row => row.matchesGuard loaded.snapshot)
        (fun _ => storedRow decision.next (projectionTimes loaded request now)) system.rows :=
    mem_update_of_selected member selected
  have keptIn : ∀ {other}, other ∈ system.rows → other.workId ≠ loaded.snapshot.workId → other ∈
      update (fun row => row.matchesGuard loaded.snapshot)
        (fun _ => storedRow decision.next (projectionTimes loaded request now)) system.rows := by
    intro other otherIn different
    refine mem_update_of_unselected otherIn ?_
    rw [Bool.eq_false_iff]
    intro guarded
    simp only [WorkColumns.matchesGuard, Bool.and_eq_true, beq_iff_eq] at guarded
    exact different guarded.1.1.1.1.1
  -- A row that was known with a version at most that of the row is newer now.
  have advanced : ∀ {other : WorkColumns} {bound : Nat}, other ∈ system.rows → bound ≤ other.stateVersion →
      other.workId = loaded.snapshot.workId →
        bound < (storedRow decision.next (projectionTimes loaded request now)).stateVersion := by
    intro other bound otherIn le sameId
    rw [updated.keyed.eq otherIn member (sameId.trans same.symm)] at le
    have isVersion : (storedRow decision.next (projectionTimes loaded request now)).stateVersion =
        decision.next.projectionVersion.value := rfl
    omega
  refine ⟨?_, ?_, ?_, ?_, ?_⟩
  · have kept : (update (fun row => row.matchesGuard loaded.snapshot)
        (fun _ => storedRow decision.next (projectionTimes loaded request now)) system.rows).map
          WorkColumns.workId = system.rows.map WorkColumns.workId := by
      refine map_update_of_kept fun other otherIn guarded => ?_
      simp only [WorkColumns.matchesGuard, Bool.and_eq_true, beq_iff_eq] at guarded
      rw [guarded.1.1.1.1.1]
      exact sameWork
    rw [Keyed, kept]
    exact updated.keyed
  · intro other otherIn
    rcases cases_ otherIn with rfl | ⟨old, different⟩
    · have isId : (storedRow decision.next (projectionTimes loaded request now)).workId =
          loaded.snapshot.workId := sameWork
      rw [isId, storedSnapshots_same]
      obtain ⟨chain, _⟩ := updated.stored row member
      rw [same] at chain isLast
      refine ⟨List.isChain_append.mpr ⟨chain, .singleton _, ?_⟩, decision.next, _, by simp, rfl,
        accepted.nextShape, timed_next timed decided⟩
      intro first isFirst second isSecond
      rw [isLast, Option.mem_some_iff] at isFirst
      simp only [List.head?_cons, Option.mem_some_iff] at isSecond
      rw [← isFirst, ← isSecond]
      exact ⟨guard, request, (stepWork_eq_some_iff _ _ _ _).mpr accepted⟩
    · rw [storedSnapshots_other different.symm]
      exact updated.stored other old
  · intro entry entryIn
    rcases List.mem_append.mp entryIn with old | new
    · obtain ⟨known, knownIn, knownId, less⟩ := updated.known entry old
      by_cases sameId : known.workId = loaded.snapshot.workId
      · exact ⟨_, newIn, sameWork.trans (sameId.symm.trans knownId), advanced knownIn less.le sameId⟩
      · exact ⟨known, keptIn knownIn sameId, knownId, less⟩
    · rw [List.mem_singleton.mp new]
      exact ⟨_, newIn, sameWork, advanced member version.ge same⟩
  · rw [List.map_append, List.nodup_append]
    refine ⟨updated.once, List.nodup_singleton _, ?_⟩
    intro old oldIn new newIn sameKey
    obtain ⟨entry, entryIn, rfl⟩ := List.mem_map.mp oldIn
    simp only [List.map_cons, List.map_nil, List.mem_singleton] at newIn
    rw [newIn, Prod.mk.injEq] at sameKey
    obtain ⟨known, knownIn, knownId, less⟩ := updated.known entry entryIn
    rw [updated.keyed.eq knownIn member (knownId.trans (sameKey.1.trans same.symm)), version,
      sameKey.2] at less
    exact Nat.lt_irrefl _ less
  · intro other held otherHeld
    obtain ⟨heldTimed, found, foundIn, foundId, current⟩ := updated.held other held otherHeld
    refine ⟨heldTimed, ?_⟩
    by_cases sameId : found.workId = loaded.snapshot.workId
    · refine ⟨_, newIn, sameWork.trans (sameId.symm.trans foundId), Or.inl ?_⟩
      refine advanced foundIn ?_ sameId
      rcases current with newer | ⟨last, lastTimes, rfl, isHeldRow⟩
      · exact newer.le
      · rw [isHeldRow]
        exact le_rfl
    · exact ⟨found, keptIn foundIn sameId, foundId, current⟩

variable [DecidableEq Client]

theorem Updated.afterOffer (updated : Updated system log) (move : UpdateMove Client) :
    Updated (offer (updateStep accepts) system move)
      (log ++ (appliedUpdate accepts system move).toList) := by
  cases stepped : updateStep accepts system move with
  | none =>
    rw [offer_refused stepped]
    have nothing : appliedUpdate accepts system move = none := by
      cases move with
      | insert | load => rfl
      | apply client guard request now =>
        simp only [updateStep, appliedUpdate] at stepped ⊢
        split
        · rfl
        · rename_i loaded isHeld
          rw [isHeld, Option.map_eq_none_iff] at stepped
          rw [stepped]
          rfl
    rw [nothing, Option.toList_none, List.append_nil]
    exact updated
  | some next =>
    rw [offer_accepted stepped]
    cases move with
    | insert workId =>
      simp only [updateStep, ite_eq_iff, reduceCtorEq, and_false, false_or, Option.some.injEq,
        Bool.not_eq_true, List.any_eq_false, beq_iff_eq] at stepped
      obtain ⟨fresh, rfl⟩ := stepped
      simpa [appliedUpdate] using updated.insert fresh
    | load client workId terminalReason =>
      simp only [updateStep] at stepped
      split at stepped
      · cases stepped
      · rename_i row found
        obtain ⟨loaded, read, rfl⟩ := Option.map_eq_some_iff.mp stepped
        simpa [appliedUpdate] using
          updated.load (List.mem_of_find?_eq_some found) (toOption_eq_some.mp read)
    | apply client guard request now =>
      simp only [updateStep] at stepped
      split at stepped
      · cases stepped
      · rename_i loaded isHeld
        obtain ⟨⟨rows, decided⟩, applied, rfl⟩ := Option.map_eq_some_iff.mp stepped
        simpa [appliedUpdate, isHeld, applied] using updated.apply isHeld (toOption_eq_some.mp applied)

theorem Updated.afterRun (moves : List (UpdateMove Client)) : ∀ {system : UpdateSystem Client}
    {log : List (WorkLifecycleSnapshot × WorkLifecycleSnapshot)}, Updated system log →
      Updated (replay (updateStep accepts) system moves) (log ++ appliedUpdates accepts system moves) := by
  induction moves with
  | nil =>
    intro system log updated
    simpa [appliedUpdates] using updated
  | cons move rest ih =>
    intro system log updated
    have extended : Updated (replay (updateStep accepts) (offer (updateStep accepts) system move) rest) _ :=
      ih (updated.afterOffer move)
    rwa [List.append_assoc] at extended

end Steps

theorem Updated.empty (Client : Type) : Updated (UpdateSystem.empty Client) [] := by
  refine ⟨List.nodup_nil, ?_, ?_, List.nodup_nil, ?_⟩ <;> simp [UpdateSystem.empty]

/-- For every run of any number of clients. -/
theorem guarded_updates_not_lost {Client : Type} [DecidableEq Client]
    (accepts : List WorkColumns → Bool) (moves : List (UpdateMove Client)) :
    let system := replay (updateStep accepts) (.empty Client) moves
    let log := appliedUpdates accepts (.empty Client) moves
    (log.map fun applied => (applied.1.workId, applied.1.projectionVersion)).Nodup ∧
    (∀ row ∈ system.rows, (storedSnapshots row.workId log).IsChain Decides ∧
      ∃ last times, (storedSnapshots row.workId log).getLast? = some last ∧ row = storedRow last times) ∧
    ∀ client loaded, system.held client = some loaded → ∀ guard request decision now,
      decideWorkTransition loaded.snapshot guard request = .ok decision →
        ∃ row ∈ system.rows, row.workId = loaded.snapshot.workId ∧
          (row.Agrees loaded.snapshot →
            ∃ updated, applyDecision accepts system.rows loaded guard request now =
              if accepts updated then .ok (updated, decision.next) else .error (.update .storage)) ∧
          (¬row.Agrees loaded.snapshot →
            (∃ kind, applyDecision accepts system.rows loaded guard request now =
              .error (.update (.conflict kind))) ∧
            updateStep accepts system (.apply client guard request now) = none) := by
  intro system log
  have updated : Updated system log := (Updated.empty Client).afterRun moves
  refine ⟨updated.once, ?_, ?_⟩
  · intro row member
    obtain ⟨chain, last, times, isLast, isRow, _⟩ := updated.stored row member
    exact ⟨chain, last, times, isLast, isRow⟩
  · intro client loaded isHeld guard request decision now decided
    obtain ⟨timed, row, member, same, current⟩ := updated.held client loaded isHeld
    refine ⟨row, member, same, ?_, ?_⟩
    · intro agrees
      have single : system.rows.filter (fun other => other.matchesGuard loaded.snapshot) = [row] := by
        refine updated.keyed.filter_eq_singleton member (agrees.matchesGuard same) ?_
        intro other otherIn guarded
        simp only [WorkColumns.matchesGuard, Bool.and_eq_true, beq_iff_eq] at guarded
        exact updated.keyed.eq otherIn member (guarded.1.1.1.1.1.trans same.symm)
      have matched : (system.rows.countP fun other => other.matchesGuard loaded.snapshot) = 1 := by
        rw [List.countP_eq_length_filter, single]
        rfl
      exact ⟨_, applyDecision_matched timed decided matched⟩
    · intro differs
      have newer : loaded.snapshot.projectionVersion.value < row.stateVersion := by
        rcases current with newer | ⟨last, times, rfl, isLoaded⟩
        · exact newer
        · refine absurd ?_ differs
          rw [isLoaded]
          exact ⟨rfl, rfl, rfl, rfl, rfl⟩
      obtain ⟨kind, isConflict⟩ := classifyWorkConflict_newer updated.keyed member same newer
      have refused : applyDecision accepts system.rows loaded guard request now =
          .error (.update (.conflict kind)) := by
        rw [applyDecision_unmatched timed decided
          (countP_matchesGuard_newer updated.keyed member same newer), isConflict]
      refine ⟨⟨kind, refused⟩, ?_⟩
      simp only [updateStep, isHeld, refused]
      rfl

def sampleRace : List (UpdateMove Bool) :=
  [.insert ⟨sampleUuid 1⟩, .load true ⟨sampleUuid 1⟩ none,
    .load false ⟨sampleUuid 1⟩ none,
    .apply true (.forSnapshot (.initial ⟨sampleUuid 1⟩)) (.start ⟨sampleUuid 2⟩) 1]

theorem guarded_updates_not_lost_race :
    let system := replay (updateStep fun _ => true) (.empty Bool) sampleRace
    ∃ loaded, system.held false = some loaded ∧ ∃ kind,
      applyDecision (fun _ => true) system.rows loaded (.forSnapshot loaded.snapshot)
        (.start ⟨sampleUuid 3⟩) 2 = .error (.update (.conflict kind)) := by
  intro system
  have isHeld : system.held false = some ⟨.initial ⟨sampleUuid 1⟩, none⟩ := by decide +kernel
  have decides : (decideWorkTransition (.initial ⟨sampleUuid 1⟩)
      (.forSnapshot (.initial ⟨sampleUuid 1⟩)) (.start ⟨sampleUuid 3⟩)).isOk = true := by decide
  obtain ⟨decision, decided⟩ := isOk_iff.mp decides
  obtain ⟨row, member, same, _, conflict⟩ := (guarded_updates_not_lost (fun _ => true) sampleRace).2.2
    false _ isHeld _ _ decision 2 decided
  refine ⟨_, isHeld, (conflict fun agrees => ?_).1⟩
  have moved : (system.rows.all fun row => row.state == .running) = true := by decide +kernel
  have running := List.all_eq_true.mp moved row member
  rw [beq_iff_eq, agrees.state] at running
  cases running

end Craxii
