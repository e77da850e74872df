import Craxii.Runtime.StartupCore
import Craxii.Store.UnitRuns

/-!
What a sequence of startups does to a store, wherever each of them is cut.
-/

namespace Craxii

open ExceptRules GuardedRun Tables

/-- What the schema and the shutdown of a runtime guarantee of a store: an active work is
owned by a runtime that has not stopped. -/
structure StoreOk (store : RecoveryStore) : Prop where
  distinctWorks : Keyed WorkUnit.workId store.units
  distinctRuntimes : Keyed RuntimeRow.id store.runtimes
  shaped : ∀ unit ∈ store.units, unit.work.shapeOk = true
  owners : ∀ unit ∈ store.units, ∀ owner, unit.work.runtimeOwner = some owner →
    ∃ row ∈ store.runtimes, row.id = owner ∧ row.state.isStopped = false

def RecoveryStore.Unowned (store : RecoveryStore) (runtimeId : RuntimeInstanceId) : Prop :=
  ∀ unit ∈ store.units, unit.work.runtimeOwner ≠ some runtimeId

def RecoveryStore.OpenWithin (store : RecoveryStore) (runtimes : List RuntimeInstanceId) : Prop :=
  ∀ row ∈ store.runtimes, row.state.isStopped = false → row.id ∈ runtimes

def StreamEvent.terminates (event : StreamEvent) (workId : WorkId) : Bool :=
  event.workId == workId &&
    match event.fact with
    | .workTransition _ next => next.state.isTerminal
    | _ => false

def terminalEvents (events : List StreamEvent) (workId : WorkId) : Nat :=
  events.countP (·.terminates workId)

/-- The work is as it was and no event ended it, or it was active and exactly one event has
ended it. -/
def WorkProgress (unit : WorkUnit) (added : List StreamEvent) (after : RecoveryStore) : Prop :=
  ∃ now ∈ after.units, now.workId = unit.workId ∧
    (now = unit ∧ terminalEvents added unit.workId = 0 ∨
      unit.work.state.isActive = true ∧ now.work.state.isTerminal = true ∧
        terminalEvents added unit.workId = 1)

structure StoreProgress (before after : RecoveryStore) : Prop where
  sameWorks : after.units.map WorkUnit.workId = before.units.map WorkUnit.workId
  history : ∃ added, after.journal = before.journal ++ added ∧
    ∀ unit ∈ before.units, WorkProgress unit added after

theorem StoreProgress.refl (store : RecoveryStore) : StoreProgress store store := by
  refine ⟨rfl, [], by simp, ?_⟩
  intro unit member
  exact ⟨unit, member, rfl, .inl ⟨rfl, rfl⟩⟩

theorem StoreProgress.of_works {before middle after : RecoveryStore}
    (progress : StoreProgress before middle) (sameUnits : after.units = middle.units)
    (sameJournal : after.journal = middle.journal) : StoreProgress before after := by
  obtain ⟨sameWorks, added, journal, works⟩ := progress
  refine ⟨by rw [sameUnits, sameWorks], added, by rw [sameJournal, journal], ?_⟩
  intro unit member
  obtain ⟨now, nowIn, rest⟩ := works unit member
  exact ⟨now, sameUnits ▸ nowIn, rest⟩

section Transactions

variable {store next : RecoveryStore} {request : RecoverStaleRuntimeRequest} {workId : WorkId}
  {runtimeId : RuntimeInstanceId} {stoppedAt : UtcTimestamp} {counters : RecoveryCounters}

structure WorkRecovered (store : RecoveryStore) (request : RecoverStaleRuntimeRequest)
    (workId : WorkId) (unit : WorkUnit) (result : RecoveredUnit) (next : RecoveryStore) : Prop where
  member : unit ∈ store.units
  sameId : unit.workId = workId
  ended : UnitEnded unit request.staleRuntimeId result
  runtimes : next.runtimes = store.runtimes
  units : next.units = update (fun row => row.workId == workId) (fun _ => result.unit) store.units
  journal : next.journal = store.journal ++
    result.facts.map fun fact => ⟨workId, request.currentRuntimeId, request.recoveredAt, fact⟩

theorem recoverWorkUnit_eq_ok (committed : recoverWorkUnit store request workId = .ok (next, counters)) :
    ∃ unit result, WorkRecovered store request workId unit result next := by
  simp only [recoverWorkUnit, bind_eq_ok, orRefuse_eq_ok, pure_eq_ok,
    Prod.mk.injEq] at committed
  obtain ⟨unit, found, result, recovered, rfl, _⟩ := committed
  obtain ⟨member, sameId⟩ := mem_of_lookup found
  exact ⟨unit, result, member, sameId, recoverUnit_eq_ok recovered, rfl, rfl, rfl⟩

section Recovered

variable {unit : WorkUnit} {result : RecoveredUnit}

theorem WorkRecovered.mem_units (recovered : WorkRecovered store request workId unit result next)
    {row : WorkUnit} (member : row ∈ next.units) :
    row = result.unit ∨ row ∈ store.units ∧ row.workId ≠ workId := by
  rw [recovered.units, mem_update] at member
  obtain ⟨old, oldIn, rfl⟩ := member
  by_cases selected : old.workId = workId
  · simp [selected]
  · simp [selected, oldIn]

theorem UnitEnded.unowned {staleRuntimeId : RuntimeInstanceId}
    (ended : UnitEnded unit staleRuntimeId result) : result.unit.work.runtimeOwner = none := by
  have shape := ended.shape
  rcases ended.ended with state | state <;>
    (simp only [WorkLifecycleSnapshot.shapeOk, workShapeOk, state] at shape; simp_all)

theorem UnitEnded.terminal {staleRuntimeId : RuntimeInstanceId}
    (ended : UnitEnded unit staleRuntimeId result) : result.unit.work.state.isTerminal = true := by
  rcases ended.ended with state | state <;> rw [state] <;> rfl

section

variable (recovered : WorkRecovered store request workId unit result next)
include recovered

theorem WorkRecovered.unowned (unowned : store.Unowned runtimeId) : next.Unowned runtimeId := by
  intro row member
  rcases recovered.mem_units member with rfl | ⟨member, _⟩
  · simp [recovered.ended.unowned]
  · exact unowned row member

theorem WorkRecovered.sameWorks :
    next.units.map WorkUnit.workId = store.units.map WorkUnit.workId := by
  rw [recovered.units, update, List.map_map]
  refine List.map_congr_left fun row _ => ?_
  by_cases selected : row.workId = workId
  · have sameWork : result.unit.workId = unit.workId := recovered.ended.sameWork
    simp [selected, sameWork, recovered.sameId]
  · simp [selected]

theorem WorkRecovered.storeOk (ok : StoreOk store) : StoreOk next := by
  refine ⟨?_, ?_, ?_, ?_⟩
  · rw [Keyed, recovered.sameWorks]
    exact ok.distinctWorks
  · rw [recovered.runtimes]
    exact ok.distinctRuntimes
  · intro row member
    rcases recovered.mem_units member with rfl | ⟨member, _⟩
    · exact recovered.ended.shape
    · exact ok.shaped row member
  · intro row member owner owned
    rw [recovered.runtimes]
    rcases recovered.mem_units member with rfl | ⟨member, _⟩
    · simp [recovered.ended.unowned] at owned
    · exact ok.owners row member owner owned

theorem WorkRecovered.terminalEvents_added (other : WorkId) :
    terminalEvents (result.facts.map fun fact =>
      ⟨workId, request.currentRuntimeId, request.recoveredAt, fact⟩) other =
      if other = workId then 1 else 0 := by
  obtain ⟨attemptFacts, current, facts, noTransition⟩ := recovered.ended.facts
  rw [terminalEvents, List.countP_map, facts, List.countP_append]
  have attempts : attemptFacts.countP ((fun event : StreamEvent => event.terminates other) ∘
      fun fact => ⟨workId, request.currentRuntimeId, request.recoveredAt, fact⟩) = 0 := by
    rw [List.countP_eq_zero]
    intro fact member
    have quiet := noTransition fact member
    cases fact <;> simp [StreamEvent.terminates, UnitFact.isWorkTransition] at quiet ⊢
  rw [attempts]
  by_cases same : other = workId
  · subst same
    simp [StreamEvent.terminates, recovered.ended.terminal]
  · have different : workId ≠ other := fun equal => same equal.symm
    simp [StreamEvent.terminates, same, different]

theorem WorkRecovered.progress
    (ok : StoreOk store) {before : RecoveryStore} (progress : StoreProgress before store) :
    StoreProgress before next := by
  obtain ⟨sameWorks, added, journal, works⟩ := progress
  refine ⟨recovered.sameWorks.trans sameWorks, added ++ result.facts.map fun fact =>
    ⟨workId, request.currentRuntimeId, request.recoveredAt, fact⟩, ?_, ?_⟩
  · rw [recovered.journal, journal, List.append_assoc]
  intro first firstIn
  obtain ⟨now, nowIn, sameId, state⟩ := works first firstIn
  have counted := recovered.terminalEvents_added first.workId
  by_cases selected : first.workId = workId
  · -- The recovered unit is active, so no event has ended this work before.
    have nowUnit : now = unit :=
      ok.distinctWorks.eq nowIn recovered.member (sameId.trans (selected.trans recovered.sameId.symm))
    subst nowUnit
    have live := WorkState.isActive_live recovered.ended.active
    rcases state with ⟨same, none⟩ | ⟨_, ended, _⟩
    · subst same
      refine ⟨result.unit, ?_, recovered.ended.sameWork, .inr ⟨recovered.ended.active,
        recovered.ended.terminal, ?_⟩⟩
      · rw [recovered.units]
        exact mem_update.mpr ⟨now, nowIn, by simp [selected]⟩
      · rw [if_pos selected] at counted
        rw [terminalEvents, List.countP_append, ← terminalEvents, ← terminalEvents, none, counted]
    · rw [live] at ended
      cases ended
  · refine ⟨now, ?_, sameId, ?_⟩
    · rw [recovered.units]
      exact mem_update_of_unselected nowIn (by simpa [sameId] using selected)
    · rw [if_neg selected] at counted
      rw [terminalEvents, List.countP_append, ← terminalEvents, ← terminalEvents, counted]
      exact state

end

end Recovered

theorem stopRuntime_eq_ok (committed : stopRuntime store runtimeId stoppedAt = .ok next) :
    (∃ row ∈ store.runtimes, row.mayStop runtimeId stoppedAt = true) ∧
      next = { store with
        runtimes := update (·.mayStop runtimeId stoppedAt) (fun row => { row with state := .stopped })
          store.runtimes } := by
  simp only [stopRuntime, bind_eq_ok, refuseIf_eq_ok, pure_eq_ok,
    bne_eq_false_iff_eq] at committed
  obtain ⟨_, one, rfl⟩ := committed
  refine ⟨?_, rfl⟩
  apply List.countP_pos_iff.mp
  rw [one]
  exact Nat.one_pos

variable {row : RuntimeRow} {startedAt : UtcTimestamp} {unit : WorkUnit}

theorem RuntimeRow.mayStop_iff : row.mayStop runtimeId stoppedAt = true ↔
    row.id = runtimeId ∧ row.state.isStopped = false ∧ row.startedAt ≤ stoppedAt := by
  simp [RuntimeRow.mayStop, and_assoc]

theorem stopRuntime_open (ok : StoreOk store)
    (committed : stopRuntime store runtimeId stoppedAt = .ok next) (member : row ∈ next.runtimes)
    (open' : row.state.isStopped = false) : row ∈ store.runtimes ∧ row.id ≠ runtimeId := by
  obtain ⟨⟨stopped, stoppedIn, selected⟩, rfl⟩ := stopRuntime_eq_ok committed
  obtain ⟨old, oldIn, rfl⟩ := mem_update.mp member
  by_cases oldSelected : old.mayStop runtimeId stoppedAt = true
  · rw [if_pos oldSelected] at open'
    cases open'
  · rw [if_neg oldSelected] at open' ⊢
    refine ⟨oldIn, fun same => oldSelected ?_⟩
    rw [ok.distinctRuntimes.eq oldIn stoppedIn (same.trans (RuntimeRow.mayStop_iff.mp selected).1.symm)]
    exact selected

theorem stopRuntime_works (committed : stopRuntime store runtimeId stoppedAt = .ok next) :
    next.units = store.units ∧ next.journal = store.journal := by
  obtain ⟨_, rfl⟩ := stopRuntime_eq_ok committed
  exact ⟨rfl, rfl⟩

theorem stopRuntime_storeOk (ok : StoreOk store) (unowned : store.Unowned runtimeId)
    (committed : stopRuntime store runtimeId stoppedAt = .ok next) : StoreOk next := by
  obtain ⟨_, rfl⟩ := stopRuntime_eq_ok committed
  refine ⟨ok.distinctWorks, ok.distinctRuntimes.update fun _ => rfl, ok.shaped, ?_⟩
  intro unit member owner owned
  obtain ⟨row, rowIn, sameId, open'⟩ := ok.owners unit member owner owned
  refine ⟨row, mem_update_of_unselected rowIn ?_, sameId, open'⟩
  rw [Bool.eq_false_iff, Ne, RuntimeRow.mayStop_iff]
  rintro ⟨same, _⟩
  exact unowned unit member (by rw [owned, ← sameId, same])

theorem isActiveOf_of_owned (shape : unit.work.shapeOk = true)
    (owned : unit.work.runtimeOwner = some runtimeId) : unit.isActiveOf runtimeId = true := by
  have active := active_of_owned shape owned
  cases state : unit.work.state <;>
    simp_all [WorkUnit.isActiveOf, WorkState.isActive]

theorem mem_activeWorkIds (ok : StoreOk store) (member : unit ∈ store.units)
    (owned : unit.work.runtimeOwner = some runtimeId) : unit.workId ∈ activeWorkIds store runtimeId :=
  List.mem_map_of_mem (List.mem_filter.mpr
    ⟨member, isActiveOf_of_owned (ok.shaped unit member) owned⟩)

theorem closeStaleRuntime_eq_ok (ok : StoreOk store)
    (committed : closeStaleRuntime store runtimeId stoppedAt = .ok next) :
    store.Unowned runtimeId ∧ stopRuntime store runtimeId stoppedAt = .ok next := by
  simp only [closeStaleRuntime, bind_eq_ok, refuseIf_eq_ok] at committed
  obtain ⟨_, none, stopped⟩ := committed
  refine ⟨?_, stopped⟩
  intro unit member owned
  have listed := mem_activeWorkIds ok member owned
  simp only [Bool.not_eq_false', List.isEmpty_iff] at none
  rw [none] at listed
  cases listed

theorem createRuntime_eq_some (created : createRuntime store runtimeId startedAt = some next) :
    (∀ row ∈ store.runtimes, row.id ≠ runtimeId) ∧
      next = { store with runtimes := store.runtimes ++ [⟨runtimeId, .running, startedAt⟩] } := by
  unfold createRuntime at created
  split at created
  · cases created
  · cases created
    refine ⟨?_, rfl⟩
    simp_all

theorem createRuntime_unowned (ok : StoreOk store)
    (created : createRuntime store runtimeId startedAt = some next) : next.Unowned runtimeId := by
  obtain ⟨fresh, rfl⟩ := createRuntime_eq_some created
  intro unit member owned
  obtain ⟨row, rowIn, sameId, _⟩ := ok.owners unit member runtimeId owned
  exact fresh row rowIn sameId

theorem createRuntime_storeOk (ok : StoreOk store)
    (created : createRuntime store runtimeId startedAt = some next) : StoreOk next := by
  obtain ⟨fresh, rfl⟩ := createRuntime_eq_some created
  refine ⟨ok.distinctWorks, ok.distinctRuntimes.append fresh, ok.shaped, ?_⟩
  intro unit member owner owned
  obtain ⟨row, rowIn, sameId, open'⟩ := ok.owners unit member owner owned
  exact ⟨row, List.mem_append_left _ rowIn, sameId, open'⟩

theorem enumerateStale_openWithin (store : RecoveryStore) (current : RuntimeInstanceId) :
    store.OpenWithin (current :: enumerateStale store current) := by
  intro row member open'
  rw [List.mem_cons]
  by_cases same : row.id = current
  · exact .inl same
  · right
    refine List.mem_map_of_mem ((List.perm_insertionSort _ _).mem_iff.mpr (List.mem_filter.mpr ⟨member, ?_⟩))
    simp [open', same]

end Transactions

def StartupPoint.remaining : StartupPoint → Option (List RuntimeInstanceId)
  | .recovering current stale => some (current :: stale)
  | .recoveringWorks request _ rest => some (request.currentRuntimeId :: request.staleRuntimeId :: rest)
  | .completed current => some [current]
  | .down | .enumerating _ | .failing _ => none

structure StartupOk (system : StartupSystem) : Prop where
  store : StoreOk system.store
  unowned : ∀ current, system.point.current = some current → system.store.Unowned current
  openWithin : ∀ runtimes, system.point.remaining = some runtimes → system.store.OpenWithin runtimes

section Steps

variable {system next : StartupSystem} {before : RecoveryStore}

variable {rest : List RuntimeInstanceId} {request : RecoverStaleRuntimeRequest}
  {store : RecoveryStore} {current : RuntimeInstanceId} {point : StartupPoint}

theorem StartupOk.at_unrestricted (ok : StoreOk store)
    (unowned : ∀ current, point.current = some current → store.Unowned current)
    (unrestricted : point.remaining = none) : StartupOk ⟨store, point⟩ := by
  refine ⟨ok, unowned, ?_⟩
  intro runtimes restricted
  rw [unrestricted] at restricted
  cases restricted

theorem StartupOk.down (ok : StoreOk store) : StartupOk ⟨store, .down⟩ :=
  .at_unrestricted ok (by simp [StartupPoint.current]) rfl

theorem StartupOk.to_point (ok : StartupOk system)
    (sameProcess : point.current = system.point.current)
    (openWithin : ∀ runtimes, point.remaining = some runtimes → system.store.OpenWithin runtimes) :
    StartupOk { system with point } := by
  refine ⟨ok.store, ?_, openWithin⟩
  intro current running
  exact ok.unowned current (sameProcess ▸ running)

theorem StartupOk.to_failing (ok : StartupOk system)
    (running : system.point.current = some current) :
    StartupOk { system with point := .failing current } :=
  ok.to_point running.symm (by simp [StartupPoint.remaining])

def Advances (before : RecoveryStore) (next : StartupSystem) : Prop :=
  StartupOk next ∧ StoreProgress before next.store

theorem beginStaleRuntime_ok {stale : RuntimeInstanceId}
    (ok : StartupOk system) (point : system.point = .recovering current (stale :: rest))
    (recoveredAt : UtcTimestamp) :
    StartupOk { system with
      point := beginStaleRuntime system.store ⟨stale, current, recoveredAt⟩ rest } := by
  have running : system.point.current = some current := by rw [point]; rfl
  have openWithin := ok.openWithin _ (by rw [point]; rfl)
  unfold beginStaleRuntime
  split
  · exact ok.to_failing running
  · split
    · -- The runtime has stopped, so it is not among the open ones.
      rename_i stopped
      refine ok.to_point (by rw [running]; rfl) ?_
      rintro _ ⟨⟩ row member open'
      have listed := openWithin row member open'
      simp only [List.mem_cons] at listed ⊢
      rcases listed with same | same | listed
      · exact .inl same
      · exfalso
        rw [← same, ok.store.distinctRuntimes.lookup member] at stopped
        simp only [Option.map_some, Option.some.injEq] at stopped
        rw [stopped] at open'
        cases open'
      · exact .inr listed
    · dsimp only
      split
      · refine ok.to_point (by rw [running]; rfl) ?_
        rintro _ ⟨⟩
        exact openWithin
      · exact ok.to_failing running
    · dsimp only
      split
      · refine ok.to_point (by rw [running]; rfl) ?_
        rintro _ ⟨⟩
        exact openWithin
      · exact ok.to_failing running
    · exact ok.to_failing running

section

variable (ok : StartupOk system) (progress : StoreProgress before system.store)
include ok progress

theorem advance_recoverWork {workId : WorkId} {works : List WorkId} {counters : RecoveryCounters}
    (point : system.point = .recoveringWorks request (workId :: works) rest)
    (committed : recoverWorkUnit system.store request workId = .ok (store, counters)) :
    Advances before ⟨store, .recoveringWorks request works rest⟩ := by
  obtain ⟨unit, result, recovered⟩ := recoverWorkUnit_eq_ok committed
  refine ⟨⟨recovered.storeOk ok.store, ?_, ?_⟩, recovered.progress ok.store progress⟩
  · rintro _ ⟨⟩
    exact recovered.unowned (ok.unowned _ (by rw [point]; rfl))
  · rintro _ ⟨⟩
    intro row member
    rw [recovered.runtimes] at member
    exact ok.openWithin _ (by rw [point]; rfl) row member

theorem advance_close (point : system.point = .recoveringWorks request [] rest)
    (committed : closeStaleRuntime system.store request.staleRuntimeId request.recoveredAt = .ok store) :
    Advances before ⟨store, .recovering request.currentRuntimeId rest⟩ := by
  obtain ⟨unowned, stopped⟩ := closeStaleRuntime_eq_ok ok.store committed
  obtain ⟨sameUnits, sameJournal⟩ := stopRuntime_works stopped
  refine ⟨⟨stopRuntime_storeOk ok.store unowned stopped, ?_, ?_⟩,
    progress.of_works sameUnits sameJournal⟩
  · rintro _ ⟨⟩ unit member
    rw [sameUnits] at member
    exact ok.unowned _ (by rw [point]; rfl) unit member
  · rintro _ ⟨⟩ row member open'
    obtain ⟨oldIn, other⟩ := stopRuntime_open ok.store stopped member open'
    have listed := ok.openWithin _ (by rw [point]; rfl) row oldIn open'
    simp only [List.mem_cons] at listed ⊢
    rcases listed with same | same | listed
    · exact .inl same
    · exact absurd same other
    · exact .inr listed

theorem advance_markFailure {stoppedAt : UtcTimestamp} (point : system.point = .failing current)
    (committed : stopRuntime system.store current stoppedAt = .ok store) :
    Advances before ⟨store, .down⟩ := by
  obtain ⟨sameUnits, sameJournal⟩ := stopRuntime_works committed
  have unowned := ok.unowned current (by rw [point]; rfl)
  exact ⟨.down (stopRuntime_storeOk ok.store unowned committed), progress.of_works sameUnits sameJournal⟩

theorem advanceStep_ok {clock : Option UtcTimestamp} (stepped : advanceStep system clock = some next) :
    Advances before next := by
  unfold advanceStep at stepped
  split at stepped
  · cases stepped
  · cases stepped
  · rename_i current point
    cases stepped
    exact ⟨ok.to_failing (by rw [point]; rfl), progress⟩
  · rename_i current stale point
    cases stepped
    exact ⟨ok.to_failing (by rw [point]; rfl), progress⟩
  · rename_i current _ point
    cases stepped
    refine ⟨ok.to_point (by rw [point]; rfl) ?_, progress⟩
    rintro _ ⟨⟩
    exact enumerateStale_openWithin system.store current
  · rename_i current _ point
    cases stepped
    refine ⟨?_, progress⟩
    unfold summaryPoint
    split
    · refine ok.to_point (by rw [point]; rfl) ?_
      rintro _ ⟨⟩
      exact ok.openWithin _ (by rw [point]; rfl)
    · exact ok.to_failing (by rw [point]; rfl)
  · rename_i current stale rest recoveredAt point
    cases stepped
    exact ⟨beginStaleRuntime_ok ok point recoveredAt, progress⟩
  · rename_i request workId works rest point
    split at stepped
    · rename_i committed
      cases stepped
      exact advance_recoverWork ok progress point committed
    · cases stepped
      exact ⟨ok.to_failing (by rw [point]; rfl), progress⟩
  · rename_i request rest point
    split at stepped
    · rename_i committed
      cases stepped
      exact advance_close ok progress point committed
    · cases stepped
      exact ⟨ok.to_failing (by rw [point]; rfl), progress⟩
  · rename_i current point
    split at stepped
    · rename_i committed
      cases stepped
      exact advance_markFailure ok progress point committed
    · cases stepped
      exact ⟨.down ok.store, progress⟩

end

theorem failStep_ok (ok : StartupOk system) (stepped : failStep system = some next) :
    StartupOk next ∧ next.store = system.store := by
  unfold failStep at stepped
  split at stepped
  · cases stepped
    exact ⟨.down ok.store, rfl⟩
  · simp only [Option.map_eq_some_iff] at stepped
    obtain ⟨current, running, rfl⟩ := stepped
    exact ⟨ok.to_failing running, rfl⟩

theorem startupStep_ok (ok : StartupOk system) (progress : StoreProgress before system.store)
    {move : StartupMove} (stepped : startupStep system move = some next) : Advances before next := by
  cases move with
  | start runtimeId startedAt =>
    simp only [startupStep] at stepped
    split at stepped
    · simp only [Option.map_eq_some_iff] at stepped
      obtain ⟨store, created, rfl⟩ := stepped
      refine ⟨.at_unrestricted (createRuntime_storeOk ok.store created) ?_ rfl, ?_⟩
      · rintro _ ⟨⟩
        exact createRuntime_unowned ok.store created
      · obtain ⟨_, rfl⟩ := createRuntime_eq_some created
        exact progress.of_works rfl rfl
    · cases stepped
  | advance clock => exact advanceStep_ok ok progress stepped
  | fail =>
    obtain ⟨nextOk, sameStore⟩ := failStep_ok ok stepped
    exact ⟨nextOk, sameStore ▸ progress⟩
  | crash =>
    cases stepped
    exact ⟨.down ok.store, progress⟩

end Steps

theorem startups_recover_once {store : RecoveryStore} (ok : StoreOk store) (moves : List StartupMove) :
    let reached := replay startupStep ⟨store, .down⟩ moves
    StoreProgress store reached.store ∧
      (∀ unit ∈ store.units, unit.work.state = .queued → unit ∈ reached.store.units) ∧
      ∀ current, reached.point = .completed current →
        (∀ unit ∈ reached.store.units, unit.work.state.isActive = true →
          unit.work.runtimeOwner = some current) ∧
        ∀ row ∈ reached.store.runtimes, row.id ≠ current → row.state = .stopped := by
  intro reached
  have held : Advances store reached :=
    replay_invariant (Advances store)
      (fun _ _ _ holds stepped => startupStep_ok holds.1 holds.2 stepped)
      ⟨.down ok, .refl store⟩ moves
  obtain ⟨reachedOk, progress⟩ := held
  refine ⟨progress, ?_, ?_⟩
  · intro unit member queued
    obtain ⟨_, added, _, works⟩ := progress
    obtain ⟨now, nowIn, _, ⟨same, _⟩ | ⟨active, _⟩⟩ := works unit member
    · exact same ▸ nowIn
    · rw [queued] at active
      cases active
  · intro current completed
    have openWithin := reachedOk.openWithin [current] (by rw [completed]; rfl)
    refine ⟨?_, ?_⟩
    · intro unit member active
      have shape := reachedOk.store.shaped unit member
      obtain ⟨owner, owned⟩ := owner_of_active shape active
      obtain ⟨row, rowIn, sameId, open'⟩ := reachedOk.store.owners unit member owner owned
      have isCurrent : row.id = current := by simpa using openWithin row rowIn open'
      rw [owned, ← sameId, isCurrent]
    · intro row member other
      cases state : row.state with
      | stopped => rfl
      | running | stopping =>
        exact absurd (by simpa using openWithin row member (by rw [state]; rfl)) other

def staleRuntime : RuntimeInstanceId := ⟨sampleUuid 2⟩

def secondRuntime : RuntimeInstanceId := ⟨sampleUuid 3⟩

def thirdRuntime : RuntimeInstanceId := ⟨sampleUuid 4⟩

def crashedStore : RecoveryStore where
  runtimes := [⟨staleRuntime, .running, 10⟩]
  units := [{ WorkUnit.queued sampleWork with
    work := activeWork sampleWork staleRuntime .one .none, startedAt := some 12 }]
  journal := [⟨sampleWork, staleRuntime, 11, .recorded⟩]

def startupsCutOnce : List StartupMove :=
  [.start secondRuntime 30, .advance (some 31), .advance (some 32), .advance none, .crash,
    .start thirdRuntime 40, .advance (some 41), .advance (some 42), .advance none, .advance (some 43),
    .advance none, .advance (some 44)]

theorem startupsCutOnce_recover :
    (replay startupStep ⟨crashedStore, .down⟩ startupsCutOnce).point = .completed thirdRuntime ∧
      StoreProgress crashedStore (replay startupStep ⟨crashedStore, .down⟩ startupsCutOnce).store := by
  refine ⟨by decide +kernel, (startups_recover_once ?_ startupsCutOnce).1⟩
  refine ⟨by simp [Keyed, crashedStore], by simp [Keyed, crashedStore], by decide, ?_⟩
  intro unit member owner owned
  refine ⟨⟨staleRuntime, .running, 10⟩, by simp [crashedStore], ?_, rfl⟩
  simp only [crashedStore, List.mem_singleton] at member
  subst member
  exact Option.some.inj owned

end Craxii
