import Craxii.Store.CommandVerify

/-!
Whole runs of the store as runs of the ledger: the journal only grows and retells the works.
-/

namespace Craxii

open ExceptRules Tables GuardedRun

def JournalEvent.transitionOf (workId : WorkId) (event : JournalEvent) : Option WorkTransitionV1 :=
  match event.payload with
  | .workTransition _ transition | .workCancelRequestedV2 transition _
  | .workCancelledV2 transition _ => if transition.workId = workId then some transition else none
  | _ => none

/-- A snapshot reached by accepted decisions, and the transitions that journal them. -/
inductive DecidedThrough : WorkLifecycleSnapshot → List WorkTransitionV1 → Prop
  | initial (workId : WorkId) : DecidedThrough (.initial workId) []
  | decided {current : WorkLifecycleSnapshot} {past : List WorkTransitionV1}
      (request : WorkTransitionRequest) (decision : WorkTransitionDecision) (committedAt : UtcTimestamp)
      (before : DecidedThrough current past)
      (accepted : decideWorkTransition current (.forSnapshot current) request = .ok decision) :
      DecidedThrough decision.next (past ++ [.between current decision.next committedAt])

def Retold (ledger : Ledger) : Prop :=
  ∀ workId, (∃ row ∈ ledger.works, row.id = workId ∧
      DecidedThrough row.work (ledger.journal.filterMap (JournalEvent.transitionOf workId))) ∨
    (∀ row ∈ ledger.works, row.id ≠ workId) ∧
      ledger.journal.filterMap (JournalEvent.transitionOf workId) = []

section Steps

variable {ledger next : Ledger} {intent : JournalAppendIntent}

theorem Retold.record (retold : Retold ledger)
    (plain : ∀ workId, (eventFor ledger.journal intent).transitionOf workId = none) :
    Retold (ledger.record intent) := by
  intro workId
  have same : (ledger.record intent).journal.filterMap (JournalEvent.transitionOf workId) =
      ledger.journal.filterMap (JournalEvent.transitionOf workId) := by
    simp [Ledger.record, plain]
  rw [same]
  exact retold workId

theorem transitionOf_move (move : WorkMove) (journal : List JournalEvent) (workId : WorkId) :
    (eventFor journal move.intent).transitionOf workId =
      if move.row.id = workId then some move.transition else none := by
  unfold JournalEvent.transitionOf
  rw [payload_moveEvent]
  rcases move.origin.payload_cases move.decision.eventKind move.transition with
    plain | ⟨_, _, _, ⟨_, requested⟩ | ⟨_, cancelled⟩⟩
  · rw [plain]
    rfl
  · rw [requested]
    rfl
  · rw [cancelled]
    rfl

theorem Retold.afterMove (retold : Retold ledger) {move : WorkMove} (can : ledger.CanMove move)
    (keyed : Keyed WorkItemRow.id ledger.works) : Retold (ledger.move move) := by
  intro workId
  simp only [Ledger.move, Ledger.record, List.filterMap_append, List.filterMap_cons,
    transitionOf_move, List.filterMap_nil]
  by_cases selected : move.row.id = workId
  · left
    rcases retold workId with ⟨row, member, sameId, told⟩ | ⟨absent, _⟩
    · have same : row = move.row := keyed.eq member can.member (sameId.trans selected.symm)
      subst same
      rw [if_pos selected]
      exact ⟨_, mem_update_of_selected can.member (by simp), (moved_id can).trans selected,
        .decided _ _ _ told can.decided⟩
    · exact absurd selected (absent _ can.member)
  · rw [if_neg selected, List.append_nil]
    rcases retold workId with ⟨row, member, sameId, told⟩ | ⟨absent, untold⟩
    · have unselected : (row.id == move.row.id) = false := by
        simpa [sameId] using Ne.symm selected
      exact Or.inl ⟨row, mem_update_of_unselected member unselected, sameId, told⟩
    · refine Or.inr ⟨fun row member => ?_, untold⟩
      rcases mem_works_move member with rfl | ⟨old, _⟩
      · rwa [moved_id can]
      · exact absent row old

theorem Retold.step (retold : Retold ledger) (keyed : Keyed WorkItemRow.id ledger.works)
    (step : LedgerStep ledger next) : Retold next := by
  cases step with
  | recorded intent kind evidence fresh =>
    refine retold.record fun workId => ?_
    simp [JournalEvent.transitionOf, eventFor, evidence]
  | created conversation intent can =>
    refine (retold.record fun workId => ?_ : Retold (ledger.record intent))
    simp [JournalEvent.transitionOf, eventFor, can.payload]
  | admitted request nextOrdinal nextVersion can =>
    intro workId
    have recorded := ((retold.record fun _ => rfl : Retold (ledger.record request.acceptedIntent)).record
      fun _ => rfl : Retold ((ledger.record request.acceptedIntent).record request.queuedIntent)) workId
    rcases recorded with ⟨row, member, told⟩ | ⟨absent, untold⟩
    · exact Or.inl ⟨row, List.mem_append_left _ member, told⟩
    · by_cases isNew : request.work.id = workId
      · refine Or.inl ⟨request.work, List.mem_append_right _ (List.mem_singleton_self _), isNew, ?_⟩
        exact untold ▸ .initial _
      · exact Or.inr ⟨forall_mem_concat absent isNew, untold⟩
  | moved move can => exact retold.afterMove can keyed

end Steps

section Runs

variable (sha256 : List UInt8 → Sha256Digest) (primary : ConversationId) (moves more : List IngressMove)

theorem journal_retells_works : Retold (ingressAfter sha256 primary moves).toLedger := by
  refine (ingressAfter_invariant (fun store => Retold store.toLedger) ?_ ?_ moves).2
  · intro workId
    exact Or.inr ⟨fun _ => List.not_mem_nil.elim, rfl⟩
  · intro store move next ok retold step
    rcases step.ledger with same | ledgerStep
    · rw [same]
      exact retold
    · exact retold.step ok.queue.works ledgerStep

structure ContinuedBy (ledger after : Ledger) : Prop where
  refined : Relation.ReflTransGen LedgerStep ledger after
  grown : ledger.journal <+: after.journal
  numbered : JournalOk after.journal

theorem store_runs_refine_ledger : ContinuedBy (ingressAfter sha256 primary moves).toLedger
    (ingressAfter sha256 primary (moves ++ more)).toLedger := by
  have ok := ingressAfter_ok sha256 primary moves
  unfold ingressAfter at ok ⊢
  rw [replay_append]
  generalize replay (ingressStep sha256) (.empty primary) moves = base at ok ⊢
  refine (replay_invariant (fun store : IngressStore => LedgerOk store.toLedger ∧
    ContinuedBy base.toLedger store.toLedger) ?_ ⟨ok, .refl, List.prefix_rfl, ok.journal⟩ more).2
  rintro store move next ⟨storeOk, continued⟩ stepped
  have step := ingressStep_cases storeOk stepped
  refine ⟨storeOk.afterIngress step, ?_⟩
  rcases step.ledger with same | ledgerStep
  · rw [same]
    exact continued
  · obtain ⟨added, journal⟩ := ledgerStep.journal
    refine ⟨continued.refined.tail ledgerStep, ?_, (storeOk.step ledgerStep).journal⟩
    rw [journal]
    exact continued.grown.trans (List.prefix_append _ _)

end Runs

end Craxii
