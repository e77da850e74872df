import Craxii.Client.ProjectionCore
import Craxii.Domain.Lifecycle

/-!
Whole runs of the native client's reducers: old durable events change nothing, a live work has at
most one draft, and a retired draft stays away until the drafts are dropped with their connection.
-/

namespace Craxii.Client

open Utf8Text ExceptRules GuardedRun

variable {Payload : Type} (codec : PayloadCodec Payload)

variable {projection result : CanonicalProjection Payload} {event : DurableEventEnvelope Payload}
  {workId : WorkId} {work : WorkProjection}

theorem applying_old [DecidableEq Payload] (old : event.cursor ≤ projection.lastAppliedCursor) :
    applying codec event projection = .ok projection ∨ ∃ error, applying codec event projection = .error error := by
  cases applied : applying codec event projection with
  | error error => exact .inr ⟨error, rfl⟩
  | ok result =>
    simp only [applying, old, ↓reduceIte, bind_eq_ok, refuseIf_eq_ok] at applied
    obtain ⟨_, _, _, _, same⟩ := applied
    exact .inl (congrArg _ (Except.ok.inj same).symm)

def LiveWork (projection : CanonicalProjection Payload) (workId : WorkId) : Prop :=
  ∃ work ∈ projection.works, work.workId = workId ∧ work.state.isTerminal = false

theorem applyMessage_works
    (applied : applyMessage codec event projection = .ok result) : result.works = projection.works := by
  simp only [applyMessage, bind_eq_ok] at applied
  obtain ⟨_, _, _, _, _, _, _, _, applied⟩ := applied
  split at applied
  · simp only [bind_eq_ok] at applied
    obtain ⟨_, _, same⟩ := applied
    rw [← Except.ok.inj same]
  · simp only [bind_eq_ok] at applied
    obtain ⟨_, _, _, _, same⟩ := applied
    rw [← Except.ok.inj same]

theorem applyQueued_live
    (applied : applyQueued codec event projection = .ok result) (live : LiveWork projection workId) :
    LiveWork result workId := by
  simp only [applyQueued, bind_eq_ok] at applied
  obtain ⟨_, _, _, _, _, _, _, _, same⟩ := applied
  rw [← Except.ok.inj same]
  obtain ⟨work, found, facts⟩ := live
  refine ⟨work, ?_, facts⟩
  simp only [sortWorks, List.mem_mergeSort, List.mem_append]
  exact .inl found

theorem workOf_eq_ok (found : workOf event projection = .ok work) :
    event.workId = some work.workId ∧ projection.works.find? (·.workId == work.workId) = some work := by
  simp only [workOf, bind_eq_ok, orRefuse_eq_ok] at found
  obtain ⟨workId, isWork, found⟩ := found
  have same := List.find?_some found
  rw [beq_iff_eq] at same
  rw [same]
  exact ⟨isWork, found⟩

theorem LiveWork.updateWork {update : WorkProjection → WorkProjection}
    (found : projection.works.find? (·.workId == work.workId) = some work)
    (keepsId : (update work).workId = work.workId)
    (keepsLive : workId = work.workId → work.state.isTerminal = false →
      (update work).state.isTerminal = false)
    (live : LiveWork projection workId) : LiveWork (projection.updateWork work.workId update) workId := by
  obtain ⟨other, isOther, isId, running⟩ := live
  by_cases same : other = work
  · subst same
    exact ⟨update other, KeyedRows.mem_updateFirst_updated found, keepsId.trans isId,
      keepsLive isId.symm running⟩
  · exact ⟨other, KeyedRows.mem_updateFirst_of_ne found isOther same, isId, running⟩

theorem WorkProjection.transition_facts (work : WorkProjection) (payload : WorkTransitionPayload) :
    (work.transition payload).workId = work.workId ∧ (work.transition payload).state = payload.state := by
  unfold WorkProjection.transition
  cases payload.state <;> exact ⟨rfl, rfl⟩

theorem expectedState_live {eventType : DurableEventType} {state : WorkState}
    (expected : eventType.expectedState = some state) (keeps : eventType.endsDrafts = false) :
    state.isTerminal = false := by
  cases eventType <;> simp_all [DurableEventType.expectedState, DurableEventType.endsDrafts] <;>
    subst expected <;> rfl

theorem applyKnown_live
    (applied : applyKnown codec event projection = .ok result) (live : LiveWork projection workId)
    (keeps : event.eventType.endsDrafts = true → event.workId ≠ some workId) : LiveWork result workId := by
  have transitioned (applied : applyTransition codec event projection = .ok result) :
      LiveWork result workId := by
    simp only [applyTransition, bind_eq_ok, refuseIf_eq_ok, orRefuse_eq_ok] at applied
    obtain ⟨work, found, payload, _, state, expected, _, legal, same⟩ := applied
    obtain ⟨isWork, isFirst⟩ := workOf_eq_ok found
    simp only [Bool.not_eq_false', Bool.and_eq_true, beq_iff_eq] at legal
    rw [← Except.ok.inj same]
    refine LiveWork.updateWork isFirst (work.transition_facts payload).1 (fun sameId _ => ?_) live
    rw [(work.transition_facts payload).2, legal.1]
    refine expectedState_live expected ?_
    by_contra ends
    exact keeps (by simpa using ends) (by rw [isWork, sameId])
  have observed (applied : applyTool codec event projection = .ok result) : LiveWork result workId := by
    simp only [applyTool, bind_eq_ok, orRefuse_eq_ok] at applied
    obtain ⟨work, found, payload, _, same⟩ := applied
    obtain ⟨_, isFirst⟩ := workOf_eq_ok found
    rw [← Except.ok.inj same]
    exact LiveWork.updateWork isFirst rfl (fun _ running => running) live
  cases eventType : event.eventType with
  | messageAccepted | assistantMessageCommitted =>
    simp only [applyKnown, eventType] at applied
    rwa [LiveWork, applyMessage_works codec applied]
  | workQueued =>
    simp only [applyKnown, eventType] at applied
    exact applyQueued_live codec applied live
  | workStarted | workWaitingOnModel | workWaitingOnTool | workCancelRequested | workCancelled
  | workCompleted | workFailed | workInterrupted =>
    simp only [applyKnown, eventType] at applied
    exact transitioned applied
  | toolExecutionStarted | toolExecutionFinished | toolExecutionInterruptedBeforeDispatch =>
    simp only [applyKnown, eventType] at applied
    exact observed applied
  | runtimeRecoveryPerformed =>
    simp only [applyKnown, eventType, Except.ok.injEq] at applied
    rwa [← applied]
  | unknown => simp only [applyKnown, eventType, reduceCtorEq] at applied

theorem applying_live [DecidableEq Payload]
    (applied : applying codec event projection = .ok result) (live : LiveWork projection workId)
    (keeps : event.eventType.endsDrafts = true → event.workId ≠ some workId) : LiveWork result workId := by
  by_cases old : event.cursor ≤ projection.lastAppliedCursor
  · rcases applying_old codec old with same | ⟨error, refused⟩
    · rw [same] at applied
      rwa [← Except.ok.inj applied]
    · rw [refused] at applied
      cases applied
  · simp only [applying, old, ↓reduceIte, bind_eq_ok] at applied
    obtain ⟨_, _, known, isKnown, same⟩ := applied
    have stays : LiveWork known workId := applyKnown_live codec isKnown live keeps
    rw [← Except.ok.inj same]
    exact stays

namespace DraftReducer

def Shows (reducer : DraftReducer) (draftId : DraftId) : Prop :=
  ∃ draft ∈ reducer.drafts, draft.draftId = draftId

/-- One draft for each work and for each identity, none of them retired. -/
structure Sound (reducer : DraftReducer) : Prop where
  onePerWork : (reducer.drafts.map (·.workId)).Nodup
  distinct : (reducer.drafts.map (·.draftId)).Nodup
  unretired : ∀ draft ∈ reducer.drafts, draft.draftId ∉ reducer.tombstones

/-- What a step may do to the drafts: identities stay retired, and a shown draft that goes away
is retired. -/
structure Retires (before after : DraftReducer) : Prop where
  kept : ∀ draftId ∈ before.tombstones, draftId ∈ after.tombstones
  gone : ∀ draftId, before.Shows draftId → ¬after.Shows draftId → draftId ∈ after.tombstones

theorem Retires.refl (reducer : DraftReducer) : Retires reducer reducer :=
  ⟨fun _ retired => retired, fun _ shown gone => absurd shown gone⟩

variable {reducer : DraftReducer}

theorem Sound.empty : Sound .empty :=
  ⟨List.nodup_nil, List.nodup_nil, fun _ found => nomatch found⟩

theorem Sound.filter (sound : reducer.Sound) (keeps : DraftProjection → Bool) (retired : List DraftId)
    (others : ∀ draft ∈ reducer.drafts, keeps draft = true → draft.draftId ∉ retired) :
    Sound ⟨reducer.drafts.filter keeps, retired ++ reducer.tombstones⟩ := by
  have sublist : (reducer.drafts.filter keeps).Sublist reducer.drafts := List.filter_sublist
  refine ⟨sound.onePerWork.sublist (sublist.map _), sound.distinct.sublist (sublist.map _), ?_⟩
  intro draft found isRetired
  obtain ⟨isDraft, kept⟩ := List.mem_filter.mp found
  rcases List.mem_append.mp isRetired with now | before
  · exact others draft isDraft kept now
  · exact sound.unretired draft isDraft before

theorem Sound.same (sound : reducer.Sound) {first second : DraftProjection}
    (isFirst : first ∈ reducer.drafts) (isSecond : second ∈ reducer.drafts)
    (same : first.draftId = second.draftId) : first = second :=
  List.inj_on_of_nodup_map sound.distinct isFirst isSecond same

theorem clear_sound (sound : reducer.Sound) (workId : WorkId) : (reducer.clear workId).Sound := by
  refine sound.filter _ _ fun draft isDraft kept retired => ?_
  obtain ⟨other, isOther, same⟩ := List.mem_map.mp retired
  obtain ⟨inDrafts, ofWork⟩ := List.mem_filter.mp isOther
  obtain rfl := sound.same inDrafts isDraft same
  simp only [bne_iff_ne, beq_iff_eq] at kept ofWork
  exact kept ofWork

theorem clear_retires (reducer : DraftReducer) (workId : WorkId) :
    Retires reducer (reducer.clear workId) := by
  refine ⟨fun _ retired => List.mem_append_right _ retired, ?_⟩
  rintro draftId ⟨draft, isDraft, rfl⟩ gone
  refine List.mem_append_left _ (List.mem_map_of_mem (List.mem_filter.mpr ⟨isDraft, ?_⟩))
  by_contra other
  exact gone ⟨draft, List.mem_filter.mpr ⟨isDraft, by simpa using other⟩, rfl⟩

theorem not_shows_of_find_none {draftId : DraftId} (missing : (reducer.find draftId).isNone = true) :
    ¬reducer.Shows draftId := by
  rintro ⟨draft, isDraft, rfl⟩
  simp only [find, Option.isNone_iff_eq_none, List.find?_eq_none] at missing
  exact missing draft isDraft (by simp)

theorem start_sound (sound : reducer.Sound) (event : EphemeralDraftEnvelope Payload) :
    (reducer.start event).Sound := by
  unfold start
  split
  · rename_i starts
    simp only [Bool.and_eq_true, Bool.not_eq_true', List.contains_eq_mem, decide_eq_false_iff_not] at starts
    obtain ⟨⟨_, fresh⟩, missing⟩ := starts
    have unshown := not_shows_of_find_none missing
    have cleared := clear_sound sound event.workId
    have kept : ∀ draft ∈ (reducer.clear event.workId).drafts,
        draft ∈ reducer.drafts ∧ draft.workId ≠ event.workId := fun draft found => by
      simpa [clear] using found
    refine ⟨?_, ?_, ?_⟩
    · refine List.nodup_cons.mpr ⟨fun found => ?_, cleared.onePerWork⟩
      obtain ⟨draft, isDraft, same⟩ := List.mem_map.mp found
      exact (kept draft isDraft).2 same
    · refine List.nodup_cons.mpr ⟨fun found => ?_, cleared.distinct⟩
      obtain ⟨draft, isDraft, same⟩ := List.mem_map.mp found
      exact unshown ⟨draft, (kept draft isDraft).1, same⟩
    · intro draft found
      rcases List.mem_cons.mp found with rfl | isDraft
      · intro retired
        rcases List.mem_append.mp retired with now | before
        · obtain ⟨other, isOther, same⟩ := List.mem_map.mp now
          exact unshown ⟨other, (List.mem_filter.mp isOther).1, same⟩
        · exact fresh before
      · exact cleared.unretired draft isDraft
  · exact sound

theorem start_retires (reducer : DraftReducer) (event : EphemeralDraftEnvelope Payload) :
    Retires reducer (reducer.start event) := by
  unfold start
  split
  · obtain ⟨kept, gone⟩ := clear_retires reducer event.workId
    refine ⟨kept, fun draftId shown unshown => gone draftId shown fun stays => unshown ?_⟩
    obtain ⟨draft, isDraft, same⟩ := stays
    exact ⟨draft, List.mem_cons_of_mem _ isDraft, same⟩
  · exact .refl reducer

theorem Sound.relabelled (sound : reducer.Sound) {drafts : List DraftProjection}
    (sameWorks : drafts.map (·.workId) = reducer.drafts.map (·.workId))
    (sameIds : drafts.map (·.draftId) = reducer.drafts.map (·.draftId)) :
    Sound { reducer with drafts } ∧ Retires reducer { reducer with drafts } := by
  have shown (draftId : DraftId) (isShown : reducer.Shows draftId) :
      Shows { reducer with drafts } draftId := by
    have found : draftId ∈ drafts.map (·.draftId) := by
      rw [sameIds]
      exact List.mem_map.mpr isShown
    exact List.mem_map.mp found
  refine ⟨⟨by rw [sameWorks]; exact sound.onePerWork, by rw [sameIds]; exact sound.distinct, ?_⟩,
    ⟨fun _ retired => retired, fun draftId isShown gone => absurd (shown draftId isShown) gone⟩⟩
  intro draft found
  have isId : draft.draftId ∈ reducer.drafts.map (·.draftId) := by
    rw [← sameIds]
    exact List.mem_map_of_mem found
  obtain ⟨other, isOther, same⟩ := List.mem_map.mp isId
  rw [← same]
  exact sound.unretired other isOther

theorem extend_identity (draft : DraftProjection) (sequence : UInt32) (payload : DraftDeltaPayload) :
    (extend draft sequence payload).toDraftIdentity = draft.toDraftIdentity := by
  unfold extend
  cases payload.kind <;> rfl

variable {projection : CanonicalProjection Payload} {result : DraftReducer}
  {event : EphemeralDraftEnvelope Payload}

theorem delta_keeps (sound : reducer.Sound) (applied : reducer.delta codec event = .ok result) :
    result.Sound ∧ Retires reducer result := by
  have unchanged (same : Except.ok reducer = (Except.ok result : Except ReducerError DraftReducer)) :
      result.Sound ∧ Retires reducer result := by
    obtain rfl := Except.ok.inj same
    exact ⟨sound, .refl _⟩
  unfold delta at applied
  split at applied
  · split at applied
    · simp only [bind_eq_ok, orRefuse_eq_ok] at applied
      obtain ⟨payload, _, same⟩ := applied
      rw [← Except.ok.inj same]
      refine sound.relabelled (KeyedRows.map_updateFirst (fun draft => ?_) _)
        (KeyedRows.map_updateFirst (fun draft => ?_) _)
      · exact congrArg DraftIdentity.workId (extend_identity draft _ payload)
      · exact congrArg DraftIdentity.draftId (extend_identity draft _ payload)
    · exact unchanged applied
  · exact unchanged applied

def Abandons (reducer : DraftReducer) (event : EphemeralDraftEnvelope Payload) : Prop :=
  ∃ draft ∈ reducer.drafts, draft.draftId = event.draftId ∧ draft.workId = event.workId ∧
    draft.invocationId = event.invocationId

theorem abandon_keeps (sound : reducer.Sound) (applied : reducer.abandon codec event = .ok result) :
    result.Sound ∧ Retires reducer result ∧
      (reducer.Abandons event → event.draftId ∈ result.tombstones) := by
  simp only [abandon, bind_eq_ok] at applied
  obtain ⟨_, _, applied⟩ := applied
  split at applied
  · rename_i draft found
    have isDraft : draft ∈ reducer.drafts := List.mem_of_find?_eq_some found
    have sameId : draft.draftId = event.draftId := by simpa using List.find?_some found
    split at applied
    · rw [← Except.ok.inj applied]
      refine ⟨sound.filter _ [event.draftId] fun other _ kept retired => ?_,
        ⟨fun _ retired => List.mem_cons_of_mem _ retired, ?_⟩, fun _ => List.mem_cons_self⟩
      · simp only [bne_iff_ne] at kept
        exact kept (List.mem_singleton.mp retired)
      · rintro draftId ⟨other, isOther, rfl⟩ gone
        by_cases same : other.draftId = event.draftId
        · rw [same]
          exact List.mem_cons_self
        · exact absurd ⟨other, List.mem_filter.mpr ⟨isOther, by simpa using same⟩, rfl⟩ gone
    · rename_i differs
      obtain rfl := Except.ok.inj applied
      refine ⟨sound, .refl _, ?_⟩
      rintro ⟨other, isOther, isId, sameWork, sameInvocation⟩
      obtain rfl := sound.same isOther isDraft (isId.trans sameId.symm)
      exact absurd ⟨sameWork, sameInvocation⟩ differs
  · rename_i missing
    obtain rfl := Except.ok.inj applied
    refine ⟨sound, .refl _, ?_⟩
    rintro ⟨other, isOther, isId, _⟩
    exact absurd ⟨other, isOther, isId⟩ (not_shows_of_find_none (by rw [missing]; rfl))

theorem apply_keeps (sound : reducer.Sound)
    (applied : reducer.apply codec event projection = .ok result) :
    result.Sound ∧ Retires reducer result ∧
      (concerns event projection = true → event.eventType = .abandoned → reducer.Abandons event →
        event.draftId ∈ result.tombstones) := by
  unfold apply at applied
  split at applied
  · split at applied
    · rename_i isStarted
      obtain rfl := Except.ok.inj applied
      exact ⟨start_sound sound event, start_retires reducer event,
        fun _ isAbandoned => by rw [isStarted] at isAbandoned; cases isAbandoned⟩
    · rename_i isDelta
      obtain ⟨isSound, retires⟩ := delta_keeps codec sound applied
      exact ⟨isSound, retires, fun _ isAbandoned => by rw [isDelta] at isAbandoned; cases isAbandoned⟩
    · obtain ⟨isSound, retires, abandons⟩ := abandon_keeps codec sound applied
      exact ⟨isSound, retires, fun _ _ => abandons⟩
    · cases applied
  · rename_i unconcerned
    obtain rfl := Except.ok.inj applied
    exact ⟨sound, .refl _, fun concerned => absurd concerned unconcerned⟩

theorem apply_works (applied : reducer.apply codec event projection = .ok result)
    {draft : DraftProjection} (found : draft ∈ result.drafts) :
    draft.workId ∈ reducer.drafts.map (·.workId) ∨
      concerns event projection = true ∧ draft.workId = event.workId := by
  have before {drafts : List DraftProjection} (sublist : drafts.Sublist reducer.drafts)
      (isDraft : draft ∈ drafts) : draft.workId ∈ reducer.drafts.map (·.workId) :=
    List.mem_map_of_mem (sublist.subset isDraft)
  unfold apply at applied
  split at applied
  · rename_i concerned
    split at applied
    · obtain rfl := Except.ok.inj applied
      unfold start at found
      split at found
      · rcases List.mem_cons.mp found with rfl | isOld
        · exact .inr ⟨concerned, rfl⟩
        · exact .inl (before List.filter_sublist isOld)
      · exact .inl (before (List.Sublist.refl _) found)
    · unfold delta at applied
      split at applied
      · split at applied
        · simp only [bind_eq_ok, orRefuse_eq_ok] at applied
          obtain ⟨payload, _, same⟩ := applied
          rw [← Except.ok.inj same] at found
          have isWork := List.mem_map_of_mem (f := fun draft : DraftProjection => draft.workId) found
          rw [KeyedRows.map_updateFirst] at isWork
          · exact .inl isWork
          · exact fun other => congrArg DraftIdentity.workId (extend_identity other _ payload)
        · obtain rfl := Except.ok.inj applied
          exact .inl (before (List.Sublist.refl _) found)
      · obtain rfl := Except.ok.inj applied
        exact .inl (before (List.Sublist.refl _) found)
    · simp only [abandon, bind_eq_ok] at applied
      obtain ⟨_, _, applied⟩ := applied
      split at applied
      · split at applied
        · rw [← Except.ok.inj applied] at found
          exact .inl (before List.filter_sublist found)
        · obtain rfl := Except.ok.inj applied
          exact .inl (before (List.Sublist.refl _) found)
      · obtain rfl := Except.ok.inj applied
        exact .inl (before (List.Sublist.refl _) found)
    · cases applied
  · obtain rfl := Except.ok.inj applied
    exact .inl (before (List.Sublist.refl _) found)

end DraftReducer

theorem concerns_live {event : EphemeralDraftEnvelope Payload} {projection : CanonicalProjection Payload}
    (concerned : DraftReducer.concerns event projection = true) : LiveWork projection event.workId := by
  simp only [DraftReducer.concerns, Bool.and_eq_true, Option.any_eq_true, Bool.not_eq_true'] at concerned
  obtain ⟨_, work, found, running⟩ := concerned
  exact ⟨work, List.mem_of_find?_eq_some found, by simpa using List.find?_some found, running⟩

structure Consistent (state : ReducerState Payload) : Prop where
  sound : state.drafts.Sound
  live : ∀ draft ∈ state.drafts.drafts, LiveWork state.projection draft.workId

theorem Consistent.dropped {state : ReducerState Payload} (dropped : state.drafts = .empty) :
    Consistent state := by
  constructor
  · rw [dropped]
    exact .empty
  · rw [dropped]
    exact fun _ found => nomatch found

def ReducerMove.dropsDrafts : ReducerMove Payload → Bool
  | .invalidate | .bootstrap _ | .reset => true
  | _ => false

theorem clearedBy_keeps {drafts : DraftReducer} (sound : drafts.Sound)
    (event : DurableEventEnvelope Payload) :
    (clearedBy event drafts).Sound ∧ drafts.Retires (clearedBy event drafts) ∧
      ∀ draft ∈ (clearedBy event drafts).drafts, draft ∈ drafts.drafts ∧
        (event.eventType.endsDrafts = true → event.workId ≠ some draft.workId) := by
  unfold clearedBy
  split
  · rename_i workId isWork
    split
    · refine ⟨DraftReducer.clear_sound sound workId, DraftReducer.clear_retires drafts workId, ?_⟩
      intro draft found
      obtain ⟨isDraft, other⟩ := List.mem_filter.mp found
      refine ⟨isDraft, fun _ same => ?_⟩
      rw [isWork, Option.some.injEq] at same
      simp [same] at other
    · rename_i keeps
      exact ⟨sound, .refl _, fun draft found => ⟨found, fun ends => absurd ends keeps⟩⟩
  · rename_i noWork
    exact ⟨sound, .refl _, fun draft found => ⟨found, fun _ same => by rw [noWork] at same; cases same⟩⟩

variable [DecidableEq Payload]

variable {draftId : DraftId} {move : ReducerMove Payload} {state : ReducerState Payload}

theorem stepReducers_keeps {next : ReducerState Payload}
    (consistent : Consistent state) (stepped : stepReducers codec state move = some next) :
    Consistent next ∧ (move.dropsDrafts = false → state.drafts.Retires next.drafts) := by
  cases move with
  | durable event =>
    simp only [stepReducers] at stepped
    split at stepped
    · cases stepped
    · rename_i projection applied
      obtain rfl := Option.some.inj stepped
      obtain ⟨sound, retires, kept⟩ := clearedBy_keeps consistent.sound event
      refine ⟨⟨sound, fun draft found => ?_⟩, fun _ => retires⟩
      obtain ⟨isDraft, keeps⟩ := kept draft found
      exact applying_live codec applied (consistent.live draft isDraft) keeps
  | syncComplete sync =>
    simp only [stepReducers] at stepped
    split at stepped
    · obtain rfl := Option.some.inj stepped
      exact ⟨⟨consistent.sound, consistent.live⟩, fun _ => .refl _⟩
    · cases stepped
  | draft event =>
    simp only [stepReducers] at stepped
    split at stepped
    · split at stepped
      · cases stepped
      · rename_i drafts applied
        obtain rfl := Option.some.inj stepped
        obtain ⟨sound, retires, _⟩ := DraftReducer.apply_keeps codec consistent.sound applied
        refine ⟨⟨sound, fun draft found => ?_⟩, fun _ => retires⟩
        rcases DraftReducer.apply_works codec applied found with isOld | ⟨concerned, isNew⟩
        · obtain ⟨other, isOther, same⟩ := List.mem_map.mp isOld
          rw [← same]
          exact consistent.live other isOther
        · rw [isNew]
          exact concerns_live concerned
    · cases stepped
  | invalidate | reset =>
    obtain rfl := Option.some.inj stepped
    exact ⟨.dropped rfl, fun keeps => by cases keeps⟩
  | bootstrap response =>
    simp only [stepReducers] at stepped
    split at stepped
    · cases stepped
    · obtain rfl := Option.some.inj stepped
      exact ⟨.dropped rfl, fun keeps => by cases keeps⟩
  | openStream =>
    obtain rfl := Option.some.inj stepped
    exact ⟨⟨consistent.sound, consistent.live⟩, fun _ => .refl _⟩

theorem replay_consistent (moves : List (ReducerMove Payload)) :
    Consistent (replay (stepReducers codec) .start moves) :=
  replay_invariant Consistent (fun _ _ _ consistent stepped => (stepReducers_keeps codec consistent stepped).1)
    (.dropped rfl) moves

theorem replay_retired {moves : List (ReducerMove Payload)}
    (lasts : ∀ move ∈ moves, move.dropsDrafts = false) :
    ∀ {state : ReducerState Payload}, Consistent state → draftId ∈ state.drafts.tombstones →
      ¬(replay (stepReducers codec) state moves).drafts.Shows draftId := by
  induction moves with
  | nil =>
    rintro state consistent retired ⟨draft, isDraft, rfl⟩
    exact consistent.sound.unretired draft isDraft retired
  | cons move rest ih =>
    intro state consistent retired
    have restLasts : ∀ move ∈ rest, move.dropsDrafts = false := fun other isOther =>
      lasts other (List.mem_cons_of_mem _ isOther)
    rw [replay_cons]
    cases stepped : stepReducers codec state move with
    | none =>
      rw [offer_refused stepped]
      exact ih restLasts consistent retired
    | some next =>
      obtain ⟨nextConsistent, retires⟩ := stepReducers_keeps codec consistent stepped
      rw [offer_accepted stepped]
      exact ih restLasts nextConsistent
        ((retires (lasts move List.mem_cons_self)).kept draftId retired)

def EndsDraft (state : ReducerState Payload) (draftId : DraftId) : ReducerMove Payload → Prop
  | .draft event =>
    state.stream = .live ∧ DraftReducer.concerns event state.projection = true ∧
      event.eventType = .abandoned ∧ codec.draftAbandoned event.payload = true ∧
      state.drafts.Abandons event ∧ event.draftId = draftId
  | .durable event => (∃ projection, applying codec event state.projection = .ok projection) ∧
      event.eventType.endsDrafts = true ∧
      ∃ draft ∈ state.drafts.drafts, draft.draftId = draftId ∧ event.workId = some draft.workId
  | _ => False

theorem EndsDraft.retired
    (consistent : Consistent state) (ends : EndsDraft codec state draftId move) :
    Consistent (offer (stepReducers codec) state move) ∧
      draftId ∈ (offer (stepReducers codec) state move).drafts.tombstones := by
  cases move with
  | draft event =>
    obtain ⟨live, concerned, isAbandoned, decodes, abandons, rfl⟩ := ends
    obtain ⟨result, applied⟩ : ∃ result, state.drafts.apply codec event state.projection = .ok result := by
      obtain ⟨draft, isDraft, sameId, sameWork, sameInvocation⟩ := abandons
      simp only [DraftReducer.apply, concerned, ↓reduceIte, isAbandoned, DraftReducer.abandon, decodes,
        Bool.not_true, refuseIf_false, ok_bind]
      split
      · split
        · exact ⟨_, rfl⟩
        · exact ⟨_, rfl⟩
      · exact ⟨_, rfl⟩
    have stepped : stepReducers codec state (.draft event) = some { state with drafts := result } := by
      simp only [stepReducers, live, ↓reduceIte, applied]
    obtain ⟨_, _, retired⟩ := DraftReducer.apply_keeps codec consistent.sound applied
    rw [offer_accepted stepped]
    exact ⟨(stepReducers_keeps codec consistent stepped).1, retired concerned isAbandoned abandons⟩
  | durable event =>
    obtain ⟨⟨projection, applied⟩, endsDrafts, draft, isDraft, rfl, isWork⟩ := ends
    have stepped : stepReducers codec state (.durable event) =
        some { state with projection, drafts := state.drafts.clear draft.workId } := by
      simp only [stepReducers, applied, clearedBy, isWork, endsDrafts, ↓reduceIte]
    rw [offer_accepted stepped]
    refine ⟨(stepReducers_keeps codec consistent stepped).1, List.mem_append_left _ ?_⟩
    exact List.mem_map_of_mem (List.mem_filter.mpr ⟨isDraft, by simp⟩)
  | syncComplete | invalidate | bootstrap | openStream | reset => exact ends.elim

/-- The laws of the reducers in every state they reach. -/
theorem client_reducers_hold (moves : List (ReducerMove Payload)) :
    let state := replay (stepReducers codec) .start moves
    (∀ event, event.cursor ≤ state.projection.lastAppliedCursor →
      applying codec event state.projection = .ok state.projection ∨
        ∃ error, applying codec event state.projection = .error error) ∧
    (state.drafts.drafts.map (·.workId)).Nodup ∧
    (∀ draft ∈ state.drafts.drafts, LiveWork state.projection draft.workId) ∧
    ∀ draftId move later, EndsDraft codec state draftId move →
      (∀ next ∈ later, next.dropsDrafts = false) →
      ¬(replay (stepReducers codec) state (move :: later)).drafts.Shows draftId := by
  have consistent := replay_consistent codec moves
  refine ⟨fun event old => applying_old codec old, consistent.sound.onePerWork, consistent.live, ?_⟩
  intro draftId move later ends lasts
  obtain ⟨endedConsistent, retired⟩ := ends.retired codec consistent
  rw [replay_cons]
  exact replay_retired codec lasts endedConsistent retired

def bareCodec : PayloadCodec Unit :=
  ⟨fun _ => none, fun _ => none, fun _ => none, fun _ => none, fun _ => none, fun _ => true⟩

def sampleDraft : DraftIdentity :=
  ⟨⟨sampleUuid 1⟩, ⟨sampleUuid 2⟩, ⟨sampleUuid 3⟩, ⟨sampleUuid 4⟩⟩

def sampleBootstrap : BootstrapResponse where
  snapshotCursor := 3
  craxii := ⟨⟨sampleUuid 5⟩, [], []⟩
  primaryConversation := ⟨sampleDraft.conversationId, "primary".toList, []⟩
  messages := [⟨⟨sampleUuid 6⟩, sampleDraft.conversationId, 1, .user, [], none, none, []⟩]
  workItems := [⟨sampleDraft.workId, sampleDraft.conversationId, 1, .running, ⟨sampleUuid 6⟩, [],
    [], none, none, none, none, false, []⟩]
  unresolvedOutcomes := []

def sampleDraftEvent (eventType : DraftEventType) : ReducerMove Unit :=
  .draft ⟨sampleDraft, .ephemeral, none, eventType, none, ()⟩

def sampleConnection : List (ReducerMove Unit) :=
  [.openStream, .syncComplete ⟨.ephemeral, 3⟩]

theorem abandoned_draft_shown_again :
    let state := replay (stepReducers bareCodec) .start
      (.bootstrap sampleBootstrap :: sampleConnection ++ [sampleDraftEvent .started])
    EndsDraft bareCodec state sampleDraft.draftId (sampleDraftEvent .abandoned) ∧
      (replay (stepReducers bareCodec) state
        (sampleDraftEvent .abandoned :: .invalidate :: sampleConnection ++
          [sampleDraftEvent .started])).drafts.Shows sampleDraft.draftId := by
  refine ⟨⟨by decide, by decide, rfl, rfl, ⟨⟨sampleDraft, 0, [], []⟩, ?_, rfl, rfl, rfl⟩, rfl⟩,
    ⟨⟨sampleDraft, 0, [], []⟩, ?_, rfl⟩⟩
  · decide
  · decide

theorem abandoned_draft_stays_away :
    ¬(replay (stepReducers bareCodec) .start
      ((.bootstrap sampleBootstrap :: sampleConnection ++ [sampleDraftEvent .started]) ++
        [sampleDraftEvent .abandoned, sampleDraftEvent .started])).drafts.Shows sampleDraft.draftId := by
  rw [replay_append]
  refine (client_reducers_hold bareCodec (.bootstrap sampleBootstrap :: sampleConnection ++
    [sampleDraftEvent .started])).2.2.2 sampleDraft.draftId (sampleDraftEvent .abandoned)
    [sampleDraftEvent .started] ⟨by decide, by decide, rfl, rfl,
      ⟨⟨sampleDraft, 0, [], []⟩, ?_, rfl, rfl, rfl⟩, rfl⟩ ?_
  · decide
  · decide

end Craxii.Client
