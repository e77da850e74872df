import Craxii.Delivery.DraftBrokerCore
import Craxii.Domain.Lifecycle
import Craxii.Lib.Tables

/-!
What a connection is shown of a draft.
-/

namespace Craxii

open Tables GuardedRun Utf8Text

/-! Texts. -/

def JoinedFrom (offered texts : List Text) : Prop :=
  ∃ groups : List (List Text), texts = groups.map List.flatten ∧ groups.flatten.Sublist offered

section Texts

variable {offered texts : List Text}

theorem JoinedFrom.nil : JoinedFrom offered [] := ⟨[], rfl, List.nil_sublist _⟩

theorem JoinedFrom.sublist (joined : JoinedFrom offered texts) {fewer : List Text}
    (sub : fewer.Sublist texts) : JoinedFrom offered fewer := by
  obtain ⟨groups, rfl, within⟩ := joined
  obtain ⟨kept, keptSub, rfl⟩ := List.sublist_map_iff.mp sub
  exact ⟨kept, rfl, keptSub.flatten.trans within⟩

theorem JoinedFrom.offer (joined : JoinedFrom offered texts) {more : List Text}
    (sub : offered.Sublist more) : JoinedFrom more texts := by
  obtain ⟨groups, same, within⟩ := joined
  exact ⟨groups, same, within.trans sub⟩

theorem JoinedFrom.concat (joined : JoinedFrom offered texts) (text : Text) :
    JoinedFrom (offered ++ [text]) (texts ++ [text]) := by
  obtain ⟨groups, rfl, within⟩ := joined
  refine ⟨groups ++ [[text]], by simp, ?_⟩
  simpa using within.append (List.Sublist.refl [text])

theorem JoinedFrom.join {last : Text} (joined : JoinedFrom offered (texts ++ [last])) (text : Text) :
    JoinedFrom (offered ++ [text]) (texts ++ [last ++ text]) := by
  obtain ⟨groups, same, within⟩ := joined
  obtain ⟨earlier, tail, rfl, rfl, lastGroup⟩ := List.map_eq_append_iff.mp same.symm
  obtain ⟨group, rfl, rfl⟩ := List.map_eq_singleton_iff.mp lastGroup
  refine ⟨earlier ++ [group ++ [text]], by simp, ?_⟩
  have within' := within.append (List.Sublist.refl [text])
  simpa using within'

end Texts

/-! Streams of one draft. -/

variable (encodedLength : EphemeralDraftEnvelope → Nat) (events : List EphemeralDraftEnvelope) (event : EphemeralDraftEnvelope)

namespace EphemeralDraftEnvelope

@[simp] theorem started_identity (identity : DraftIdentity) :
    (started identity).toDraftIdentity = identity := rfl

@[simp] theorem delta_identity (identity : DraftIdentity) (deltaSequence : Nat) (kind : DraftDeltaKind)
    (text : Text) : (delta identity deltaSequence kind text).toDraftIdentity = identity := rfl

def isStarted : Bool := event.payload == .started

def isAbandoned : Bool :=
  match event.payload with
  | .abandoned _ => true
  | _ => false

def text (event : EphemeralDraftEnvelope) : Option Text :=
  match event.payload with
  | .delta _ text => some text
  | _ => none

end EphemeralDraftEnvelope

/-- The events of one draft, in order: one start, then deltas, and at most one abandonment at
the end. -/
structure DraftStream (offered : List Text) (events : List EphemeralDraftEnvelope) : Prop where
  begins : ∀ event, events.head? = some event → event.isStarted = true
  startedOnce : events.Pairwise fun _ later => later.isStarted = false
  endsAbandoned : events.Pairwise fun earlier _ => earlier.isAbandoned = false
  increasing : (events.filterMap fun event => event.deltaSequence).Pairwise (· < ·)
  texts : JoinedFrom offered (events.filterMap fun event => event.text)

structure OpenStream (last : Nat) (events : List EphemeralDraftEnvelope) : Prop where
  nonempty : events ≠ []
  notAbandoned : ∀ event ∈ events, event.isAbandoned = false
  bounded : ∀ event ∈ events, ∀ sequence, event.deltaSequence = some sequence → sequence ≤ last

section Streams

variable {offered : List Text} {events : List EphemeralDraftEnvelope} {identity : DraftIdentity}

theorem DraftStream.nil : DraftStream offered [] where
  begins := by simp
  startedOnce := List.Pairwise.nil
  endsAbandoned := List.Pairwise.nil
  increasing := List.Pairwise.nil
  texts := .nil

theorem DraftStream.started : DraftStream offered [.started identity] where
  begins := by
    intro event isHead
    cases isHead
    rfl
  startedOnce := List.pairwise_singleton _ _
  endsAbandoned := List.pairwise_singleton _ _
  increasing := List.Pairwise.nil
  texts := .nil

theorem OpenStream.started (last : Nat) : OpenStream last [.started identity] := by
  refine ⟨by simp, ?_, ?_⟩
  · intro event member
    rw [List.mem_singleton.mp member]
    rfl
  · intro event member sequence isSequence
    rw [List.mem_singleton.mp member] at isSequence
    cases isSequence

variable {event : EphemeralDraftEnvelope} {more : List Text} {last : Nat}

theorem DraftStream.offer (stream : DraftStream offered events)
    (sub : offered.Sublist more) : DraftStream more events :=
  ⟨stream.begins, stream.startedOnce, stream.endsAbandoned, stream.increasing, stream.texts.offer sub⟩

theorem DraftStream.lose (stream : DraftStream offered events) {fewer : List EphemeralDraftEnvelope}
    (sub : fewer.Sublist events) (kept : ∀ event ∈ events, event.isStarted = true → event ∈ fewer) :
    DraftStream offered fewer := by
  refine ⟨?_, stream.startedOnce.sublist sub, stream.endsAbandoned.sublist sub,
    stream.increasing.sublist (sub.filterMap _), stream.texts.sublist (sub.filterMap _)⟩
  cases events with
  | nil =>
    rw [List.sublist_nil.mp sub]
    simp
  | cons first rest =>
    have isStarted := stream.begins first rfl
    have firstIn := kept first (List.mem_cons_self ..) isStarted
    intro event isHead
    cases sub with
    | cons _ inRest =>
      have later := (List.pairwise_cons.mp stream.startedOnce).1 first (inRest.subset firstIn)
      rw [isStarted] at later
      cases later
    | cons_cons =>
      cases isHead
      exact isStarted

theorem DraftStream.cut {before after : List EphemeralDraftEnvelope}
    (stream : DraftStream offered (before ++ after)) : DraftStream offered before := by
  have sub : before.Sublist (before ++ after) := List.sublist_append_left ..
  refine ⟨?_, stream.startedOnce.sublist sub, stream.endsAbandoned.sublist sub,
    stream.increasing.sublist (sub.filterMap _), stream.texts.sublist (sub.filterMap _)⟩
  intro event isHead
  refine stream.begins event ?_
  cases before with
  | nil => cases isHead
  | cons => exact isHead

theorem OpenStream.append {next : Nat} (isOpen : OpenStream last events)
    (notAbandoned : event.isAbandoned = false) (further : last ≤ next)
    (bounded : ∀ sequence, event.deltaSequence = some sequence → sequence ≤ next) :
    OpenStream next (events ++ [event]) := by
  refine ⟨by simp, ?_, ?_⟩
  · intro other member
    rcases List.mem_append.mp member with old | new
    · exact isOpen.notAbandoned other old
    · rw [List.mem_singleton.mp new]
      exact notAbandoned
  · intro other member sequence isSequence
    rcases List.mem_append.mp member with old | new
    · exact (isOpen.bounded other old sequence isSequence).trans further
    · rw [List.mem_singleton.mp new] at isSequence
      exact bounded sequence isSequence

theorem DraftStream.append (stream : DraftStream offered events) (isOpen : OpenStream last events)
    (notStarted : event.isStarted = false)
    (above : ∀ sequence, event.deltaSequence = some sequence → last < sequence)
    (texts : JoinedFrom more (events.filterMap (fun event => event.text) ++ event.text.toList)) :
    DraftStream more (events ++ [event]) := by
  refine ⟨?_, ?_, ?_, ?_, ?_⟩
  · intro first isHead
    refine stream.begins first ?_
    cases events with
    | nil => exact absurd rfl isOpen.nonempty
    | cons => exact isHead
  · refine List.pairwise_append.mpr ⟨stream.startedOnce, List.pairwise_singleton _ _, ?_⟩
    intro _ _ later laterIn
    rw [List.mem_singleton.mp laterIn]
    exact notStarted
  · refine List.pairwise_append.mpr ⟨stream.endsAbandoned, List.pairwise_singleton _ _, ?_⟩
    intro earlier earlierIn _ _
    exact isOpen.notAbandoned earlier earlierIn
  · rw [List.filterMap_append]
    refine List.pairwise_append.mpr ⟨stream.increasing, ?_, ?_⟩
    · cases sequence : event.deltaSequence <;> simp [sequence]
    · intro earlier earlierIn later laterIn
      obtain ⟨before, beforeIn, isEarlier⟩ := List.mem_filterMap.mp earlierIn
      have bound := isOpen.bounded before beforeIn earlier isEarlier
      have greater := above later (by simpa using laterIn)
      omega
  · rw [List.filterMap_append]
    cases text : event.text <;> simpa [text] using texts

end Streams

/-! Connections. -/

def ofDraft (draftId : DraftId) (events : List EphemeralDraftEnvelope) : List EphemeralDraftEnvelope :=
  events.filter fun event => event.draftId == draftId

/-- What holds of a connection: the events it has received and those queued for it make a
stream of each draft, and it is eligible for a draft only while the broker has an entry. -/
structure Presenting (created : List DraftIdentity) (drafts : List ActiveDraft)
    (offered : DraftId → List Text) (received queue : List EphemeralDraftEnvelope)
    (eligible : DraftId → Option Nat) : Prop where
  bounded : queue.length ≤ websocketOutboundFrames
  known : ∀ event ∈ received ++ queue, event.toDraftIdentity ∈ created
  streams : ∀ draftId, DraftStream (offered draftId) (ofDraft draftId (received ++ queue))
  opened : ∀ draftId last, eligible draftId = some last →
    OpenStream last (ofDraft draftId (received ++ queue))
  active : ∀ draftId last, eligible draftId = some last →
    ∃ draft ∈ drafts, draft.identity.draftId = draftId ∧ last ≤ draft.nextSequence

def Continues (drafts after : List ActiveDraft) : Prop :=
  ∀ draft ∈ drafts, ∃ next ∈ after, next.identity.draftId = draft.identity.draftId ∧
    draft.nextSequence ≤ next.nextSequence

section Connections

variable {created : List DraftIdentity} {drafts : List ActiveDraft} {offered : DraftId → List Text}
  {received queue : List EphemeralDraftEnvelope} {eligible : DraftId → Option Nat}
  {identity : DraftIdentity}

theorem ofDraft_append (draftId : DraftId) (first second : List EphemeralDraftEnvelope) :
    ofDraft draftId (first ++ second) = ofDraft draftId first ++ ofDraft draftId second :=
  List.filter_append ..

theorem ofDraft_concat_self :
    ofDraft event.draftId (events ++ [event]) = ofDraft event.draftId events ++ [event] := by
  simp [ofDraft]

variable {draftId : DraftId} {eligible' : DraftId → Option Nat} {event : EphemeralDraftEnvelope}
  {drafts' : List ActiveDraft} {subscriber : Subscriber}

theorem ofDraft_concat_other (other : draftId ≠ event.draftId) :
    ofDraft draftId (events ++ [event]) = ofDraft draftId events := by
  simp [ofDraft, other.symm]

theorem Presenting.fresh : Presenting created drafts offered [] [] (fun _ => none) := by
  refine ⟨by simp, by simp, fun _ => .nil, ?_, ?_⟩ <;> simp

section

variable (presenting : Presenting created drafts offered received queue eligible)
include presenting

theorem Presenting.weaken {created' : List DraftIdentity} {offered' : DraftId → List Text}
    (more : ∀ identity ∈ created, identity ∈ created') (continues : Continues drafts drafts')
    (texts : ∀ draftId, (offered draftId).Sublist (offered' draftId)) :
    Presenting created' drafts' offered' received queue eligible := by
  refine ⟨presenting.bounded, fun event member => more _ (presenting.known event member),
    fun draftId => (presenting.streams draftId).offer (texts draftId), presenting.opened, ?_⟩
  intro draftId last isEligible
  obtain ⟨draft, draftIn, same, bound⟩ := presenting.active draftId last isEligible
  obtain ⟨next, nextIn, sameNext, further⟩ := continues draft draftIn
  exact ⟨next, nextIn, sameNext.trans same, bound.trans further⟩

theorem Presenting.unknown (unknown : ∀ identity ∈ created, identity.draftId ≠ draftId) :
    ofDraft draftId (received ++ queue) = [] := by
  rw [ofDraft, List.filter_eq_nil_iff]
  intro event member
  simpa using unknown _ (presenting.known event member)

theorem Presenting.lose {fewer : List EphemeralDraftEnvelope} (sub : fewer.Sublist queue)
    (kept : ∀ event ∈ queue, event.isDelta = false → event ∈ fewer) :
    Presenting created drafts offered received fewer eligible := by
  have subWhole : (received ++ fewer).Sublist (received ++ queue) := (List.Sublist.refl _).append sub
  have keptWhole : ∀ draftId, ∀ event ∈ ofDraft draftId (received ++ queue), event.isStarted = true →
      event ∈ ofDraft draftId (received ++ fewer) := by
    intro draftId event member isStarted
    have structural : event.isDelta = false := by
      simp only [EphemeralDraftEnvelope.isStarted, beq_iff_eq] at isStarted
      simp [EphemeralDraftEnvelope.isDelta, isStarted]
    obtain ⟨whole, selected⟩ := List.mem_filter.mp member
    refine List.mem_filter.mpr ⟨?_, selected⟩
    rcases List.mem_append.mp whole with before | queued
    · exact List.mem_append_left _ before
    · exact List.mem_append_right _ (kept event queued structural)
  refine ⟨sub.length_le.trans presenting.bounded,
    fun event member => presenting.known event (subWhole.subset member),
    fun draftId => (presenting.streams draftId).lose (subWhole.filter _) (keptWhole draftId), ?_,
    presenting.active⟩
  intro draftId last isEligible
  have isOpen := presenting.opened draftId last isEligible
  have within : ∀ event ∈ ofDraft draftId (received ++ fewer), event ∈ ofDraft draftId (received ++ queue) :=
    fun event member => (subWhole.filter _).subset member
  refine ⟨?_, fun event member => isOpen.notAbandoned event (within event member),
    fun event member => isOpen.bounded event (within event member)⟩
  -- The start of the draft is still there.
  obtain ⟨first, rest, split⟩ := List.exists_cons_of_ne_nil isOpen.nonempty
  have isStarted := (presenting.streams draftId).begins first (by rw [split]; rfl)
  exact List.ne_nil_of_mem (keptWhole draftId first (by rw [split]; exact List.mem_cons_self ..) isStarted)

theorem Presenting.push
    (isDraft : event.draftId = draftId) (room : queue.length < websocketOutboundFrames)
    (isKnown : event.toDraftIdentity ∈ created)
    (stream : DraftStream (offered draftId) (ofDraft draftId (received ++ queue) ++ [event]))
    (others : ∀ other, other ≠ draftId → eligible' other = eligible other)
    (opened : ∀ last, eligible' draftId = some last →
      OpenStream last (ofDraft draftId (received ++ queue) ++ [event]))
    (active : ∀ last, eligible' draftId = some last →
      ∃ draft ∈ drafts, draft.identity.draftId = draftId ∧ last ≤ draft.nextSequence) :
    Presenting created drafts offered received (queue ++ [event]) eligible' := by
  subst isDraft
  refine ⟨?_, ?_, ?_, ?_, ?_⟩
  · rw [List.length_append, List.length_singleton]
    exact room
  · intro other member
    rw [← List.append_assoc] at member
    rcases List.mem_append.mp member with old | new
    · exact presenting.known other old
    · rw [List.mem_singleton.mp new]
      exact isKnown
  · intro draftId
    rw [← List.append_assoc]
    by_cases same : draftId = event.draftId
    · rw [same, ofDraft_concat_self]
      exact stream
    · rw [ofDraft_concat_other _ same]
      exact presenting.streams draftId
  · intro draftId last isEligible
    rw [← List.append_assoc]
    by_cases same : draftId = event.draftId
    · rw [same] at isEligible
      rw [same, ofDraft_concat_self]
      exact opened last isEligible
    · rw [others draftId same] at isEligible
      rw [ofDraft_concat_other _ same]
      exact presenting.opened draftId last isEligible
  · intro draftId last isEligible
    by_cases same : draftId = event.draftId
    · rw [same] at isEligible ⊢
      exact active last isEligible
    · rw [others draftId same] at isEligible
      exact presenting.active draftId last isEligible

end

theorem evictDeltas_facts (count : Nat) (queue : List EphemeralDraftEnvelope) :
    (Subscriber.evictDeltas count queue).1.Sublist queue ∧
      (∀ event ∈ queue, event.isDelta = false → event ∈ (Subscriber.evictDeltas count queue).1) ∧
      ((Subscriber.evictDeltas count queue).2 = true →
        (Subscriber.evictDeltas count queue).1.length + count = queue.length) := by
  induction count generalizing queue with
  | zero => exact ⟨List.Sublist.refl _, fun _ member _ => member, fun _ => rfl⟩
  | succ count ih =>
    simp only [Subscriber.evictDeltas]
    split
    · rename_i found
      obtain ⟨sub, kept, length⟩ := ih (queue.eraseP EphemeralDraftEnvelope.isDelta)
      obtain ⟨victim, victimIn, isDelta⟩ := List.any_eq_true.mp found
      have shorter := List.length_eraseP_of_mem victimIn isDelta
      have positive := List.length_pos_of_mem victimIn
      refine ⟨sub.trans (List.eraseP_sublist ..), ?_, ?_⟩
      · intro event member structural
        exact kept event ((List.mem_eraseP_of_neg (by simp [structural])).mpr member) structural
      · intro made
        have := length made
        omega
    · exact ⟨List.Sublist.refl _, fun _ member _ => member, nofun⟩

theorem enqueueStructural_cases (subscriber : Subscriber) (event : EphemeralDraftEnvelope) :
    ∃ fewer, fewer.Sublist subscriber.queue ∧
      (∀ other ∈ subscriber.queue, other.isDelta = false → other ∈ fewer) ∧
      (subscriber.enqueueStructural event).1.eligibleDrafts = subscriber.eligibleDrafts ∧
      ((subscriber.enqueueStructural event).2 = true ∧
          (subscriber.enqueueStructural event).1.queue = fewer ++ [event] ∧
          fewer.length < websocketOutboundFrames ∨
        (subscriber.enqueueStructural event).2 = false ∧
          (subscriber.enqueueStructural event).1.queue = fewer) := by
  obtain ⟨sub, kept, length⟩ := evictDeltas_facts
    (subscriber.queue.length + 1 - websocketOutboundFrames) subscriber.queue
  unfold Subscriber.enqueueStructural
  split
  · rename_i queue evicted
    rw [evicted] at sub kept length
    refine ⟨queue, sub, kept, rfl, Or.inl ⟨rfl, rfl, ?_⟩⟩
    have total := length rfl
    simp only [websocketOutboundFrames] at total ⊢
    omega
  · rename_i queue evicted
    rw [evicted] at sub kept
    exact ⟨queue, sub, kept, rfl, Or.inr ⟨rfl, rfl⟩⟩

theorem start_eq (subscriber : Subscriber) (identity : DraftIdentity) :
    (subscriber.start identity).queue = (subscriber.enqueueStructural (.started identity)).1.queue ∧
      (subscriber.start identity).eligibleDrafts =
        if (subscriber.enqueueStructural (.started identity)).2 then
          Function.update (subscriber.enqueueStructural (.started identity)).1.eligibleDrafts
            identity.draftId (some 0)
        else (subscriber.enqueueStructural (.started identity)).1.eligibleDrafts := by
  unfold Subscriber.start
  split <;> rename_i queued <;> simp [queued]

theorem Presenting.start
    (presenting : Presenting created drafts offered received subscriber.queue subscriber.eligibleDrafts)
    (unsent : ofDraft identity.draftId (received ++ subscriber.queue) = [])
    (isKnown : identity ∈ created)
    (entry : ∃ draft ∈ drafts, draft.identity.draftId = identity.draftId) :
    Presenting created drafts offered received (subscriber.start identity).queue
        (subscriber.start identity).eligibleDrafts ∧
      ∀ last, (subscriber.start identity).eligibleDrafts identity.draftId = some last → last = 0 := by
  obtain ⟨queueIs, eligibleIs⟩ := start_eq subscriber identity
  obtain ⟨fewer, sub, kept, sameEligible, ⟨made, queued, room⟩ | ⟨failed, queued⟩⟩ :=
    enqueueStructural_cases subscriber (.started identity)
  · have lost := presenting.lose sub kept
    have unsentFewer : ofDraft identity.draftId (received ++ fewer) = [] := by
      refine List.sublist_nil.mp (unsent ▸ ?_)
      exact ((List.Sublist.refl _).append sub).filter _
    rw [queueIs, eligibleIs, made, if_pos rfl, queued, sameEligible]
    have isZero : ∀ last, Function.update subscriber.eligibleDrafts identity.draftId (some 0)
        identity.draftId = some last → last = 0 := by
      intro last isLast
      rw [Function.update_self] at isLast
      exact (Option.some.inj isLast).symm
    refine ⟨lost.push rfl room isKnown ?_ ?_ ?_ ?_, isZero⟩
    · rw [EphemeralDraftEnvelope.started_identity, unsentFewer]
      exact .started
    · intro draftId other
      exact Function.update_of_ne other _ _
    · intro last _
      rw [EphemeralDraftEnvelope.started_identity, unsentFewer]
      exact .started last
    · intro last isLast
      obtain ⟨draft, draftIn, same⟩ := entry
      rw [isZero last isLast]
      exact ⟨draft, draftIn, same, Nat.zero_le _⟩
  · rw [queueIs, eligibleIs, failed, queued, sameEligible]
    refine ⟨presenting.lose sub kept, ?_⟩
    intro last isEligible
    exact absurd unsent (presenting.opened _ last isEligible).nonempty

theorem Presenting.forget (presenting : Presenting created drafts offered received queue eligible)
    (ineligible : eligible' draftId = none)
    (others : ∀ other, other ≠ draftId → eligible' other = eligible other)
    (kept : ∀ draft ∈ drafts, draft.identity.draftId ≠ draftId → draft ∈ drafts') :
    Presenting created drafts' offered received queue eligible' := by
  have distinct : ∀ other last, eligible' other = some last →
      other ≠ draftId ∧ eligible other = some last := by
    intro other last found
    have different : other ≠ draftId := by
      rintro rfl
      rw [ineligible] at found
      cases found
    exact ⟨different, others other different ▸ found⟩
  refine ⟨presenting.bounded, presenting.known, presenting.streams, ?_, ?_⟩
  · intro other last found
    exact presenting.opened other last (distinct other last found).2
  · intro other last found
    obtain ⟨different, before⟩ := distinct other last found
    obtain ⟨draft, draftIn, same, bound⟩ := presenting.active other last before
    exact ⟨draft, kept draft draftIn (same ▸ different), same, bound⟩

theorem Presenting.abandonDraft
    (presenting : Presenting created drafts offered received subscriber.queue subscriber.eligibleDrafts)
    (isKnown : identity ∈ created) (cause : DraftAbandonCause)
    (others : ∀ draft ∈ drafts, draft.identity.draftId ≠ identity.draftId → draft ∈ drafts') :
    Presenting created drafts' offered received (subscriber.abandonDraft identity cause).queue
      (subscriber.abandonDraft identity cause).eligibleDrafts := by
  unfold Subscriber.abandonDraft
  split
  · rename_i last isEligible
    let after : Subscriber := { subscriber with
      eligibleDrafts := Function.update subscriber.eligibleDrafts identity.draftId none }
    let event := EphemeralDraftEnvelope.abandoned identity (publicAbandonReason cause)
    have closed : Presenting created drafts' offered received after.queue after.eligibleDrafts :=
      presenting.forget (Function.update_self ..) (fun _ other => Function.update_of_ne other _ _) others
    obtain ⟨fewer, sub, kept, sameEligible, ⟨_, queued, room⟩ | ⟨_, queued⟩⟩ :=
      enqueueStructural_cases after event
    · rw [queued, sameEligible]
      have isOpen := (presenting.lose sub kept).opened identity.draftId last isEligible
      have stream := (presenting.lose sub kept).streams identity.draftId
      have gone : ∀ bound, after.eligibleDrafts identity.draftId ≠ some bound := by
        simp [after]
      refine (closed.lose sub kept).push rfl room isKnown (stream.append isOpen rfl nofun ?_)
        (fun _ _ => rfl) (fun bound found => absurd found (gone bound))
        (fun bound found => absurd found (gone bound))
      simpa [event, EphemeralDraftEnvelope.text, EphemeralDraftEnvelope.abandoned] using stream.texts
    · rw [queued, sameEligible]
      exact closed.lose sub kept
  · rename_i ineligible
    exact presenting.forget ineligible (fun _ _ => rfl) others

theorem coalesce_eq_some {encodedLength : EphemeralDraftEnvelope → Nat}
    {last candidate : EphemeralDraftEnvelope} {sequence : Nat} {kind : DraftDeltaKind} {text : Text}
    (joined : Subscriber.coalesce encodedLength last (.delta identity sequence kind text) =
      some candidate) :
    last.draftId = identity.draftId ∧ ∃ lastText, last.payload = .delta kind lastText ∧
      candidate = { last with
        deltaSequence := some sequence
        payload := .delta kind (lastText ++ text) } := by
  unfold Subscriber.coalesce at joined
  split at joined
  · rename_i sameDraft
    split at joined
    · rename_i lastKind lastText nextKind nextText lastIs nextIs
      cases nextIs
      split at joined
      · rename_i sameKind
        subst sameKind
        dsimp only at joined
        split at joined
        · exact ⟨sameDraft, lastText, lastIs, (Option.some.inj joined).symm⟩
        · cases joined
      · cases joined
    · cases joined
  · cases joined

theorem enqueueDelta_cases (subscriber : Subscriber)
    (identity : DraftIdentity) (sequence : Nat) (kind : DraftDeltaKind) (text : Text) :
    let event := EphemeralDraftEnvelope.delta identity sequence kind text
    let after := subscriber.enqueueDelta encodedLength event
    after.eligibleDrafts = subscriber.eligibleDrafts ∧
      (subscriber.queue.length < websocketOutboundFrames ∧ after.queue = subscriber.queue ++ [event] ∨
        (∃ front last lastText, subscriber.queue = front ++ [last] ∧ last.draftId = identity.draftId ∧
          last.payload = .delta kind lastText ∧ after.queue = front ++ [{ last with
            deltaSequence := some sequence
            payload := .delta kind (lastText ++ text) }]) ∨
        after.queue = subscriber.queue) := by
  intro event after
  by_cases room : subscriber.queue.length < websocketOutboundFrames
  · simp only [after, Subscriber.enqueueDelta, room, if_true]
    exact ⟨trivial, Or.inl ⟨trivial, trivial⟩⟩
  · simp only [after, Subscriber.enqueueDelta, room, if_false]
    split
    · rename_i candidate found
      obtain ⟨last, isLast, joined⟩ := Option.bind_eq_some_iff.mp found
      obtain ⟨front, split⟩ := List.getLast?_eq_some_iff.mp isLast
      obtain ⟨sameDraft, lastText, lastIs, rfl⟩ := coalesce_eq_some joined
      exact ⟨rfl, Or.inr (Or.inl ⟨front, last, lastText, split, sameDraft, lastIs, by simp [split]⟩)⟩
    · exact ⟨rfl, Or.inr (Or.inr rfl)⟩

section Deltas

variable {last sequence : Nat} {kind : DraftDeltaKind} {text : Text}

theorem Presenting.raise (presenting : Presenting created drafts offered received queue eligible)
    (isEligible : eligible identity.draftId = some last) (above : last < sequence)
    (entry : ∃ draft ∈ drafts, draft.identity.draftId = identity.draftId ∧ sequence ≤ draft.nextSequence) :
    Presenting created drafts offered received queue
      (Function.update eligible identity.draftId (some sequence)) := by
  have cases_ : ∀ other bound, Function.update eligible identity.draftId (some sequence) other =
      some bound → other = identity.draftId ∧ bound = sequence ∨ eligible other = some bound := by
    intro other bound found
    by_cases same : other = identity.draftId
    · subst same
      rw [Function.update_self] at found
      exact Or.inl ⟨rfl, (Option.some.inj found).symm⟩
    · rw [Function.update_of_ne same] at found
      exact Or.inr found
  refine ⟨presenting.bounded, presenting.known, presenting.streams, ?_, ?_⟩
  · intro other bound found
    rcases cases_ other bound found with ⟨rfl, rfl⟩ | before
    · have isOpen := presenting.opened _ last isEligible
      exact ⟨isOpen.nonempty, isOpen.notAbandoned, fun event member number isNumber =>
        (isOpen.bounded event member number isNumber).trans above.le⟩
    · exact presenting.opened other bound before
  · intro other bound found
    rcases cases_ other bound found with ⟨rfl, rfl⟩ | before
    · exact entry
    · exact presenting.active other bound before

variable {more : DraftId → List Text}

theorem Presenting.pushDelta (presenting : Presenting created drafts offered received queue eligible)
    (isEligible : eligible identity.draftId = some last) (above : last < sequence)
    (isKnown : identity ∈ created) (room : queue.length < websocketOutboundFrames)
    (entry : ∃ draft ∈ drafts, draft.identity.draftId = identity.draftId ∧ sequence ≤ draft.nextSequence) (texts : ∀ draftId, (offered draftId).Sublist (more draftId))
    (isMore : more identity.draftId = offered identity.draftId ++ [text]) :
    Presenting created drafts more received (queue ++ [.delta identity sequence kind text])
      (Function.update eligible identity.draftId (some sequence)) := by
  have isOpen := presenting.opened _ _ isEligible
  have stream := presenting.streams identity.draftId
  have raised := (presenting.raise isEligible above entry).weaken (fun _ member => member)
    (fun draft member => ⟨draft, member, rfl, Nat.le_refl _⟩) texts
  refine raised.push rfl room isKnown ?_ (fun _ _ => rfl) ?_ (raised.active _)
  · rw [EphemeralDraftEnvelope.delta_identity, isMore]
    exact stream.append isOpen rfl (by rintro _ ⟨⟩; exact above) (stream.texts.concat text)
  · intro bound isBound
    rw [EphemeralDraftEnvelope.delta_identity, Function.update_self, Option.some.injEq] at isBound
    rw [← isBound]
    exact isOpen.append rfl above.le (by rintro _ ⟨⟩; exact Nat.le_refl _)

theorem Presenting.joinDelta {front : List EphemeralDraftEnvelope} {lastEvent : EphemeralDraftEnvelope}
    {lastText : Text}
    (presenting : Presenting created drafts offered received (front ++ [lastEvent]) eligible)
    (isEligible : eligible identity.draftId = some last) (above : last < sequence)
    (sameDraft : lastEvent.draftId = identity.draftId) (lastIs : lastEvent.payload = .delta kind lastText)
    (entry : ∃ draft ∈ drafts, draft.identity.draftId = identity.draftId ∧ sequence ≤ draft.nextSequence) (texts : ∀ draftId, (offered draftId).Sublist (more draftId))
    (isMore : more identity.draftId = offered identity.draftId ++ [text]) :
    Presenting created drafts more received (front ++ [{ lastEvent with
        deltaSequence := some sequence
        payload := .delta kind (lastText ++ text) }])
      (Function.update eligible identity.draftId (some sequence)) := by
  have kept : ∀ other ∈ front ++ [lastEvent], other.isDelta = false → other ∈ front := by
    intro other member structural
    rcases List.mem_append.mp member with old | new
    · exact old
    · rw [List.mem_singleton.mp new, EphemeralDraftEnvelope.isDelta, lastIs] at structural
      cases structural
  have lost := presenting.lose (List.sublist_append_left ..) kept
  have isOpen := lost.opened _ _ isEligible
  have stream := lost.streams identity.draftId
  have raised := (lost.raise isEligible above entry).weaken (fun _ member => member)
    (fun draft member => ⟨draft, member, rfl, Nat.le_refl _⟩) texts
  have room : front.length < websocketOutboundFrames := by
    have bound := presenting.bounded
    rw [List.length_append, List.length_singleton] at bound
    exact bound
  -- The texts up to the last delta, which the next one is joined to.
  have before := (presenting.streams identity.draftId).texts
  rw [← List.append_assoc, ← sameDraft, ofDraft_concat_self, sameDraft, List.filterMap_append] at before
  have lastIn : (List.filterMap (fun event : EphemeralDraftEnvelope => event.text) [lastEvent]) =
      [lastText] := by
    simp [EphemeralDraftEnvelope.text, lastIs]
  rw [lastIn] at before
  refine raised.push sameDraft room ?_ ?_ (fun _ _ => rfl) ?_ (raised.active _)
  · exact presenting.known lastEvent (by simp)
  · rw [isMore]
    exact stream.append isOpen rfl (by rintro _ ⟨⟩; exact above) (before.join text)
  · intro bound isBound
    rw [Function.update_self, Option.some.injEq] at isBound
    rw [← isBound]
    exact isOpen.append rfl above.le (by rintro _ ⟨⟩; exact Nat.le_refl _)

theorem Presenting.offerDelta {encodedLength : EphemeralDraftEnvelope → Nat} {subscriber : Subscriber}
    (presenting : Presenting created drafts offered received subscriber.queue subscriber.eligibleDrafts)
    (isKnown : identity ∈ created)
    (entry : ∃ draft ∈ drafts, draft.identity.draftId = identity.draftId ∧ sequence ≤ draft.nextSequence)
    (older : ∀ last, subscriber.eligibleDrafts identity.draftId = some last → last < sequence) (texts : ∀ draftId, (offered draftId).Sublist (more draftId))
    (isMore : more identity.draftId = offered identity.draftId ++ [text]) :
    Presenting created drafts more received
      (subscriber.offerDelta encodedLength (.delta identity sequence kind text) sequence).queue
      (subscriber.offerDelta encodedLength (.delta identity sequence kind text) sequence).eligibleDrafts := by
  have weaken : ∀ {queue eligible}, Presenting created drafts offered received queue eligible →
      Presenting created drafts more received queue eligible := fun presenting =>
    presenting.weaken (fun _ member => member) (fun draft member => ⟨draft, member, rfl, Nat.le_refl _⟩)
      texts
  unfold Subscriber.offerDelta
  split
  · exact weaken presenting
  · rename_i last isEligible
    have above := older last isEligible
    rw [if_neg (Nat.not_le_of_lt above), EphemeralDraftEnvelope.delta_identity]
    obtain ⟨sameEligible, ⟨room, queued⟩ | ⟨front, lastEvent, lastText, split, sameDraft, lastIs, queued⟩ |
      queued⟩ := enqueueDelta_cases encodedLength { subscriber with
        eligibleDrafts := Function.update subscriber.eligibleDrafts identity.draftId (some sequence) }
        identity sequence kind text
    · rw [sameEligible, queued]
      exact presenting.pushDelta isEligible above isKnown room entry texts isMore
    · have split : subscriber.queue = front ++ [lastEvent] := split
      rw [split] at presenting
      rw [sameEligible, queued]
      exact presenting.joinDelta isEligible above sameDraft lastIs entry texts isMore
    · rw [sameEligible, queued]
      exact weaken (presenting.raise isEligible above entry)

end Deltas

end Connections

/-! The broker. -/

/-- What holds of the broker, given the identities it has made entries for, the texts it has
been offered and what its connections have received. -/
structure BrokerOk (created : List DraftIdentity) (offered : DraftId → List Text)
    (received : Nat → List EphemeralDraftEnvelope) (broker : LiveEventBroker) : Prop where
  identities : Keyed DraftIdentity.draftId created
  invocations : Keyed ActiveDraft.invocationId broker.drafts
  entries : ∀ draft ∈ broker.drafts, draft.identity ∈ created ∧ draft.started = true
  unassigned : ∀ id, broker.nextSubscriberId ≤ id → broker.subscribers id = none ∧ received id = []
  connections : ∀ id subscriber, broker.subscribers id = some subscriber →
    Presenting created broker.drafts offered (received id) subscriber.queue subscriber.eligibleDrafts

section Brokers

variable {created : List DraftIdentity} {offered : DraftId → List Text}
  {received : Nat → List EphemeralDraftEnvelope} {broker : LiveEventBroker}

variable {draft : ActiveDraft} {more : DraftId → List Text}
  {encodedLength : EphemeralDraftEnvelope → Nat} {created' : List DraftIdentity}
  {invocationId kept : ModelInvocationId}

theorem BrokerOk.broadcast (ok : BrokerOk created offered received broker)
    {offered' : DraftId → List Text} {drafts' : List ActiveDraft}
    {change : Subscriber → Subscriber} {next : LiveEventBroker}
    (sameId : next.nextSubscriberId = broker.nextSubscriberId)
    (subscribers : next.subscribers = fun id => (broker.subscribers id).map change)
    (drafts : next.drafts = drafts') (keyed : Keyed DraftIdentity.draftId created')
    (draftsKeyed : Keyed ActiveDraft.invocationId drafts')
    (entries : ∀ draft ∈ drafts', draft.identity ∈ created' ∧ draft.started = true)
    (presenting : ∀ {received : List EphemeralDraftEnvelope} {subscriber : Subscriber},
      Presenting created broker.drafts offered received subscriber.queue subscriber.eligibleDrafts →
        Presenting created' drafts' offered' received (change subscriber).queue
          (change subscriber).eligibleDrafts) : BrokerOk created' offered' received next := by
  subst drafts
  refine ⟨keyed, draftsKeyed, entries, ?_, ?_⟩
  · intro id above
    rw [sameId] at above
    obtain ⟨absent, none⟩ := ok.unassigned id above
    exact ⟨by simp [subscribers, absent], none⟩
  · intro id subscriber found
    rw [subscribers] at found
    obtain ⟨before, isBefore, rfl⟩ := Option.map_eq_some_iff.mp found
    exact presenting (ok.connections id before isBefore)

theorem findDraft_eq_some (found : broker.findDraft invocationId = some draft) :
    draft ∈ broker.drafts ∧ draft.invocationId = invocationId :=
  ⟨List.mem_of_find?_eq_some found, by simpa using List.find?_some found⟩

theorem findDraft_eq_none (absent : broker.findDraft invocationId = none) :
    ∀ draft ∈ broker.drafts, draft.invocationId ≠ invocationId := by
  intro draft member
  simpa using List.find?_eq_none.mp absent draft member

theorem mem_removeDraft :
    draft ∈ (broker.removeDraft invocationId).drafts ↔
      draft ∈ broker.drafts ∧ draft.invocationId ≠ invocationId := by
  simp [LiveEventBroker.removeDraft]

section

variable (ok : BrokerOk created offered received broker)
include ok

theorem BrokerOk.removed_keyed (invocationId : ModelInvocationId) :
    Keyed ActiveDraft.invocationId (broker.removeDraft invocationId).drafts :=
  (List.filter_sublist.map _).nodup ok.invocations

theorem BrokerOk.entry_eq {first second : ActiveDraft}
    (firstIn : first ∈ broker.drafts) (secondIn : second ∈ broker.drafts)
    (same : first.identity.draftId = second.identity.draftId) : first = second := by
  have sameIdentity := ok.identities.eq (ok.entries first firstIn).1 (ok.entries second secondIn).1 same
  exact ok.invocations.eq firstIn secondIn (congrArg DraftIdentity.invocationId sameIdentity)

theorem BrokerOk.others_kept (draftIn : draft ∈ broker.drafts) : ∀ other ∈ broker.drafts,
      other.identity.draftId ≠ draft.identity.draftId →
        other ∈ (broker.removeDraft draft.invocationId).drafts := by
  intro other otherIn different
  refine mem_removeDraft.mpr ⟨otherIn, fun same => ?_⟩
  rw [ok.invocations.eq otherIn draftIn same] at different
  exact different rfl

theorem BrokerOk.abandon (invocationId : ModelInvocationId) (cause : DraftAbandonCause) :
    BrokerOk created offered received (broker.abandon invocationId cause) := by
  unfold LiveEventBroker.abandon
  split
  · exact ok
  · rename_i draft found
    obtain ⟨draftIn, rfl⟩ := findDraft_eq_some found
    obtain ⟨isKnown, started⟩ := ok.entries draft draftIn
    rw [LiveEventBroker.broadcastAbandonedDraft, started, if_pos rfl]
    refine ok.broadcast rfl rfl rfl ok.identities (ok.removed_keyed _) ?_ ?_
    · intro other otherIn
      exact ok.entries other (mem_removeDraft.mp otherIn).1
    · intro received subscriber presenting
      exact presenting.abandonDraft isKnown cause (ok.others_kept draftIn)

end

theorem abandon_keeps (invocationId : ModelInvocationId) (cause : DraftAbandonCause)
    (other : kept ≠ invocationId) :
    (broker.abandon invocationId cause).findDraft kept = broker.findDraft kept := by
  have removed : (broker.removeDraft invocationId).findDraft kept = broker.findDraft kept := by
    simp only [LiveEventBroker.findDraft, LiveEventBroker.removeDraft, List.find?_filter]
    refine congrArg (fun test => broker.drafts.find? test) (funext fun draft => ?_)
    by_cases same : draft.invocationId = kept
    · simp [same, other]
    · simp [same]
  unfold LiveEventBroker.abandon
  split
  · rfl
  · rw [LiveEventBroker.broadcastAbandonedDraft]
    split
    · exact removed
    · exact removed

theorem BrokerOk.supersede (invocations : List ModelInvocationId)
    (others : ∀ invocationId ∈ invocations, kept ≠ invocationId) :
    ∀ {broker : LiveEventBroker}, BrokerOk created offered received broker →
      BrokerOk created offered received (invocations.foldl
        (fun broker invocationId => broker.abandon invocationId .superseded) broker) ∧
      (invocations.foldl (fun broker invocationId => broker.abandon invocationId .superseded)
        broker).findDraft kept = broker.findDraft kept := by
  induction invocations with
  | nil => exact fun ok => ⟨ok, rfl⟩
  | cons invocationId rest ih =>
    intro broker ok
    obtain ⟨restOk, restFound⟩ := ih (fun other member => others other (List.mem_cons_of_mem _ member))
      (ok.abandon invocationId .superseded)
    exact ⟨restOk, restFound.trans (abandon_keeps _ _ (others _ (List.mem_cons_self ..)))⟩

theorem BrokerOk.weaken (ok : BrokerOk created offered received broker)
    (texts : ∀ draftId, (offered draftId).Sublist (more draftId)) :
    BrokerOk created more received broker := by
  refine ⟨ok.identities, ok.invocations, ok.entries, ok.unassigned, ?_⟩
  intro id subscriber found
  exact (ok.connections id subscriber found).weaken (fun _ member => member)
    (fun draft member => ⟨draft, member, rfl, Nat.le_refl _⟩) texts

theorem putDraft_continues (draft next : ActiveDraft) (same : next.identity = draft.identity)
    (further : draft.nextSequence ≤ next.nextSequence)
    (unique : ∀ other ∈ broker.drafts, other.invocationId = draft.invocationId → other = draft) :
    Continues broker.drafts (broker.putDraft next).drafts := by
  intro other otherIn
  by_cases isDraft : other.invocationId = draft.invocationId
  · refine ⟨next, List.mem_append_right _ (List.mem_singleton_self _), ?_, ?_⟩
    · rw [unique other otherIn isDraft, same]
    · rw [unique other otherIn isDraft]
      exact further
  · refine ⟨other, List.mem_append_left _ (mem_removeDraft.mpr ⟨otherIn, ?_⟩), rfl, Nat.le_refl _⟩
    intro isNext
    exact isDraft (isNext.trans (congrArg DraftIdentity.invocationId same))

section

variable (ok : BrokerOk created offered received broker)
include ok

theorem BrokerOk.put_keyed (next : ActiveDraft) :
    Keyed ActiveDraft.invocationId (broker.putDraft next).drafts :=
  (ok.removed_keyed next.invocationId).append fun _ member => (mem_removeDraft.mp member).2

theorem BrokerOk.present (draftIn : draft ∈ broker.drafts) (delta : CanonicalDraftDelta)
    (texts : ∀ draftId, (offered draftId).Sublist (more draftId))
    (isMore : more draft.identity.draftId = offered draft.identity.draftId ++ [delta.content]) :
    BrokerOk created more received (broker.present encodedLength draft delta) := by
  obtain ⟨isKnown, started⟩ := ok.entries draft draftIn
  unfold LiveEventBroker.present
  simp only [started, Bool.not_true]
  split
  · refine (ok.weaken texts).broadcast rfl rfl rfl ok.identities (ok.removed_keyed _) ?_ ?_
    · intro other otherIn
      exact ok.entries other (mem_removeDraft.mp otherIn).1
    · intro received subscriber presenting
      exact presenting.abandonDraft isKnown _ (ok.others_kept draftIn)
  · refine ok.broadcast rfl rfl rfl ok.identities (ok.put_keyed _) ?_ ?_
    · intro other otherIn
      rcases List.mem_append.mp otherIn with old | new
      · exact ok.entries other (mem_removeDraft.mp old).1
      · rw [List.mem_singleton.mp new]
        exact ⟨isKnown, rfl⟩
    · intro received subscriber presenting
      have continues := presenting.weaken (fun _ member => member)
        (putDraft_continues draft (draft.shown delta) rfl (Nat.le_succ _) fun other otherIn same =>
          ok.invocations.eq otherIn draftIn same) (fun draftId => List.Sublist.refl (offered draftId))
      refine continues.offerDelta isKnown ?_ ?_ texts isMore
      · exact ⟨_, List.mem_append_right _ (List.mem_singleton_self _), rfl, Nat.le_refl _⟩
      · intro last isEligible
        obtain ⟨entry, entryIn, same, bound⟩ := presenting.active _ last isEligible
        rw [ok.entry_eq entryIn draftIn same] at bound
        exact Nat.lt_succ_of_le bound

theorem BrokerOk.present_first {identity : DraftIdentity}
    (absent : broker.findDraft identity.invocationId = none)
    (unknown : ∀ earlier ∈ created, earlier.draftId ≠ identity.draftId) (delta : CanonicalDraftDelta) (texts : ∀ draftId, (offered draftId).Sublist (more draftId))
    (isMore : more identity.draftId = offered identity.draftId ++ [delta.content]) :
    BrokerOk (created ++ [identity]) more received
      (broker.present encodedLength (.fresh identity) delta) := by
  have noEntry := findDraft_eq_none absent
  have keyed : Keyed DraftIdentity.draftId (created ++ [identity]) := ok.identities.append unknown
  have isKnown : identity ∈ created ++ [identity] :=
    List.mem_append_right _ (List.mem_singleton_self _)
  have oldKnown : ∀ earlier ∈ created, earlier ∈ created ++ [identity] :=
    fun earlier member => List.mem_append_left _ member
  have oldEntries : ∀ draft ∈ broker.drafts, draft.identity ∈ created ++ [identity] ∧
      draft.started = true :=
    fun draft member => ⟨oldKnown _ (ok.entries draft member).1, (ok.entries draft member).2⟩
  unfold LiveEventBroker.present
  simp only [ActiveDraft.fresh, Bool.not_false]
  split
  · refine (ok.weaken texts).broadcast rfl rfl rfl keyed (ok.removed_keyed _) ?_ ?_
    · intro other otherIn
      exact oldEntries other (mem_removeDraft.mp otherIn).1
    · intro received subscriber presenting
      have withEntry := presenting.weaken oldKnown
        (putDraft_continues (.fresh identity) (.fresh identity) rfl (Nat.le_refl _)
          fun other otherIn same => absurd same (noEntry other otherIn))
        (fun draftId => List.Sublist.refl (more draftId))
      have started := (withEntry.start (presenting.unknown unknown) isKnown
        ⟨_, List.mem_append_right _ (List.mem_singleton_self _), rfl⟩).1
      refine started.abandonDraft isKnown _ ?_
      intro other otherIn different
      rcases List.mem_append.mp otherIn with old | new
      · exact old
      · rw [List.mem_singleton.mp new] at different
        exact absurd rfl different
  · refine ok.broadcast rfl rfl rfl keyed (ok.put_keyed _) ?_ ?_
    · intro other otherIn
      rcases List.mem_append.mp otherIn with old | new
      · exact oldEntries other (mem_removeDraft.mp old).1
      · rw [List.mem_singleton.mp new]
        exact ⟨isKnown, rfl⟩
    · intro received subscriber presenting
      have withEntry := presenting.weaken oldKnown
        (putDraft_continues (.fresh identity) ((ActiveDraft.fresh identity).shown delta) rfl (Nat.le_succ _)
          fun other otherIn same => absurd same (noEntry other otherIn))
        (fun draftId => List.Sublist.refl (offered draftId))
      obtain ⟨started, fromZero⟩ := withEntry.start (presenting.unknown unknown) isKnown
        ⟨_, List.mem_append_right _ (List.mem_singleton_self _), rfl⟩
      refine started.offerDelta isKnown ?_ ?_ texts isMore
      · exact ⟨_, List.mem_append_right _ (List.mem_singleton_self _), rfl, Nat.le_refl _⟩
      · intro last isEligible
        rw [fromZero last isEligible]
        exact Nat.zero_lt_succ _

end

theorem ofDraft_finalize (identities : Keyed DraftIdentity.draftId created)
    {queue : List EphemeralDraftEnvelope} (known : ∀ event ∈ queue, event.toDraftIdentity ∈ created)
    (workId : WorkId) (draftId : DraftId) :
    ofDraft draftId (queue.filter fun event => event.workId != workId) = ofDraft draftId queue ∨
      ofDraft draftId (queue.filter fun event => event.workId != workId) = [] ∧
        ∃ event ∈ queue, event.draftId = draftId ∧ event.workId = workId := by
  by_cases gone : ∃ event ∈ queue, event.draftId = draftId ∧ event.workId = workId
  · refine Or.inr ⟨?_, gone⟩
    obtain ⟨event, eventIn, isDraft, isWork⟩ := gone
    rw [ofDraft, List.filter_filter, List.filter_eq_nil_iff]
    intro other otherIn kept
    simp only [Bool.and_eq_true, beq_iff_eq, bne_iff_ne] at kept
    have same := identities.eq (known other otherIn) (known event eventIn) (kept.1.trans isDraft.symm)
    exact kept.2 ((congrArg DraftIdentity.workId same).trans isWork)
  · refine Or.inl ?_
    rw [ofDraft, ofDraft, List.filter_filter]
    refine List.filter_congr fun event eventIn => ?_
    by_cases isDraft : event.draftId = draftId
    · have other : event.workId ≠ workId := fun isWork => gone ⟨event, eventIn, isDraft, isWork⟩
      simp [isDraft, other]
    · simp [isDraft]

section

variable (ok : BrokerOk created offered received broker)
include ok

theorem BrokerOk.finalizeWork (workId : WorkId) :
    BrokerOk created offered received (broker.finalizeWork workId) := by
  refine ok.broadcast rfl rfl rfl ok.identities ((List.filter_sublist.map _).nodup ok.invocations) ?_ ?_
  · intro draft member
    exact ok.entries draft (List.mem_of_mem_filter member)
  · intro received subscriber presenting
    have known : ∀ event ∈ subscriber.queue, event.toDraftIdentity ∈ created :=
      fun event member => presenting.known event (List.mem_append_right _ member)
    have sub : (subscriber.queue.filter fun event => event.workId != workId).Sublist subscriber.queue :=
      List.filter_sublist
    -- A draft that stays eligible belongs to another work.
    have stays : ∀ {draftId last}, (if ((broker.drafts.filter fun draft =>
        draft.identity.workId == workId).map fun draft => draft.identity.draftId).contains draftId
          then none else subscriber.eligibleDrafts draftId) = some last →
        subscriber.eligibleDrafts draftId = some last ∧
          ∃ draft ∈ broker.drafts, draft.identity.draftId = draftId ∧ last ≤ draft.nextSequence ∧
            draft.identity.workId ≠ workId := by
      intro draftId last isEligible
      split at isEligible
      · cases isEligible
      · rename_i kept
        obtain ⟨draft, draftIn, isDraft, bound⟩ := presenting.active draftId last isEligible
        refine ⟨isEligible, draft, draftIn, isDraft, bound, fun isWork => kept ?_⟩
        rw [List.contains_iff_mem, List.mem_map]
        exact ⟨draft, List.mem_filter.mpr ⟨draftIn, by simp [isWork]⟩, isDraft⟩
    refine ⟨sub.length_le.trans presenting.bounded, ?_, ?_, ?_, ?_⟩
    · intro event member
      refine presenting.known event ?_
      rcases List.mem_append.mp member with before | queued
      · exact List.mem_append_left _ before
      · exact List.mem_append_right _ (sub.subset queued)
    · intro draftId
      have stream := presenting.streams draftId
      rw [ofDraft_append] at stream ⊢
      rcases ofDraft_finalize ok.identities known workId draftId with same | ⟨gone, _⟩
      · rw [same]
        exact stream
      · rw [gone, List.append_nil]
        exact stream.cut
    · intro draftId last isEligible
      obtain ⟨before, draft, draftIn, isDraft, _, otherWork⟩ := stays isEligible
      have isOpen := presenting.opened draftId last before
      rw [ofDraft_append] at isOpen ⊢
      rcases ofDraft_finalize ok.identities known workId draftId with same |
        ⟨_, event, eventIn, eventDraft, eventWork⟩
      · rw [same]
        exact isOpen
      · have sameIdentity := ok.identities.eq (known event eventIn) (ok.entries draft draftIn).1
          (eventDraft.trans isDraft.symm)
        exact absurd ((congrArg DraftIdentity.workId sameIdentity).symm.trans eventWork) otherWork
    · intro draftId last isEligible
      obtain ⟨_, draft, draftIn, isDraft, bound, otherWork⟩ := stays isEligible
      exact ⟨draft, List.mem_filter.mpr ⟨draftIn, by simp [otherWork]⟩, isDraft, bound⟩

theorem BrokerOk.closeAdmission : BrokerOk created offered received broker.closeAdmission := by
  refine ok.broadcast rfl rfl rfl ok.identities List.nodup_nil nofun ?_
  intro received subscriber presenting
  refine ⟨Nat.zero_le _, ?_, ?_, by simp, by simp⟩
  · intro event member
    rw [List.append_nil] at member
    exact presenting.known event (List.mem_append_left _ member)
  · intro draftId
    have stream := presenting.streams draftId
    rw [ofDraft_append] at stream
    rw [List.append_nil]
    exact stream.cut

theorem BrokerOk.assign {id nextId : Nat}
    {after : Option Subscriber} {received' : Nat → List EphemeralDraftEnvelope}
    (newer : broker.nextSubscriberId ≤ nextId)
    (others : ∀ other, other ≠ id → received' other = received other)
    (unassigned : nextId ≤ id → after = none ∧ received' id = [])
    (presents : ∀ subscriber, after = some subscriber → Presenting created broker.drafts offered
      (received' id) subscriber.queue subscriber.eligibleDrafts) :
    BrokerOk created offered received' { broker with
      nextSubscriberId := nextId
      subscribers := Function.update broker.subscribers id after } := by
  refine ⟨ok.identities, ok.invocations, ok.entries, ?_, ?_⟩
  · intro other above
    by_cases same : other = id
    · subst same
      simp only [Function.update_self]
      exact unassigned above
    · simp only [Function.update_of_ne same, others other same]
      exact ok.unassigned other (newer.trans above)
  · intro other subscriber found
    by_cases same : other = id
    · subst same
      simp only [Function.update_self] at found
      exact presents subscriber found
    · simp only [Function.update_of_ne same] at found
      rw [others other same]
      exact ok.connections other subscriber found

theorem BrokerOk.offer
    (encodedLength : EphemeralDraftEnvelope → Nat) (sawClosed : Bool) (identity : DraftIdentity)
    (delta : CanonicalDraftDelta) (texts : ∀ draftId, (offered draftId).Sublist (more draftId))
    (isMore : more identity.draftId = offered identity.draftId ++ [delta.content])
    (known : (sawClosed = true ∨ broker.accepting = false ∨
      broker.findDraft identity.invocationId ≠ none) → created' = created)
    (first : sawClosed = false → broker.accepting = true →
      broker.findDraft identity.invocationId = none → created' = created ++ [identity] ∧
        ∀ earlier ∈ created, earlier.draftId ≠ identity.draftId) :
    BrokerOk created' more received (broker.offer encodedLength sawClosed identity delta).1 := by
  unfold LiveEventBroker.offer
  split
  · rename_i closed
    simp only [Bool.or_eq_true, Bool.not_eq_true'] at closed
    rw [known (closed.imp_right Or.inl)]
    exact ok.weaken texts
  · rename_i admitted
    simp only [Bool.or_eq_true, Bool.not_eq_true', not_or, Bool.not_eq_true, Bool.not_eq_false] at admitted
    have others : ∀ invocationId ∈ broker.superseded identity, identity.invocationId ≠ invocationId := by
      intro invocationId member
      obtain ⟨draft, draftIn, rfl⟩ := List.mem_map.mp member
      have selected := (List.mem_filter.mp draftIn).2
      simp only [Bool.and_eq_true, bne_iff_ne] at selected
      exact selected.2.symm
    obtain ⟨ok', sameEntry⟩ := BrokerOk.supersede _ others ok
    simp only [sameEntry]
    cases entry : broker.findDraft identity.invocationId with
    | none =>
      obtain ⟨rfl, unknown⟩ := first admitted.1 admitted.2 entry
      have isFirst : (decide ((ActiveDraft.fresh identity).identity ≠ identity) ||
          (ActiveDraft.fresh identity).nextSequence == 2 ^ 32 - 1) = false := by
        simp [ActiveDraft.fresh]
      simp only [Option.getD_none, isFirst]
      exact ok'.present_first (sameEntry.trans entry) unknown delta texts isMore
    | some draft =>
      rw [known (Or.inr (Or.inr (by simp [entry])))]
      simp only [Option.getD_some]
      split
      · exact ok'.weaken texts
      · rename_i isDraft
        simp only [ne_eq, Bool.or_eq_true, decide_eq_true_eq, beq_iff_eq, not_or, not_not] at isDraft
        obtain ⟨draftIn, _⟩ := findDraft_eq_some (sameEntry.trans entry)
        exact ok'.present draftIn delta texts (isDraft.1 ▸ isMore)

end

end Brokers

/-! Runs. -/

/-- The broker makes an entry only for a draft it has had none for, so a draft that it has
dropped is not offered again and no two attempts share a draft id; and it still has unused
connection ids. -/
def OffersFreshDrafts (trace : BrokerTrace) : BrokerMove → Prop
  | .offer sawClosed identity _ =>
    trace.creates sawClosed identity = true →
      ∀ earlier ∈ trace.created, earlier.draftId ≠ identity.draftId
  | .subscribe => trace.broker.nextSubscriberId < 2 ^ 64 - 1
  | _ => True

instance (trace : BrokerTrace) : ∀ move, Decidable (OffersFreshDrafts trace move)
  | .subscribe => inferInstanceAs (Decidable (_ < _))
  | .offer _ _ _ => inferInstanceAs (Decidable (_ → _))
  | .abandon _ _ | .finalizeWork _ | .closeAdmission | .recv _ | .disconnect _ => isTrue trivial

structure TraceOk (trace : BrokerTrace) : Prop where
  broker : BrokerOk trace.created trace.offeredTexts trace.received trace.broker
  streams : ∀ id draftId, DraftStream (trace.offeredTexts draftId) (trace.receivedOf id draftId)

section Traces

variable {encodedLength : EphemeralDraftEnvelope → Nat} {trace : BrokerTrace}

theorem offeredTexts_offer (trace : BrokerTrace) (draftId : DraftId) (text : Text) (other : DraftId) :
    ({ trace with offered := trace.offered ++ [(draftId, text)] } : BrokerTrace).offeredTexts other =
      if other = draftId then trace.offeredTexts other ++ [text] else trace.offeredTexts other := by
  by_cases same : draftId = other
  · simp [BrokerTrace.offeredTexts, same]
  · simp [BrokerTrace.offeredTexts, same, Ne.symm same]

section

variable (ok : TraceOk trace)
include ok

theorem TraceOk.subscribe (unused : trace.broker.nextSubscriberId < 2 ^ 64 - 1) :
    TraceOk (trace.step encodedLength .subscribe) := by
  refine ⟨?_, ok.streams⟩
  have brokerOk := ok.broker
  simp only [BrokerTrace.step, LiveEventBroker.subscribe]
  split
  · have nextId : min (trace.broker.nextSubscriberId + 1) (2 ^ 64 - 1) =
        trace.broker.nextSubscriberId + 1 := Nat.min_eq_left unused
    rw [nextId]
    refine brokerOk.assign (Nat.le_succ _) (fun _ _ => rfl) ?_ ?_
    · intro above
      exact absurd above (Nat.not_succ_le_self _)
    · rintro subscriber ⟨⟩
      rw [(brokerOk.unassigned _ (Nat.le_refl _)).2]
      exact .fresh
  · exact brokerOk

theorem TraceOk.pop {id : Nat} {subscriber : Subscriber}
    {event : EphemeralDraftEnvelope} {rest : List EphemeralDraftEnvelope}
    (found : trace.broker.subscribers id = some subscriber) (queued : subscriber.queue = event :: rest) :
    TraceOk { trace with
      broker := { trace.broker with
        subscribers := Function.update trace.broker.subscribers id (some { subscriber with queue := rest }) }
      received := Function.update trace.received id (trace.received id ++ [event]) } := by
  have brokerOk := ok.broker
  have presenting := brokerOk.connections id subscriber found
  have whole : trace.received id ++ [event] ++ rest = trace.received id ++ subscriber.queue := by
    rw [queued]
    simp
  have popped : Presenting trace.created trace.broker.drafts trace.offeredTexts
      (trace.received id ++ [event]) rest subscriber.eligibleDrafts := by
    refine ⟨?_, ?_, ?_, ?_, presenting.active⟩
    · have bound := presenting.bounded
      rw [queued, List.length_cons] at bound
      omega
    · rw [whole]
      exact presenting.known
    · rw [whole]
      exact presenting.streams
    · rw [whole]
      exact presenting.opened
  refine ⟨brokerOk.assign (Nat.le_refl _) (fun other different => Function.update_of_ne different _ _) ?_ ?_,
    ?_⟩
  · intro above
    rw [(brokerOk.unassigned id above).1] at found
    cases found
  · rintro after ⟨⟩
    simp only [Function.update_self]
    exact popped
  · intro other draftId
    by_cases same : other = id
    · subst same
      have stream := popped.streams draftId
      rw [ofDraft_append] at stream
      simp only [BrokerTrace.receivedOf, Function.update_self]
      exact stream.cut
    · simp only [BrokerTrace.receivedOf, Function.update_of_ne same]
      exact ok.streams other draftId

theorem TraceOk.recv (id : Nat) : TraceOk (trace.step encodedLength (.recv id)) := by
  cases found : trace.broker.subscribers id with
  | none =>
    simp only [BrokerTrace.step, LiveEventBroker.recv, found]
    exact ok
  | some subscriber =>
    by_cases overloaded : subscriber.overloaded = true
    · simp only [BrokerTrace.step, LiveEventBroker.recv, found, overloaded, if_true]
      exact ok
    · cases queued : subscriber.queue with
      | nil =>
        cases accepting : trace.broker.accepting <;>
          simp only [BrokerTrace.step, LiveEventBroker.recv, found, overloaded, queued, accepting,
            Bool.false_eq_true, if_false, if_true] <;>
          exact ok
      | cons event rest =>
        simp only [BrokerTrace.step, LiveEventBroker.recv, found, if_neg overloaded, queued]
        exact ok.pop found queued

theorem TraceOk.disconnect (id : Nat) : TraceOk (trace.step encodedLength (.disconnect id)) := by
  refine ⟨ok.broker.assign (Nat.le_refl _) (fun _ _ => rfl) ?_ nofun, ok.streams⟩
  intro above
  exact ⟨rfl, (ok.broker.unassigned id above).2⟩

theorem TraceOk.offer {sawClosed : Bool} {identity : DraftIdentity} {delta : CanonicalDraftDelta}
    (fresh : OffersFreshDrafts trace (.offer sawClosed identity delta)) :
    TraceOk (trace.step encodedLength (.offer sawClosed identity delta)) := by
  have texts : ∀ draftId, (trace.offeredTexts draftId).Sublist
      ((trace.step encodedLength (.offer sawClosed identity delta)).offeredTexts draftId) := by
    intro draftId
    have now := offeredTexts_offer trace identity.draftId delta.content draftId
    refine (congrArg _ now).mpr ?_
    split
    · exact List.sublist_append_left ..
    · exact List.Sublist.refl _
  have isMore : (trace.step encodedLength (.offer sawClosed identity delta)).offeredTexts identity.draftId =
      trace.offeredTexts identity.draftId ++ [delta.content] :=
    (offeredTexts_offer trace identity.draftId delta.content identity.draftId).trans (if_pos rfl)
  refine ⟨ok.broker.offer encodedLength sawClosed identity delta texts isMore ?_ ?_,
    fun id draftId => (ok.streams id draftId).offer (texts draftId)⟩
  · intro known
    have notCreated : trace.creates sawClosed identity = false := by
      rcases known with closed | refused | found
      · simp [BrokerTrace.creates, closed]
      · simp [BrokerTrace.creates, refused]
      · obtain ⟨draft, isDraft⟩ := Option.ne_none_iff_exists'.mp found
        simp [BrokerTrace.creates, isDraft]
    simp [BrokerTrace.step, notCreated]
  · intro isOpen accepting absent
    have isCreated : trace.creates sawClosed identity = true := by
      simp [BrokerTrace.creates, isOpen, accepting, absent]
    exact ⟨by simp [BrokerTrace.step, isCreated], fresh isCreated⟩

theorem TraceOk.step {move : BrokerMove} (allowed : OffersFreshDrafts trace move) :
    TraceOk (trace.step encodedLength move) := by
  cases move with
  | subscribe => exact ok.subscribe allowed
  | offer sawClosed identity delta => exact ok.offer allowed
  | abandon invocationId cause => exact ⟨ok.broker.abandon invocationId cause, ok.streams⟩
  | finalizeWork workId => exact ⟨ok.broker.finalizeWork workId, ok.streams⟩
  | closeAdmission => exact ⟨ok.broker.closeAdmission, ok.streams⟩
  | recv id => exact ok.recv id
  | disconnect id => exact ok.disconnect id

end

end Traces

theorem TraceOk.fresh : TraceOk .fresh := by
  refine ⟨⟨List.nodup_nil, List.nodup_nil, ?_, fun _ _ => ⟨rfl, rfl⟩, ?_⟩, fun _ _ => .nil⟩
  · simp [BrokerTrace.fresh, LiveEventBroker.fresh]
  · simp [BrokerTrace.fresh, LiveEventBroker.fresh]

def brokerAfter (moves : List BrokerMove) : BrokerTrace :=
  replay (fun trace move => some (trace.step encodedLength move)) .fresh moves

theorem drafts_streamed_in_order (moves : List BrokerMove)
    (fresh : Admits (fun trace move => some (trace.step encodedLength move)) OffersFreshDrafts .fresh
      moves) (id : Nat) :
    (∀ draftId, DraftStream ((brokerAfter encodedLength moves).offeredTexts draftId)
      ((brokerAfter encodedLength moves).receivedOf id draftId)) ∧
    ∀ subscriber, (brokerAfter encodedLength moves).broker.subscribers id = some subscriber →
      subscriber.queue.length ≤ websocketOutboundFrames := by
  have ok : TraceOk (brokerAfter encodedLength moves) := by
    refine replay_invariant_admitted TraceOk ?_ TraceOk.fresh fresh
    rintro trace move next ok allowed ⟨⟩
    exact ok.step allowed
  exact ⟨ok.streams id, fun subscriber found => (ok.broker.connections id subscriber found).bounded⟩

def sampleDraft : DraftIdentity where
  conversationId := ⟨sampleUuid 1⟩
  workId := ⟨sampleUuid 1⟩
  invocationId := ⟨sampleUuid 1⟩
  draftId := ⟨sampleUuid 1⟩

def sampleFlood (deltas : Nat) : List BrokerMove :=
  .subscribe :: List.replicate deltas (.offer false sampleDraft (.text ['a'])) ++
    List.replicate websocketOutboundFrames (.recv 1)

theorem drafts_joined_and_restarted :
    let flood := brokerAfter (fun _ => 0) (sampleFlood 17)
    let restart := brokerAfter (fun _ => 0) [.subscribe, .offer false sampleDraft (.text ['a']),
      .abandon sampleDraft.invocationId .failed, .offer false sampleDraft (.text ['b']),
      .recv 1, .recv 1, .recv 1, .recv 1, .recv 1]
    (∃ text ∈ (flood.receivedOf 1 sampleDraft.draftId).filterMap (fun event => event.text),
      text ∉ flood.offeredTexts sampleDraft.draftId) ∧
    restart.receivedOf 1 sampleDraft.draftId =
      [.started sampleDraft, .delta sampleDraft 1 .text ['a'], .abandoned sampleDraft .failed,
        .started sampleDraft, .delta sampleDraft 1 .text ['b']] := by
  decide +kernel

theorem drafts_streamed_in_order_flood :
    Admits (fun trace move => some (trace.step (fun _ => 0) move)) OffersFreshDrafts .fresh
      (sampleFlood 17) ∧
    ((brokerAfter (fun _ => 0) (sampleFlood 17)).receivedOf 1 sampleDraft.draftId).length = 16 ∧
    DraftStream ((brokerAfter (fun _ => 0) (sampleFlood 17)).offeredTexts sampleDraft.draftId)
      ((brokerAfter (fun _ => 0) (sampleFlood 17)).receivedOf 1 sampleDraft.draftId) := by
  have fresh : Admits (fun trace move => some (trace.step (fun _ => 0) move)) OffersFreshDrafts .fresh
      (sampleFlood 17) := by
    decide +kernel
  exact ⟨fresh, by decide +kernel, (drafts_streamed_in_order _ _ fresh 1).1 _⟩

end Craxii
