import Craxii.Domain.Command
import Craxii.Store.ClaimOrder

/-!
Native messages are committed once.
-/

namespace Craxii

open ExceptRules Tables GuardedRun

def committedMessage (sha256 : List UInt8 → Sha256Digest) (store : IngressStore) :
    IngressMove → Option (AcceptUserMessageRequest × MessageCommandReceipt)
  | .accept request =>
    match acceptMessage sha256 store request with
    | .ok (_, .committed receipt) => some (request, receipt)
    | _ => none
  | _ => none

def committedMessages (sha256 : List UInt8 → Sha256Digest) :
    IngressStore → List IngressMove → List (AcceptUserMessageRequest × MessageCommandReceipt)
  | _, [] => []
  | store, move :: rest => (committedMessage sha256 store move).toList ++
      committedMessages sha256 (offer (ingressStep sha256) store move) rest

def ClientCommandRow.isMessage (row : ClientCommandRow) : Bool :=
  row.kind == .message

def MessageRow.isNative (row : MessageRow) : Bool :=
  match row.origin with
  | .native _ _ => true
  | .inboundDelivery _ => false

def ClientCommandRow.key (row : ClientCommandRow) : DeviceId × IdempotencyKey :=
  (row.deviceId, row.idempotencyKey)

section Steps

variable {sha256 : List UInt8 → Sha256Digest} {store next : IngressStore} {move : IngressMove}

theorem loadCommandRow_eq_none {deviceId : DeviceId} {key : IdempotencyKey}
    (absent : store.loadCommandRow deviceId key = none) :
    ∀ row ∈ store.commands, row.key ≠ (deviceId, key) := by
  intro row member same
  have unmatched := List.find?_eq_none.mp absent row member
  simp only [ClientCommandRow.key, Prod.mk.injEq] at same
  simp [same] at unmatched

theorem loadCommandRow_of_mem (keyed : Keyed ClientCommandRow.key store.commands)
    {row : ClientCommandRow}
    (member : row ∈ store.commands) : store.loadCommandRow row.deviceId row.idempotencyKey = some row := by
  cases found : store.loadCommandRow row.deviceId row.idempotencyKey with
  | none => exact absurd rfl (loadCommandRow_eq_none found row member)
  | some other =>
    have matching := List.find?_some found
    simp only [Bool.and_eq_true, beq_iff_eq] at matching
    have same : other.key = row.key := Prod.ext matching.1 matching.2
    rw [keyed.eq (List.mem_of_find?_eq_some found) member same]

theorem IngressStep.commands (step : IngressStep sha256 store move next) :
    next.commands = store.commands ∨
      ∃ row, next.commands = store.commands ++ [row] ∧
        (∀ other ∈ store.commands, other.key ≠ row.key) ∧
        ((∀ request, move ≠ .accept request) → row.kind = .cancel) := by
  cases step with
  | created _ _ _ _ _ _ _ _ _ | provisioned _ _ _ | revoked _ | runtimesSet _ | rewired _
  | recorded _ _ _ _ | notClaimed _ _ _ | claimed _ _ _ _ _ _ | advanced _ _ _ _ _ _ _ _ => exact Or.inl rfl
  | accepted request _ _ accepted =>
    cases accepted with
    | replayed _ _ _ _ _ _ _ => exact Or.inl rfl
    | committed _ _ _ _ absent _ =>
      exact Or.inr ⟨_, rfl, loadCommandRow_eq_none absent, fun other => absurd rfl (other request)⟩
  | cancelAnswered _ _ _ answered =>
    cases answered with
    | replayed _ _ _ _ => exact Or.inl rfl
    | ignored _ _ _ absent _ _ _ | moved _ _ absent _ _ _ _ _ _ =>
      exact Or.inr ⟨_, rfl, loadCommandRow_eq_none absent, fun _ => rfl⟩
  | classified _ _ _ classified => cases classified <;> exact Or.inl rfl

theorem commandsKeyed_step (keyed : Keyed ClientCommandRow.key store.commands)
    (step : IngressStep sha256 store move next) : Keyed ClientCommandRow.key next.commands := by
  rcases step.commands with same | ⟨row, appended, fresh, _⟩
  · rw [same]
    exact keyed
  · rw [appended]
    exact keyed.append fresh

theorem IngressStep.nativeMessages (step : IngressStep sha256 store move next)
    (other : ∀ request, move ≠ .accept request) :
    next.messages.filter MessageRow.isNative = store.messages.filter MessageRow.isNative := by
  cases step with
  | created _ _ _ _ _ _ _ _ _ | provisioned _ _ _ | revoked _ | runtimesSet _ | rewired _
  | recorded _ _ _ _ | notClaimed _ _ _ | claimed _ _ _ _ _ _ | advanced _ _ _ _ _ _ _ _ => rfl
  | accepted request _ _ _ => exact absurd rfl (other request)
  | cancelAnswered _ _ _ answered => cases answered <;> rfl
  | classified _ _ _ classified =>
    cases classified with
    | message _ _ _ _ _ _ =>
      simp [IngressStore.withLedger, Ledger.admitMessage, MessageRow.isNative, CanonicalMessageAdmission.message,
        ClassifyInboundRequest.admission]
    | _ => rfl

theorem LedgerStep.facts {ledger after : Ledger} (queue : QueueOk ledger)
    (step : LedgerStep ledger after) :
    (∃ added, after.works.map WorkItemRow.queuedFact = ledger.works.map WorkItemRow.queuedFact ++ added) ∧
      (ledger.works.length = ledger.messages.length → after.works.length = after.messages.length) := by
  cases step with
  | recorded _ _ _ _ | created _ _ _ => exact ⟨⟨[], (List.append_nil _).symm⟩, id⟩
  | admitted request _ _ _ =>
    refine ⟨⟨[request.work.queuedFact], by simp [Ledger.admitMessage]⟩, fun same => ?_⟩
    simp [Ledger.admitMessage, same]
  | moved move can =>
    refine ⟨⟨[], ?_⟩, fun same => ?_⟩
    · rw [List.append_nil]
      exact map_works_move queue.works can (queuedFact_moved can)
    · simpa [Ledger.move, Ledger.record] using same

theorem IngressStep.facts (ok : LedgerOk store.toLedger) (step : IngressStep sha256 store move next) :
    (∃ added, next.works.map WorkItemRow.queuedFact = store.works.map WorkItemRow.queuedFact ++ added) ∧
      (store.works.length = store.messages.length → next.works.length = next.messages.length) := by
  rcases step.ledger with same | ledgerStep
  · rw [same]
    exact ⟨⟨[], (List.append_nil _).symm⟩, id⟩
  · exact ledgerStep.facts ok.queue

structure Records (sha256 : List UInt8 → Sha256Digest) (store : IngressStore)
    (committed : List (AcceptUserMessageRequest × MessageCommandReceipt)) : Prop where
  keyed : Keyed ClientCommandRow.key store.commands
  commands : store.commands.filter ClientCommandRow.isMessage =
    committed.map fun entry => entry.1.commandRow entry.2
  messages : ((store.messages.filter MessageRow.isNative).map fun row => (row.id, row.origin)) =
    committed.map fun entry =>
      (entry.2.messageId, .native entry.1.deviceId entry.1.clientMessageId)
  valid : ∀ entry ∈ committed, entry.1.Valid sha256
  works : ∀ entry ∈ committed, QueuedFact.mk entry.2.workId entry.2.conversationId entry.2.workOrdinal ∈
    store.works.map WorkItemRow.queuedFact
  paired : store.works.length = store.messages.length

variable {committed : List (AcceptUserMessageRequest × MessageCommandReceipt)}

section

variable (ok : LedgerOk store.toLedger) (records : Records sha256 store committed)
include ok records

theorem Records.other
    (step : IngressStep sha256 store move next) (notAccept : ∀ request, move ≠ .accept request) :
    Records sha256 next committed := by
  obtain ⟨⟨added, facts⟩, paired⟩ := step.facts ok
  refine ⟨commandsKeyed_step records.keyed step, ?_, ?_, records.valid, ?_, paired records.paired⟩
  · rcases step.commands with same | ⟨row, appended, _, cancel⟩
    · rw [same]
      exact records.commands
    · rw [appended, List.filter_append, records.commands]
      simp [ClientCommandRow.isMessage, cancel notAccept]
  · rw [step.nativeMessages notAccept]
    exact records.messages
  · intro entry member
    rw [facts]
    exact List.mem_append_left _ (records.works entry member)

theorem Records.accept
    {request : AcceptUserMessageRequest} {outcome : CommandOutcome MessageCommandReceipt}
    (accepted : Accepted sha256 store request next outcome) :
    Records sha256 next (committed ++ match outcome with
      | .committed receipt => [(request, receipt)]
      | .replayed _ => []) := by
  have step := IngressStep.accepted request outcome next accepted
  have keyed := commandsKeyed_step records.keyed step
  obtain ⟨⟨added, facts⟩, paired⟩ := step.facts ok
  cases accepted with
  | replayed _ _ _ _ _ _ _ =>
    rw [List.append_nil]
    exact records
  | committed topology nextOrdinal nextVersion valid absent can =>
    refine ⟨keyed, ?_, ?_, ?_, ?_, paired records.paired⟩
    · simp only [IngressStore.withCommand, IngressStore.withLedger, List.filter_append, records.commands,
        List.map_append]
      simp [ClientCommandRow.isMessage, AcceptUserMessageRequest.commandRow]
    · have native : (request.admission topology).message.isNative = true := rfl
      simp only [IngressStore.withCommand, IngressStore.withLedger, Ledger.admitMessage, List.filter_append,
        List.map_append, records.messages, List.filter_cons, native, if_true, List.filter_nil]
      rfl
    · intro entry member
      rcases List.mem_append.mp member with old | new
      · exact records.valid entry old
      · rw [List.mem_singleton.mp new]
        exact valid
    · intro entry member
      rcases List.mem_append.mp member with old | new
      · rw [facts]
        exact List.mem_append_left _ (records.works entry old)
      · rw [List.mem_singleton.mp new]
        simp only [IngressStore.withCommand, IngressStore.withLedger, Ledger.admitMessage, List.map_append]
        exact List.mem_append_right _ (List.mem_singleton_self _)

theorem Records.afterOffer
    (move : IngressMove) : Records sha256 (offer (ingressStep sha256) store move)
      (committed ++ (committedMessage sha256 store move).toList) := by
  by_cases isAccept : ∃ request, move = .accept request
  · obtain ⟨request, rfl⟩ := isAccept
    cases answer : acceptMessage sha256 store request with
    | error _ =>
      have refused : ingressStep sha256 store (.accept request) = none := by
        simp [ingressStep, answer, Except.toOption]
      simpa [offer_refused refused, committedMessage, answer] using records
    | ok result =>
      obtain ⟨after, outcome⟩ := result
      have stepped : ingressStep sha256 store (.accept request) = some after := by
        simp [ingressStep, answer, Except.toOption]
      rw [offer_accepted stepped]
      have extended := records.accept ok (acceptMessage_eq_ok ok answer)
      cases outcome <;> simpa [committedMessage, answer] using extended
  · have notAccept : ∀ request, move ≠ .accept request := fun request same => isAccept ⟨request, same⟩
    have nothing : committedMessage sha256 store move = none := by
      cases move with
      | accept request => exact absurd rfl (notAccept request)
      | _ => rfl
    rw [nothing, Option.toList_none, List.append_nil]
    cases stepped : ingressStep sha256 store move with
    | none => rwa [offer_refused stepped]
    | some after =>
      rw [offer_accepted stepped]
      exact records.other ok (ingressStep_cases ok stepped) notAccept

end

theorem LedgerOk.afterOffer (ok : LedgerOk store.toLedger) (move : IngressMove) :
    LedgerOk (offer (ingressStep sha256) store move).toLedger := by
  cases stepped : ingressStep sha256 store move with
  | none => rwa [offer_refused stepped]
  | some after =>
    rw [offer_accepted stepped]
    exact ok.afterIngress (ingressStep_cases ok stepped)

theorem Records.afterRun (moves : List IngressMove) : ∀ {store : IngressStore}
    {committed : List (AcceptUserMessageRequest × MessageCommandReceipt)}, LedgerOk store.toLedger →
      Records sha256 store committed → Records sha256 (replay (ingressStep sha256) store moves)
        (committed ++ committedMessages sha256 store moves) := by
  induction moves with
  | nil =>
    intro store committed _ records
    simpa [committedMessages] using records
  | cons move rest ih =>
    intro store committed ok records
    have extended := ih (ok.afterOffer move) (records.afterOffer ok move)
    rwa [List.append_assoc] at extended

theorem ingressAfter_records (sha256 : List UInt8 → Sha256Digest) (primary : ConversationId)
    (moves : List IngressMove) : Records sha256 (ingressAfter sha256 primary moves)
      (committedMessages sha256 (.empty primary) moves) := by
  have initial : Records sha256 (.empty primary) [] :=
    ⟨List.nodup_nil, rfl, rfl, by simp, by simp, rfl⟩
  exact Records.afterRun moves LedgerOk.empty initial

end Steps

section Retries

variable {sha256 : List UInt8 → Sha256Digest} {store : IngressStore}
  {committed : List (AcceptUserMessageRequest × MessageCommandReceipt)}

theorem Records.keys_nodup (records : Records sha256 store committed) :
    (committed.map fun entry => (entry.1.deviceId, entry.1.idempotencyKey)).Nodup := by
  have rows : ((store.commands.filter ClientCommandRow.isMessage).map ClientCommandRow.key).Nodup :=
    records.keyed.sublist ((List.filter_sublist).map _)
  rw [records.commands, List.map_map] at rows
  exact rows

theorem decodeMessageReceipt_commandRow (request : AcceptUserMessageRequest)
    (receipt : MessageCommandReceipt) :
    decodeMessageReceipt (request.commandRow receipt) = .ok receipt := by
  simp [decodeMessageReceipt, AcceptUserMessageRequest.commandRow, StoredResponse.ofMessage, pure, Except.pure]

theorem Records.retry (records : Records sha256 store committed)
    {entry : AcceptUserMessageRequest × MessageCommandReceipt} (member : entry ∈ committed)
    {retry : AcceptUserMessageRequest} (valid : retry.Valid sha256)
    (sameDevice : retry.deviceId = entry.1.deviceId)
    (sameKey : retry.idempotencyKey = entry.1.idempotencyKey) :
    acceptMessage sha256 store retry =
      if sha256 retry.material = sha256 entry.1.material then .ok (store, .replayed entry.2)
      else .error .idempotencyConflict := by
  have rowIn : entry.1.commandRow entry.2 ∈ store.commands := by
    have listed : entry.1.commandRow entry.2 ∈ store.commands.filter ClientCommandRow.isMessage := by
      rw [records.commands]
      exact List.mem_map_of_mem member
    exact (List.mem_filter.mp listed).1
  have found : store.loadCommandRow retry.deviceId retry.idempotencyKey =
      some (entry.1.commandRow entry.2) := by
    rw [sameDevice, sameKey]
    exact loadCommandRow_of_mem records.keyed rowIn
  have hash : (entry.1.commandRow entry.2).requestHash = sha256 entry.1.material :=
    (records.valid entry member).hash
  have kind : (entry.1.commandRow entry.2).kind = .message := rfl
  simp only [acceptMessage, valid.key, valid.hash, bne_self_eq_false, refuseIf_false, ok_bind]
  rw [valid.key] at found
  simp only [found, hash, kind, bne_self_eq_false, Bool.false_or]
  by_cases sameHash : sha256 retry.material = sha256 entry.1.material
  · simp [sameHash, decodeMessageReceipt_commandRow, Except.mapError, pure, Except.pure]
  · have different : (sha256 entry.1.material != sha256 retry.material) = true := by
      simpa using fun same => sameHash same.symm
    simp [different, sameHash]

end Retries

/-- For one device and key a run commits at most one submission, and no later one writes anything.
-/
theorem native_messages_exactly_once (sha256 : List UInt8 → Sha256Digest) (primary : ConversationId)
    (moves : List IngressMove) :
    let store := ingressAfter sha256 primary moves
    let committed := committedMessages sha256 (.empty primary) moves
    (committed.map fun entry => (entry.1.deviceId, entry.1.idempotencyKey)).Nodup ∧
    ((store.messages.filter MessageRow.isNative).map fun row => (row.id, row.origin)) =
      committed.map (fun entry =>
        (entry.2.messageId, .native entry.1.deviceId entry.1.clientMessageId)) ∧
    store.works.length = store.messages.length ∧
    (∀ entry ∈ committed, ∃ work ∈ store.works, work.id = entry.2.workId ∧
      work.conversationId = entry.2.conversationId ∧ work.ordinal = entry.2.workOrdinal) ∧
    (∀ entry ∈ committed, ∀ retry : AcceptUserMessageRequest, retry.Valid sha256 →
      retry.deviceId = entry.1.deviceId → retry.idempotencyKey = entry.1.idempotencyKey →
      (sha256 retry.material = sha256 entry.1.material → retry.material = entry.1.material) →
      acceptMessage sha256 store retry =
        if retry.conversationId = entry.1.conversationId ∧ retry.content = entry.1.content then
          .ok (store, .replayed entry.2)
        else .error .idempotencyConflict) ∧
    ∀ conversation ∈ store.conversations,
      (((store.journal.filterMap JournalEvent.queuedFact).filter fun fact =>
          fact.conversationId == conversation.id).map fun fact => fact.ordinal.value) =
        List.range' 1 (store.works.countP fun row => row.conversationId == conversation.id) := by
  intro store committed
  have ok : LedgerOk store.toLedger := ingressAfter_ok sha256 primary moves
  have records : Records sha256 store committed := ingressAfter_records sha256 primary moves
  refine ⟨records.keys_nodup, records.messages, records.paired, ?_, ?_, ?_⟩
  · intro entry member
    obtain ⟨work, workIn, fact⟩ := List.mem_map.mp (records.works entry member)
    simp only [WorkItemRow.queuedFact, QueuedFact.mk.injEq] at fact
    exact ⟨work, workIn, fact⟩
  · intro entry member retry valid sameDevice sameKey collisionFree
    rw [records.retry member valid sameDevice sameKey]
    have sameClient : retry.clientMessageId = entry.1.clientMessageId := by
      have keys := sameKey
      rw [valid.key, (records.valid entry member).key] at keys
      simp only [IdempotencyKey.forMessage, IdempotencyKey.mk.injEq] at keys
      exact congrArg Identity.mk keys
    refine if_congr ⟨fun sameHash => ?_, ?_⟩ rfl rfl
    · obtain ⟨conversation, _, content⟩ := messageMaterial_inj (collisionFree sameHash)
      exact ⟨conversation, content⟩
    · rintro ⟨conversation, content⟩
      rw [AcceptUserMessageRequest.material, conversation, sameClient, content]
      rfl
  · intro conversation found
    have ordinals := ok.queue.ordinals conversation found
    have counted := congrArg List.length ordinals
    simp only [Ledger.ordinals, List.length_map, List.length_range', List.filter_map,
      ← List.countP_eq_length_filter] at counted
    rw [Ledger.ordinals, ← ok.queue.queued] at ordinals
    rw [ordinals, ← counted]
    rfl

theorem native_messages_exactly_once_retry :
    let request := sampleMessage zeroDigest 2 2 3
    let moves := sampleSetup ++ [.accept request]
    let store := ingressAfter (fun _ => zeroDigest) sampleConversation moves
    ∃ receipt, (request, receipt) ∈ committedMessages (fun _ => zeroDigest) (.empty sampleConversation) moves ∧
      acceptMessage (fun _ => zeroDigest) store request = .ok (store, .replayed receipt) := by
  intro request moves store
  have committed : (committedMessages (fun _ => zeroDigest) (.empty sampleConversation) moves).map
      Prod.fst = [request] := by
    decide +kernel
  obtain ⟨⟨first, receipt⟩, member, same⟩ := List.mem_map.mp (committed ▸ List.mem_singleton_self request)
  have isRequest : first = request := same
  rw [isRequest] at member
  refine ⟨receipt, member, ?_⟩
  have answered := (native_messages_exactly_once (fun _ => zeroDigest) sampleConversation moves).2.2.2.2.1
    (request, receipt) member request ⟨rfl, rfl⟩ rfl rfl fun _ => rfl
  rwa [if_pos ⟨rfl, rfl⟩] at answered

end Craxii
