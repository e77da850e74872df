import Craxii.Domain.Values

/-!
Embedding of `application/event_delivery.rs`: the broker that fans live drafts out to one bounded
queue for each connection.
-/

namespace Craxii

open Utf8Text

structure DraftId where
  uuid : Uuid
deriving DecidableEq

structure DraftIdentity where
  conversationId : ConversationId
  workId : WorkId
  invocationId : ModelInvocationId
  draftId : DraftId
deriving DecidableEq

inductive DraftDeltaKind
  | text
  | refusal
deriving DecidableEq

inductive CanonicalDraftDelta
  | text (value : Text)
  | refusal (value : Text)

def CanonicalDraftDelta.kind : CanonicalDraftDelta → DraftDeltaKind
  | .text _ => .text
  | .refusal _ => .refusal

def CanonicalDraftDelta.content : CanonicalDraftDelta → Text
  | .text value | .refusal value => value

inductive DraftExposure
  | notExposed
  | exposed

inductive DraftAbandonCause
  | toolContinuation | superseded | cancelled | failed | interrupted | deliveryLimit

inductive DraftAbandonReason
  | toolContinuation | superseded | cancelled | failed | interrupted | deliveryLimit
deriving DecidableEq

def publicAbandonReason : DraftAbandonCause → DraftAbandonReason
  | .toolContinuation => .toolContinuation
  | .superseded => .superseded
  | .cancelled => .cancelled
  | .failed => .failed
  | .interrupted => .interrupted
  | .deliveryLimit => .deliveryLimit

inductive DraftEventPayload
  | started
  | delta (kind : DraftDeltaKind) (text : Text)
  | abandoned (reason : DraftAbandonReason)
deriving DecidableEq

structure EphemeralDraftEnvelope extends DraftIdentity where
  deltaSequence : Option Nat
  payload : DraftEventPayload
deriving DecidableEq

variable (encodedLength : EphemeralDraftEnvelope → Nat) (identity : DraftIdentity) (event : EphemeralDraftEnvelope)

namespace EphemeralDraftEnvelope

def started : EphemeralDraftEnvelope where
  toDraftIdentity := identity
  deltaSequence := none
  payload := .started

def delta (deltaSequence : Nat) (kind : DraftDeltaKind) (text : Text) :
    EphemeralDraftEnvelope where
  toDraftIdentity := identity
  deltaSequence := some deltaSequence
  payload := .delta kind text

def abandoned (reason : DraftAbandonReason) : EphemeralDraftEnvelope where
  toDraftIdentity := identity
  deltaSequence := none
  payload := .abandoned reason

def isDelta : Bool :=
  match event.payload with
  | .delta _ _ => true
  | _ => false

end EphemeralDraftEnvelope

def websocketOutboundFrames : Nat := 16

def maxDraftTextBytes : Nat := 262144

def maxDraftEvents : Nat := 4096

def maxWebsocketFrameBytes : Nat := 270336

structure Subscriber where
  queue : List EphemeralDraftEnvelope
  eligibleDrafts : DraftId → Option Nat
  overloaded : Bool

variable (cause : DraftAbandonCause)

namespace Subscriber

def fresh : Subscriber := ⟨[], fun _ => none, false⟩

def coalesce (last event : EphemeralDraftEnvelope) : Option EphemeralDraftEnvelope :=
  if last.draftId = event.draftId then
    match last.payload, event.payload with
    | .delta lastKind lastText, .delta nextKind nextText =>
      if lastKind = nextKind then
        let candidate := { last with
          deltaSequence := event.deltaSequence
          payload := .delta lastKind (lastText ++ nextText) }
        if encodedLength candidate ≤ maxWebsocketFrameBytes then some candidate else none
      else none
    | _, _ => none
  else none

def enqueueDelta (subscriber : Subscriber) (event : EphemeralDraftEnvelope) : Subscriber :=
  if subscriber.queue.length < websocketOutboundFrames then
    { subscriber with queue := subscriber.queue ++ [event] }
  else
    match subscriber.queue.getLast?.bind fun last => coalesce encodedLength last event with
    | some candidate => { subscriber with queue := subscriber.queue.dropLast ++ [candidate] }
    | none => subscriber

def evictDeltas : Nat → List EphemeralDraftEnvelope → List EphemeralDraftEnvelope × Bool
  | 0, queue => (queue, true)
  | count + 1, queue =>
    if queue.any EphemeralDraftEnvelope.isDelta then
      evictDeltas count (queue.eraseP EphemeralDraftEnvelope.isDelta)
    else (queue, false)

def enqueueStructural (subscriber : Subscriber) (event : EphemeralDraftEnvelope) : Subscriber × Bool :=
  match evictDeltas (subscriber.queue.length + 1 - websocketOutboundFrames) subscriber.queue with
  | (queue, true) => ({ subscriber with queue := queue ++ [event] }, true)
  | (queue, false) => ({ subscriber with queue := queue, overloaded := true }, false)

def start (subscriber : Subscriber) (identity : DraftIdentity) : Subscriber :=
  match subscriber.enqueueStructural (.started identity) with
  | (subscriber, true) =>
    { subscriber with
      eligibleDrafts := Function.update subscriber.eligibleDrafts identity.draftId (some 0) }
  | (subscriber, false) => subscriber

def abandonDraft (subscriber : Subscriber) (identity : DraftIdentity) (cause : DraftAbandonCause) :
    Subscriber :=
  match subscriber.eligibleDrafts identity.draftId with
  | some _ =>
    (enqueueStructural { subscriber with
      eligibleDrafts := Function.update subscriber.eligibleDrafts identity.draftId none }
      (.abandoned identity (publicAbandonReason cause))).1
  | none => subscriber

def startAndAbandon (subscriber : Subscriber) (identity : DraftIdentity) (sendStarted : Bool)
    (cause : DraftAbandonCause) : Subscriber :=
  (if sendStarted then subscriber.start identity else subscriber).abandonDraft identity cause

def offerDelta (subscriber : Subscriber)
    (event : EphemeralDraftEnvelope) (sequence : Nat) : Subscriber :=
  match subscriber.eligibleDrafts event.draftId with
  | none => subscriber
  | some lastSequence =>
    if sequence ≤ lastSequence then subscriber
    else enqueueDelta encodedLength { subscriber with
      eligibleDrafts := Function.update subscriber.eligibleDrafts event.draftId (some sequence) } event

def startAndOffer (subscriber : Subscriber)
    (first : Bool) (event : EphemeralDraftEnvelope) (sequence : Nat) : Subscriber :=
  offerDelta encodedLength (if first then subscriber.start event.toDraftIdentity else subscriber)
    event sequence

end Subscriber

structure ActiveDraft where
  identity : DraftIdentity
  (nextSequence textBytes deltaEvents : Nat)
  started : Bool

def ActiveDraft.fresh : ActiveDraft := ⟨identity, 0, 0, 0, false⟩

def ActiveDraft.shown (draft : ActiveDraft) (delta : CanonicalDraftDelta) : ActiveDraft :=
  { draft with
    nextSequence := draft.nextSequence + 1
    textBytes := draft.textBytes + utf8Len delta.content
    deltaEvents := draft.deltaEvents + 1
    started := true }

abbrev ActiveDraft.invocationId (draft : ActiveDraft) : ModelInvocationId := draft.identity.invocationId

structure LiveEventBroker where
  accepting : Bool
  nextSubscriberId : Nat
  drafts : List ActiveDraft
  subscribers : Nat → Option Subscriber

inductive LiveEventReceive
  | event (event : EphemeralDraftEnvelope)
  | overloaded
  | closed
  | waiting

namespace LiveEventBroker

def fresh : LiveEventBroker := ⟨true, 1, [], fun _ => none⟩

def broadcast (broker : LiveEventBroker) (change : Subscriber → Subscriber) : LiveEventBroker :=
  { broker with subscribers := fun id => (broker.subscribers id).map change }

def removeDraft (broker : LiveEventBroker) (invocationId : ModelInvocationId) : LiveEventBroker :=
  { broker with drafts := broker.drafts.filter fun draft => draft.invocationId != invocationId }

def putDraft (broker : LiveEventBroker) (draft : ActiveDraft) : LiveEventBroker :=
  { broker with drafts := (broker.removeDraft draft.invocationId).drafts ++ [draft] }

def findDraft (broker : LiveEventBroker) (invocationId : ModelInvocationId) : Option ActiveDraft :=
  broker.drafts.find? fun draft => draft.invocationId == invocationId

def subscribe (broker : LiveEventBroker) : LiveEventBroker × Option Nat :=
  if broker.accepting then
    ({ broker with
        nextSubscriberId := min (broker.nextSubscriberId + 1) (2 ^ 64 - 1)
        subscribers := Function.update broker.subscribers broker.nextSubscriberId (some .fresh) },
      some broker.nextSubscriberId)
  else (broker, none)

def closeAdmission (broker : LiveEventBroker) : LiveEventBroker :=
  { broker with accepting := false, drafts := [] }.broadcast fun subscriber =>
    { subscriber with eligibleDrafts := fun _ => none, queue := [] }

def finalizeWork (broker : LiveEventBroker) (workId : WorkId) : LiveEventBroker :=
  let draftIds := (broker.drafts.filter fun draft => draft.identity.workId == workId).map fun draft =>
    draft.identity.draftId
  { broker with drafts := broker.drafts.filter fun draft => draft.identity.workId != workId }.broadcast
    fun subscriber =>
      { subscriber with
        queue := subscriber.queue.filter fun event => event.workId != workId
        eligibleDrafts := fun draftId =>
          if draftIds.contains draftId then none else subscriber.eligibleDrafts draftId }

def broadcastAbandonedDraft (broker : LiveEventBroker) (draft : ActiveDraft)
    (cause : DraftAbandonCause) : LiveEventBroker :=
  if draft.started then broker.broadcast fun subscriber => subscriber.abandonDraft draft.identity cause
  else broker

def abandon (broker : LiveEventBroker) (invocationId : ModelInvocationId) (cause : DraftAbandonCause) :
    LiveEventBroker :=
  match broker.findDraft invocationId with
  | none => broker
  | some draft => (broker.removeDraft invocationId).broadcastAbandonedDraft draft cause

def superseded (broker : LiveEventBroker) (identity : DraftIdentity) : List ModelInvocationId :=
  (broker.drafts.filter fun draft => draft.identity.workId == identity.workId &&
    draft.invocationId != identity.invocationId).map ActiveDraft.invocationId

def present (broker : LiveEventBroker)
    (draft : ActiveDraft) (delta : CanonicalDraftDelta) : LiveEventBroker :=
  let sequence := draft.nextSequence + 1
  let event := .delta draft.identity sequence delta.kind delta.content
  if draft.textBytes + utf8Len delta.content > maxDraftTextBytes || draft.deltaEvents ≥ maxDraftEvents ||
      encodedLength event > maxWebsocketFrameBytes then
    (broker.broadcast fun subscriber => subscriber.startAndAbandon draft.identity (!draft.started)
      .deliveryLimit).removeDraft draft.invocationId
  else
    (broker.putDraft (draft.shown delta)).broadcast fun subscriber =>
      subscriber.startAndOffer encodedLength (!draft.started) event sequence

def offer (broker : LiveEventBroker) (sawClosed : Bool)
    (identity : DraftIdentity) (delta : CanonicalDraftDelta) : LiveEventBroker × DraftExposure :=
  if sawClosed || !broker.accepting then (broker, .notExposed)
  else
    let broker := (broker.superseded identity).foldl
      (fun broker invocationId => broker.abandon invocationId .superseded) broker
    let draft := (broker.findDraft identity.invocationId).getD (.fresh identity)
    if draft.identity ≠ identity || draft.nextSequence == 2 ^ 32 - 1 then (broker, .exposed)
    else (broker.present encodedLength draft delta, .exposed)

def recv (broker : LiveEventBroker) (id : Nat) : LiveEventBroker × LiveEventReceive :=
  match broker.subscribers id with
  | none => (broker, .closed)
  | some subscriber =>
    if subscriber.overloaded then (broker, .overloaded)
    else
      match subscriber.queue with
      | event :: rest =>
        ({ broker with
          subscribers := Function.update broker.subscribers id (some { subscriber with queue := rest }) },
          .event event)
      | [] => (broker, if broker.accepting then .waiting else .closed)

def disconnect (broker : LiveEventBroker) (id : Nat) : LiveEventBroker :=
  { broker with subscribers := Function.update broker.subscribers id none }

end LiveEventBroker

inductive BrokerMove
  | subscribe
  | offer (sawClosed : Bool) (identity : DraftIdentity) (delta : CanonicalDraftDelta)
  | abandon (invocationId : ModelInvocationId) (cause : DraftAbandonCause)
  | finalizeWork (workId : WorkId)
  | closeAdmission
  | recv (id : Nat)
  | disconnect (id : Nat)

structure BrokerTrace where
  broker : LiveEventBroker
  received : Nat → List EphemeralDraftEnvelope
  created : List DraftIdentity
  offered : List (DraftId × Text)

namespace BrokerTrace

def fresh : BrokerTrace := ⟨.fresh, fun _ => [], [], []⟩

def creates (trace : BrokerTrace) (sawClosed : Bool) (identity : DraftIdentity) : Bool :=
  !sawClosed && trace.broker.accepting && (trace.broker.findDraft identity.invocationId).isNone

def step (trace : BrokerTrace) : BrokerMove → BrokerTrace
  | .subscribe => { trace with broker := trace.broker.subscribe.1 }
  | .offer sawClosed identity delta =>
    { trace with
      broker := (trace.broker.offer encodedLength sawClosed identity delta).1
      created := if trace.creates sawClosed identity then trace.created ++ [identity] else trace.created
      offered := trace.offered ++ [(identity.draftId, delta.content)] }
  | .abandon invocationId cause => { trace with broker := trace.broker.abandon invocationId cause }
  | .finalizeWork workId => { trace with broker := trace.broker.finalizeWork workId }
  | .closeAdmission => { trace with broker := trace.broker.closeAdmission }
  | .recv id =>
    match trace.broker.recv id with
    | (broker, .event event) =>
      { trace with
        broker := broker
        received := Function.update trace.received id (trace.received id ++ [event]) }
    | (broker, _) => { trace with broker := broker }
  | .disconnect id => { trace with broker := trace.broker.disconnect id }

def receivedOf (trace : BrokerTrace) (id : Nat) (draftId : DraftId) : List EphemeralDraftEnvelope :=
  (trace.received id).filter fun event => event.draftId == draftId

def offeredTexts (trace : BrokerTrace) (draftId : DraftId) : List Text :=
  (trace.offered.filter fun offer => offer.1 == draftId).map Prod.snd

end BrokerTrace

end Craxii
