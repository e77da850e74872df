import Craxii.Lib.TextSlices
import Craxii.Store.IngressCore

/-!
Embedding of `application/delivery_planner.rs`: an answer is rendered, split and planned.
-/

namespace Craxii

open Utf8Text

inductive DeliveryFailureClass
  | adapterUnavailable | bindingRevoked | channelAccountDisabled | unsupportedPayload
  | profileUnavailable | payloadTooLarge | priorPartPermanentFailure | priorPartOutcomeUnknown
  | retryExhausted | deliveryDeadlineExceeded | providerRetryable | providerPermanent
  | providerOutcomeUnknown | staleDispatch | shutdownInterrupted | storageInconsistent
deriving DecidableEq

inductive OutboundDeliveryState
  | queued | dispatching | retryWait | accepted | permanentFailure | outcomeUnknown

inductive DeliveryPlannerError
  | duplicateProvider | invalidTime | emptyPayload

def minDeliveryTextUtf8Bytes : Nat := 64

def maxDeliveryTextUtf8Bytes : Nat := 196606

def maxDeliveryParts : Nat := 64

structure ChannelDeliveryProfile where
  providerId : ChannelProviderId
  (maxTextUtf8Bytes maxParts : Nat)
  bytesMin : minDeliveryTextUtf8Bytes ≤ maxTextUtf8Bytes
  bytesMax : maxTextUtf8Bytes ≤ maxDeliveryTextUtf8Bytes
  partsMin : 1 ≤ maxParts
  partsMax : maxParts ≤ maxDeliveryParts

def telegramDeliveryProfile : ChannelDeliveryProfile :=
  ⟨"telegram".toList, 4096, 64, by decide, by decide, by decide, by decide⟩

def renderAssistantV1 (content : MessageContent) : Except DeliveryPlannerError Text :=
  let rendered := ['\n', '\n'].intercalate content.blocks
  if rendered = [] then .error .emptyPayload else .ok rendered

def nextPart (limit : Nat) (text : Text) : Text :=
  let window := truncateUtf8 text limit
  match rfind ['\n', '\n'] window with
  | some index => window.take (index + 2)
  | none =>
    match rfind ['\n'] window with
    | some index => window.take (index + 1)
    | none => window

/-- The loop of `split_text_v1`; `none` is a loop that has not ended after the given turns. -/
def splitLoop (limit maxParts : Nat) :
    Nat → List Text → Text → Option (Except DeliveryFailureClass (List Text))
  | 0, _, _ => none
  | turns + 1, parts, remaining =>
    if remaining = [] then some (.ok parts)
    else if utf8Len remaining ≤ limit then some (.ok (parts ++ [remaining]))
    else
      let part := nextPart limit remaining
      if truncateUtf8 remaining limit = [] then some (.error .payloadTooLarge)
      else if part = [] then some (.error .payloadTooLarge)
      else if maxParts ≤ (parts ++ [part]).length then some (.error .payloadTooLarge)
      else splitLoop limit maxParts turns (parts ++ [part]) (remaining.drop part.length)

def splitTextV1 (text : Text) (profile : ChannelDeliveryProfile) :
    Option (Except DeliveryFailureClass (List Text)) :=
  if text = [] then some (.error .unsupportedPayload)
  else do
    match ← splitLoop profile.maxTextUtf8Bytes profile.maxParts text.length [] text with
    | .error failure => return .error failure
    | .ok parts =>
      if parts = [] ∨ profile.maxParts < parts.length ∨ 64 < parts.length ∨ [] ∈ parts ∨
          parts.flatten ≠ text then
        return .error .payloadTooLarge
      else return .ok parts

structure DeliveryRoute where
  providerId : ChannelProviderId
  (bindingActive accountActive : Bool)

structure OutboundDelivery where
  payloadText : Text
  (partOrdinal partCount : Nat)
  state : OutboundDeliveryState
  deliveryDeadlineAt : UtcTimestamp
  failure : Option DeliveryFailureClass
  createdAt : UtcTimestamp

/-- `plan_rendered`; the deadline an hour later is what the date library answers. -/
def planRendered (deadlineOf : UtcTimestamp → Option UtcTimestamp)
    (profiles : ChannelProviderId → Option ChannelDeliveryProfile) (route : DeliveryRoute)
    (createdAt : UtcTimestamp) (rendered : Text) :
    Option (Except DeliveryPlannerError (List OutboundDelivery)) :=
  match deadlineOf createdAt with
  | none => some (.error .invalidTime)
  | some deadline => do
      let routeFailure :=
        if !route.bindingActive then some DeliveryFailureClass.bindingRevoked
        else if !route.accountActive then some .channelAccountDisabled
        else none
      let (parts, planningFailure) ← match profiles route.providerId with
        | none => some ([rendered], some DeliveryFailureClass.profileUnavailable)
        | some profile => (splitTextV1 rendered profile).map fun split =>
          match split with
          | .ok parts => (parts, none)
          | .error failure => ([rendered], some failure)
      let failure := routeFailure.or planningFailure
      return .ok (parts.mapIdx fun index payloadText =>
        { payloadText
          partOrdinal := index + 1
          partCount := parts.length
          state := if failure.isSome then .permanentFailure else .queued
          deliveryDeadlineAt := deadline
          failure
          createdAt })

def planAssistantDelivery (deadlineOf : UtcTimestamp → Option UtcTimestamp)
    (profiles : ChannelProviderId → Option ChannelDeliveryProfile) (route : DeliveryRoute)
    (producedByWorkId : Option WorkId) (committedAt : UtcTimestamp) (content : MessageContent) :
    Option (Except DeliveryPlannerError (List OutboundDelivery)) :=
  match renderAssistantV1 content, producedByWorkId with
  | .ok rendered, some _ => planRendered deadlineOf profiles route committedAt rendered
  | .error failure, _ => some (.error failure)
  | .ok _, none => some (.error .emptyPayload)

end Craxii
