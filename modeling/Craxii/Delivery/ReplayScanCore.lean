import Craxii.Delivery.PublicationCore
import Craxii.Lib.OrderedLog

/-!
Embedding of one event connection: `run_websocket`, `live_scan`, `scan_and_send` and `send_events`
of `adapters/http.rs` over `list_replay_page_inner` and `project_replay_page`.
-/

namespace Craxii.Publication

open Utf8Text ExceptRules OrderedLog

structure Publisher (Event Frame : Type) where
  offset : Event → Nat
  cursor : Frame → Nat
  publish : Event → Except PublicationErrorKind (Option Frame)
  encode : Frame → Except PublicationErrorKind Text
  published_cursor : ∀ event frame, publish event = .ok (some frame) → cursor frame = offset event

def publishEvent (contracts : Contracts) (event : JournalEvent) :
    Except PublicationErrorKind (Option DurableEventEnvelope) := do
  let shown ← mapPublicEvent contracts event
  match shown with
  | none => return none
  | some envelope =>
    enforceEventSize contracts envelope
    return some envelope

def replayPageRows : Nat := 128
def websocketOutboundFrames : Nat := 16

variable {Event Frame : Type} (publisher : Publisher Event Frame)

def listReplayRows (limit : Nat) (journal : List Event) (after through : Nat) :
    Except PublicationErrorKind (List Event) := do
  refuseIf (limit == 0 || decide (replayPageRows < limit)) .storage
  refuseIf (decide (through ≤ after)) .storage
  return (window publisher.offset journal after through).take limit

structure PublicJournalPage (Event : Type) where
  candidates : List Event
  scannedThrough : Nat
  hasMore : Bool

def completeReplayPage (journal : List Event) (through : Nat) (candidates : List Event) :
    PublicJournalPage Event :=
  match candidates.getLast? with
  | some last =>
    let hasMore := journal.any fun event =>
      decide (publisher.offset last < publisher.offset event) && decide (publisher.offset event ≤ through)
    ⟨candidates, if hasMore then publisher.offset last else through, hasMore⟩
  | none => ⟨candidates, through, false⟩

structure PublicReplayPage (Frame : Type) where
  events : List Frame
  scannedThrough : Nat
  hasMore : Bool

def projectCandidates (scanned : Nat) : Nat → List Event → Except PublicationErrorKind (List Frame)
  | _, [] => .ok []
  | prior, candidate :: rest => do
      let cursor := publisher.offset candidate
      refuseIf (decide (cursor ≤ prior) || decide (scanned < cursor)) .invariant
      let shown ← publisher.publish candidate
      let events ← projectCandidates scanned cursor rest
      return shown.toList ++ events

def projectReplayPage (after through : Nat) (page : PublicJournalPage Event) :
    Except PublicationErrorKind (PublicReplayPage Frame) := do
  refuseIf (decide (page.scannedThrough < after) || decide (through < page.scannedThrough)) .invariant
  let events ← projectCandidates publisher page.scannedThrough after page.candidates
  return ⟨events, page.scannedThrough, page.hasMore⟩

inductive Sent (Frame : Type)
  | durable (frame : Frame)
  | syncComplete (throughCursor : Nat)

def Sent.durable? : Sent Frame → Option Frame
  | .durable frame => some frame
  | .syncComplete _ => none

inductive ScanKind
  | replay
  | live

inductive Phase (Event Frame : Type)
  | scanning (kind : ScanKind) (through : Nat)
  | counting (kind : ScanKind) (through : Nat) (candidates : List Event)
  | sending (kind : ScanKind) (through : Nat) (page : PublicReplayPage Frame) (pending : List Frame)
      (outbound : List Frame) (flushing : Bool)
  | handoff
  | syncing (pendingLiveScan : Bool)
  | subscribing (pendingLiveScan : Bool)
  | awaitingHead
  | idle
  | fatal
  | failed (error : PublicationErrorKind)
  | closed

structure Connection (Event Frame : Type) where
  journal : List Event
  (after highWater scanned : Nat)
  sent : List (Sent Frame)
  phase : Phase Event Frame

def Connection.durables (connection : Connection Event Frame) : List Frame :=
  connection.sent.filterMap Sent.durable?

def headOffset (journal : List Event) : Option Nat :=
  (journal.map publisher.offset).max?

def connect (journal : List Event) (after : Nat) : Option (Connection Event Frame) := do
  let highWater ← headOffset publisher journal
  if highWater < after then none
  else some ⟨journal, after, highWater, after, [], .scanning .replay highWater⟩

def ScanKind.afterScan : ScanKind → Phase Event Frame
  | .replay => .handoff
  | .live => .idle

def finishPage (kind : ScanKind) (through : Nat) (page : PublicReplayPage Frame)
    (connection : Connection Event Frame) : Connection Event Frame :=
  if page.scannedThrough ≤ connection.scanned ∨ through < page.scannedThrough then
    { connection with phase := .fatal }
  else if page.hasMore = false ∧ page.scannedThrough ≠ through then
    { connection with scanned := page.scannedThrough, phase := .fatal }
  else
    { connection with scanned := page.scannedThrough, phase := .scanning kind through }

def advance (limit : Nat) (connection : Connection Event Frame) : Option (Connection Event Frame) :=
  match connection.phase with
  | .scanning kind through =>
    if connection.scanned < through then
      match listReplayRows publisher limit connection.journal connection.scanned through with
      | .ok candidates => some { connection with phase := .counting kind through candidates }
      | .error error => some { connection with phase := .failed error }
    else some { connection with phase := kind.afterScan }
  | .counting kind through candidates =>
    match projectReplayPage publisher connection.scanned through
        (completeReplayPage publisher connection.journal through candidates) with
    | .ok page => some { connection with phase := .sending kind through page page.events [] false }
    | .error error => some { connection with phase := .failed error }
  | .sending kind through page pending (frame :: outbound) true =>
    some { connection with
      sent := connection.sent ++ [.durable frame],
      phase := .sending kind through page pending outbound true }
  | .sending kind through page [] [] true => some (finishPage kind through page connection)
  | .sending kind through page (frame :: pending) [] true =>
    some { connection with phase := .sending kind through page (frame :: pending) [] false }
  | .sending kind through page [] outbound false =>
    some { connection with phase := .sending kind through page [] outbound true }
  | .sending kind through page (frame :: pending) outbound false =>
    match publisher.encode frame with
    | .ok _ =>
      let outbound := outbound ++ [frame]
      some { connection with
        phase := .sending kind through page pending outbound
          (outbound.length == websocketOutboundFrames) }
    | .error error => some { connection with phase := .failed error }
  | .syncing pendingLiveScan =>
    some { connection with
      sent := connection.sent ++ [.syncComplete connection.highWater],
      phase := .subscribing pendingLiveScan }
  | .awaitingHead =>
    match headOffset publisher connection.journal with
    | some head => some { connection with phase := .scanning .live head }
    | none => some { connection with phase := .failed .storage }
  | .handoff | .subscribing _ | .idle | .fatal | .failed _ | .closed => none

inductive TryRecv
  | received (cursor : Nat)
  | lagged
  | empty
  | closed

def drainHints (highWater : Nat) : List TryRecv → Option Bool
  | [] => none
  | .received cursor :: rest => if cursor ≤ highWater then drainHints highWater rest else some true
  | .lagged :: _ => some true
  | .empty :: _ | .closed :: _ => some false

/-- What can happen next: the journal grows, the task advances, an input it waits for
arrives, or the connection ends. -/
inductive ConnectionMove (Event : Type)
  | append (event : Event)
  | advance
  | drain (hints : List TryRecv)
  | subscribe (open_ : Bool)
  | wake
  | close

def stepConnection (limit : Nat) (connection : Connection Event Frame) :
    ConnectionMove Event → Option (Connection Event Frame)
  | .append event =>
    if connection.journal.all fun earlier => decide (publisher.offset earlier < publisher.offset event)
    then some { connection with journal := connection.journal ++ [event] }
    else none
  | .advance => advance publisher limit connection
  | .drain hints =>
    match connection.phase with
    | .handoff =>
      (drainHints connection.highWater hints).map fun pendingLiveScan =>
        { connection with phase := .syncing pendingLiveScan }
    | _ => none
  | .subscribe open_ =>
    match connection.phase with
    | .subscribing pendingLiveScan =>
      some { connection with
        phase := if open_ then (if pendingLiveScan then .awaitingHead else .idle) else .closed }
    | _ => none
  | .wake =>
    match connection.phase with
    | .idle => some { connection with phase := .awaitingHead }
    | _ => none
  | .close => some { connection with phase := .closed }

end Craxii.Publication
