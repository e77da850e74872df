import Craxii.Delivery.Publication
import Craxii.Delivery.ReplayScanCore

/-!
What one event connection sends: the public events after the requested cursor and up to an offset
that only grows, with one synchronization mark right behind those up to the high water read at the
start.
-/

namespace Craxii.Publication

open Utf8Text ExceptRules OrderedLog GuardedRun

variable {Event Frame : Type} {publisher : Publisher Event Frame}

section

variable (publisher)

def publicOf (event : Event) : Option Frame :=
  match publisher.publish event with
  | .ok shown => shown
  | .error _ => none

def publicEvents (journal : List Event) (after through : Nat) : List Frame :=
  (window publisher.offset journal after through).filterMap (publicOf publisher)

def Publishes (event : Event) : Prop :=
  ∃ shown, publisher.publish event = .ok shown ∧
    ∀ frame, shown = some frame → ∃ text, publisher.encode frame = .ok text

def Covered (journal : List Event) (offset : Nat) : Prop :=
  ∃ event ∈ journal, offset ≤ publisher.offset event

end

variable {connection next : Connection Event Frame} {move : ConnectionMove Event}
  {contracts : Contracts} {envelope : DurableEventEnvelope} {event : Event} {frame : Frame}
  {candidates journal : List Event} {outbound pending : List Frame}
  {after bound limit scanned through : Nat} {phase : Phase Event Frame}
  {page : PublicReplayPage Frame} {kind : ScanKind}

theorem publicOf_cursor (shown : publicOf publisher event = some frame) :
    publisher.cursor frame = publisher.offset event := by
  unfold publicOf at shown
  split at shown
  · rename_i published
    rw [shown] at published
    exact publisher.published_cursor event frame published
  · cases shown

theorem encodes_of_publishes (publishes : Publishes publisher event)
    (shown : publicOf publisher event = some frame) : ∃ text, publisher.encode frame = .ok text := by
  obtain ⟨view, published, encodes⟩ := publishes
  apply encodes
  simpa [publicOf, published] using shown

theorem mem_publicEvents (found : frame ∈ publicEvents publisher journal after through) :
    ∃ event ∈ journal, publicOf publisher event = some frame ∧ after < publisher.cursor frame ∧
      publisher.cursor frame ≤ through := by
  obtain ⟨event, inWindow, shown⟩ := List.mem_filterMap.mp found
  obtain ⟨inJournal, later, inside⟩ := mem_window.mp inWindow
  rw [publicOf_cursor shown]
  exact ⟨event, inJournal, shown, later, inside⟩

theorem publicEvents_ordered (ordered : Ordered publisher.offset journal)
    (after through : Nat) : Ordered publisher.cursor (publicEvents publisher journal after through) := by
  refine List.Pairwise.filterMap (publicOf publisher) ?_ (ordered.window after through)
  intro first second earlier firstFrame firstShown secondFrame secondShown
  rw [publicOf_cursor firstShown, publicOf_cursor secondShown]
  exact earlier

theorem publicEvents_join (ordered : Ordered publisher.offset journal)
    {middle : Nat} (first : after ≤ middle) (second : middle ≤ through) :
    publicEvents publisher journal after through =
      publicEvents publisher journal after middle ++ publicEvents publisher journal middle through := by
  rw [publicEvents, ← window_append_window ordered first second, List.filterMap_append]
  rfl

theorem Covered.concat {offset : Nat} (covered : Covered publisher journal offset)
    (event : Event) : Covered publisher (journal ++ [event]) offset := by
  obtain ⟨reached, found, large⟩ := covered
  exact ⟨reached, List.mem_append_left _ found, large⟩

theorem Covered.mono {smaller larger : Nat}
    (covered : Covered publisher journal larger) (le : smaller ≤ larger) :
    Covered publisher journal smaller := by
  obtain ⟨reached, found, large⟩ := covered
  exact ⟨reached, found, Nat.le_trans le large⟩

section

variable (covered : Covered publisher journal through) (later : ∀ earlier ∈ journal, publisher.offset earlier < publisher.offset event)
include covered later

theorem window_grown :
    window publisher.offset (journal ++ [event]) after through =
      window publisher.offset journal after through := by
  obtain ⟨reached, found, large⟩ := covered
  exact window_concat (Nat.lt_of_le_of_lt large (later reached found))

theorem publicEvents_grown :
    publicEvents publisher (journal ++ [event]) after through =
      publicEvents publisher journal after through := by
  rw [publicEvents, window_grown covered later]
  rfl

end

/-! One page. -/

theorem listReplayRows_ok (positive : 0 < limit)
    (bounded : limit ≤ replayPageRows) (forward : after < through) (journal : List Event) :
    listReplayRows publisher limit journal after through =
      .ok ((window publisher.offset journal after through).take limit) := by
  have allowed : (limit == 0 || decide (replayPageRows < limit)) = false := by
    rw [Bool.or_eq_false_iff, beq_eq_false_iff_ne, decide_eq_false_iff_not]
    omega
  have open_ : decide (through ≤ after) = false := by
    rw [decide_eq_false_iff_not]
    omega
  rw [listReplayRows, allowed, open_]
  rfl

theorem completeReplayPage_spec
    (ordered : Ordered publisher.offset journal) (positive : 0 < limit) (forward : scanned < through)
    {page : PublicJournalPage Event} (completed : completeReplayPage publisher journal through
      ((window publisher.offset journal scanned through).take limit) = page) :
    scanned < page.scannedThrough ∧ page.scannedThrough ≤ through ∧
      (page.hasMore = false → page.scannedThrough = through) ∧
      page.candidates = window publisher.offset journal scanned page.scannedThrough := by
  unfold completeReplayPage at completed
  split at completed
  · rename_i last isLast
    have lastInside := mem_window.mp (List.mem_of_mem_take (List.mem_of_getLast? isLast))
    dsimp only at completed
    subst completed
    by_cases more : (journal.any fun event => decide (publisher.offset last < publisher.offset event) &&
        decide (publisher.offset event ≤ through)) = true
    · simp only [more, if_true]
      refine ⟨lastInside.2.1, lastInside.2.2, by simp, (page_eq_window ordered isLast).symm⟩
    · have none := Bool.not_eq_true _ ▸ more
      simp only [none, Bool.false_eq_true, if_false]
      refine ⟨forward, Nat.le_refl _, fun _ => trivial, (page_complete ordered isLast ?_).symm⟩
      intro event found later inside
      apply more
      rw [List.any_eq_true]
      exact ⟨event, found, by simp [later, inside]⟩
  · rename_i isLast
    subst completed
    have nothing := window_of_empty_page positive isLast
    exact ⟨forward, Nat.le_refl _, fun _ => rfl, by rw [nothing, List.take_nil]⟩

theorem projectCandidates_ok :
    ∀ {prior : Nat}, Ordered publisher.offset candidates →
      (∀ event ∈ candidates, prior < publisher.offset event ∧ publisher.offset event ≤ scanned) →
      (∀ event ∈ candidates, Publishes publisher event) →
      projectCandidates publisher scanned prior candidates =
        .ok (candidates.filterMap (publicOf publisher)) := by
  induction candidates with
  | nil => intros; rfl
  | cons candidate rest ih =>
    intro prior ordered inside publishes
    obtain ⟨later, restOrdered⟩ := List.pairwise_cons.mp ordered
    obtain ⟨after, within⟩ := inside candidate List.mem_cons_self
    obtain ⟨shown, published, _⟩ := publishes candidate List.mem_cons_self
    have inOrder : (decide (publisher.offset candidate ≤ prior) ||
        decide (scanned < publisher.offset candidate)) = false := by
      rw [Bool.or_eq_false_iff, decide_eq_false_iff_not, decide_eq_false_iff_not]
      omega
    have projected := ih restOrdered
      (fun event found => ⟨later event found, (inside event (List.mem_cons_of_mem _ found)).2⟩)
      (fun event found => publishes event (List.mem_cons_of_mem _ found))
    have isShown : publicOf publisher candidate = shown := by simp [publicOf, published]
    simp only [projectCandidates, inOrder, refuseIf_false, ok_bind, published, projected]
    cases shown with
    | none => rw [List.filterMap_cons_none isShown]; rfl
    | some frame => rw [List.filterMap_cons_some isShown]; rfl

theorem projectReplayPage_ok
    {page : PublicJournalPage Event} (ordered : Ordered publisher.offset journal)
    (publishes : ∀ event ∈ journal, Publishes publisher event) (forward : scanned < page.scannedThrough)
    (within : page.scannedThrough ≤ through)
    (rows : page.candidates = window publisher.offset journal scanned page.scannedThrough) :
    projectReplayPage publisher scanned through page =
      .ok ⟨publicEvents publisher journal scanned page.scannedThrough, page.scannedThrough,
        page.hasMore⟩ := by
  have inRange : (decide (page.scannedThrough < scanned) || decide (through < page.scannedThrough)) =
      false := by
    rw [Bool.or_eq_false_iff, decide_eq_false_iff_not, decide_eq_false_iff_not]
    omega
  have projected : projectCandidates publisher page.scannedThrough scanned page.candidates =
      .ok (publicEvents publisher journal scanned page.scannedThrough) := by
    rw [rows]
    apply projectCandidates_ok (ordered.window _ _)
    · intro event found
      exact (mem_window.mp found).2
    · intro event found
      exact publishes event (mem_window.mp found).1
  rw [projectReplayPage, inRange, refuseIf_false, ok_bind, projected, ok_bind]
  rfl

/-! The invariant of a connection. -/

structure Delivered (publisher : Publisher Event Frame) (connection : Connection Event Frame)
    (bound : Nat) : Prop where
  ordered : Ordered publisher.offset connection.journal
  publishes : ∀ event ∈ connection.journal, Publishes publisher event
  started : connection.after ≤ connection.highWater
  forward : connection.after ≤ connection.scanned
  within : connection.scanned ≤ bound
  covered : Covered publisher connection.journal bound
  marked : Covered publisher connection.journal connection.highWater
  atLeast : publicEvents publisher connection.journal connection.after connection.scanned <+:
    connection.durables
  atMost : connection.durables <+: publicEvents publisher connection.journal connection.after bound

/-- Before the synchronization mark only durable frames up to the high water were sent; after
it the mark stands right behind them. -/
def SyncState (publisher : Publisher Event Frame) (connection : Connection Event Frame) (bound : Nat) :
    Bool → Prop
  | false => connection.sent = connection.durables.map .durable ∧ bound ≤ connection.highWater
  | true => connection.highWater ≤ connection.scanned ∧ ∃ later : List Frame, connection.sent =
      (publicEvents publisher connection.journal connection.after connection.highWater).map .durable ++
        .syncComplete connection.highWater :: later.map .durable

def ScanKind.synced : ScanKind → Bool
  | .replay => false
  | .live => true

def InScan (publisher : Publisher Event Frame) (connection : Connection Event Frame) (kind : ScanKind)
    (through : Nat) : Prop :=
  Covered publisher connection.journal through ∧
    (kind = .replay → through = connection.highWater ∧ connection.scanned ≤ through)

def PhaseOk (publisher : Publisher Event Frame) (limit : Nat) (connection : Connection Event Frame)
    (bound : Nat) : Phase Event Frame → Prop
  | .scanning kind through =>
    bound = connection.scanned ∧ InScan publisher connection kind through ∧
      SyncState publisher connection bound kind.synced
  | .counting kind through candidates =>
    bound = connection.scanned ∧ InScan publisher connection kind through ∧
      SyncState publisher connection bound kind.synced ∧ connection.scanned < through ∧
      candidates =
        (window publisher.offset connection.journal connection.scanned through).take limit
  | .sending kind through page pending outbound _ =>
    bound = page.scannedThrough ∧ InScan publisher connection kind through ∧
      SyncState publisher connection bound kind.synced ∧ connection.scanned < bound ∧
      bound ≤ through ∧ (page.hasMore = false → bound = through) ∧
      connection.durables ++ (outbound ++ pending) =
        publicEvents publisher connection.journal connection.after bound
  | .handoff | .syncing _ =>
    bound = connection.scanned ∧ connection.scanned = connection.highWater ∧
      SyncState publisher connection bound false
  | .subscribing _ | .awaitingHead | .idle =>
    bound = connection.scanned ∧ SyncState publisher connection bound true
  | .fatal | .failed _ => False
  | .closed => ∃ synced, SyncState publisher connection bound synced

def ScanOk (publisher : Publisher Event Frame) (limit : Nat) (connection : Connection Event Frame) :
    Prop :=
  ∃ bound, Delivered publisher connection bound ∧
    PhaseOk publisher limit connection bound connection.phase

theorem Delivered.exact (delivered : Delivered publisher connection connection.scanned) :
    connection.durables =
      publicEvents publisher connection.journal connection.after connection.scanned :=
  delivered.atMost.eq_of_length_le delivered.atLeast.length_le

theorem PhaseOk.synced (phaseOk : PhaseOk publisher limit connection bound phase) :
    ∃ synced, SyncState publisher connection bound synced := by
  cases phase with
  | scanning kind through => exact ⟨_, phaseOk.2.2⟩
  | counting kind through candidates => exact ⟨_, phaseOk.2.2.1⟩
  | sending kind through page pending outbound flushing => exact ⟨_, phaseOk.2.2.1⟩
  | handoff | syncing => exact ⟨_, phaseOk.2.2⟩
  | subscribing | awaitingHead | idle => exact ⟨_, phaseOk.2⟩
  | fatal | failed => exact phaseOk.elim
  | closed => exact phaseOk

/-! The journal grows. -/

theorem SyncState.grown {synced : Bool} (state : SyncState publisher connection bound synced)
    (marked : Covered publisher connection.journal connection.highWater)
    (later : ∀ earlier ∈ connection.journal, publisher.offset earlier < publisher.offset event) :
    SyncState publisher { connection with journal := connection.journal ++ [event] } bound synced := by
  cases synced with
  | false => exact state
  | true =>
    obtain ⟨passed, frames, sent⟩ := state
    refine ⟨passed, frames, ?_⟩
    rw [publicEvents_grown marked later]
    exact sent

theorem InScan.grown (inScan : InScan publisher connection kind through) (event : Event) :
    InScan publisher { connection with journal := connection.journal ++ [event] } kind through :=
  ⟨inScan.1.concat event, inScan.2⟩

theorem Delivered.grown
    (delivered : Delivered publisher connection bound) (publishes : Publishes publisher event)
    (later : ∀ earlier ∈ connection.journal, publisher.offset earlier < publisher.offset event) :
    Delivered publisher { connection with journal := connection.journal ++ [event] } bound where
  ordered := delivered.ordered.concat later
  publishes := by
    intro found inJournal
    rcases List.mem_append.mp inJournal with earlier | last
    · exact delivered.publishes found earlier
    · rw [List.mem_singleton.mp last]
      exact publishes
  started := delivered.started
  forward := delivered.forward
  within := delivered.within
  covered := delivered.covered.concat event
  marked := delivered.marked.concat event
  atLeast := by
    rw [publicEvents_grown (delivered.covered.mono delivered.within) later]
    exact delivered.atLeast
  atMost := by
    rw [publicEvents_grown delivered.covered later]
    exact delivered.atMost

theorem PhaseOk.grown (phaseOk : PhaseOk publisher limit connection bound phase)
    (delivered : Delivered publisher connection bound)
    (later : ∀ earlier ∈ connection.journal, publisher.offset earlier < publisher.offset event) :
    PhaseOk publisher limit { connection with journal := connection.journal ++ [event] } bound phase := by
  have marked := delivered.marked
  cases phase with
  | scanning kind through =>
    obtain ⟨atScanned, inScan, state⟩ := phaseOk
    exact ⟨atScanned, inScan.grown event, state.grown marked later⟩
  | counting kind through candidates =>
    obtain ⟨atScanned, inScan, state, forward, rows⟩ := phaseOk
    refine ⟨atScanned, inScan.grown event, state.grown marked later, forward, ?_⟩
    rw [window_grown inScan.1 later]
    exact rows
  | sending kind through page pending outbound flushing =>
    obtain ⟨atPage, inScan, state, forward, within, last, split⟩ := phaseOk
    refine ⟨atPage, inScan.grown event, state.grown marked later, forward, within, last, ?_⟩
    rw [publicEvents_grown delivered.covered later]
    exact split
  | handoff | syncing =>
    obtain ⟨atScanned, atHighWater, state⟩ := phaseOk
    exact ⟨atScanned, atHighWater, state.grown marked later⟩
  | subscribing | awaitingHead | idle =>
    obtain ⟨atScanned, state⟩ := phaseOk
    exact ⟨atScanned, state.grown marked later⟩
  | fatal | failed => exact phaseOk.elim
  | closed =>
    obtain ⟨synced, state⟩ := phaseOk
    exact ⟨synced, state.grown marked later⟩

/-! The task advances. -/

theorem Delivered.moved
    (delivered : Delivered publisher connection bound) (phase : Phase Event Frame) :
    Delivered publisher { connection with phase := phase } bound :=
  ⟨delivered.ordered, delivered.publishes, delivered.started, delivered.forward, delivered.within,
    delivered.covered, delivered.marked, delivered.atLeast, delivered.atMost⟩

theorem advance_scanning (positive : 0 < limit) (bounded : limit ≤ replayPageRows)
    (delivered : Delivered publisher connection bound)
    (isPhase : connection.phase = .scanning kind through)
    (phaseOk : PhaseOk publisher limit connection bound (.scanning kind through))
    (advanced : advance publisher limit connection = some next) : ScanOk publisher limit next := by
  obtain ⟨atScanned, inScan, state⟩ := phaseOk
  simp only [advance, isPhase] at advanced
  split at advanced
  · rename_i forward
    rw [listReplayRows_ok positive bounded forward] at advanced
    cases advanced
    exact ⟨bound, delivered.moved _, atScanned, inScan, state, forward, rfl⟩
  · rename_i reached
    cases advanced
    refine ⟨bound, delivered.moved _, ?_⟩
    cases kind with
    | replay =>
      obtain ⟨isHighWater, notBeyond⟩ := inScan.2 rfl
      have arrived : connection.scanned = connection.highWater := by omega
      exact ⟨atScanned, arrived, state⟩
    | live => exact ⟨atScanned, state⟩

theorem advance_counting (positive : 0 < limit) (delivered : Delivered publisher connection bound)
    (isPhase : connection.phase = .counting kind through candidates)
    (phaseOk : PhaseOk publisher limit connection bound (.counting kind through candidates))
    (advanced : advance publisher limit connection = some next) : ScanOk publisher limit next := by
  obtain ⟨atScanned, inScan, state, forward, rows⟩ := phaseOk
  subst atScanned
  simp only [advance, isPhase] at advanced
  generalize completed : completeReplayPage publisher connection.journal through candidates = page
    at advanced
  rw [rows] at completed
  obtain ⟨moves, within, last, exactRows⟩ :=
    completeReplayPage_spec delivered.ordered positive forward completed
  rw [projectReplayPage_ok delivered.ordered delivered.publishes moves within exactRows] at advanced
  cases advanced
  have joined := publicEvents_join delivered.ordered delivered.forward (Nat.le_of_lt moves)
  have sentExactly := delivered.exact
  refine ⟨page.scannedThrough, ?_, rfl, inScan, ?_, moves, within, last, ?_⟩
  · exact ⟨delivered.ordered, delivered.publishes, delivered.started, delivered.forward,
      Nat.le_of_lt moves, inScan.1.mono within, delivered.marked, delivered.atLeast,
      ⟨_, by rw [joined]; exact congrArg (· ++ _) sentExactly⟩⟩
  · cases kind with
    | replay => exact ⟨state.1, (inScan.2 rfl).1 ▸ within⟩
    | live => exact state
  · rw [List.nil_append, joined]
    exact congrArg (· ++ _) sentExactly

section

variable (delivered : Delivered publisher connection bound)
include delivered

theorem advance_sent (phaseOk : PhaseOk publisher limit connection bound
      (.sending kind through page pending (frame :: outbound) true)) :
    ScanOk publisher limit { connection with
      sent := connection.sent ++ [.durable frame],
      phase := .sending kind through page pending outbound true } := by
  obtain ⟨atPage, inScan, state, forward, within, last, split⟩ := phaseOk
  have durables : (connection.sent ++ [Sent.durable frame]).filterMap Sent.durable? =
      connection.durables ++ [frame] := by
    rw [List.filterMap_append]
    rfl
  have resplit : connection.durables ++ [frame] ++ (outbound ++ pending) =
      publicEvents publisher connection.journal connection.after bound := by
    rw [← split]
    simp
  refine ⟨bound, ⟨delivered.ordered, delivered.publishes, delivered.started, delivered.forward,
    delivered.within, delivered.covered, delivered.marked, ?_, ?_⟩, atPage, inScan, ?_, forward, within,
    last, ?_⟩
  · change _ <+: List.filterMap _ _
    rw [durables]
    exact delivered.atLeast.trans (List.prefix_append _ _)
  · change List.filterMap _ _ <+: _
    rw [durables]
    exact ⟨_, resplit⟩
  · cases kind with
    | replay =>
      obtain ⟨unsynced, small⟩ := state
      refine ⟨?_, small⟩
      change connection.sent ++ [.durable frame] = List.map _ (List.filterMap _ _)
      rw [durables, List.map_append, ← unsynced]
      rfl
    | live =>
      obtain ⟨passed, later, sent⟩ := state
      refine ⟨passed, later ++ [frame], ?_⟩
      change connection.sent ++ [.durable frame] = _
      rw [sent]
      simp
  · change List.filterMap _ _ ++ _ = _
    rw [durables]
    exact resplit

theorem advance_finished
    (phaseOk : PhaseOk publisher limit connection bound (.sending kind through page [] [] true)) :
    ScanOk publisher limit (finishPage kind through page connection) := by
  obtain ⟨atPage, inScan, state, forward, within, last, split⟩ := phaseOk
  subst atPage
  have inRange : ¬ (page.scannedThrough ≤ connection.scanned ∨ through < page.scannedThrough) := by omega
  have complete : ¬ (page.hasMore = false ∧ page.scannedThrough ≠ through) := by
    rintro ⟨noMore, short⟩
    exact short (last noMore)
  rw [finishPage, if_neg inRange, if_neg complete]
  rw [List.nil_append, List.append_nil] at split
  refine ⟨page.scannedThrough, ⟨delivered.ordered, delivered.publishes, delivered.started,
    Nat.le_trans delivered.forward delivered.within, Nat.le_refl _, delivered.covered, delivered.marked,
    ?_, delivered.atMost⟩, rfl, ⟨inScan.1, ?_⟩, ?_⟩
  · exact ⟨[], by rw [List.append_nil]; exact split.symm⟩
  · intro isReplay
    exact ⟨(inScan.2 isReplay).1, within⟩
  · cases kind with
    | replay => exact state
    | live => exact ⟨Nat.le_trans state.1 delivered.within, state.2⟩

theorem advance_sending {flushing : Bool}
    (isPhase : connection.phase = .sending kind through page pending outbound flushing)
    (phaseOk : PhaseOk publisher limit connection bound
      (.sending kind through page pending outbound flushing))
    (advanced : advance publisher limit connection = some next) : ScanOk publisher limit next := by
  cases flushing with
  | true =>
    cases outbound with
    | cons frame outbound =>
      simp only [advance, isPhase] at advanced
      cases advanced
      exact advance_sent delivered phaseOk
    | nil =>
      cases pending with
      | nil =>
        simp only [advance, isPhase] at advanced
        cases advanced
        exact advance_finished delivered phaseOk
      | cons frame pending =>
        simp only [advance, isPhase] at advanced
        cases advanced
        exact ⟨bound, delivered.moved _, phaseOk⟩
  | false =>
    cases pending with
    | nil =>
      simp only [advance, isPhase] at advanced
      cases advanced
      exact ⟨bound, delivered.moved _, phaseOk⟩
    | cons frame pending =>
      obtain ⟨atPage, inScan, state, forward, within, last, split⟩ := phaseOk
      have isPublic : frame ∈ publicEvents publisher connection.journal connection.after bound := by
        rw [← split]
        simp
      obtain ⟨event, inJournal, shown, _⟩ := mem_publicEvents isPublic
      obtain ⟨text, encoded⟩ := encodes_of_publishes (delivered.publishes event inJournal) shown
      simp only [advance, isPhase, encoded] at advanced
      cases advanced
      refine ⟨bound, delivered.moved _, atPage, inScan, state, forward, within, last, ?_⟩
      rw [← split]
      simp [Connection.durables]

end

theorem advance_ok (positive : 0 < limit)
    (bounded : limit ≤ replayPageRows) (ok : ScanOk publisher limit connection)
    (advanced : advance publisher limit connection = some next) : ScanOk publisher limit next := by
  obtain ⟨bound, delivered, phaseOk⟩ := ok
  cases isPhase : connection.phase with
  | scanning kind through =>
    rw [isPhase] at phaseOk
    exact advance_scanning positive bounded delivered isPhase phaseOk advanced
  | counting kind through candidates =>
    rw [isPhase] at phaseOk
    exact advance_counting positive delivered isPhase phaseOk advanced
  | sending kind through page pending outbound flushing =>
    rw [isPhase] at phaseOk
    exact advance_sending delivered isPhase phaseOk advanced
  | syncing pendingLiveScan =>
    rw [isPhase] at phaseOk
    obtain ⟨atScanned, atHighWater, unsynced, _⟩ := phaseOk
    subst atScanned
    have sentExactly := delivered.exact
    simp only [advance, isPhase] at advanced
    cases advanced
    have durables : (connection.sent ++ [Sent.syncComplete connection.highWater]).filterMap
        Sent.durable? = connection.durables := by
      rw [List.filterMap_append]
      exact List.append_nil _
    refine ⟨connection.scanned, ⟨delivered.ordered, delivered.publishes, delivered.started,
      delivered.forward, delivered.within, delivered.covered, delivered.marked, ?_, ?_⟩, rfl,
      Nat.le_of_eq atHighWater.symm, [], ?_⟩
    · change _ <+: List.filterMap _ _
      rw [durables]
      exact delivered.atLeast
    · change List.filterMap _ _ <+: _
      rw [durables]
      exact delivered.atMost
    · change connection.sent ++ _ = _
      rw [unsynced, sentExactly, atHighWater]
      rfl
  | awaitingHead =>
    rw [isPhase] at phaseOk
    obtain ⟨reached, found, _⟩ := delivered.covered
    simp only [advance, isPhase] at advanced
    split at advanced
    · rename_i head isHead
      cases advanced
      have isOffset := List.max?_mem isHead
      obtain ⟨largest, inJournal, isLargest⟩ := List.mem_map.mp isOffset
      refine ⟨bound, delivered.moved _, phaseOk.1, ⟨⟨largest, inJournal, isLargest.ge⟩, ?_⟩, phaseOk.2⟩
      intro isReplay
      cases isReplay
    · rename_i noHead
      have empty := List.max?_eq_none_iff.mp noHead
      rw [List.map_eq_nil_iff] at empty
      rw [empty] at found
      cases found
  | handoff | subscribing | idle | closed =>
    simp only [advance, isPhase] at advanced
    cases advanced
  | fatal | failed =>
    rw [isPhase] at phaseOk
    exact phaseOk.elim

theorem stepConnection_ok (positive : 0 < limit) (bounded : limit ≤ replayPageRows)
    (ok : ScanOk publisher limit connection)
    (publishes : ∀ event, move = .append event → Publishes publisher event)
    (stepped : stepConnection publisher limit connection move = some next) :
    ScanOk publisher limit next := by
  cases move with
  | append event =>
    simp only [stepConnection] at stepped
    split at stepped
    · rename_i later
      cases stepped
      obtain ⟨bound, delivered, phaseOk⟩ := ok
      have beyond : ∀ earlier ∈ connection.journal, publisher.offset earlier < publisher.offset event := by
        intro earlier found
        exact of_decide_eq_true (List.all_eq_true.mp later earlier found)
      exact ⟨bound, delivered.grown (publishes event rfl) beyond, phaseOk.grown delivered beyond⟩
    · cases stepped
  | advance => exact advance_ok positive bounded ok stepped
  | drain hints =>
    obtain ⟨bound, delivered, phaseOk⟩ := ok
    simp only [stepConnection] at stepped
    split at stepped
    · rename_i isPhase
      rw [isPhase] at phaseOk
      obtain ⟨pendingLiveScan, _, rfl⟩ := Option.map_eq_some_iff.mp stepped
      exact ⟨bound, delivered.moved _, phaseOk⟩
    · cases stepped
  | subscribe open_ =>
    obtain ⟨bound, delivered, phaseOk⟩ := ok
    simp only [stepConnection] at stepped
    split at stepped
    · rename_i pendingLiveScan isPhase
      rw [isPhase] at phaseOk
      cases stepped
      refine ⟨bound, delivered.moved _, ?_⟩
      cases open_ with
      | false => exact ⟨true, phaseOk.2⟩
      | true =>
        cases pendingLiveScan with
        | false => exact phaseOk
        | true => exact phaseOk
    · cases stepped
  | wake =>
    obtain ⟨bound, delivered, phaseOk⟩ := ok
    simp only [stepConnection] at stepped
    split at stepped
    · rename_i isPhase
      rw [isPhase] at phaseOk
      cases stepped
      exact ⟨bound, delivered.moved _, phaseOk⟩
    · cases stepped
  | close =>
    obtain ⟨bound, delivered, phaseOk⟩ := ok
    cases stepped
    exact ⟨bound, delivered.moved _, phaseOk.synced⟩

/-! How far the frames reach. -/

def coveredThrough (publisher : Publisher Event Frame) (connection : Connection Event Frame) : Nat :=
  match connection.durables.getLast? with
  | none => connection.scanned
  | some frame => max connection.scanned (publisher.cursor frame)

theorem prefix_publicEvents (ordered : Ordered publisher.offset journal)
    {frames : List Frame} (first : after ≤ through) (second : through ≤ bound)
    (sent : frames <+: publicEvents publisher journal after bound)
    (small : ∀ frame ∈ frames, publisher.cursor frame ≤ through) :
    frames <+: publicEvents publisher journal after through := by
  have joined := publicEvents_join ordered first second
  rw [joined] at sent
  rcases List.prefix_or_prefix_of_prefix sent (List.prefix_append _ _) with shorter | longer
  · exact shorter
  · obtain ⟨part, rfl⟩ := longer
    have remaining := (List.prefix_append_right_inj _).mp sent
    cases part with
    | nil => simp
    | cons frame part =>
      have later := mem_publicEvents (remaining.subset List.mem_cons_self)
      obtain ⟨_, _, _, beyond, _⟩ := later
      have := small frame (List.mem_append_right _ List.mem_cons_self)
      omega

theorem Delivered.durables_ordered (delivered : Delivered publisher connection bound) :
    Ordered publisher.cursor connection.durables :=
  (publicEvents_ordered delivered.ordered _ _).sublist delivered.atMost.sublist

theorem Delivered.durables_eq (delivered : Delivered publisher connection bound) :
    connection.durables = publicEvents publisher connection.journal connection.after
      (coveredThrough publisher connection) := by
  have inOrder := delivered.durables_ordered
  unfold coveredThrough
  cases isLast : connection.durables.getLast? with
  | none =>
    have nothing := List.getLast?_eq_none_iff.mp isLast
    have atLeast := delivered.atLeast
    rw [nothing] at atLeast ⊢
    exact (List.prefix_nil.mp atLeast).symm
  | some frame =>
    have greatest := inOrder.last_greatest isLast
    have member := List.mem_of_getLast? isLast
    obtain ⟨_, _, _, after, inside⟩ := mem_publicEvents (delivered.atMost.subset member)
    dsimp only
    by_cases behind : publisher.cursor frame ≤ connection.scanned
    · rw [Nat.max_eq_left behind]
      have atMost := prefix_publicEvents delivered.ordered delivered.forward delivered.within
        delivered.atMost fun other found => Nat.le_trans (greatest other found) behind
      exact atMost.eq_of_length_le delivered.atLeast.length_le
    · rw [Nat.max_eq_right (by omega)]
      have atMost := prefix_publicEvents delivered.ordered (Nat.le_of_lt after) inside
        delivered.atMost greatest
      obtain ⟨rest, joined⟩ := atMost
      -- A frame behind the last one would have a larger cursor.
      cases rest with
      | nil => rw [← joined, List.append_nil]
      | cons other rest =>
        have whole := publicEvents_ordered delivered.ordered connection.after (publisher.cursor frame)
        rw [← joined] at whole
        have larger := (List.pairwise_append.mp whole).2.2 frame member other List.mem_cons_self
        have inWindow : other ∈ publicEvents publisher connection.journal connection.after
            (publisher.cursor frame) := by
          rw [← joined]
          exact List.mem_append_right _ List.mem_cons_self
        obtain ⟨_, _, _, _, small⟩ := mem_publicEvents inWindow
        omega

/-! What a move keeps and extends. -/

structure Extends (connection next : Connection Event Frame) : Prop where
  after : next.after = connection.after
  highWater : next.highWater = connection.highWater
  scanned : connection.scanned ≤ next.scanned
  durables : connection.durables <+: next.durables

theorem Extends.refl (connection : Connection Event Frame) : Extends connection connection :=
  ⟨rfl, rfl, Nat.le_refl _, List.prefix_rfl⟩

theorem Extends.trans {first second third : Connection Event Frame} (earlier : Extends first second)
    (later : Extends second third) : Extends first third :=
  ⟨later.after.trans earlier.after, later.highWater.trans earlier.highWater,
    Nat.le_trans earlier.scanned later.scanned, earlier.durables.trans later.durables⟩

theorem Extends.moved (connection : Connection Event Frame) (phase : Phase Event Frame) :
    Extends connection { connection with phase := phase } :=
  ⟨rfl, rfl, Nat.le_refl _, List.prefix_rfl⟩

theorem Extends.sent (connection : Connection Event Frame) (frames : List (Sent Frame))
    (phase : Phase Event Frame) :
    Extends connection { connection with sent := connection.sent ++ frames, phase := phase } := by
  refine ⟨rfl, rfl, Nat.le_refl _, ?_⟩
  change List.filterMap _ _ <+: List.filterMap _ _
  rw [List.filterMap_append]
  exact List.prefix_append _ _

theorem finishPage_extends (kind : ScanKind) (through : Nat) (page : PublicReplayPage Frame)
    (connection : Connection Event Frame) :
    Extends connection (finishPage kind through page connection) := by
  unfold finishPage
  split
  · exact .moved connection _
  · rename_i inRange
    have forward : connection.scanned ≤ page.scannedThrough := by omega
    split
    · exact ⟨rfl, rfl, forward, List.prefix_rfl⟩
    · exact ⟨rfl, rfl, forward, List.prefix_rfl⟩

theorem advance_extends
    (advanced : advance publisher limit connection = some next) : Extends connection next := by
  unfold advance at advanced
  split at advanced
  · split at advanced
    · split at advanced
      · cases advanced
        exact .moved connection _
      · cases advanced
        exact .moved connection _
    · cases advanced
      exact .moved connection _
  · split at advanced
    · cases advanced
      exact .moved connection _
    · cases advanced
      exact .moved connection _
  · cases advanced
    exact .sent connection _ _
  · cases advanced
    exact finishPage_extends _ _ _ connection
  · cases advanced
    exact .moved connection _
  · cases advanced
    exact .moved connection _
  · split at advanced
    · cases advanced
      exact .moved connection _
    · cases advanced
      exact .moved connection _
  · cases advanced
    exact .sent connection _ _
  · split at advanced
    · cases advanced
      exact .moved connection _
    · cases advanced
      exact .moved connection _
  · cases advanced
  · cases advanced
  · cases advanced
  · cases advanced
  · cases advanced
  · cases advanced

theorem stepConnection_extends
    (stepped : stepConnection publisher limit connection move = some next) :
    Extends connection next := by
  cases move with
  | append event =>
    simp only [stepConnection] at stepped
    split at stepped
    · cases stepped
      exact ⟨rfl, rfl, Nat.le_refl _, List.prefix_rfl⟩
    · cases stepped
  | advance => exact advance_extends stepped
  | drain hints =>
    simp only [stepConnection] at stepped
    split at stepped
    · obtain ⟨_, _, rfl⟩ := Option.map_eq_some_iff.mp stepped
      exact .moved connection _
    · cases stepped
  | subscribe open_ | wake =>
    simp only [stepConnection] at stepped
    split at stepped
    · cases stepped
      exact .moved connection _
    · cases stepped
  | close =>
    cases stepped
    exact .moved connection _

theorem coveredThrough_mono
    (extended : Extends connection next) (inOrder : Ordered publisher.cursor next.durables) :
    coveredThrough publisher connection ≤ coveredThrough publisher next := by
  have scanned := extended.scanned
  unfold coveredThrough
  cases isLast : connection.durables.getLast? with
  | none =>
    cases next.durables.getLast? with
    | none => exact scanned
    | some frame => exact Nat.le_trans scanned (Nat.le_max_left _ _)
  | some frame =>
    have member := extended.durables.subset (List.mem_of_getLast? isLast)
    cases nextLast : next.durables.getLast? with
    | none =>
      rw [List.getLast?_eq_none_iff.mp nextLast] at member
      cases member
    | some last =>
      have behind := inOrder.last_greatest nextLast frame member
      dsimp only
      omega

theorem replay_ok (positive : 0 < limit) (bounded : limit ≤ replayPageRows)
    {moves : List (ConnectionMove Event)} : ∀ {connection : Connection Event Frame},
      ScanOk publisher limit connection →
      (∀ event, .append event ∈ moves → Publishes publisher event) →
      ScanOk publisher limit (replay (stepConnection publisher limit) connection moves) ∧
        Extends connection (replay (stepConnection publisher limit) connection moves) := by
  induction moves with
  | nil => exact fun ok _ => ⟨ok, .refl _⟩
  | cons move rest ih =>
    intro connection ok publishes
    have restPublishes := fun event found => publishes event (List.mem_cons_of_mem move found)
    rw [replay_cons]
    cases outcome : stepConnection publisher limit connection move with
    | none =>
      rw [offer_refused outcome]
      exact ih ok restPublishes
    | some next =>
      rw [offer_accepted outcome]
      have nextOk := stepConnection_ok positive bounded ok
        (fun event isAppend => publishes event (isAppend ▸ List.mem_cons_self)) outcome
      obtain ⟨reachedOk, extended⟩ := ih nextOk restPublishes
      exact ⟨reachedOk, (stepConnection_extends outcome).trans extended⟩

/-! The synchronization mark. -/

def Unmarked (publisher : Publisher Event Frame) (connection : Connection Event Frame) : Prop :=
  connection.sent = connection.durables.map .durable ∧
    ∀ frame ∈ connection.durables, publisher.cursor frame ≤ connection.highWater

/-- Marked once: behind all public events up to the high water, before every later one. -/
def Marked (publisher : Publisher Event Frame) (connection : Connection Event Frame) : Prop :=
  ∃ later : List Frame, connection.sent =
      (publicEvents publisher connection.journal connection.after connection.highWater).map .durable ++
        .syncComplete connection.highWater :: later.map .durable ∧
    ∀ frame ∈ later, connection.highWater < publisher.cursor frame

def Phase.isLive : Phase Event Frame → Bool
  | .scanning .live _ | .counting .live _ _ | .sending .live _ _ _ _ _ => true
  | .subscribing _ | .awaitingHead | .idle => true
  | _ => false

theorem SyncState.unmarked (delivered : Delivered publisher connection bound)
    (state : SyncState publisher connection bound false) : Unmarked publisher connection := by
  refine ⟨state.1, ?_⟩
  intro frame found
  obtain ⟨_, _, _, _, inside⟩ := mem_publicEvents (delivered.atMost.subset found)
  exact Nat.le_trans inside state.2

theorem SyncState.marked (delivered : Delivered publisher connection bound)
    (state : SyncState publisher connection bound true) : Marked publisher connection := by
  obtain ⟨passed, later, sent⟩ := state
  refine ⟨later, sent, ?_⟩
  have durables : connection.durables = publicEvents publisher connection.journal connection.after
      connection.highWater ++ later := by
    have shown (frames : List Frame) : (frames.map Sent.durable).filterMap Sent.durable? = frames := by
      rw [List.filterMap_map]
      exact List.filterMap_some
    rw [Connection.durables, sent, List.filterMap_append, shown,
      List.filterMap_cons_none (by rfl), shown]
  have atMost := delivered.atMost
  rw [publicEvents_join delivered.ordered delivered.started (Nat.le_trans passed delivered.within),
    durables] at atMost
  have beyond := (List.prefix_append_right_inj _).mp atMost
  intro frame found
  obtain ⟨_, _, _, larger, _⟩ := mem_publicEvents (beyond.subset found)
  exact larger

theorem ScanOk.marked_or (ok : ScanOk publisher limit connection) :
    Marked publisher connection ∨
      (Unmarked publisher connection ∧ connection.phase.isLive = false) := by
  obtain ⟨bound, delivered, phaseOk⟩ := ok
  have fromKind {kind : ScanKind} (state : SyncState publisher connection bound kind.synced)
      (live : kind = .replay → connection.phase.isLive = false) :
      Marked publisher connection ∨
        (Unmarked publisher connection ∧ connection.phase.isLive = false) := by
    cases kind with
    | replay => exact .inr ⟨state.unmarked delivered, live rfl⟩
    | live => exact .inl (state.marked delivered)
  cases isPhase : connection.phase with
  | scanning kind through =>
    rw [isPhase] at phaseOk
    exact isPhase ▸ fromKind phaseOk.2.2 (by rintro rfl; rw [isPhase]; rfl)
  | counting kind through candidates | sending kind through page pending outbound flushing =>
    rw [isPhase] at phaseOk
    exact isPhase ▸ fromKind phaseOk.2.2.1 (by rintro rfl; rw [isPhase]; rfl)
  | handoff | syncing =>
    rw [isPhase] at phaseOk
    exact .inr ⟨phaseOk.2.2.unmarked delivered, rfl⟩
  | subscribing | awaitingHead | idle =>
    rw [isPhase] at phaseOk
    exact .inl (phaseOk.2.marked delivered)
  | fatal | failed =>
    rw [isPhase] at phaseOk
    exact phaseOk.elim
  | closed =>
    rw [isPhase] at phaseOk
    obtain ⟨synced, state⟩ := phaseOk
    cases synced with
    | false => exact .inr ⟨state.unmarked delivered, rfl⟩
    | true => exact .inl (state.marked delivered)

theorem connect_ok (ordered : Ordered publisher.offset journal)
    (publishes : ∀ event ∈ journal, Publishes publisher event)
    (connected : connect publisher journal after = some connection) :
    ScanOk publisher limit connection ∧ connection.after = after := by
  unfold connect at connected
  cases isHead : headOffset publisher journal with
  | none =>
    rw [isHead] at connected
    cases connected
  | some highWater =>
    rw [isHead] at connected
    simp only [Option.bind_eq_bind, Option.bind_some] at connected
    split at connected
    · cases connected
    · rename_i within
      cases connected
      obtain ⟨largest, inJournal, isLargest⟩ := List.mem_map.mp (List.max?_mem isHead)
      have marked : Covered publisher journal highWater := ⟨largest, inJournal, isLargest.ge⟩
      have notBeyond : after ≤ highWater := Nat.not_lt.mp within
      have nothing : publicEvents publisher journal after after = [] := by
        rw [publicEvents, window_empty (Nat.le_refl _)]
        rfl
      refine ⟨⟨after, ⟨ordered, publishes, notBeyond, Nat.le_refl _, Nat.le_refl _,
        marked.mono notBeyond, marked, ?_, ?_⟩, rfl, ⟨marked, fun _ => ⟨rfl, notBeyond⟩⟩, rfl,
        notBeyond⟩, rfl⟩
      · rw [nothing]
        exact List.nil_prefix
      · exact List.nil_prefix

/-! The journal of stored events. -/

def Journaled (contracts : Contracts) (event : JournalEvent) : Prop :=
  ∃ intent prepared journalOffset streamSeq, prepareEvent contracts intent = .ok prepared ∧
    decodeEventRow contracts (appendedRow journalOffset streamSeq prepared) = .ok event

theorem publishEvent_eq_ok {event : JournalEvent}
    (published : publishEvent contracts event = .ok (some envelope)) :
    mapPublicEvent contracts event = .ok (some envelope) := by
  obtain ⟨shown, mapped, published⟩ := bind_eq_ok.mp published
  cases shown with
  | none => cases published
  | some found =>
    obtain ⟨_, _, published⟩ := bind_eq_ok.mp published
    cases published
    exact mapped

theorem mapPublicEvent_cursor {event : JournalEvent}
    (mapped : mapPublicEvent contracts event = .ok (some envelope)) :
    envelope.cursor = event.journalOffset := by
  obtain ⟨_, _, shown⟩ := bind_eq_ok.mp mapped
  obtain ⟨_, _, rfl⟩ := Option.map_eq_some_iff.mp (Except.ok.inj shown)
  rfl

def eventPublisher (contracts : Contracts) : Publisher JournalEvent DurableEventEnvelope where
  offset := fun event => event.journalOffset.value
  cursor := fun envelope => envelope.cursor.value
  publish := publishEvent contracts
  encode := encodePublicEventFrame contracts
  published_cursor := by
    intro event envelope published
    rw [mapPublicEvent_cursor (publishEvent_eq_ok published)]

theorem Journaled.publishes {event : JournalEvent}
    (journaled : Journaled contracts event) : Publishes (eventPublisher contracts) event := by
  obtain ⟨intent, prepared, journalOffset, streamSeq, accepted, decoded⟩ := journaled
  have bounds := decoded_withinBounds accepted decoded
  have mapped := @mapPublicEvent_of_versioned contracts event bounds.versioned
  generalize (publicPayload contracts event.payload).map _ = shown at mapped
  cases shown with
  | none =>
    refine ⟨none, bind_eq_ok.mpr ⟨none, mapped, rfl⟩, ?_⟩
    intro envelope isNone
    cases isNone
  | some envelope =>
    obtain ⟨payloadFits, frameFits⟩ := published_withinLimits bounds mapped
    have sized := enforceEventSize_of_limits payloadFits frameFits
    refine ⟨some envelope, bind_eq_ok.mpr ⟨_, mapped, bind_eq_ok.mpr ⟨(), sized, rfl⟩⟩, ?_⟩
    intro frame isFrame
    cases isFrame
    exact ⟨_, encodePublicEventFrame_of_limits payloadFits frameFits⟩

theorem connection_sends_public_events (contracts : Contracts) {limit after : Nat}
    (positive : 0 < limit) (bounded : limit ≤ replayPageRows) {journal : List JournalEvent}
    (ordered : Ordered (fun event : JournalEvent => event.journalOffset.value) journal)
    (journaled : ∀ event ∈ journal, Journaled contracts event)
    {connection : Connection JournalEvent DurableEventEnvelope}
    (connected : connect (eventPublisher contracts) journal after = some connection)
    (moves further : List (ConnectionMove JournalEvent))
    (appended : ∀ event, .append event ∈ moves ++ further → Journaled contracts event) :
    let reached := replay (stepConnection (eventPublisher contracts) limit) connection moves
    let later := replay (stepConnection (eventPublisher contracts) limit) reached further
    reached.durables = publicEvents (eventPublisher contracts) reached.journal after
        (coveredThrough (eventPublisher contracts) reached) ∧
      Ordered (fun envelope : DurableEventEnvelope => envelope.cursor.value) reached.durables ∧
      coveredThrough (eventPublisher contracts) reached ≤
        coveredThrough (eventPublisher contracts) later ∧
      (reached.after = after ∧ reached.highWater = connection.highWater ∧
        (Marked (eventPublisher contracts) reached ∨
          (Unmarked (eventPublisher contracts) reached ∧ reached.phase.isLive = false))) ∧
      (reached.phase ≠ .fatal ∧ ∀ error, reached.phase ≠ .failed error) := by
  intro reached later
  have publishes : ∀ event, .append event ∈ moves ++ further →
      Publishes (eventPublisher contracts) event := fun event found => (appended event found).publishes
  obtain ⟨startOk, isAfter⟩ := @connect_ok _ _ (eventPublisher contracts) _ _ _ limit
    ordered (fun event found => (journaled event found).publishes) connected
  obtain ⟨reachedOk, extended⟩ := replay_ok positive bounded startOk
    (fun event found => publishes event (List.mem_append_left _ found))
  obtain ⟨laterOk, extendedLater⟩ := replay_ok positive bounded reachedOk
    (fun event found => publishes event (List.mem_append_right _ found))
  have sameAfter := extended.after.trans isAfter
  have marked := reachedOk.marked_or
  obtain ⟨bound, delivered, phaseOk⟩ := reachedOk
  obtain ⟨_, deliveredLater, _⟩ := laterOk
  refine ⟨?_, delivered.durables_ordered,
    coveredThrough_mono extendedLater deliveredLater.durables_ordered,
    ⟨sameAfter, extended.highWater, marked⟩, ?_, ?_⟩
  · rw [← sameAfter]
    exact delivered.durables_eq
  · intro isFatal
    rw [isFatal] at phaseOk
    exact phaseOk
  · intro error isFailed
    rw [isFailed] at phaseOk
    exact phaseOk

def sampleEvent (offset : JournalOffset) : JournalEvent :=
  { sampleIntent with journalOffset := offset, streamSeq := PositiveInteger.one, eventVersion := 2 }

def sampleJournal : List JournalEvent :=
  [sampleEvent (sampleNumber 2), sampleEvent (sampleNumber 5)]

def sampleMoves : List (ConnectionMove JournalEvent) :=
  [.advance, .append (sampleEvent (sampleNumber 7)), .advance, .advance, .advance, .advance,
    .advance, .advance, .advance, .advance, .drain [.received 1, .lagged], .advance, .subscribe true,
    .advance, .advance, .advance, .advance]

theorem connection_sends_public_events_sample :
    ∃ connection, connect (eventPublisher sampleContracts) sampleJournal 0 = some connection ∧
      (replay (stepConnection (eventPublisher sampleContracts) 2) connection sampleMoves).durables =
        publicEvents (eventPublisher sampleContracts)
          (replay (stepConnection (eventPublisher sampleContracts) 2) connection sampleMoves).journal 0
          (coveredThrough (eventPublisher sampleContracts)
            (replay (stepConnection (eventPublisher sampleContracts) 2) connection sampleMoves)) := by
  have journaled (offset : JournalOffset)
      (decoded : decodeEventRow sampleContracts
        (appendedRow offset PositiveInteger.one sampleIntent) = .ok (sampleEvent offset)) :
      Journaled sampleContracts (sampleEvent offset) :=
    ⟨sampleIntent, sampleIntent, offset, _, by decide +kernel, decoded⟩
  have inOrder : Ordered (fun event : JournalEvent => event.journalOffset.value) sampleJournal :=
    List.pairwise_pair.mpr (by decide)
  refine ⟨_, rfl, (connection_sends_public_events sampleContracts (by decide) (by decide) inOrder ?_
    rfl sampleMoves [] ?_).1⟩
  · simp only [sampleJournal, List.forall_mem_cons, List.not_mem_nil, false_implies, implies_true,
      and_true]
    exact ⟨journaled _ (by decide +kernel), journaled _ (by decide +kernel)⟩
  · intro event found
    simp only [sampleMoves, List.append_nil, List.mem_cons, List.not_mem_nil, reduceCtorEq,
      ConnectionMove.append.injEq, false_or, or_false] at found
    rw [found]
    exact journaled _ (by decide +kernel)

end Craxii.Publication
