import Supervsr.CanonicalSuffix
import Supervsr.ReplicaMoveNormal

/-
# Supervsr.ReplicaMoveView — state sync and view changes as moves
-/

namespace Supervsr.Replica

open Relation (ReflTransGen)

variable {χ : Type} [DecidableEq χ] [Checksums χ] {cfg : Config} {given : Surroundings χ}

variable {replica start : Replica χ} {inputs : Inputs χ}

variable {operation : IOOperation χ} {join : JoinView χ} {message : ViewMessage χ}

/-! ## State sync -/

theorem dispatchStateSyncCancelingGrid_moves (stage : replica.stateSync.stage = .cancelingGrid) :
    Moves cfg given replica (replica.dispatchStateSyncCancelingGrid inputs) := by
  unfold dispatchStateSyncCancelingGrid
  split_ifs with hstarted hdrained
  · exact (Move.drained stage (by simpa using hdrained.1)).moves
  · exact moves_refl
  · exact (Move.cancelSync stage).moves

/-- The requests a state sync makes, each with the phase it leads to. -/
def SyncRequest (replica : Replica χ) (operation : IOOperation χ) (phase : Nat) : Prop :=
  (replica.stateSync.stage = .updatingCheckpoint ∧ replica.stateSync.persistPhase = 0 ∧
      phase = 1 ∧ operation = .superblockPersist replica.syncIntentSuperblock) ∨
    (replica.stateSync.stage = .updatingCheckpoint ∧ replica.stateSync.persistPhase = 1 ∧
      phase = 2 ∧ replica.pipeline = [] ∧
      operation = .superblockPersist replica.stateSyncSuperblock) ∨
    (replica.stateSync.stage = .resizingStorage ∧ (operation = .resize ∨ operation = .sync))

theorem startStateSyncIO_moves {phase : Nat} (free : replica.stateSync.io = none)
    (kind : replica.SyncRequest operation phase) :
    Moves cfg given replica (replica.startStateSyncIo inputs operation phase) := by
  unfold startStateSyncIo
  split
  · exact moves_refl
  · rename_i hsubmitted
    exact (Move.submitSync free kind hsubmitted).moves

theorem dispatchStateSyncCheckpoint_moves (stage : replica.stateSync.stage = .updatingCheckpoint) :
    Moves cfg given replica (replica.dispatchStateSyncCheckpoint cfg inputs) := by
  unfold dispatchStateSyncCheckpoint
  split
  · exact moves_refl
  rename_i hfree
  rw [Option.isSome_iff_ne_none, ne_eq, not_not] at hfree
  split
  · rename_i hphase
    exact startStateSyncIO_moves hfree (.inl ⟨stage, hphase, rfl, rfl⟩)
  · rename_i hphase
    split_ifs with hdone hreset
    · -- the owned frames go before the checkpoint is persisted
      exact (Move.releaseFrames stage hphase hdone hfree).moves.trans
        (startStateSyncIO_moves hfree (.inr (.inl ⟨stage, hphase, rfl, rfl, rfl⟩)))
    · exact (Move.startReset inputs).moves
    · exact moves_refl
  · rename_i hphase
    split_ifs with hdone
    · exact (Move.installCheckpoint stage hphase hdone hfree).moves
    · exact moves_refl
  · exact (Move.fail _).moves

theorem continueReplyRepair_moves : Moves cfg given replica (replica.continueReplyRepair inputs) := by
  unfold continueReplyRepair
  simp only
  split_ifs with hwaits hrepaired
  · exact moves_refl
  · simp only [not_or, ne_eq, not_not, Bool.not_eq_true] at hwaits
    exact (Move.repliesRepaired hrepaired.1
      (syncing_eq_false.mpr ⟨hwaits.1, hwaits.2.1, hwaits.2.2.1⟩)).moves
  · exact moves_refl

theorem resumeStateSyncLog_moves (answered : replica.stateSync.completion = some .openState) :
    Moves cfg given replica (replica.openedSync.resumeStateSyncLog cfg inputs) := by
  unfold resumeStateSyncLog
  split
  · rename_i hresumes
    change replica.stateSync.resumeRecovery = true at hresumes
    simp only
    split_ifs with hcomplete hsolo
    · exact Move.moves (Move.openReplay answered hresumes hcomplete)
    · exact ReflTransGen.tail (Move.moves (Move.openIncomplete answered hresumes (.inl rfl))) (Move.fail _)
    · exact (Move.moves (Move.openIncomplete answered hresumes (.inr rfl))).trans
        (requestView_moves _)
  · rename_i hfresh
    change ¬ replica.stateSync.resumeRecovery = true at hfresh
    rw [Bool.not_eq_true] at hfresh
    split
    · rename_i hahead
      split
      · obtain h | h | ⟨windowHead, hwindow, hbounded, h⟩ := replica.openedSync.beginRepairWindow_cases
          cfg inputs replica.openedSync.stateSync.view replica.openedSync.stateSync.commit
        all_goals rw [h]
        · exact (Move.openStuck answered hfresh _).moves.tail (Move.fail _)
        · exact (Move.openStuck answered hfresh _).moves
        · exact (Move.moves (Move.openBehind answered hfresh hwindow hbounded)).trans
            requestRepairWindowHeaders_moves
      · rename_i hfits
        exact Move.moves (Move.openHeaders answered hfresh hahead hfits)
    · rename_i hlevel
      exact Move.moves (Move.openLevel answered hfresh (Nat.not_lt.mp hlevel))

theorem finishStateSyncOpen_moves (answered : replica.stateSync.completion = some .openState) :
    Moves cfg given replica (replica.finishStateSyncOpen cfg inputs) :=
  (resumeStateSyncLog_moves answered).trans continueReplyRepair_moves

/-- The state machine is asked to open the checkpoint; `asked` is the move that records it. -/
theorem finishStateSyncBlocks_moves
    (asked : Move cfg given start { replica with stateSync := { replica.stateSync with
      generation := replica.stateSync.generation + 1, opening := true, completion := some .openState } }) :
    Moves cfg given start (replica.finishStateSyncBlocks cfg inputs) := by
  unfold finishStateSyncBlocks
  simp only
  split_ifs
  · exact asked.moves.trans (finishStateSyncOpen_moves rfl)
  · exact asked.moves

theorem stateSyncBlocksRepaired_moves : Moves cfg given replica (replica.stateSyncBlocksRepaired cfg inputs) := by
  unfold stateSyncBlocksRepaired
  split_ifs with hready
  · exact finishStateSyncBlocks_moves (Move.opening hready.2.1 hready.1)
  · exact moves_refl

theorem dispatchStateSyncResize_moves (stage : replica.stateSync.stage = .resizingStorage) :
    Moves cfg given replica (replica.dispatchStateSyncResize cfg inputs) := by
  unfold dispatchStateSyncResize
  split
  · exact moves_refl
  rename_i hfree
  rw [Option.isSome_iff_ne_none, ne_eq, not_not] at hfree
  split
  · exact startStateSyncIO_moves hfree (.inr (.inr ⟨stage, .inl rfl⟩))
  · split_ifs
    · exact (Move.resizePhase stage).moves.trans
        (startStateSyncIO_moves hfree (.inr (.inr ⟨stage, .inr rfl⟩)))
    · exact moves_refl
  · simp only
    split_ifs
    · exact (Move.resized stage hfree).moves
    · exact finishStateSyncBlocks_moves (Move.resizedOpening stage hfree)
    · exact moves_refl
  · exact (Move.fail _).moves

theorem dispatchStateSync_moves : Moves cfg given replica (replica.dispatchStateSync cfg inputs) := by
  unfold dispatchStateSync
  split
  · exact moves_refl
  · exact dispatchStateSyncCancelingGrid_moves ‹_›
  · exact dispatchStateSyncCheckpoint_moves ‹_›
  · exact dispatchStateSyncResize_moves ‹_›

theorem handleStateSyncCompletion_moves (generation : Nat) (kind : SyncCompletion) :
    Moves cfg given replica (replica.handleStateSyncCompletion cfg inputs generation kind) := by
  unfold handleStateSyncCompletion
  split
  · exact moves_refl
  split
  · exact moves_refl
  rename_i expected hexpected
  split
  · exact (Move.fail _).moves
  rename_i hkind
  cases kind with
  | reset => exact Move.resetDone.moves
  | openState =>
    rw [ne_eq, not_not] at hkind
    exact finishStateSyncOpen_moves (hkind ▸ hexpected)

theorem finishInterruptedReplay_moves : Moves cfg given replica (replica.finishInterruptedReplay cfg inputs) := by
  have hreplay : Moves cfg given replica (replica.replayInterrupted cfg).1 := Move.replay.moves
  unfold finishInterruptedReplay
  split
  · rename_i heq
    rw [heq] at hreplay
    exact hreplay.trans continueReplyRepair_moves
  · rename_i heq
    rwa [heq] at hreplay

/-! ## Views from others -/

theorem prepareEvidence_moves (view : Nat) (underRepair : Bool) :
    Moves cfg given replica (replica.prepareEvidence cfg inputs view underRepair).1 := by
  unfold prepareEvidence
  split_ifs
  all_goals
    first
      | exact moves_refl
      | exact requestView_moves view

theorem viewEvidence_moves (view author : Nat) (probe : Bool) (idle : replica.stateSync.stage = .idle)
    (unreplayed : replica.stateSync.replayRunning = false) :
    Moves cfg given replica (replica.viewEvidence cfg inputs view author probe).1 := by
  unfold viewEvidence
  split_ifs with hlower hwaits
  all_goals try exact moves_refl
  all_goals try exact requestView_moves view
  -- a replica that waits for its checkpoint to be opened does not get this far
  apply beginViewChange_moves
  intro _ _ hsyncing
  rw [syncing_eq_false.mpr ⟨idle, by simpa using hwaits, unreplayed⟩] at hsyncing
  cases hsyncing

omit [DecidableEq χ] in
/-- Where evidence of an `ExitView` or `JoinView` does not drop the frame, nothing has changed, and a
replica that waits for its checkpoint to be opened has it from a member without a vote or for an older
view. -/
theorem viewEvidence_eq_false {next : Replica χ} {view author : Nat}
    (kept : replica.viewEvidence cfg inputs view author false = (next, false)) :
    next = replica ∧ (replica.stateSyncAwaitingOpen = true →
      view < replica.view ∨ cfg.activeCount ≤ author) := by
  unfold viewEvidence at kept
  split_ifs at kept with hlower hwaits hprobe hhigher
  all_goals simp only [Prod.mk.injEq, Bool.true_eq_false, and_false, and_true] at kept
  · exact ⟨kept.symm, fun _ => hlower⟩
  · exact absurd hprobe (by decide)
  · exact absurd hprobe (by decide)
  · exact ⟨kept.symm, fun h => absurd h hwaits⟩

theorem handleExitView_moves (view author : Nat)
    (undisturbed : given.calm → replica.view < view → replica.syncing = false) :
    Moves cfg given replica (replica.handleExitView cfg inputs view author) := by
  unfold handleExitView
  simp only
  split_ifs with hhigher hrefused
  · apply beginViewChange_moves
    intro hcalm hview hsyncing
    rw [undisturbed hcalm hview] at hsyncing
    cases hsyncing
  · exact moves_refl
  all_goals
    apply ReflTransGen.trans (Move.quiet _ _ _ _ _ _ _ _ fun _ h => .inl h).moves
  · exact moves_refl
  · exact (Move.fail _).moves
  simp only [not_or, ne_eq, not_not] at hrefused
  apply beginViewChange_moves
  intro _ _ _ hrecovering
  rw [show replica.status = .recovering from hrecovering] at hrefused
  exact absurd hrefused.1 (by decide)

/-! ## Canonical selection -/

/-- Selection writes the headers it has looked at and decides no more of the state, but for a conflict
or a panic. -/
theorem selectCanonicalSuffix_cases (replica : Replica χ) (cfg : Config) :
    replica.selectCanonicalSuffix cfg = (replica, none) ∨
      ∃ headers : List (Option (Header χ)), headers.length ≤ cfg.pipelineMax + 1 ∧
        (∀ header, some header ∈ headers →
          ∃ record op, some record ∈ replica.joins ∧ joinHeaderAt record op = some header) ∧
        ((∃ err, replica.selectCanonicalSuffix cfg =
            ((replica.overwriteCanonicalHeaders headers).fail err, none)) ∨
          replica.selectCanonicalSuffix cfg = (replica.overwriteCanonicalHeaders headers, none) ∨
          ∃ commit head, replica.selectCanonicalSuffix cfg =
            (replica.overwriteCanonicalHeaders headers, some (commit, head, headers.length))) := by
  unfold selectCanonicalSuffix
  simp only
  split_ifs with hmalformed
  · exact .inl rfl
  right
  obtain ⟨last, headers, selection, hselected, hrun, hends, hlength⟩ := selectFrom_committedBound replica cfg
  have hreported : ∀ header ∈ headers,
      ∃ record op, some record ∈ replica.joins ∧ joinHeaderAt record op = some header :=
    fun _ hmem => hselected.reported hmem
  rw [hrun]
  cases selection with
  | conflict | outOfRange =>
    exact ⟨headers.reverse.map some, by simpa using hlength, by simpa using hreported, .inl ⟨_, rfl⟩⟩
  | unresolved =>
    exact ⟨headers.reverse.map some, by simpa using hlength, by simpa using hreported, .inr (.inl rfl)⟩
  | resolved head =>
    exact ⟨headers.map some, by simpa using hlength, by simpa using hreported,
      .inr (.inr ⟨replica.committedBound cfg, head, by rw [List.length_map]⟩)⟩

theorem tryInstallCanonicalView_moves (changing : replica.status = .viewChange)
    (primary : replica.isPrimary cfg = true) (durable : replica.durableView = replica.view)
    (quorum : cfg.quorums.viewChange ≤ replica.joins.countP Option.isSome) :
    Moves cfg given replica (replica.tryInstallCanonicalView cfg) := by
  -- what an unresolved selection ends with
  have unresolved : ∀ replica : Replica χ, Moves cfg given replica
      (if replica.joins.countP Option.isSome = cfg.activeCount then
        replica.fail .unrecoverableConsensusState else replica) := by
    intro replica
    split_ifs
    · exact (Move.fail _).moves
    · exact moves_refl
  unfold tryInstallCanonicalView
  simp only
  obtain h | ⟨headers, hshort, hreported, h⟩ := replica.selectCanonicalSuffix_cases cfg
  · rw [h]
    exact unresolved replica
  have hwritten : Moves cfg given replica (replica.overwriteCanonicalHeaders headers) :=
    (Move.overwriteHeaders hshort (.inr (by simp [changing])) fun header h => .inr (hreported header h)).moves
  obtain ⟨err, h⟩ | h | ⟨commit, head, h⟩ := h
  · rw [h]
    exact (hwritten.tail (Move.fail err)).trans (unresolved _)
  · rw [h]
    exact hwritten.trans (unresolved _)
  rw [h]
  apply hwritten.trans
  simp only
  split
  · exact unresolved _
  split
  · exact moves_refl
  rename_i hrefused
  simp only [not_or, not_not] at hrefused
  exact (Move.recordView _ hshort hrefused.2 (.inr changing)
    (.inr ⟨primary, changing, rfl, durable, quorum⟩) fun _ h => h).moves

theorem recordJoinView_moves (changing : replica.status = .viewChange) (current : join.view = replica.view)
    (primary : replica.isPrimary cfg = true) (durable : replica.durableView = replica.view)
    (source : (given.heard (.joinView join) ∧ replica.syncing = false) ∨ join = replica.joinView cfg) :
    Moves cfg given replica (replica.recordJoinView cfg join) := by
  unfold recordJoinView
  simp only
  split_ifs with hrecordable hquorum
  · exact (Move.join hrecordable changing current primary durable source).moves
  · exact (Move.join hrecordable changing current primary durable source).moves.trans
      (tryInstallCanonicalView_moves changing primary durable (Nat.not_lt.mp hquorum))
  · exact moves_refl

theorem sendJoinView_moves : Moves cfg given replica (replica.sendJoinView cfg) := by
  unfold sendJoinView
  split_ifs with hquiet hprimary
  · exact moves_refl
  all_goals simp only [not_or, ne_eq, not_not] at hquiet
  · exact recordJoinView_moves hquiet.1 rfl hprimary hquiet.2 (.inr rfl)
  · have spoken : replica.Says cfg (.joinView (replica.joinView cfg)) := ⟨rfl, hquiet⟩
    exact (Move.send _ spoken).moves

/-! ## Announcing a view -/

section

omit [DecidableEq χ] [Checksums χ]

theorem buildView_cases (replica : Replica χ) (cfg : Config) (nonce : Nat) :
    ∃ headers, (replica.buildView cfg nonce).1 = { replica with canonicalHeaders := headers } := by
  unfold buildView collectViewSuffix
  simp only
  split_ifs
  · exact ⟨_, rfl⟩
  · exact ⟨_, rfl⟩

theorem broadcastView_punctual (punctual : replica.Punctual cfg) :
    (replica.broadcastView cfg).Punctual cfg := by
  obtain ⟨headers, h⟩ := replica.buildView_cases cfg 0
  show ((replica.buildView cfg 0).1.send none _).Punctual cfg
  rw [h]
  exact punctual

end

theorem broadcastView_moves (normal : replica.status = .normal) (primary : replica.isPrimary cfg = true)
    (durable : replica.durableView = replica.view) : Moves cfg given replica (replica.broadcastView cfg) :=
  (Move.announce none 0 normal primary durable).moves

theorem handleGetView_moves (author nonce : Nat) :
    Moves cfg given replica (replica.handleGetView cfg author nonce) := by
  unfold handleGetView
  split_ifs with hquiet
  · exact moves_refl
  · simp only [not_or, ne_eq, not_not] at hquiet
    exact (Move.announce (some author) nonce hquiet.2.2 hquiet.1 hquiet.2.1).moves

theorem handleJoinView_moves (heard : given.heard (.joinView join))
    (undisturbed : given.calm → replica.view < join.view → replica.syncing = false)
    (voted : join.author < cfg.activeCount → replica.view ≤ join.view → replica.syncing = false) :
    Moves cfg given replica (replica.handleJoinView cfg inputs join) := by
  unfold handleJoinView
  split_ifs with hhigher hlate hrefused
  · apply beginViewChange_moves
    intro hcalm hview hsyncing
    rw [undisturbed hcalm hview] at hsyncing
    cases hsyncing
  · exact broadcastView_moves hlate.1 hlate.2.2.1 hlate.2.2.2.1
  · exact moves_refl
  · simp only [not_or, ne_eq, not_not] at hrefused
    obtain ⟨hchanging, hcurrent, hprimary, hdurable, hactive⟩ := hrefused
    exact recordJoinView_moves hchanging hcurrent hprimary hdurable
      (.inl ⟨heard, voted (Nat.not_le.mp hactive) (Nat.le_of_eq hcurrent.symm)⟩)

/-! ## Receiving a view -/

/-- What the surroundings have to say about a `View` where it is taken: the frame was heard, and its
coming does not coincide with what they rule out. -/
structure HearsView (given : Surroundings χ) (cfg : Config) (replica : Replica χ) (message : ViewMessage χ) :
    Prop where
  heard : given.heard (.view message)
  settled : given.calm → replica.refusesView cfg message = false → replica.pendingView ≤ replica.view
  undrained : given.calm → replica.refusesView cfg message = false →
    replica.checkpointOp < message.checkpoint.prepareOp → replica.checkpointRepairDrain = false
  unreplying : given.unreplying → replica.refusesView cfg message = false →
    message.checkpoint.prepareOp ≤ replica.checkpointOp → replica.commitMin < message.commit →
    cfg.pipelineMax < message.head - replica.commitMin → ∀ entry ∈ replica.pipeline, entry.stage ≠ .execute

theorem adoptView_moves (hears : HearsView given cfg replica message)
    (taken : replica.refusesView cfg message = false) (idle : replica.stateSync.stage = .idle)
    (unreplayed : replica.stateSync.replayRunning = false)
    (waits : replica.stateSyncAwaitingOpen = true → replica.checkpointOp < message.checkpoint.prepareOp)
    (free : replica.viewIo = none ∧ replica.repairWrite = none ∧ replica.repairViewValid = false)
    (current : replica.view ≤ message.view ∧ replica.commitMax ≤ message.commit)
    (author : message.author = cfg.primary message.view) (accepted : replica.acceptsView cfg message = true)
    (tail : headerOp (replica.viewTail message.checkpoint message.headers.length) ≤ message.commit + 1)
    (proved : replica.validStateSyncView message.checkpoint message.head message.commit message.headers.length =
      true) : Moves cfg given replica (replica.adoptView cfg inputs message) := by
  have adopted : ∀ replica : Replica χ, Moves cfg given replica
      { replica with getViewNonce := 0, getViewLast := 0 } :=
    fun replica => (Move.quiet _ _ _ _ _ _ _ _ fun _ h => .inl h).moves
  unfold adoptView
  simp only
  split
  · rename_i hnewer
    refine ReflTransGen.trans ?_ (adopted _)
    unfold beginStateSync
    split_ifs with hbusy hmalformed
    · exact moves_refl
    · exact (Move.fail _).moves
    simp only [not_or, Bool.not_eq_true, Nat.not_le] at hbusy
    exact (Move.enterStateSync hears.heard idle hbusy.2.1 hbusy.2.2.1 hbusy.2.2.2 free
      (fun hcalm => ⟨hears.settled hcalm taken, hears.undrained hcalm taken hnewer⟩) current author accepted
      tail proved).moves
  rename_i hlevel
  have unsynced : replica.syncing = false := by
    refine syncing_eq_false.mpr ⟨idle, ?_, unreplayed⟩
    by_contra hwaits
    exact hlevel (waits (by simpa using hwaits))
  split
  · rename_i hbehind
    have source : replica.WindowSource given message.view message.commit :=
      .inl ⟨message, hears.heard, rfl, rfl, free.2.2, free.1, free.2.1, current.1, current.2, unsynced,
        fun h => hears.settled h taken, fun h => hears.unreplying h taken (Nat.not_lt.mp hlevel) hbehind.1 hbehind.2⟩
    obtain h | h | ⟨windowHead, hahead, hbounded, h⟩ :=
      replica.beginRepairWindow_cases cfg inputs message.view message.commit
    · rw [h]
      exact (Move.fail _).moves
    · rw [h]
    · rw [h]
      exact ((Move.openWindow hahead hbounded source).moves.trans
        requestRepairWindowHeaders_moves).trans (adopted _)
  split
  · exact moves_refl
  rename_i hvalid
  rw [not_not] at hvalid
  simp only [acceptsView, decide_eq_true_eq] at accepted
  obtain ⟨-, -, hshort, -, hheaders, -⟩ := accepted
  exact (Move.moves (Move.recordView _ hshort hvalid (.inl free.2.2)
    (.inl ⟨message, hears.heard, rfl, rfl, rfl, rfl, hheaders, unsynced,
      fun h => hears.settled h taken⟩)
    (List.nil_subset _))).trans (adopted _)

theorem handleView_moves (hears : HearsView given cfg replica message) (idle : replica.stateSync.stage = .idle)
    (unreplayed : replica.stateSync.replayRunning = false) :
    Moves cfg given replica (replica.handleView cfg inputs message) := by
  unfold handleView
  simp only
  split
  · exact moves_refl
  rename_i hrefused
  simp only [not_or, not_not, Nat.not_lt] at hrefused
  obtain ⟨hrefuses, hcheckpoint, hnewer, hcount, hshort, hdecoded⟩ := hrefused
  have htaken : replica.refusesView cfg message = false := (Bool.not_eq_true _).mp hrefuses
  simp only [refusesView, decide_eq_true_eq, not_or, Nat.not_lt, Bool.not_eq_true,
    Option.isSome_eq_false_iff, Option.isNone_iff_eq_none] at hrefuses
  obtain ⟨hauthor, hview, hfree, hwrite, hvalid, -, hcommit, -⟩ := hrefuses
  have hheaders : (replica.overwriteCanonicalHeaders message.headers).canonicalHeaders.take
      message.headers.length = message.headers := List.take_left
  have hwritten : Moves cfg given replica (replica.overwriteCanonicalHeaders message.headers) :=
    (Move.overwriteHeaders hshort (.inl hvalid) fun header h => .inl ⟨message, hears.heard, h⟩).moves
  apply hwritten.trans
  split
  · exact moves_refl
  rename_i hproof
  simp only [not_or, not_not] at hproof
  have hproved := hproof.1
  simp only [validStateSyncView, hheaders, decide_eq_true_eq] at hproved
  have hhears : HearsView given cfg (replica.overwriteCanonicalHeaders message.headers) message :=
    ⟨hears.heard, hears.settled, hears.undrained, hears.unreplying⟩
  refine adoptView_moves hhears htaken idle unreplayed ?_ ⟨hfree, hwrite, hvalid⟩ ⟨hview, hcommit⟩
    (not_not.mp hauthor) ?_ (Nat.not_lt.mp hproof.2.1) hproof.1
  · -- a checkpoint still to be opened is replaced by a newer one only
    intro hwaits
    exact Nat.lt_of_le_of_ne hnewer fun hsame => hproof.2.2 ⟨hwaits, hsame.symm⟩
  rw [acceptsView, decide_eq_true_eq]
  refine ⟨hcheckpoint, hcount, hshort, ?_, hheaders, hproved.1, hproved.2.1, hproved.2.2.2.2.2⟩
  simpa using hdecoded

/-! ## Completion of a persisted view -/

section

omit [DecidableEq χ]

/-- Acknowledging an entry touches its acknowledgements and the record of what was said. -/
theorem acknowledgeEntry_cases (replica : Replica χ) (cfg : Config) (offset : Nat) :
    ∃ pipeline sent, replica.acknowledgeEntry cfg offset = { replica with
        pipeline := pipeline
        durable := { replica.durable with sent := sent } } ∧
      pipeline.map PipelineEntry.unacknowledged = replica.pipeline.map PipelineEntry.unacknowledged := by
  have hmodify : ∀ {f : PipelineEntry χ → PipelineEntry χ},
      (∀ entry, (f entry).unacknowledged = entry.unacknowledged) →
      (replica.pipeline.modify offset f).map PipelineEntry.unacknowledged =
        replica.pipeline.map PipelineEntry.unacknowledged := fun h => map_unacknowledged_modify h _ offset
  unfold acknowledgeEntry
  split
  · exact ⟨_, _, rfl, rfl⟩
  split_ifs
  · refine ⟨_, _, rfl, hmodify fun entry => ?_⟩
    split_ifs <;> rfl
  · unfold sendPrepareOK
    split_ifs
    exact ⟨_, _, rfl, hmodify fun entry => rfl⟩
  · exact ⟨_, _, rfl, rfl⟩

theorem foldl_acknowledgeEntry_cases (cfg : Config) (offsets : List Nat) (replica : Replica χ) :
    ∃ pipeline sent,
      offsets.foldl (fun replica offset => replica.acknowledgeEntry cfg offset) replica = { replica with
        pipeline := pipeline
        durable := { replica.durable with sent := sent } } ∧
      pipeline.map PipelineEntry.unacknowledged = replica.pipeline.map PipelineEntry.unacknowledged := by
  induction offsets generalizing replica with
  | nil => exact ⟨_, _, rfl, rfl⟩
  | cons offset rest ih =>
    rw [List.foldl_cons]
    obtain ⟨pipeline, sent, h, hsame⟩ := replica.acknowledgeEntry_cases cfg offset
    obtain ⟨pipeline', sent', h', hsame'⟩ := ih (replica.acknowledgeEntry cfg offset)
    rw [h', h]
    exact ⟨_, _, rfl, by rw [hsame', h, hsame]⟩

end

/-- What follows once a view is durably installed. -/
theorem enterNormal_moves
    (installed : Move cfg given start (replica.installDurable cfg))
    (durable : replica.durableView = replica.view) (free : replica.viewIo = none)
    (committed : given.calm → replica.commitInFlight = false) :
    Moves cfg given start (replica.enterNormal cfg inputs) := by
  unfold enterNormal
  simp only
  generalize hacked : List.foldl _ _ _ = acked
  obtain ⟨pipeline, sent, h, hsame⟩ := foldl_acknowledgeEntry_cases cfg
    (List.range (replica.installDurable cfg).pipeline.length) (replica.installDurable cfg)
  have hmoved : Moves cfg given start acked := by
    rw [← hacked]
    exact installed.moves.trans (moves_foldl (fun _ => acknowledgeEntry_moves) _ _)
  rw [hacked] at h
  have normal : acked.status = .normal ∧ acked.durableView = acked.view := by
    rw [h]
    exact ⟨rfl, durable⟩
  have hfree : acked.viewIo = none := by
    rw [h]
    exact free
  have hcommitted : given.calm → acked.commitInFlight = false := by
    intro hcalm
    rw [h]
    exact (commitInFlight_of_unacknowledged hsame).trans (committed hcalm)
  have hresumed : Moves cfg given start (acked.resumePendingViewChange cfg inputs) :=
    hmoved.trans (resumePendingViewChange_moves hfree hcommitted)
  split
  · exact hresumed
  -- no view change is pending: announce the view and go on committing
  rename_i hsettled
  rw [resumePendingViewChange, if_neg hsettled] at hresumed ⊢
  apply hresumed.trans
  have punctual : given.punctual → ({ acked with pendingView := 0 } : Replica χ).Punctual cfg :=
    fun _ => punctual_of_low (Nat.zero_le _)
  have normal : ({ acked with pendingView := 0 } : Replica χ).status = .normal ∧
      ({ acked with pendingView := 0 } : Replica χ).durableView =
        ({ acked with pendingView := 0 } : Replica χ).view := normal
  generalize ({ acked with pendingView := 0 } : Replica χ) = resumed at punctual normal ⊢
  split_ifs with hprimary
  · exact (broadcastView_moves normal.1 hprimary normal.2).trans
      (advanceCommit_leads fun h => broadcastView_punctual (punctual h)).moves
  · exact (advanceCommit_leads punctual).moves

theorem handleViewPersistence_moves {handle : Nat} {result : Except ReplicaError Unit}
    (done : replica.completedIo handle = some (operation, result)) (owner : replica.viewIo = some handle)
    (attributed : Attributed given replica) :
    Moves cfg given replica ((replica.releaseIo handle).handleViewPersistence cfg inputs result) := by
  unfold handleViewPersistence
  cases result with
  | error err => exact (Move.viewFailed done owner err).moves
  | ok =>
    simp only
    split
    · rename_i hinstall
      refine enterNormal_moves (Move.viewInstalled done owner hinstall) rfl rfl fun hcalm => ?_
      exact attributed.persisting hcalm (by rw [owner]; exact Option.some_ne_none handle)
    rename_i hchange
    have hchange : replica.viewInstall = false := (Bool.not_eq_true _).mp hchange
    by_cases hhigher : replica.view < replica.pendingView
    · have hresumes := decide_eq_true hhigher
      refine Eq.mpr (congrArg _ (if_pos hresumes)) ?_
      refine Eq.mpr (congrArg _ (if_pos hresumes)) ?_
      exact Move.moves (Move.viewPersistedOnward inputs done owner hchange hhigher)
    · have hlow := hhigher ∘ of_decide_eq_true
      refine Eq.mpr (congrArg _ (if_neg hlow)) ?_
      refine (?_ : Moves cfg given replica _).trans sendJoinView_moves
      refine Eq.mpr (congrArg _ (if_neg hlow)) ?_
      exact Move.moves (Move.viewPersisted done owner hchange (Nat.not_lt.mp hhigher))

end Supervsr.Replica
