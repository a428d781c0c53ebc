import Supervsr.ReplicaMoveView

/-
# Supervsr.ReplicaMoveRound — repair, completions, timers and whole events as moves

The last of the handlers, and with them every event and the end of a round.
-/

namespace Supervsr.Replica

open Relation (ReflTransGen)

variable {χ : Type} [DecidableEq χ] [Checksums χ] {cfg : Config} {given : Surroundings χ}

variable {replica next : Replica χ} {inputs : Inputs χ} {entry : PipelineEntry χ}

variable {pipeline : List (PipelineEntry χ)} {message : Message χ}

/-! ## Serving and asking -/

theorem handleGetHeaders_moves (author start «end» : Nat) :
    Moves cfg given replica (replica.handleGetHeaders cfg author start «end») := by
  unfold handleGetHeaders
  simp only
  split_ifs with hempty
  · exact moves_refl
  refine Move.moves (Move.send _ ⟨rfl, ?_, ?_, ?_⟩)
  · simpa using hempty
  · exact Nat.le_trans (List.length_take_le _ _) (Nat.min_le_left _ _)
  intro header hheader
  obtain ⟨op, -, hop⟩ := List.mem_filterMap.mp (List.mem_of_mem_take hheader)
  obtain ⟨hstored, hordinary⟩ := Option.filter_eq_some_iff.mp hop
  exact ⟨by simpa using hordinary, op, hstored⟩

theorem handleGetPrepare_moves (author view op : Nat) (checksum : χ) :
    Moves cfg given replica (replica.handleGetPrepare cfg author view op checksum) := by
  unfold handleGetPrepare
  split
  · rename_i entry hentry
    split_ifs
    · exact Move.moves (Move.send _ (.inl ⟨entry, List.mem_of_find?_eq_some hentry, rfl⟩))
    · exact moves_refl
  · split
    · exact moves_refl
    rename_i header _
    split_ifs with hread
    · have hop : header.op = op := by
        have := hread.2
        unfold WAL.readPrepare at this
        split at this
        · split_ifs at this with hop
          cases this
          exact hop
        · cases this
      exact Move.moves (Move.send _ (.inr (hop ▸ hread.2)))
    · exact moves_refl

theorem sendGetPrepare_moves : Moves cfg given replica (replica.sendGetPrepare cfg inputs) := by
  unfold sendGetPrepare
  split
  · exact Move.moves (Move.send _ ⟨rfl, rfl⟩)
  · exact moves_refl

theorem sendGetHeaders_moves (missing : Nat) :
    Moves cfg given replica (replica.sendGetHeaders cfg inputs missing) := by
  unfold sendGetHeaders
  split
  · exact moves_refl
  · exact Move.moves (Move.send _ rfl)

theorem handleHeaders_moves {author : Nat} {headers : List (Header χ)}
    (heard : given.heard (.headers author headers)) :
    Moves cfg given replica (replica.handleHeaders cfg inputs author headers) := by
  unfold handleHeaders
  split
  · exact moves_refl
  split
  · rename_i hwindow
    exact (Move.windowHeaders hwindow heard).moves
  split
  · exact moves_refl
  rename_i candidate hcandidate
  have hsafe := List.find?_some hcandidate
  refine (Move.wantHeader ?_).moves.trans sendGetPrepare_moves
  intro wanted hwanted
  cases hwanted
  exact .inl ⟨hsafe, author, headers, heard,
    List.mem_reverse.mp (List.mem_of_find?_eq_some hcandidate)⟩

/-! ## Installing a view -/

/-- No view change is pending past the view that is being installed. -/
def Settled (replica : Replica χ) : Prop :=
  replica.repairViewValid = true →
    replica.pendingView ≤ replica.view ∧ replica.pendingView ≤ replica.repairView

section

omit [DecidableEq χ]

/-- What rebuilding the pipeline leaves as it was, and the entries it makes. -/
theorem rebuildPipeline_eq_ok (quiet : ∀ entry ∈ replica.pipeline, entry.io = none ∧ entry.stage = .idle)
    (rebuilt : replica.rebuildPipeline cfg = .ok next) :
    next.repairViewValid = replica.repairViewValid ∧ next.repairViewRebuilt = true ∧
      next.view = replica.repairView ∧ next.pendingView = replica.pendingView ∧
      ∀ entry ∈ next.pipeline, entry.io = none ∧ entry.stage = .idle := by
  obtain h | ⟨_, entries, _, _, _, -, -, hentries, -, h | ⟨-, h⟩⟩ := replica.rebuildPipeline_cases cfg
  · rw [h] at rebuilt
    cases rebuilt
  · rw [h] at rebuilt
    cases rebuilt
  rw [h] at rebuilt
  cases rebuilt
  refine ⟨rfl, rfl, rfl, rfl, fun entry hentry => ?_⟩
  obtain ⟨entry, hplaced, rfl⟩ := List.mem_map.mp hentry
  obtain hkept | hpushed := List.mem_append.mp hplaced
  · exact quiet entry ((replica.pipelineThrough_initial _).subset hkept)
  · exact ⟨(hentries entry hpushed).1, (hentries entry hpushed).2.1⟩

/-- An early return of `finishRecoveringView` leaves the views as they are. -/
theorem rebuildPipeline_eq_error (rebuilt : replica.rebuildPipeline cfg = .error next) :
    next.view = replica.view ∧ next.pendingView = replica.pendingView := by
  obtain h | ⟨_, _, _, _, _, -, -, -, -, h | ⟨-, h⟩⟩ := replica.rebuildPipeline_cases cfg
  · rw [h] at rebuilt
    cases rebuilt
    exact ⟨rfl, rfl⟩
  · rw [h] at rebuilt
    cases rebuilt
    exact ⟨rfl, rfl⟩
  · rw [h] at rebuilt
    cases rebuilt

end

theorem installRebuilt_leads (installing : replica.repairViewValid = true)
    (rebuilt : replica.repairViewRebuilt = true)
    (quiet : ∀ entry ∈ replica.pipeline, entry.io = none ∧ entry.stage = .idle)
    (low : given.punctual → replica.pendingView ≤ replica.view) :
    Leads cfg given replica (replica.installRebuilt cfg inputs) := by
  unfold installRebuilt
  split
  · simp only
    have hmarked : Moves cfg given replica { replica with
        pipeline := replica.pipeline.map fun entry =>
          if entry.header.op ≤ replica.repairViewCommit then { entry with quorum := true } else entry } := by
      refine (Move.acks ?_).moves
      rw [List.map_map]
      apply List.map_congr_left
      intro entry _
      rw [Function.comp_apply]
      split_ifs
      · rfl
      · rfl
    exact Leads.head hmarked (advanceCommit_leads fun h => punctual_of_low (low h))
  · rename_i hcommitted
    split
    · exact ⟨(Move.fail _).moves, fun h => punctual_of_low (low h)⟩
    rename_i hpersisted
    refine ⟨(Move.persistInstall installing rebuilt (Nat.not_lt.mp hcommitted) quiet hpersisted).moves,
      fun h => punctual_of_low ?_⟩
    obtain ⟨-, -, -, rfl⟩ := persistView_eq_ok hpersisted
    exact low h

/-- The state in which `continueRecoveringView` goes on. -/
structure Quiescent (replica : Replica χ) : Prop where
  installing : replica.repairViewValid = true
  written : replica.repairWrite = none
  persisted : replica.viewIo = none
  idle : ∀ entry ∈ replica.pipeline, entry.io = none ∧ entry.stage = .idle

theorem finishRecoveringView_leads (quiescent : replica.Quiescent) (named : replica.repairViewWindow = false)
    (settled : given.punctual → replica.Settled) :
    Leads cfg given replica (replica.finishRecoveringView cfg inputs) := by
  unfold finishRecoveringView
  split
  · rename_i hrebuilt
    exact installRebuilt_leads quiescent.installing hrebuilt quiescent.idle
      fun h => (settled h quiescent.installing).1
  rename_i hunbuilt
  rw [Bool.not_eq_true] at hunbuilt
  have hrebuild : ∀ {next : Replica χ}, (replica.rebuildPipeline cfg = .ok next ∨
      replica.rebuildPipeline cfg = .error next) → Moves cfg given replica next :=
    fun h => (Move.rebuild quiescent.installing named hunbuilt quiescent.written quiescent.persisted
      quiescent.idle h).moves
  split
  · rename_i next h
    obtain ⟨hview, hpending⟩ := rebuildPipeline_eq_error h
    refine ⟨hrebuild (.inr h), fun hpunctual => punctual_of_low ?_⟩
    rw [hview, hpending]
    exact (settled hpunctual quiescent.installing).1
  · rename_i next h
    obtain ⟨hvalid, hrebuilt, hview, hpending, hquiet⟩ := rebuildPipeline_eq_ok quiescent.idle h
    refine Leads.head (hrebuild (.inl h))
      (installRebuilt_leads (hvalid.trans quiescent.installing) hrebuilt hquiet ?_)
    intro hpunctual
    rw [hview, hpending]
    exact (settled hpunctual quiescent.installing).2

omit [DecidableEq χ] [Checksums χ] in
theorem mem_of_mem_repairSuffix {pair : Option (Header χ) × Option (Header χ)} (mem : pair ∈ replica.repairSuffix) :
    pair.1 ∈ replica.canonicalHeaders.take replica.repairViewCount ∧
      replica.repairViewAncestor < headerOp pair.1 := by
  obtain ⟨mem, above⟩ := List.mem_filter.mp mem
  rw [List.mem_reverse, List.zip, List.take_zipWith] at mem
  exact ⟨(List.of_mem_zip mem).1, by simpa using above⟩

omit [DecidableEq χ] in
theorem sendGetPrepare_punctual (punctual : replica.Punctual cfg) :
    (replica.sendGetPrepare cfg inputs).Punctual cfg := by
  unfold sendGetPrepare
  split
  · exact punctual
  · exact punctual

theorem continueRecoveringView_leads (installing : replica.repairViewValid = true)
    (settled : given.punctual → replica.Settled) :
    Leads cfg given replica (replica.continueRecoveringView cfg inputs) := by
  have punctual : given.punctual → replica.Punctual cfg :=
    fun h => punctual_of_low (settled h installing).1
  unfold continueRecoveringView
  split
  · exact ⟨moves_refl, punctual⟩
  rename_i hbusy
  simp only [not_or, Bool.not_eq_true, Option.isSome_eq_false_iff, Option.isNone_iff_eq_none,
    List.any_eq_false, decide_eq_true_eq, ne_eq, not_not] at hbusy
  have quiescent : replica.Quiescent := ⟨installing, hbusy.1, hbusy.2.1, hbusy.2.2⟩
  split
  · exact ⟨requestRepairWindowHeaders_moves,
      fun h => requestRepairWindowHeaders_punctual (punctual h)⟩
  rename_i hnamed
  rw [Bool.not_eq_true] at hnamed
  split
  · exact finishRecoveringView_leads quiescent hnamed settled
  split
  · rename_i header _ hfound
    obtain ⟨hmem, habove⟩ := mem_of_mem_repairSuffix (List.mem_of_find?_eq_some hfound)
    refine ⟨(Move.wantHeader ?_).moves.trans sendGetPrepare_moves,
      fun h => sendGetPrepare_punctual (punctual h)⟩
    intro candidate hcandidate
    cases hcandidate
    exact .inr ⟨installing, hmem, habove⟩
  · exact finishRecoveringView_leads quiescent hnamed settled

section

omit [DecidableEq χ] [Checksums χ]

theorem sendGetView_settled (settled : replica.Settled) : (replica.sendGetView cfg inputs).Settled := by
  unfold sendGetView
  simp only
  split_ifs <;> exact settled

theorem continueReplyRepair_settled (settled : replica.Settled) : (replica.continueReplyRepair inputs).Settled := by
  unfold continueReplyRepair
  simp only
  split_ifs <;> exact settled

end

theorem handleRepairTimeout_moves (settled : given.punctual → replica.Settled) :
    Moves cfg given replica (replica.handleRepairTimeout cfg inputs) := by
  unfold handleRepairTimeout
  simp only
  generalize hasked : (if replica.checkpointOp < replica.stateSync.requestedCheckpoint then
    replica.sendGetView cfg inputs else replica) = asked
  have hmoved : Moves cfg given replica asked := by
    rw [← hasked]
    split_ifs
    · exact sendGetView_moves
    · exact moves_refl
  have hsettled : given.punctual → asked.Settled := by
    rw [← hasked]
    split_ifs
    · exact fun h => sendGetView_settled (settled h)
    · exact settled
  apply hmoved.trans
  split
  · exact moves_refl
  generalize hreplied : (if asked.stateSync.repliesPending = true then asked.continueReplyRepair inputs
    else asked) = replied
  have hmoved : Moves cfg given asked replied := by
    rw [← hreplied]
    split_ifs
    · exact continueReplyRepair_moves
    · exact moves_refl
  have hsettled : given.punctual → replied.Settled := by
    rw [← hreplied]
    split_ifs
    · exact fun h => continueReplyRepair_settled (hsettled h)
    · exact hsettled
  apply hmoved.trans
  split
  · exact moves_refl
  split
  · rename_i hinstalling
    exact (continueRecoveringView_leads hinstalling hsettled).moves
  split
  · exact sendGetView_moves
  split
  · exact moves_refl
  split
  · exact sendGetPrepare_moves
  split
  · exact continueReplyRepair_moves
  · split
    · exact moves_refl
    · exact (sendGetHeaders_moves _).tail (Move.quiet _ _ _ _ _ _ _ _ fun _ h => .inl h)

/-! ## Frames -/

theorem handleHigherViewEvidence_moves (message : Message χ) (idle : replica.stateSync.stage = .idle)
    (unreplayed : replica.stateSync.replayRunning = false) :
    Moves cfg given replica (replica.handleHigherViewEvidence cfg inputs message).1 := by
  cases message with
  | prepare header => exact prepareEvidence_moves header.view _
  | commit view => exact prepareEvidence_moves view false
  | exitView view author => exact viewEvidence_moves view author false idle unreplayed
  | joinView join => exact viewEvidence_moves join.view join.author false idle unreplayed
  | ping view author | pong view author => exact viewEvidence_moves view author true idle unreplayed
  | _ => exact moves_refl

/-- The view a frame asks a replica to change to, and the member that asks. -/
def raises : Message χ → Option (Nat × Nat)
  | .exitView view author => some (view, author)
  | .joinView join => some (join.view, join.author)
  | _ => none

/-- What the surroundings have to say about a frame where it is taken. -/
structure Hears (given : Surroundings χ) (cfg : Config) (replica : Replica χ) (message : Message χ) :
    Prop where
  heard : given.heard message
  /-- a member without a vote does not ask for a view change while the checkpoint waits to be opened -/
  standby : given.calm → replica.stateSyncAwaitingOpen = true → ∀ raised ∈ raises message,
    cfg.activeCount ≤ raised.2 → raised.1 ≤ replica.view
  view : ∀ sent, message = .view sent → HearsView given cfg replica sent

theorem dispatchMessage_moves (heard : given.heard message)
    (undisturbed : given.calm → ∀ raised ∈ raises message, replica.view < raised.1 → replica.syncing = false)
    (voted : ∀ raised ∈ raises message, raised.2 < cfg.activeCount → replica.view ≤ raised.1 → replica.syncing =
      false)
    (current : ∀ sent, message = .view sent → HearsView given cfg replica sent ∧ replica.stateSync.stage = .idle ∧
      replica.stateSync.replayRunning = false) :
    Moves cfg given replica (replica.dispatchMessage cfg inputs message) := by
  cases message with
  | request request => exact handleRequest_moves inputs.sample heard
  | prepare header =>
    unfold dispatchMessage
    simp only
    split
    · rename_i hrepaired
      exact (Move.repairAppend heard hrepaired).moves
    · exact handlePrepare_moves heard
  | prepareOK ack => exact handlePrepareOK_moves ack
  | commit view author checksum checkpointID checkpointOp commit monotonic =>
    exact handleCommit_moves heard
  | exitView view author =>
    exact handleExitView_moves view author fun h => undisturbed h _ rfl
  | joinView join =>
    exact handleJoinView_moves heard (fun h => undisturbed h _ rfl) (voted _ rfl)
  | view message =>
    obtain ⟨hears, idle, unreplayed⟩ := current message rfl
    exact handleView_moves hears idle unreplayed
  | getView view author nonce => exact handleGetView_moves author nonce
  | headers author headers => exact handleHeaders_moves heard
  | getHeaders author start «end» => exact handleGetHeaders_moves author start «end»
  | getPrepare author view op checksum => exact handleGetPrepare_moves author view op checksum
  | ping view author checkpointOp => exact Move.moves (Move.send _ ⟨rfl, rfl⟩)
  | pong => exact moves_refl

/-- A frame that asks for a view change is looked at further only where it has changed nothing yet. -/
theorem handleHigherViewEvidence_kept {raised : Nat × Nat} (raises : raises message = some raised)
    (kept : replica.handleHigherViewEvidence cfg inputs message = (next, false)) :
    next = replica ∧ (replica.stateSyncAwaitingOpen = true →
      raised.1 < replica.view ∨ cfg.activeCount ≤ raised.2) := by
  cases message with
  | exitView | joinView =>
    cases raises
    exact viewEvidence_eq_false kept
  | _ => cases raises

theorem handleMessage_moves (hears : validateSemantics cfg message = true → Hears given cfg replica message) :
    Moves cfg given replica (replica.handleMessage cfg inputs message) := by
  unfold handleMessage
  split
  · exact moves_refl
  rename_i hready
  simp only [not_or, ne_eq, not_not, Bool.not_eq_true] at hready
  obtain ⟨idle, unreplayed, hvalid⟩ := hready
  replace hears := hears ((Bool.not_eq_false _).mp hvalid)
  have hevidence : Moves cfg given replica (replica.handleHigherViewEvidence cfg inputs message).1 :=
    handleHigherViewEvidence_moves message idle unreplayed
  split
  · rename_i h
    rwa [h] at hevidence
  rename_i next h
  rw [h] at hevidence
  -- a replica that waits for its checkpoint to be opened gets no further with a vote for a view change
  have hkept : ∀ raised ∈ raises message, next = replica ∧ (next.syncing = true →
      next.stateSyncAwaitingOpen = true ∧ (raised.1 < next.view ∨ cfg.activeCount ≤ raised.2)) := by
    intro raised hraised
    obtain ⟨rfl, hstandby⟩ := handleHigherViewEvidence_kept hraised h
    refine ⟨rfl, fun hsyncing => ?_⟩
    by_cases hwaits : next.stateSyncAwaitingOpen = true
    · exact ⟨hwaits, hstandby hwaits⟩
    · rw [syncing_eq_false.mpr ⟨idle, by simpa using hwaits, unreplayed⟩] at hsyncing
      cases hsyncing
  refine hevidence.trans (dispatchMessage_moves hears.heard ?_ ?_ ?_)
  · intro hcalm raised hraised hhigher
    obtain ⟨rfl, hstandby⟩ := hkept raised hraised
    rw [← Bool.not_eq_true]
    intro hsyncing
    obtain ⟨hwaits, hlower | hauthor⟩ := hstandby hsyncing
    · exact absurd hhigher (Nat.lt_asymm hlower)
    · exact absurd (hears.standby hcalm hwaits raised hraised hauthor) (Nat.not_le.mpr hhigher)
  · intro raised hraised hactive hcurrent
    obtain ⟨rfl, hstandby⟩ := hkept raised hraised
    rw [← Bool.not_eq_true]
    intro hsyncing
    obtain ⟨-, hlower | hauthor⟩ := hstandby hsyncing
    · exact absurd hcurrent (Nat.not_le.mpr hlower)
    · exact absurd hactive (Nat.not_lt.mpr hauthor)
  · rintro sent rfl
    cases h
    exact ⟨hears.view sent rfl, idle, unreplayed⟩

/-! ## Completions -/

theorem failOn_moves {start : Replica χ} {result : Except ReplicaError Unit}
    (reached : Move cfg given start replica) : Moves cfg given start (replica.failOn result) := by
  unfold failOn
  split
  · exact reached.moves
  · exact reached.moves.tail (Move.fail _)

section

omit [DecidableEq χ] [Checksums χ]

theorem getElem?_of_findIdx? {p : PipelineEntry χ → Bool} {offset : Nat}
    (found : pipeline.findIdx? p = some offset) : ∃ entry, pipeline[offset]? = some entry ∧ p entry = true := by
  obtain ⟨hlt, hp, -⟩ := List.findIdx?_eq_some_iff_getElem.mp found
  exact ⟨pipeline[offset], List.getElem?_eq_getElem hlt, hp⟩

theorem not_owned_of_findIdx? {handle : Nat}
    (found : pipeline.findIdx? (fun entry => decide (entry.io = some handle)) = none) :
    ∀ entry ∈ pipeline, entry.io ≠ some handle := by
  intro entry hentry
  simpa using List.findIdx?_eq_none_iff.mp found entry hentry

theorem eq_cons_of_getElem?_zero (first : pipeline[0]? = some entry) : ∃ rest, pipeline = entry :: rest := by
  cases pipeline with
  | nil => cases first
  | cons other rest =>
    cases first
    exact ⟨rest, rfl⟩

end

section Completion

variable {handle : Nat} {operation : IOOperation χ}
  {result : Except ReplicaError Unit} (done : replica.completedIo handle = some (operation, result))

include done

theorem handleStateSyncDrainIO_moves (stage : replica.stateSync.stage = .cancelingGrid) :
    Moves cfg given replica ((replica.releaseIo handle).handleStateSyncDrainIo handle result) := by
  unfold handleStateSyncDrainIo
  split
  · rename_i hview
    exact failOn_moves (Move.clearView done hview stage)
  split
  · rename_i hrepair
    obtain ⟨write, hwrite, hhandle⟩ := (Option.any_eq_true _ _).mp hrepair
    exact failOn_moves (Move.clearRepair done hwrite (by simpa using hhandle))
  rename_i hview hrepair
  split
  · rename_i hentry
    refine Move.moves (Move.drop done ⟨hview, ?_, not_owned_of_findIdx? hentry⟩ (.inr stage))
    intro write hwrite hhandle
    exact hrepair ((Option.any_eq_true _ _).mpr ⟨write, hwrite, by simpa using hhandle⟩)
  · rename_i offset hentry
    obtain ⟨entry, hplace, howner⟩ := getElem?_of_findIdx? hentry
    exact failOn_moves (Move.clearEntry done hplace (by simpa using howner))

theorem completeEntryIO_moves {offset : Nat} (place : replica.pipeline[offset]? = some entry)
    (owner : entry.io = some handle) (attributed : Attributed given replica)
    (punctual : given.punctual → replica.Punctual cfg) (unsynced : replica.stateSync.stage ≠ .cancelingGrid) :
    Moves cfg given replica ((replica.releaseIo handle).completeEntryIo cfg inputs offset entry.header
      operation result) := by
  have hcleared : Move cfg given replica _ := Move.clearEntry done place owner
  unfold completeEntryIo
  simp only
  cases result with
  | error err => exact hcleared.moves.tail (Move.fail err)
  | ok =>
    simp only
    cases operation with
    | walAppend header reusableThrough =>
      exact (Move.appended done place owner).moves.trans (acknowledgeEntry_moves offset)
    | replyWrite =>
      obtain ⟨rfl, hexecuting⟩ := attributed.reply done place owner
      obtain ⟨rest, first⟩ := eq_cons_of_getElem?_zero place
      have hfirst : ((replica.releaseIo handle).modifyEntry 0
          fun entry => { entry with io := none }).pipeline = { entry with io := none } :: rest := by
        show replica.pipeline.modify 0 _ = _
        rw [first]
        rfl
      refine Leads.moves (continueCommitMaintenance_leads (advanceCommitRounds_leads _) hfirst rfl hexecuting
        (fun stage => Move.replyWritten done first owner hexecuting) ?_ ?_)
      · intro hpunctual hhigher other hother
        change other ∈ ((replica.releaseIo handle).modifyEntry 0 _).pipeline.head? at hother
        rw [hfirst] at hother
        cases hother
        exact punctual hpunctual hhigher entry (by rw [first]; rfl)
      · intro hcalm _
        obtain ⟨hidle, -, hreplay⟩ := syncing_eq_false.mp (attributed.unsynced hcalm done place owner unsynced)
        show replica.drainsCompletions = false
        simp [drainsCompletions, hidle, hreplay]
    | superblockPersist next =>
      obtain rfl := attributed.checkpoint done place owner
      obtain ⟨rest, first⟩ := eq_cons_of_getElem?_zero place
      refine hcleared.moves.trans (finishCheckpointPersistence_moves fun hcalm =>
        ⟨attributed.unsynced hcalm done place owner unsynced, fun other hother => ?_⟩)
      change other ∈ (replica.pipeline.modify 0 _).head? at hother
      rw [first] at hother
      cases hother
      rfl
    | sync | resize => exact hcleared.moves.tail (Move.fail _)

theorem handleIOCompletion_moves (attributed : Attributed given replica)
    (punctual : given.punctual → replica.Punctual cfg) (unsynced : replica.stateSync.stage ≠ .cancelingGrid) :
    Moves cfg given replica
      ((replica.releaseIo handle).handleIOCompletion cfg inputs handle operation result) := by
  unfold handleIOCompletion
  split
  · rename_i hsync
    unfold handleStateSyncPersistence
    cases result with
    | error err => exact (Move.clearSync done hsync).moves.tail (Move.fail err)
    | ok => exact (Move.syncPersisted done hsync).moves
  rename_i hsync
  split
  · rename_i hview
    exact handleViewPersistence_moves done hview attributed
  rename_i hview
  split
  · rename_i write hwrite
    obtain ⟨howner, hhandle⟩ := Option.filter_eq_some_iff.mp hwrite
    have hhandle : write.handle = handle := by simpa using hhandle
    unfold finishRepairWrite
    cases result with
    | error err => exact (Move.clearRepair done howner hhandle).moves.tail (Move.fail err)
    | ok => exact (Move.repairWritten done howner hhandle).moves
  rename_i hrepair
  split
  · rename_i hentry
    refine Move.moves (Move.drop done ⟨hview, ?_, not_owned_of_findIdx? hentry⟩ (.inl hsync))
    intro write hwrite hhandle
    exact Option.filter_eq_none_iff.mp hrepair write hwrite (by simpa using hhandle)
  · rename_i offset hentry
    obtain ⟨entry, hplace, howner⟩ := getElem?_of_findIdx? hentry
    have hplace' : (replica.releaseIo handle).pipeline[offset]? = some entry := hplace
    rw [hplace']
    exact completeEntryIO_moves done hplace (by simpa using howner) attributed punctual unsynced

end Completion

theorem complete_moves (handle : Nat) (attributed : Attributed given replica)
    (punctual : given.punctual → replica.Punctual cfg) :
    Moves cfg given replica (replica.complete cfg inputs handle) := by
  unfold complete
  split
  · exact moves_refl
  rename_i operation result done
  simp only
  split
  · rename_i hstage
    exact handleStateSyncDrainIO_moves done hstage
  · rename_i hstage
    exact handleIOCompletion_moves done attributed punctual hstage

theorem handleEntryCompletion_moves (generation : Nat) (kind : EntryCompletion)
    (punctual : given.punctual → replica.Punctual cfg) :
    Moves cfg given replica (replica.handleEntryCompletion cfg inputs generation kind) := by
  unfold handleEntryCompletion
  split
  · exact moves_refl
  rename_i hundrained
  rw [Bool.not_eq_true] at hundrained
  split
  · exact moves_refl
  rename_i entry rest first
  split
  · exact moves_refl
  split
  · rename_i hstage
    exact (Move.progress first (by tauto) (.inl ⟨hstage, rfl⟩) (by tauto)).moves
  · rename_i hstage
    exact Leads.moves (afterCompact_leads (advanceCommitRounds_leads _) first rfl (.inr hstage) punctual
      fun _ _ => hundrained)
  · rename_i hstage
    exact Leads.moves
      (applyCheckpoint_leads (advanceCommitRounds_leads _) first hstage punctual fun _ _ => hundrained)
  · exact moves_refl

/-! ## Timers -/

theorem handlePrepareTimeout_moves : Moves cfg given replica (replica.handlePrepareTimeout cfg) := by
  unfold handlePrepareTimeout
  split
  · exact moves_refl
  -- the pipeline does not change on the way: every frame sent is one it holds
  refine (moves_foldl_of (fun other => other.pipeline = replica.pipeline) _ ?_ rfl).1
  intro sender entry hentry hsame
  split_ifs
  · exact ⟨moves_refl, hsame⟩
  refine moves_foldl_of (fun other => other.pipeline = replica.pipeline) _ ?_ hsame
  intro sender member _ hsame
  split_ifs
  · exact ⟨moves_refl, hsame⟩
  · exact ⟨Move.moves (Move.send _ (.inl ⟨entry, hsame ▸ hentry, rfl⟩)), hsame⟩

theorem sendCommit_moves (normal : replica.status = .normal) (primary : replica.isPrimary cfg = true) :
    Moves cfg given replica (replica.sendCommit cfg inputs) := by
  unfold sendCommit
  split
  · exact (Move.fail _).moves
  · rename_i header hheader
    exact Move.moves (Move.send _ ⟨normal, primary, rfl, rfl, ⟨header, hheader, rfl⟩, rfl, rfl, rfl,
      Nat.lt_of_lt_of_le Nat.one_pos (Nat.le_max_left _ _)⟩)

theorem sendExitView_moves : Moves cfg given replica (replica.sendExitView cfg inputs) :=
  (handleExitView_moves _ _ fun _ h => absurd h (Nat.lt_irrefl _)).tail (Move.send _ rfl)

theorem handleJoinTimeout_moves : Moves cfg given replica (replica.handleJoinTimeout cfg inputs) := by
  unfold handleJoinTimeout
  split_ifs with hquiet
  · exact (Move.quiet _ _ _ _ _ _ _ _ fun _ h => .inl h).moves
  · exact sendJoinView_moves.tail (Move.quiet _ _ _ _ _ _ _ _ fun _ h => .inl h)
  · exact (Move.fail _).moves
  simp only [not_or, ne_eq, not_not] at hquiet
  refine (Move.quiet _ _ _ _ _ _ _ _ fun _ h => .inl h).moves.trans (beginViewChange_moves fun _ _ _ => ?_)
  show replica.status ≠ .recovering
  rw [hquiet.1]
  decide

theorem handlePulseTimeout_moves : Moves cfg given replica (replica.handlePulseTimeout cfg inputs) := by
  unfold handlePulseTimeout
  split_ifs with hquiet
  · exact moves_refl
  · exact moves_refl
  simp only [not_or, ne_eq, not_not] at hquiet
  cases hsent : replica.broadcastPrepare cfg inputs (replica.pulsePrepare cfg inputs.sample.wall) with
  | none => exact moves_refl
  | some next =>
    exact broadcastPrepare_moves hquiet.1 hquiet.2.2.1 rfl hquiet.2.1 (.inr ⟨inputs.sample.wall, rfl⟩) hsent

theorem handleTimer_moves (timer : Timer) (settled : given.punctual → replica.Settled) :
    Moves cfg given replica (replica.handleTimer cfg inputs timer) := by
  cases timer with
  | ping => exact Move.moves (Move.send _ ⟨rfl, rfl, rfl⟩)
  | prepare => exact handlePrepareTimeout_moves
  | abdication =>
    show Moves cfg given replica (replica.handleAbdicationTimeout cfg inputs)
    unfold handleAbdicationTimeout
    split_ifs
    · exact sendExitView_moves
    · exact moves_refl
  | commit =>
    show Moves cfg given replica (if replica.status = .normal ∧ replica.isPrimary cfg then
      replica.sendCommit cfg inputs else replica)
    split_ifs with hspeaks
    · exact sendCommit_moves hspeaks.1 hspeaks.2
    · exact moves_refl
  | exit =>
    show Moves cfg given replica (replica.handleExitTimeout cfg inputs)
    unfold handleExitTimeout
    split_ifs
    · exact sendExitView_moves
    · exact moves_refl
  | join => exact handleJoinTimeout_moves
  | pulse => exact handlePulseTimeout_moves
  | repair => exact handleRepairTimeout_moves settled

/-! ## Rounds and events -/

/-- What a step needs of the state it starts from where view changes are not to keep a checkpoint from
being taken. -/
structure Timely (cfg : Config) (replica : Replica χ) : Prop where
  punctual : replica.Punctual cfg
  settled : replica.Settled

theorem resumeRound_moves : Moves cfg given replica (replica.resumeRound cfg inputs) := by
  unfold resumeRound
  split_ifs with hpending
  · obtain ⟨-, -, hfree, hcommitted⟩ := hpending
    exact resumePendingViewChange_moves (Option.isNone_iff_eq_none.mp hfree)
      fun _ => (Bool.not_eq_true _).mp hcommitted
  · exact moves_refl

omit [DecidableEq χ] in
theorem resumeRound_timely (timely : Timely cfg replica) : Timely cfg (replica.resumeRound cfg inputs) := by
  unfold resumeRound
  split_ifs with hpending
  · have hnone : (replica.resumePendingViewChange cfg inputs).pendingView = 0 := by
      rw [resumePendingViewChange, if_pos (by simpa [resumesPendingView] using hpending.2.1)]
      exact beginViewChangeNow_pendingView _
    refine ⟨punctual_of_low (by rw [hnone]; exact Nat.zero_le _), fun _ => ?_⟩
    rw [hnone]
    exact ⟨Nat.zero_le _, Nat.zero_le _⟩
  · exact timely

theorem acknowledgeDurablePrepares_leads (punctual : given.punctual → replica.Punctual cfg) :
    Leads cfg given replica (replica.acknowledgeDurablePrepares cfg) := by
  refine ⟨acknowledgeDurablePrepares_moves, fun hpunctual => ?_⟩
  unfold acknowledgeDurablePrepares
  split_ifs
  · exact punctual hpunctual
  refine (moves_foldl_of (fun other => other.Punctual cfg) _ ?_ (punctual hpunctual) :
    Moves cfg given _ _ ∧ _).2
  intro other offset _ hother
  split
  · exact ⟨moves_refl, hother⟩
  split_ifs
  · exact ⟨moves_refl, hother⟩
  refine ⟨acknowledgeEntry_moves offset, ?_⟩
  obtain ⟨pipeline, _, h, hsame⟩ := other.acknowledgeEntry_cases cfg offset
  rw [h]
  intro hhigher entry hentry
  -- the first entry keeps its header and its stage
  have hfirst := congrArg List.head? hsame
  rw [List.head?_map, List.head?_map, show pipeline.head? = some entry from hentry] at hfirst
  obtain ⟨first, hmem, hheader⟩ := Option.map_eq_some_iff.mp hfirst.symm
  have hstage : first.unacknowledged.stage = entry.unacknowledged.stage :=
    congrArg PipelineEntry.stage hheader
  have hheader : first.unacknowledged.header = entry.unacknowledged.header :=
    congrArg PipelineEntry.header hheader
  exact hheader ▸ hstage ▸ hother hhigher first hmem

theorem installRound_leads (timely : given.punctual → Timely cfg replica) :
    Leads cfg given replica (replica.installRound cfg inputs) := by
  have punctual : given.punctual → replica.Punctual cfg := fun h => (timely h).punctual
  unfold installRound
  split
  · simp only
    split
    · rename_i hinstalling
      have hinstalled : Leads cfg given replica (replica.continueRecoveringView cfg inputs) :=
        continueRecoveringView_leads hinstalling fun h => (timely h).settled
      exact Leads.head hinstalled.moves (acknowledgeDurablePrepares_leads hinstalled.punctual)
    · exact acknowledgeDurablePrepares_leads punctual
  · exact ⟨moves_refl, punctual⟩

theorem endRound_moves (timely : given.punctual → Timely cfg replica) :
    Moves cfg given replica (replica.endRound cfg inputs) := by
  have hinstalled : Leads cfg given _ ((replica.resumeRound cfg inputs).installRound cfg inputs) :=
    installRound_leads fun h => resumeRound_timely (timely h)
  apply (resumeRound_moves.trans hinstalled.moves).trans
  refine ReflTransGen.trans ?_ dispatchStateSync_moves
  unfold commitRound
  split
  · exact (advanceCommit_leads hinstalled.punctual).moves
  · exact moves_refl

/-- Every event is a sequence of moves. -/
theorem handle_moves (event : Event χ)
    (hears : ∀ message, event = .receive message → validateSemantics cfg message = true → Hears given cfg replica
      message) (attributed : Attributed given replica) (timely : given.punctual → Timely cfg replica) :
    Moves cfg given replica (replica.handle cfg inputs event) := by
  have punctual : given.punctual → replica.Punctual cfg := fun h => (timely h).punctual
  cases event with
  | receive message => exact handleMessage_moves (hears message rfl)
  | perform handle => exact (Move.perform handle).moves
  | complete handle => exact complete_moves handle attributed punctual
  | entryCompletion generation kind => exact handleEntryCompletion_moves generation kind punctual
  | syncCompletion generation kind => exact handleStateSyncCompletion_moves generation kind
  | replayed => exact finishInterruptedReplay_moves
  | blocksRepaired => exact stateSyncBlocksRepaired_moves
  | repairDrained => exact finishCheckpointRepairDrain_moves attributed
  | timer timer =>
    show Moves cfg given replica (if replica.stateSync.replayRunning then replica
      else replica.handleTimer cfg inputs timer)
    split_ifs
    · exact moves_refl
    · exact handleTimer_moves timer fun h => (timely h).settled

end Supervsr.Replica
