import Supervsr.ReplicaRecovery

/-
# Supervsr.ReplicaStateSync — adopting a newer checkpoint from a peer

`state_sync.go`.  A replica whose checkpoint is behind a peer's drains its own work, persists the
intent, resets the state machine, persists the new checkpoint together with the view it came from, and
then fetches the blocks.  Once the state machine has opened the checkpoint it takes up the log again:
through the canonical headers that came with the checkpoint, through a repair window, or, after a
restart in the middle, from its own journal.
-/

namespace Supervsr.Replica

variable {χ : Type} [DecidableEq χ] [Checksums χ]

variable {cfg : Config} {current durable next : Superblock χ} {recovery : WALRecoveryReport χ} {wal : WAL χ}
  {status : RecoveredStatus}

/-! ## From the decision to the installed checkpoint -/

/-- The fields `beginStateSync` sets. -/
def enterStateSync (replica : Replica χ) (checkpoint : CheckpointState χ) (view commit head : Nat)
    (headers : List (Option (Header χ))) : Replica χ :=
  { replica.releaseQueuedRequests with
    status := .recovering
    stateSync := { replica.stateSync with
      headers := headers
      checkpoint := checkpoint
      requestedCheckpoint := checkpoint.prepareOp
      view := view
      commit := commit
      head := head
      persistPhase := 0
      cancelStarted := false
      resetStarted := false
      resetDone := false
      persistDone := false
      resumeRecovery := false
      repliesPending := false
      stage := .cancelingGrid } }

def beginStateSync (replica : Replica χ) (cfg : Config) (checkpoint : CheckpointState χ)
    (view commit head : Nat) (headers : List (Option (Header χ))) : Replica χ :=
  if replica.stateSync.stage ≠ .idle ∨ replica.stateSync.opening ∨ replica.stateSync.replayRunning ∨
      checkpoint.prepareOp ≤ replica.checkpointOp then
    replica
  else if headers.length = 0 ∨ headers.length > cfg.pipelineMax + 1 ∨ head < checkpoint.prepareOp ∨
      commit < checkpoint.prepareOp ∨ head < commit then
    replica.fail .replicaInvariant
  else replica.enterStateSync checkpoint view commit head headers

def dispatchStateSyncCancelingGrid (replica : Replica χ) (inputs : Inputs χ) : Replica χ :=
  if ¬ replica.stateSync.cancelStarted then
    { replica with stateSync := { replica.stateSync with cancelStarted := true } }
  else if replica.io.isEmpty ∧ inputs.readsDrained then
    { replica with stateSync := { replica.stateSync with stage := .updatingCheckpoint } }
  else replica

/-- `startStateSyncPersistence` and `startStateSyncIO`; without room for the request they are tried
again later. -/
def startStateSyncIo (replica : Replica χ) (inputs : Inputs χ) (operation : IOOperation χ)
    (phase : Nat) : Replica χ :=
  match replica.submit inputs operation with
  | .error _ => replica
  | .ok (replica, handle) =>
    { replica with stateSync := { replica.stateSync with io := some handle, persistPhase := phase } }

/-- The superblock that records the intent. -/
def syncIntentSuperblock (replica : Replica χ) : Superblock χ :=
  let state := replica.durable.superblock.state
  replica.nextSuperblock { state with
    syncMin := if state.syncMin = 0 then replica.checkpointOp + 1 else state.syncMin
    syncMax := replica.stateSync.checkpoint.prepareOp }

def stateSyncSuperblock (replica : Replica χ) : Superblock χ :=
  { replica.nextSuperblock { replica.durable.superblock.state with
      checkpoint := replica.stateSync.checkpoint
      commitMax := replica.stateSync.commit
      view := replica.stateSync.view
      logView := replica.stateSync.view } with
    viewHeaders := replica.stateSync.headers }

/-- `startStateSyncReset`, which answers whether the reset was done before the call. -/
def startStateSyncReset (replica : Replica χ) (inputs : Inputs χ) : Replica χ :=
  if replica.stateSync.resetStarted then replica
  else
    { replica with stateSync := { replica.stateSync with
        generation := replica.stateSync.generation + 1
        resetStarted := true
        completion := some .reset
        resetDone := inputs.resetReady } }

def releaseOwnedFrames (replica : Replica χ) (cfg : Config) : Replica χ :=
  { replica.clearRepairFrames cfg with
    requestQueue := []
    pipeline := []
    repairWrite := none }

def installStateSyncCheckpoint (replica : Replica χ) : Replica χ :=
  let target := replica.stateSync.checkpoint
  { replica with
    syncRangeRepaired := false
    checkpoint := target
    commitMin := target.prepareOp
    commitMax := replica.stateSync.commit
    headOp := target.prepareOp
    headChecksum := target.header.checksum
    view := replica.stateSync.view
    durableView := replica.stateSync.view
    logView := replica.stateSync.view
    stateSync := { replica.stateSync with
      repliesPending := false
      stage := .resizingStorage
      persistPhase := 0
      persistDone := false
      repairing := true } }

def dispatchStateSyncCheckpoint (replica : Replica χ) (cfg : Config) (inputs : Inputs χ) : Replica χ :=
  if replica.stateSync.io.isSome then replica
  else
    match replica.stateSync.persistPhase with
    | 0 => replica.startStateSyncIo inputs (.superblockPersist replica.syncIntentSuperblock) 1
    | 1 =>
      if ¬ replica.stateSync.persistDone then replica
      else if ¬ (replica.stateSync.resetStarted ∧ replica.stateSync.resetDone) then
        replica.startStateSyncReset inputs
      else
        let replica := replica.releaseOwnedFrames cfg
        let replica := { replica with stateSync := { replica.stateSync with persistDone := false } }
        replica.startStateSyncIo inputs (.superblockPersist replica.stateSyncSuperblock) 2
    | 2 => if replica.stateSync.persistDone then replica.installStateSyncCheckpoint else replica
    | _ => replica.fail .replicaInvariant

/-! ## Taking up the log again -/

/-- `continueReplyRepair`, as far as it concerns the state sync. -/
def continueReplyRepair (replica : Replica χ) (inputs : Inputs χ) : Replica χ :=
  let waitingForReplay := replica.stateSync.replayRunning ∨
    (replica.stateSync.repliesPending ∧
      replica.commitMin < max replica.stateSync.commit replica.commitMax)
  if replica.stateSync.stage ≠ .idle ∨ replica.stateSyncAwaitingOpen ∨ waitingForReplay then replica
  else if replica.stateSync.repliesPending ∧ inputs.repliesRepaired then
    { replica with
      syncRangeRepaired := true
      stateSync := { replica.stateSync with repliesPending := false, repairing := false } }
  else replica

/-- The last case of `resumeStateSyncLog`: install the headers that came with the checkpoint. -/
def resumeFromHeaders (replica : Replica χ) (cfg : Config) : Replica χ :=
  let headers := replica.stateSync.headers
  { replica with
    canonicalHeaders := headers ++ List.replicate (cfg.pipelineMax + 1 - headers.length) none
    status := .recoveringHead
    repairViewValid := true
    repairView := replica.stateSync.view
    repairViewCommit := replica.stateSync.commit
    repairViewHead := replica.stateSync.head
    repairViewAncestor := replica.checkpointOp
    repairViewCount := headers.length
    repairViewRebuilt := false }

/-- `resumeStateSyncLog`.  The replay it may start is a step of its own, `finishInterruptedReplay`. -/
def resumeStateSyncLog (replica : Replica χ) (cfg : Config) (inputs : Inputs χ) : Replica χ :=
  if replica.stateSync.resumeRecovery then
    let complete : Bool := replica.stateSync.recovery.any fun recovery =>
      recovery.faultySlots = 0 ∧ replica.stateSync.commit ≤ recovery.headOp
    if complete then
      -- `finishInterruptedStateSyncOpen`
      { replica with stateSync := { replica.stateSync with replayRunning := true } }
    else
      let replica := { replica with stateSync := { replica.stateSync with resumeRecovery := false } }
      if cfg.activeCount = 1 then replica.fail (.wal .uncertainSolo)
      else { replica with status := .recoveringHead }.requestView cfg inputs replica.view
  else if replica.checkpointOp < replica.stateSync.head then
    if replica.commitMin < replica.stateSync.commit ∧
        cfg.pipelineMax < replica.stateSync.head - replica.commitMin then
      match replica.beginRepairWindow cfg inputs replica.stateSync.view replica.stateSync.commit with
      | (replica, true) => replica
      | (replica, false) => replica.fail .replicaInvariant
    else replica.resumeFromHeaders cfg
  else { replica with status := .normal }

/-- The fields `finishStateSyncOpen` sets. -/
def openedSync (replica : Replica χ) : Replica χ :=
  { replica with stateSync := { replica.stateSync with
      opening := false, repliesPending := true, completion := none } }

def finishStateSyncOpen (replica : Replica χ) (cfg : Config) (inputs : Inputs χ) : Replica χ :=
  (replica.openedSync.resumeStateSyncLog cfg inputs).continueReplyRepair inputs

def finishStateSyncBlocks (replica : Replica χ) (cfg : Config) (inputs : Inputs χ) : Replica χ :=
  let replica := { replica with stateSync := { replica.stateSync with
    generation := replica.stateSync.generation + 1
    opening := true
    completion := some .openState } }
  if inputs.openReady then replica.finishStateSyncOpen cfg inputs else replica

/-- The blocks of the checkpoint have all been fetched. -/
def stateSyncBlocksRepaired (replica : Replica χ) (cfg : Config) (inputs : Inputs χ) : Replica χ :=
  if replica.stateSyncAwaitingOpen ∧ replica.stateSync.stage = .idle ∧ ¬ replica.stateSync.opening then
    replica.finishStateSyncBlocks cfg inputs
  else replica

def dispatchStateSyncResize (replica : Replica χ) (cfg : Config) (inputs : Inputs χ) : Replica χ :=
  if replica.stateSync.io.isSome then replica
  else
    match replica.stateSync.persistPhase with
    | 0 => replica.startStateSyncIo inputs .resize 1
    | 1 =>
      if ¬ replica.stateSync.persistDone then replica
      else
        { replica with stateSync := { replica.stateSync with persistDone := false } }.startStateSyncIo
          inputs .sync 2
    | 2 =>
      if ¬ replica.stateSync.persistDone then replica
      else
        let replica := { replica with stateSync := { replica.stateSync with
          persistDone := false, stage := .idle } }
        if inputs.blockRepairActive then replica else replica.finishStateSyncBlocks cfg inputs
    | _ => replica.fail .replicaInvariant

def dispatchStateSync (replica : Replica χ) (cfg : Config) (inputs : Inputs χ) : Replica χ :=
  match replica.stateSync.stage with
  | .idle => replica
  | .cancelingGrid => replica.dispatchStateSyncCancelingGrid inputs
  | .updatingCheckpoint => replica.dispatchStateSyncCheckpoint cfg inputs
  | .resizingStorage => replica.dispatchStateSyncResize cfg inputs

def handleStateSyncCompletion (replica : Replica χ) (cfg : Config) (inputs : Inputs χ)
    (generation : Nat) (kind : SyncCompletion) : Replica χ :=
  if generation ≠ replica.stateSync.generation then replica
  else
    match replica.stateSync.completion with
    | none => replica
    | some expected =>
      if expected ≠ kind then replica.fail .stateMachine
      else
        match kind with
        | .reset =>
          { replica with stateSync := { replica.stateSync with resetDone := true, completion := none } }
        | .openState => replica.finishStateSyncOpen cfg inputs

/-! ## An interrupted sync -/

/-- What `finishInterruptedReplay` makes of the recovered status. -/
def adoptRecovered (replica : Replica χ) (durable : Superblock χ) (recovery : WALRecoveryReport χ)
    (status : RecoveredStatus) (committed : Header χ) (commitMin : Nat) : Replica χ :=
  { replica with
    status := status.status
    view := status.view
    durableView := status.durableView
    logView := status.logView
    headOp := if status.status = .recoveringHead then status.headOp else commitMin
    commitMin := commitMin
    commitMax := durable.state.commitMax
    headChecksum :=
      if status.status = .recoveringHead then recovery.headHeader.checksum else committed.checksum
    lastPrepareTimestamp := committed.timestamp
    lastCommitTimestamp := committed.timestamp }

/-- The replay `finishInterruptedStateSyncOpen` runs in the background. -/
def interruptedReplay (replica : Replica χ) (cfg : Config) (durable : Superblock χ) : ReplayResult χ :=
  replayCommitted cfg.cluster replica.durable.zones replica.checkpointOp durable.state.commitMax

/-- The prepares an interrupted replay has executed, recorded. -/
def recordReplay (replica : Replica χ) («from» : Nat) (executed : List (Header χ)) : Replica χ :=
  { replica with durable := { replica.durable with
      executed := replayExecutions «from» executed replica.durable.executed } }

/-- The part of `finishInterruptedReplay` behind a replay without error; `none` in the flag's place is
the error it stops with. -/
def adoptReplay (replica : Replica χ) (cfg : Config) (durable : Superblock χ)
    (recovery : WALRecoveryReport χ) (result : ReplayResult χ) : Replica χ × Bool :=
  match deriveRecoveredStatus cfg replica.durable.superblock durable recovery replica.wal with
  | .error err => (replica.fail err, false)
  | .ok (status, superblock) =>
    let replica := { replica with durable := { replica.durable with superblock := superblock } }
    match recoveredCommittedHeader cfg durable recovery result.commitMin replica.wal with
    | .error err => (replica.fail err, false)
    | .ok committed =>
      let replica := { replica.adoptRecovered durable recovery status committed result.commitMin with
        checkpointSessionOp := result.checkpointSessionOp }
      match replica.loadOpenSuffix cfg recovery result.commitMin with
      | .error err => (replica.fail err, false)
      | .ok replica =>
        ({ replica with stateSync := { replica.stateSync with
            resumeRecovery := false, recovery := none, recoveryState := none } }, true)

/-- The replay and the part of `finishInterruptedReplay` before reply repair goes on; the flag tells
whether it got there. -/
def replayInterrupted (replica : Replica χ) (cfg : Config) : Replica χ × Bool :=
  match replica.stateSync.replayRunning, replica.stateSync.recoveryState, replica.stateSync.recovery with
  | true, some durable, some recovery =>
    let result := replica.interruptedReplay cfg durable
    let replica := replica.recordReplay replica.checkpointOp result.executed
    let replica := { replica with stateSync := { replica.stateSync with replayRunning := false } }
    match result.outcome with
    | .error err => (replica.fail err, false)
    | .ok () => replica.adoptReplay cfg durable recovery result
  | _, _, _ => (replica, false)

/-- The superblock a restart leaves: the one it found, or that one with the view it starts. -/
def RestartedSuperblock (cfg : Config) (wal : WAL χ) (current next : Superblock χ) : Prop :=
  next = current ∨ ∃ head view logView commitMax,
    persistRecoveredView cfg current wal head view logView commitMax = .ok next

/-- The recovered view is the durable one or the next, and durable itself.  The head is trusted unless there are
faulty slots, and a primary comes back in normal status only when it is alone. -/
theorem deriveRecoveredStatus_eq_ok
    (derived : deriveRecoveredStatus cfg current durable recovery wal = .ok (status, next)) :
    RestartedSuperblock cfg wal current next ∧
      (durable.state.view ≤ status.view ∧ status.durableView = status.view) ∧
      (recovery.faultySlots = 0 → status.status ≠ .recoveringHead) ∧
      (durable.state.logView ≤ durable.state.view → status.logView ≤ status.view ∧
        (status.status = .normal → status.view = status.logView ∧
          (cfg.activeCount = 1 ∨ cfg.primary status.view ≠ cfg.localIndex))) := by
  unfold deriveRecoveredStatus at derived
  simp only at derived
  split at derived
  · rename_i hfaulty
    cases derived
    exact ⟨.inl rfl, ⟨Nat.le_refl _, rfl⟩, fun h => absurd h hfaulty, fun h => ⟨h, nofun⟩⟩
  split at derived
  · cases derived
    exact ⟨.inl rfl, ⟨Nat.le_refl _, rfl⟩, nofun, fun h => ⟨h, nofun⟩⟩
  split at derived
  · rename_i hlevel hbackup
    cases derived
    refine ⟨.inl rfl, ⟨Nat.le_refl _, rfl⟩, nofun, fun h => ⟨h, fun _ => ⟨?_, .inr hbackup.2⟩⟩⟩
    exact Nat.le_antisymm (Nat.not_lt.mp hlevel) h
  split at derived
  · cases derived
  split at derived
  · cases derived
  rename_i superblock hpersisted
  cases derived
  refine ⟨.inr ⟨_, _, _, _, hpersisted⟩, ⟨Nat.le_succ _, rfl⟩, ?_⟩
  by_cases hsolo : cfg.activeCount = 1
  · rw [if_pos hsolo, if_pos hsolo]
    exact ⟨nofun, fun _ => ⟨Nat.le_refl _, fun _ => ⟨rfl, .inl hsolo⟩⟩⟩
  · rw [if_neg hsolo, if_neg hsolo]
    exact ⟨nofun, fun h => ⟨Nat.le_succ_of_le h, nofun⟩⟩

/-- What the replay leaves alone: requests under way, the journal, and everything that belongs to a view
change, an installation or a checkpoint under way. -/
theorem replayInterrupted_frame (replica : Replica χ) (cfg : Config) :
    ∃ (durable : Durable χ) (status : Status) (view durableView logView headOp commitMin commitMax : Nat)
        (headChecksum : χ) (lastPrepareTimestamp lastCommitTimestamp checkpointSessionOp : Nat)
        (pipeline : List (PipelineEntry χ)) (generation : Nat) (stateSync : StateSync χ)
        (fatalErr : Option ReplicaError),
      (replica.replayInterrupted cfg).1 = { replica with
        durable := durable
        status := status
        view := view
        durableView := durableView
        logView := logView
        headOp := headOp
        commitMin := commitMin
        commitMax := commitMax
        headChecksum := headChecksum
        lastPrepareTimestamp := lastPrepareTimestamp
        lastCommitTimestamp := lastCommitTimestamp
        checkpointSessionOp := checkpointSessionOp
        pipeline := pipeline
        generation := generation
        stateSync := stateSync
        fatalErr := fatalErr } ∧
      (durable.zones = replica.durable.zones ∧ durable.sent = replica.durable.sent) ∧
      RestartedSuperblock cfg replica.wal replica.durable.superblock durable.superblock ∧
      ∃ entries, pipeline = replica.pipeline ++ entries ∧ ∀ entry ∈ entries, replica.Loaded cfg entry := by
  have hnone : ∃ entries, replica.pipeline = replica.pipeline ++ entries ∧
      ∀ entry ∈ entries, replica.Loaded cfg entry :=
    ⟨[], (List.append_nil _).symm, fun _ h => absurd h List.not_mem_nil⟩
  unfold replayInterrupted
  split
  · simp only
    split
    · exact ⟨_, _, _, _, _, _, _, _, _, _, _, _, _, _, _, _, rfl, ⟨rfl, rfl⟩, .inl rfl, hnone⟩
    unfold adoptReplay
    split
    · exact ⟨_, _, _, _, _, _, _, _, _, _, _, _, _, _, _, _, rfl, ⟨rfl, rfl⟩, .inl rfl, hnone⟩
    rename_i hderived
    have hsuperblock := (deriveRecoveredStatus_eq_ok hderived).1
    simp only
    split
    · exact ⟨_, _, _, _, _, _, _, _, _, _, _, _, _, _, _, _, rfl, ⟨rfl, rfl⟩, hsuperblock, hnone⟩
    split
    · exact ⟨_, _, _, _, _, _, _, _, _, _, _, _, _, _, _, _, rfl, ⟨rfl, rfl⟩, hsuperblock, hnone⟩
    rename_i hloaded
    obtain ⟨entries, _, _, _, hentries, rfl⟩ := loadOpenSuffix_eq_ok hloaded
    exact ⟨_, _, _, _, _, _, _, _, _, _, _, _, _, _, _, _, rfl, ⟨rfl, rfl⟩, hsuperblock,
      entries, rfl, hentries⟩
  · exact ⟨_, _, _, _, _, _, _, _, _, _, _, _, _, _, _, _, rfl, ⟨rfl, rfl⟩, .inl rfl, hnone⟩

/-- What the replay makes of the view and of the state sync: nothing where none is running; otherwise it
is over, and where the recovered status is taken the view does not fall behind the durable one. -/
theorem replayInterrupted_cases (replica : Replica χ) (cfg : Config) :
    (replica.replayInterrupted cfg).1 = replica ∨
      (replica.stateSync.replayRunning = true ∧
        ∃ resumeRecovery recovery recoveryState,
          (replica.replayInterrupted cfg).1.stateSync = { replica.stateSync with
            replayRunning := false
            resumeRecovery := resumeRecovery
            recovery := recovery
            recoveryState := recoveryState } ∧
          (((replica.replayInterrupted cfg).1.status = replica.status ∧
              (replica.replayInterrupted cfg).1.view = replica.view ∧
              (replica.replayInterrupted cfg).1.durableView = replica.durableView) ∨
            ∃ durable ∈ replica.stateSync.recoveryState,
              durable.state.view ≤ (replica.replayInterrupted cfg).1.view ∧
              (replica.replayInterrupted cfg).1.durableView = (replica.replayInterrupted cfg).1.view)) := by
  unfold replayInterrupted
  split
  · rename_i durable recovery hrunning hdurable hrecovery
    refine .inr ⟨hrunning, ?_⟩
    simp only
    split
    · exact ⟨_, _, _, rfl, .inl ⟨rfl, rfl, rfl⟩⟩
    unfold adoptReplay
    split
    · exact ⟨_, _, _, rfl, .inl ⟨rfl, rfl, rfl⟩⟩
    rename_i hderived
    obtain ⟨-, ⟨hview, hdurableView⟩, -⟩ := deriveRecoveredStatus_eq_ok hderived
    simp only
    split
    · exact ⟨_, _, _, rfl, .inl ⟨rfl, rfl, rfl⟩⟩
    split
    · exact ⟨_, _, _, rfl, .inr ⟨durable, hdurable, hview, hdurableView⟩⟩
    · rename_i hloaded
      obtain ⟨entries, _, _, _, -, rfl⟩ := loadOpenSuffix_eq_ok hloaded
      exact ⟨_, _, _, rfl, .inr ⟨durable, hdurable, hview, hdurableView⟩⟩
  · exact .inl rfl

/-- The state an interrupted replay leaves before the rest of the log is loaded behind it. -/
def replayed (replica : Replica χ) (durable superblock : Superblock χ) (recovery : WALRecoveryReport χ)
    (status : RecoveredStatus) (committed : Header χ) (result : ReplayResult χ) : Replica χ :=
  let recorded := replica.recordReplay replica.checkpointOp result.executed
  { ({ recorded with
      stateSync := { replica.stateSync with replayRunning := false }
      durable := { recorded.durable with superblock := superblock }
      }.adoptRecovered durable recovery status committed result.commitMin) with
    checkpointSessionOp := result.checkpointSessionOp }

/-- An interrupted replay that does not stop the replica: what was recovered is taken over, and the log
behind the replayed part is in the pipeline. -/
theorem replayInterrupted_adopts (replica : Replica χ) (cfg : Config) :
    (replica.replayInterrupted cfg).1 = replica ∨ (replica.replayInterrupted cfg).1.fatalErr ≠ none ∨
      ∃ durable ∈ replica.stateSync.recoveryState, ∃ recovery ∈ replica.stateSync.recovery,
        ∃ status superblock committed loaded,
          let result := replica.interruptedReplay cfg durable
          replica.stateSync.replayRunning = true ∧ result.outcome = .ok () ∧
            deriveRecoveredStatus cfg replica.durable.superblock durable recovery replica.wal =
              .ok (status, superblock) ∧
            recoveredCommittedHeader cfg durable recovery result.commitMin replica.wal = .ok committed ∧
            (replica.replayed durable superblock recovery status committed result).loadOpenSuffix cfg recovery
              result.commitMin = .ok loaded ∧
            (replica.replayInterrupted cfg).1 = { loaded with stateSync := { loaded.stateSync with
              resumeRecovery := false, recovery := none, recoveryState := none } } := by
  unfold replayInterrupted
  split
  · rename_i durable recovery hrunning hdurable hrecovery
    simp only
    split
    · exact .inr (.inl (fail_fatalErr _ _))
    rename_i houtcome
    unfold adoptReplay
    split
    · exact .inr (.inl (fail_fatalErr _ _))
    rename_i status superblock hderived
    simp only
    split
    · exact .inr (.inl (fail_fatalErr _ _))
    rename_i committed hcommitted
    split
    · exact .inr (.inl (fail_fatalErr _ _))
    · rename_i loaded hloaded
      exact .inr (.inr ⟨durable, hdurable, recovery, hrecovery, status, superblock, committed, loaded,
        hrunning, houtcome, hderived, hcommitted, hloaded, rfl⟩)
  · exact .inl rfl

/-- `finishInterruptedReplay`, with the replay. -/
def finishInterruptedReplay (replica : Replica χ) (cfg : Config) (inputs : Inputs χ) : Replica χ :=
  match replica.replayInterrupted cfg with
  | (replica, true) => replica.continueReplyRepair inputs
  | (replica, false) => replica

/-! ## Completions while draining -/

/-- The storage request with this handle, once a worker has executed it. -/
def completedIo (replica : Replica χ) (handle : Nat) : Option (IOOperation χ × Except ReplicaError Unit) :=
  match replica.io.find? (fun pending => pending.handle = handle) with
  | none => none
  | some pending => pending.result.map fun result => (pending.operation, result)

/-- `io.Poll` takes the request off the list. -/
def releaseIo (replica : Replica χ) (handle : Nat) : Replica χ :=
  { replica with io := replica.io.filter (fun pending => pending.handle ≠ handle) }

/-- `fail` on an error of a completion. -/
def failOn (replica : Replica χ) (result : Except ReplicaError Unit) : Replica χ :=
  match result with
  | .ok () => replica
  | .error err => replica.fail err

/-- `handleStateSyncDrainIO`. -/
def handleStateSyncDrainIo (replica : Replica χ) (handle : Nat) (result : Except ReplicaError Unit) :
    Replica χ :=
  if replica.viewIo = some handle then { replica with viewIo := none }.failOn result
  else if replica.repairWrite.any (fun write => write.handle = handle) then
    { replica with repairWrite := none }.failOn result
  else
    match replica.pipeline.findIdx? (fun entry => entry.io = some handle) with
    | none => replica
    | some offset => (replica.modifyEntry offset fun entry => { entry with io := none }).failOn result

/-- `handleStateSyncPersistence`, where the completion is its own. -/
def handleStateSyncPersistence (replica : Replica χ) (result : Except ReplicaError Unit) : Replica χ :=
  let replica := { replica with stateSync := { replica.stateSync with io := none } }
  match result with
  | .error err => replica.fail err
  | .ok () => { replica with stateSync := { replica.stateSync with persistDone := true } }

end Supervsr.Replica
