import Supervsr.ReplicaProcess

/-
# Supervsr.Open — restarting a replica from its storage

`Open` recovers the journal, replays what is known to be committed, decides in which status and view
the replica comes back, checks the state it starts from and loads the rest of the log into the
pipeline.  A superblock that records an unfinished state sync takes a path of its own: the replay waits
until the checkpoint's blocks have been fetched.
-/

namespace Supervsr

variable {χ : Type}

/-- `ReplicaInitialState`. -/
structure InitialState (χ : Type) where
  status : Status
  view : Nat
  durableView : Nat
  logView : Nat
  headOp : Nat
  commitMin : Nat
  commitMax : Nat
  checkpoint : CheckpointState χ
  headHeader : Header χ
  syncRangeRepaired : Bool
deriving DecidableEq, Repr

/-- The zero value of `stateSyncRuntime`; the checkpoint is read once it has been set. -/
def StateSync.initial (checkpoint : CheckpointState χ) : StateSync χ where
  checkpoint := checkpoint
  headers := []
  completion := none
  generation := 0
  io := none
  view := 0
  commit := 0
  head := 0
  requestedCheckpoint := 0
  persistPhase := 0
  stage := .idle
  cancelStarted := false
  resetStarted := false
  resetDone := false
  persistDone := false
  repairing := false
  resumeRecovery := false
  recovery := none
  replayRunning := false
  recoveryState := none
  opening := false
  repliesPending := false

section Initial

variable [DecidableEq χ] [Checksums χ]

def deriveInterruptedStateSync (durable : Superblock χ) : InitialState χ where
  status := .recovering
  view := durable.state.view
  durableView := durable.state.view
  logView := durable.state.logView
  headOp := durable.state.checkpoint.prepareOp
  commitMin := durable.state.checkpoint.prepareOp
  commitMax := durable.state.commitMax
  checkpoint := durable.state.checkpoint
  headHeader := durable.state.checkpoint.header
  syncRangeRepaired := false

/-- `deriveInitialState`, with the superblock `deriveRecoveredStatus` leaves. -/
def deriveInitialState (cfg : Config) (current durable : Superblock χ) (recovery : WALRecoveryReport χ)
    (commitMin : Nat) (wal : WAL χ) : Except ReplicaError (InitialState χ × Superblock χ) := do
  let (status, superblock) ← deriveRecoveredStatus cfg current durable recovery wal
  let committed ← recoveredCommittedHeader cfg durable recovery commitMin wal
  return ({
    status := status.status
    view := status.view
    durableView := status.durableView
    logView := status.logView
    headOp := if status.status = .recoveringHead then status.headOp else commitMin
    commitMin := commitMin
    commitMax := max durable.state.commitMax commitMin
    checkpoint := durable.state.checkpoint
    headHeader := if status.status = .recoveringHead then recovery.headHeader else committed
    syncRangeRepaired := durable.state.syncMin ≠ 0 }, superblock)

/-- The record `newReplicaWithBlocks` builds. -/
def Replica.initial (cfg : Config) (initial : InitialState χ) (durable : Durable χ) (wal : WAL χ)
    (checkpointSessionOp : Nat) : Replica χ where
  durable := durable
  wal := wal
  status := initial.status
  view := initial.view
  durableView := initial.durableView
  logView := initial.logView
  headOp := initial.headOp
  commitMin := initial.commitMin
  commitMax := initial.commitMax
  checkpoint := initial.checkpoint
  syncRangeRepaired := initial.syncRangeRepaired
  headChecksum := initial.headHeader.checksum
  lastPrepareTimestamp := initial.headHeader.timestamp
  lastCommitTimestamp := initial.headHeader.timestamp
  pipeline := []
  requestQueue := []
  generation := 1
  io := []
  nextHandle := 1
  exitViewBits := []
  joins := List.replicate cfg.activeCount none
  joinAttempts := 0
  viewIo := none
  viewInstall := false
  viewCommit := 0
  viewHead := 0
  pendingView := 0
  canonicalHeaders := List.replicate (cfg.pipelineMax + 1) none
  getViewNonce := 0
  getViewTarget := 0
  getViewLast := 0
  lastPrimaryCommit := 0
  repairHeader := none
  repairWrite := none
  repairFrames := List.replicate (cfg.pipelineMax + 1) none
  repairHeadersLast := 0
  repairViewValid := false
  repairView := 0
  repairViewCommit := 0
  repairViewHead := 0
  repairViewAncestor := 0
  repairViewCount := 0
  repairViewRebuilt := false
  repairViewWindow := false
  checkpointTarget := 0
  checkpointSessionOp := checkpointSessionOp
  pendingCheckpoint := none
  checkpointRepairDrain := false
  stateSync := .initial initial.checkpoint
  fatalErr := none

/-- `newReplicaWithBlocks`: the record, if it passes `checkInvariants`. -/
def newReplica (cfg : Config) (initial : InitialState χ) (durable : Durable χ) (wal : WAL χ)
    (checkpointSessionOp : Nat) : Except ReplicaError (Replica χ) :=
  let replica := Replica.initial cfg initial durable wal checkpointSessionOp
  if replica.validSnapshot cfg then .ok replica else .error .replicaInvariant

def Replica.resumeInterruptedStateSync (replica : Replica χ) (cfg : Config) (durable : Superblock χ)
    (recovery : WALRecoveryReport χ) : Except ReplicaError (Replica χ) :=
  if durable.viewHeaders.length = 0 ∨ cfg.pipelineMax + 1 < durable.viewHeaders.length ∨
      ¬ durable.viewHeaders.all Option.isSome then
    .error (.superblock .invalidSuperblock)
  else
    .ok { replica with stateSync := { replica.stateSync with
      headers := durable.viewHeaders
      checkpoint := durable.state.checkpoint
      view := durable.state.view
      commit := durable.state.commitMax
      head := max (max durable.state.checkpoint.prepareOp recovery.headOp)
        (headerOp (durable.viewHeaders.getD 0 none))
      resumeRecovery := true
      recovery := some recovery
      recoveryState := some durable
      requestedCheckpoint := durable.state.syncMax
      stage := .resizingStorage
      persistPhase := 0
      persistDone := false
      repairing := true } }

end Initial

namespace Durable

variable [DecidableEq χ] [Checksums χ]

/-- Whether `Open` resumes a state sync. -/
def resumes (durable : Durable χ) : Bool := durable.superblock.state.syncMin ≠ 0

/-- The commit bound `Open` gives to `Recover`. -/
def recoveryCommit (durable : Durable χ) : Nat :=
  if durable.resumes then durable.superblock.state.checkpoint.prepareOp
  else durable.superblock.state.commitMax

/-- The installed view `Open` gives to `Recover`. -/
def installedView (durable : Durable χ) : WALRecoveryView :=
  match durable.superblock.viewHeaders with
  | [] => ⟨0, 0⟩
  | header :: _ => ⟨durable.superblock.state.logView, headerOp header⟩

/-- `Recover`, as `Open` calls it. -/
def recovery (durable : Durable χ) (cfg : Config) : Except WALError (WAL χ × WALRecoveryReport χ) :=
  durable.zones.recover cfg.cluster cfg.memberCount durable.superblock.state.checkpoint
    durable.recoveryCommit durable.installedView

/-- The storage once `Recover` has rewritten what it repaired. -/
def afterRecovery (durable : Durable χ) (cfg : Config) : Durable χ :=
  let zones := durable.zones.afterRecovery cfg.cluster cfg.memberCount
    durable.superblock.state.checkpoint.prepareOp durable.installedView
  { durable with zones := zones }

/-- The superblock `Open` goes on with: a solo replica has committed all it recovered. -/
def openSuperblock (durable : Durable χ) (cfg : Config) (recovery : WALRecoveryReport χ) :
    Superblock χ :=
  let superblock := durable.superblock
  if cfg.activeCount = 1 ∧ recovery.faultySlots = 0 then
    { superblock with state := { superblock.state with commitMax := recovery.headOp } }
  else superblock

/-- The replay of `Open`: nothing while a slot is faulty. -/
def openReplay (durable : Durable χ) (cfg : Config) (recovery : WALRecoveryReport χ) :
    Except ReplicaError (ReplayResult χ) :=
  let checkpoint := durable.superblock.state.checkpoint.prepareOp
  if recovery.faultySlots ≠ 0 then
    .ok { executed := [], commitMin := checkpoint, checkpointSessionOp := 0, outcome := .ok () }
  else do
    let target ← recoveredCommitTarget cfg (durable.openSuperblock cfg recovery) recovery
    return replayCommitted cfg.cluster durable.zones checkpoint target

/-- Record replayed prepares. -/
def recordReplay (durable : Durable χ) (executed : List (Header χ)) : Durable χ :=
  let checkpoint := durable.superblock.state.checkpoint.prepareOp
  { durable with executed := replayExecutions checkpoint executed durable.executed }

/-- The part of `Open` behind the replay, where no state sync is resumed. -/
def openReplayed (durable : Durable χ) (cfg : Config) (wal : WAL χ) (recovery : WALRecoveryReport χ)
    (replayed : ReplayResult χ) : Durable χ × Except ReplicaError (Replica χ) :=
  match deriveInitialState cfg durable.superblock (durable.openSuperblock cfg recovery) recovery
      replayed.commitMin wal with
  | .error err => (durable, .error err)
  | .ok (initial, superblock) =>
    let durable := { durable with superblock := superblock }
    (durable, do
      let replica ← newReplica cfg initial durable wal replayed.checkpointSessionOp
      replica.loadOpenSuffix cfg recovery replayed.commitMin)

/-- The part of `Open` behind `Recover`: what it leaves on storage, and its result. -/
def openRecovered (durable : Durable χ) (cfg : Config) (wal : WAL χ) (recovery : WALRecoveryReport χ) :
    Durable χ × Except ReplicaError (Replica χ) :=
  if durable.resumes then
    (durable, do
      let replica ← newReplica cfg (deriveInterruptedStateSync durable.superblock) durable wal 0
      replica.resumeInterruptedStateSync cfg durable.superblock recovery)
  else
    match durable.openReplay cfg recovery with
    | .error err => (durable, .error err)
    | .ok replayed =>
      let durable := durable.recordReplay replayed.executed
      match replayed.outcome with
      | .error err => (durable, .error err)
      | .ok () => durable.openReplayed cfg wal recovery replayed

/-- `Open`: what it leaves on storage, and its result. -/
def «open» (durable : Durable χ) (cfg : Config) : Durable χ × Except ReplicaError (Replica χ) :=
  if ¬ cfg.toFormatConfig.valid then (durable, .error .invalidConfiguration)
  else
    match durable.superblock.validate cfg.validation with
    | .error err => (durable, .error (.superblock err))
    | .ok () =>
      match durable.recovery cfg with
      | .error err => (durable.afterRecovery cfg, .error (.wal err))
      | .ok (wal, recovery) => (durable.afterRecovery cfg).openRecovered cfg wal recovery

/-- What a crash in the middle of the replay of `Open` leaves, `count` prepares into it. -/
def openInterrupted (durable : Durable χ) (cfg : Config) (count : Nat) : Durable χ :=
  match durable.recovery cfg with
  | .error _ => durable.afterRecovery cfg
  | .ok (_, recovery) =>
    let recovered := durable.afterRecovery cfg
    if durable.resumes then recovered
    else
      match recovered.openReplay cfg recovery with
      | .error _ => recovered
      | .ok replayed => recovered.recordReplay (replayed.executed.take count)

end Durable

end Supervsr
