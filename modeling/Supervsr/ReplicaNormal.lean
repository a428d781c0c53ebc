import Supervsr.ReplicaView

/-
# Supervsr.ReplicaNormal — prepares, acknowledgements and the commit pipeline

`replica_normal.go` and `replica_checkpoint.go`.  The commit pipeline is one loop spread over a dozen
functions: `advanceCommit` starts the first entry, and whatever finishes it (a prefetch that answers at
once, a reply that needs no write, a checkpoint superblock) ends in `completeCommitEntry`, which pops it
and calls `advanceCommit` again.  The functions in between take that next round as an argument; the
rounds are counted down by `advanceCommitRounds`, and `commitRounds` bounds how many a replica can take.
-/

namespace Supervsr

def checkpointAfter (cluster : ClusterConfig) (current : Nat) : Option Nat :=
  match cluster.checkpointInterval with
  | none => none
  | some interval =>
    if interval = 0 then none
    else if current = 0 then some (interval - 1)
    else checkedAdd current interval

def checkpointTrigger (cluster : ClusterConfig) (checkpoint : Nat) : Option Nat :=
  checkedAdd checkpoint cluster.compactionOps

section Reach

variable {σ ε : Type} {cluster : ClusterConfig} {checkpointOp op : Nat} {refused : ε}
  {keep : Nat → σ → Except ε σ} {kept : σ → Nat} {state next : σ} {begun : Except ε (Option Nat)}

/-- What `afterCompact` does about the next checkpoint: `keep` encodes the sessions at its op, and it is
begun at its trigger, if the sessions `kept` are those of its op. -/
def reachCheckpoint (cluster : ClusterConfig) (checkpointOp op : Nat) (refused : ε)
    (keep : Nat → σ → Except ε σ) (kept : σ → Nat) (state : σ) : σ × Except ε (Option Nat) :=
  match checkpointAfter cluster checkpointOp with
  | none => (state, .error refused)
  | some target =>
    match keep target state with
    | .error err => (state, .error err)
    | .ok state =>
      match checkpointTrigger cluster target with
      | none => (state, .error refused)
      | some trigger =>
        if op ≠ trigger then (state, .ok none)
        else if kept state ≠ target then (state, .error refused)
        else (state, .ok (some target))

theorem reachCheckpoint_state (reached : reachCheckpoint cluster checkpointOp op refused keep kept state =
      (next, begun)) :
    next = state ∨ ∃ target, checkpointAfter cluster checkpointOp = some target ∧ keep target state = .ok next := by
  unfold reachCheckpoint at reached
  split at reached
  · exact .inl (Prod.mk.inj reached).1.symm
  rename_i target htarget
  split at reached
  · exact .inl (Prod.mk.inj reached).1.symm
  rename_i hnext
  refine .inr ⟨target, htarget, hnext.trans (congrArg Except.ok ?_)⟩
  split at reached
  · exact (Prod.mk.inj reached).1
  split_ifs at reached <;> exact (Prod.mk.inj reached).1

theorem reachCheckpoint_eq_ok {started : Option Nat}
    (reached : reachCheckpoint cluster checkpointOp op refused keep kept state = (next, .ok started)) :
    ∃ target trigger, checkpointAfter cluster checkpointOp = some target ∧
      checkpointTrigger cluster target = some trigger ∧
      (started = none ∧ op ≠ trigger ∨ started = some target ∧ op = trigger ∧ kept next = target) := by
  unfold reachCheckpoint at reached
  split at reached
  · cases reached
  rename_i target htarget
  split at reached
  · cases reached
  split at reached
  · cases reached
  rename_i trigger htrigger
  refine ⟨target, trigger, htarget, htrigger, ?_⟩
  split_ifs at reached with hop hkept
  · cases reached
    exact .inl ⟨rfl, hop⟩
  · cases reached
  · cases reached
    exact .inr ⟨rfl, not_not.mp hop, not_not.mp hkept⟩

end Reach

/-- Whether an operation is executed by the state machine: an application operation or a pulse. -/
def Operation.prefetches : Operation → Bool
  | .application _ => true
  | .pulse => true
  | _ => false

namespace Replica

variable {χ : Type} [DecidableEq χ] [Checksums χ]

/-! ## Acknowledgements -/

/-- The checkpoint whose trigger bounds acknowledgements: the next one, or the current one while a
synced range is still to be repaired. -/
def acknowledgeCheckpoint (replica : Replica χ) (cfg : Config) : Option Nat := do
  let next ← checkpointAfter cfg.cluster replica.checkpointOp
  if replica.durable.superblock.state.syncMin ≠ 0 ∧ ¬ replica.syncRangeRepaired then
    let trigger ← checkpointTrigger cfg.cluster replica.checkpointOp
    let bound ← checkedAdd trigger cfg.pipelineMax
    if replica.checkpointOp ≠ 0 ∧ replica.commitMax ≤ bound then replica.checkpointOp else next
  else next

/-- The last op `canAcknowledge` allows. -/
def acknowledgeBound (replica : Replica χ) (cfg : Config) : Option Nat := do
  let next ← replica.acknowledgeCheckpoint cfg
  let trigger ← checkpointTrigger cfg.cluster next
  checkedAdd trigger cfg.pipelineMax

def canAcknowledge (replica : Replica χ) (cfg : Config) (header : Header χ) (durable : Bool) : Bool :=
  durable ∧ replica.status = .normal ∧ replica.view = replica.durableView ∧
    replica.logView = replica.view ∧ replica.viewIo.isNone ∧ cfg.localIndex < cfg.activeCount ∧
    (replica.acknowledgeBound cfg).any (header.op ≤ ·)

/-- The frame `sendPrepareOK` seals. -/
def prepareOK (replica : Replica χ) (cfg : Config) (header : Header χ) : PrepareOK χ where
  view := replica.view
  author := cfg.localIndex
  parent := header.parent
  prepareChecksum := header.checksum
  checkpointID := header.checkpointID
  client := header.client
  op := header.op
  commitMin := replica.commitMin
  timestamp := header.timestamp
  request := header.request
  operation := header.operation

/-- `sendPrepareOK`, for a header that need not be in the pipeline. -/
def sendPrepareOK (replica : Replica χ) (cfg : Config) (header : Header χ) (durable : Bool) :
    Replica χ :=
  if ¬ replica.canAcknowledge cfg header durable then replica
  else replica.send (some (cfg.primary replica.view)) (.prepareOK (replica.prepareOK cfg header))

/-- `countPrepareAck`, on the entry at `offset`. -/
def countPrepareAck (replica : Replica χ) (cfg : Config) (offset author : Nat) : Replica χ :=
  replica.modifyEntry offset fun entry =>
    if author ∈ entry.acks then entry
    else
      let acks := author :: entry.acks
      { entry with acks := acks, quorum := entry.quorum || cfg.quorums.replication ≤ acks.length }

/-- Acknowledge the entry at `offset`: count it as primary, tell the primary otherwise. -/
def acknowledgeEntry (replica : Replica χ) (cfg : Config) (offset : Nat) : Replica χ :=
  match replica.pipeline[offset]? with
  | none => replica
  | some entry =>
    if ¬ replica.canAcknowledge cfg entry.header entry.durable then replica
    else if replica.isPrimary cfg then replica.countPrepareAck cfg offset cfg.localIndex
    else
      (replica.sendPrepareOK cfg entry.header entry.durable).modifyEntry offset fun entry =>
        { entry with acks := entry.acks.insert cfg.localIndex }

def acknowledgeDurablePrepares (replica : Replica χ) (cfg : Config) : Replica χ :=
  if replica.status ≠ .normal then replica
  else
    (List.range replica.pipeline.length).foldl (fun replica offset =>
      match replica.pipeline[offset]? with
      | none => replica
      | some entry =>
        if cfg.localIndex ∈ entry.acks then replica else replica.acknowledgeEntry cfg offset) replica

/-! ## Creating and accepting prepares -/

/-- `acceptPrepare`; `none` is its refusal. -/
def acceptPrepare (replica : Replica χ) (cfg : Config) (inputs : Inputs χ) (header : Header χ) :
    Option (Replica χ) :=
  if replica.pipeline.length = cfg.pipelineMax ∨ header.op ≠ replica.headOp + 1 ∨
      header.parent ≠ replica.headChecksum ∨ replica.commitMin < header.commit ∨
      header.timestamp ≤ replica.lastPrepareTimestamp then
    none
  else
    match replica.submit inputs (.walAppend header replica.checkpointOp) with
    | .error _ => none
    | .ok (replica, handle) =>
      (replica.pushPipeline cfg header header (some handle) false).map fun replica =>
        { replica with lastPrepareTimestamp := header.timestamp }

theorem acceptPrepare_eq_some {replica next : Replica χ} {cfg : Config} {inputs : Inputs χ}
    {header : Header χ} (accepted : replica.acceptPrepare cfg inputs header = some next) :
    replica.pipeline.length ≠ cfg.pipelineMax ∧ header.op = replica.headOp + 1 ∧
      header.parent = replica.headChecksum ∧ header.commit ≤ replica.commitMin ∧
      replica.lastPrepareTimestamp < header.timestamp ∧
      next = { replica with
        io := replica.io ++ [⟨replica.nextHandle, .walAppend header replica.checkpointOp, none⟩]
        nextHandle := replica.nextHandle + 1
        pipeline := replica.pipeline ++
          [{ generation := replica.generation, prepare := header, header := header, acks := [],
             durable := false, quorum := false, io := some replica.nextHandle, stage := .idle }]
        generation := replica.generation + 1
        headOp := header.op
        headChecksum := header.checksum
        lastPrepareTimestamp := header.timestamp } := by
  unfold acceptPrepare at accepted
  split at accepted
  · cases accepted
  rename_i hfits
  simp only [not_or, ne_eq, not_not, Nat.not_lt, Nat.not_le] at hfits
  obtain ⟨hroom, hop, hparent, hcommit, htimestamp⟩ := hfits
  split at accepted
  · cases accepted
  rename_i submitted
  obtain ⟨rfl, rfl⟩ := submit_eq_ok submitted
  obtain ⟨pushed, hpushed, rfl⟩ := Option.map_eq_some_iff.mp accepted
  obtain ⟨-, rfl⟩ := pushPipeline_eq_some hpushed
  exact ⟨hroom, hop, hparent, hcommit, htimestamp, rfl⟩

/-- The timestamp of the next prepare. -/
def prepareTimestamp (replica : Replica χ) (wall : Nat) : Nat :=
  max (max 1 wall) (max (replica.lastPrepareTimestamp + 1) (replica.lastCommitTimestamp + 1))

/-- The header `createPrepare` seals. -/
def requestPrepare (replica : Replica χ) (request : Request χ) (wall : Nat) : Header χ where
  parent := replica.headChecksum
  requestChecksum := request.checksum
  checkpointID := replica.checkpointID
  client := request.client
  op := replica.headOp + 1
  commit := replica.commitMin
  timestamp := replica.prepareTimestamp wall
  request := request.request
  operation := request.operation
  view := replica.view
  release := request.release
  bodyChecksum := request.bodyChecksum

/-- The header `createPulse` seals. -/
def pulsePrepare (replica : Replica χ) (cfg : Config) (wall : Nat) : Header χ where
  parent := replica.headChecksum
  requestChecksum := Checksums.zero
  checkpointID := replica.checkpointID
  client := 0
  op := replica.headOp + 1
  commit := replica.commitMin
  timestamp := replica.prepareTimestamp wall
  request := 0
  operation := .pulse
  view := replica.view
  release := cfg.currentRelease
  bodyChecksum := checksumBytes []

/-- The end of `createPrepare` and `createPulse`: accept the prepare and broadcast it. -/
def broadcastPrepare (replica : Replica χ) (cfg : Config) (inputs : Inputs χ) (header : Header χ) :
    Option (Replica χ) :=
  (replica.acceptPrepare cfg inputs header).map fun replica => replica.send none (.prepare header)

def pipelineConflict (replica : Replica χ) (client request : Nat) : Bool :=
  replica.pipeline.any (fun entry => entry.header.client = client ∧ entry.header.request = request) ||
    replica.requestQueue.any (fun queued => queued.1.client = client ∧ queued.1.request = request)

def queueRequest (replica : Replica χ) (cfg : Config) (request : Request χ) (sample : TimeSample) :
    Replica χ :=
  if replica.requestQueue.length = cfg.primaryRequestQueueMax then replica
  else { replica with requestQueue := replica.requestQueue ++ [(request, sample)] }

/-- `handleRequest` in a cluster without a `ReleaseExecutor`: `upgradeTarget` is 0 and no request is refused
for it. -/
def handleRequest (replica : Replica χ) (cfg : Config) (inputs : Inputs χ) (request : Request χ)
    (sample : TimeSample) : Replica χ :=
  if replica.status ≠ .normal ∨ replica.durableView ≠ replica.view ∨ replica.view < request.view ∨
      (1 < cfg.activeCount ∧ ¬ sample.synchronized) ∨ request.release < cfg.clientReleaseMin then
    replica
  else if ¬ inputs.admitted request ∨ ¬ replica.isPrimary cfg ∨
      replica.pipelineConflict request.client request.request then
    replica
  else if request.operation ≠ .register ∧
      replica.pipeline.any (fun entry => entry.header.operation = .register) then
    -- a registration may evict sessions, so admission waits for it
    replica.queueRequest cfg request sample
  else if replica.pipeline.length = cfg.pipelineMax then replica.queueRequest cfg request sample
  else
    match replica.broadcastPrepare cfg inputs (replica.requestPrepare request sample.wall) with
    | some replica => replica
    | none => replica.fail .backpressure

def dequeueRequest (replica : Replica χ) (cfg : Config) (inputs : Inputs χ) : Replica χ :=
  match replica.requestQueue with
  | [] => replica
  | (request, sample) :: rest =>
    if replica.pipeline.length = cfg.pipelineMax then replica
    else { replica with requestQueue := rest }.handleRequest cfg inputs request sample

def handlePrepare (replica : Replica χ) (cfg : Config) (inputs : Inputs χ) (header : Header χ) :
    Replica χ :=
  if replica.status ≠ .normal ∨ replica.durableView ≠ replica.view ∨ replica.view < header.view then
    replica
  else
    match replica.pipeline.findIdx? (fun entry => entry.header.op = header.op) with
    | some offset =>
      match replica.pipeline[offset]? with
      | none => replica
      | some entry =>
        if entry.header.checksum = header.checksum ∧ entry.durable then
          (replica.sendPrepareOK cfg entry.header entry.durable).modifyEntry offset fun entry =>
            if replica.canAcknowledge cfg entry.header entry.durable then
              { entry with acks := entry.acks.insert cfg.localIndex }
            else entry
        else replica
    | none =>
      if header.op ≤ replica.commitMin then
        match replica.storedHeader cfg header.op with
        | none => replica
        | some stored =>
          if stored.checksum = header.checksum then replica.sendPrepareOK cfg stored true else replica
      else if header.view ≠ replica.view then replica
      else if header.op ≠ replica.headOp + 1 ∨ header.parent ≠ replica.headChecksum ∨
          replica.commitMin < header.commit then
        replica.requestView cfg inputs header.view
      else (replica.acceptPrepare cfg inputs header).getD replica

def prepareOKMatches (ack : PrepareOK χ) (header : Header χ) : Bool :=
  ack.op = header.op ∧ ack.timestamp = header.timestamp ∧ ack.request = header.request ∧
    ack.operation = header.operation ∧ ack.parent = header.parent ∧
    ack.prepareChecksum = header.checksum ∧ ack.checkpointID = header.checkpointID ∧
    ack.client = header.client

def handlePrepareOK (replica : Replica χ) (cfg : Config) (ack : PrepareOK χ) : Replica χ :=
  if replica.status ≠ .normal ∨ replica.durableView ≠ replica.view ∨ ¬ replica.isPrimary cfg ∨
      ack.view ≠ replica.view ∨ cfg.activeCount ≤ ack.author then
    replica
  else
    match replica.pipeline.findIdx? (fun entry => entry.header.op = ack.op) with
    | none => replica
    | some offset =>
      match replica.pipeline[offset]? with
      | none => replica
      | some entry =>
        if prepareOKMatches ack entry.header then replica.countPrepareAck cfg offset ack.author
        else replica

/-- Stop trusting the local head: it conflicts with, or falls short of, what the primary has committed. -/
def distrustHead (replica : Replica χ) : Replica χ :=
  { replica.releaseQueuedRequests with status := .recoveringHead }

/-- Take the commit bound of a heartbeat. -/
def learnCommit (replica : Replica χ) (commit monotonic : Nat) : Replica χ :=
  { replica with
    lastPrimaryCommit := monotonic
    commitMax := max replica.commitMax commit }

def handleCommit (replica : Replica χ) (cfg : Config) (inputs : Inputs χ) (view author : Nat)
    (checksum : χ) (commit monotonic : Nat) : Replica χ :=
  if replica.status ≠ .normal ∨ replica.isPrimary cfg ∨ view ≠ replica.view ∨
      author ≠ cfg.primary replica.view ∨ monotonic ≤ replica.lastPrimaryCommit then
    replica
  else
    let conflicting : Bool := (replica.localHeaderEvidence cfg commit).1.any
      (fun header => header.checksum ≠ checksum)
    if conflicting then
      if replica.commitMin < commit then replica.distrustHead.requestView cfg inputs view else replica
    else
      let replica := replica.learnCommit commit monotonic
      if replica.headOp < commit ∧ ¬ replica.commitInFlight then
        replica.distrustHead.requestView cfg inputs view
      else replica

/-! ## The commit pipeline -/

/-- Move the first entry to a stage. -/
def setStage (replica : Replica χ) (stage : CommitStage) : Replica χ :=
  replica.modifyEntry 0 fun entry => { entry with stage := stage }

def completeCommitEntry (replica : Replica χ) (cfg : Config) (inputs : Inputs χ)
    (next : Replica χ → Replica χ) : Replica χ :=
  let replica := replica.popPipeline
  if replica.stateSync.stage = .idle ∧ replica.pipeline = [] ∧ replica.status = .normal ∧
      replica.commitMin < replica.commitMax then
    match replica.beginRepairWindow cfg inputs replica.view replica.commitMax with
    | (replica, true) => replica
    | (replica, false) => replica.fail .replicaInvariant
  else if replica.stateSync.stage = .idle then next (replica.dequeueRequest cfg inputs)
  else replica

/-- `yieldCheckpointToView`, on the first entry. -/
def yieldCheckpointToView (replica : Replica χ) (cfg : Config) (inputs : Inputs χ)
    (next : Replica χ → Replica χ) : Replica χ :=
  let target := replica.pendingView
  let replica := { replica with pendingView := 0, checkpointTarget := 0, pendingCheckpoint := none }
  ((replica.setStage .idle).beginViewChangeNow cfg inputs target).completeCommitEntry cfg inputs next

/-- `buildCheckpointState`: the block references come from the state machine and the allocator. -/
def buildCheckpointState (replica : Replica χ) (cfg : Config) (inputs : Inputs χ) :
    Except ReplicaError (CheckpointState χ) :=
  match replica.wal.recoveredHeader cfg.cluster replica.checkpointTarget with
  | none => .error (.wal .recovery)
  | some header =>
    let state : CheckpointState χ := { inputs.checkpointBlocks replica.checkpointTarget with
      header := header
      parentID := replica.checkpointID
      grandparentID := replica.checkpoint.parentID
      release := cfg.currentRelease }
    if state.valid (cfg.validation : SuperblockValidation χ).checkpointValidation then .ok state
    else .error .invalidCheckpoint

/-- The superblock `applyCheckpoint` writes. -/
def checkpointSuperblock (replica : Replica χ) (checkpoint : CheckpointState χ) : Superblock χ :=
  let state := replica.durable.superblock.state
  replica.nextSuperblock { state with
    checkpoint := checkpoint
    commitMax := replica.commitMax
    syncMin := if replica.syncRangeRepaired then 0 else state.syncMin
    syncMax := if replica.syncRangeRepaired then 0 else state.syncMax }

/-- `applyCheckpoint`, on the first entry. -/
def applyCheckpoint (replica : Replica χ) (cfg : Config) (inputs : Inputs χ)
    (next : Replica χ → Replica χ) : Replica χ :=
  if replica.view < replica.pendingView then replica.yieldCheckpointToView cfg inputs next
  else if (replica.pipeline.head?.map PipelineEntry.stage) ≠ some .checkpointData ∨
      replica.checkpointTarget = 0 then
    replica.fail .replicaInvariant
  else
    match replica.buildCheckpointState cfg inputs with
    | .error err => replica.fail err
    | .ok checkpoint =>
      match replica.submit inputs (.superblockPersist (replica.checkpointSuperblock checkpoint)) with
      | .error err => replica.fail err
      | .ok (replica, handle) =>
        { replica with pendingCheckpoint := some checkpoint }.modifyEntry 0 fun entry =>
          { entry with stage := .checkpointSuperblock, io := some handle }

/-- The sessions that are kept for the next checkpoint are told by their op. -/
def reachNext (replica : Replica χ) (cfg : Config) (op : Nat) : Replica χ × Except ReplicaError (Option Nat) :=
  reachCheckpoint cfg.cluster replica.checkpointOp op .replicaInvariant
    (fun target replica => .ok (if op = target then { replica with checkpointSessionOp := target } else replica))
    checkpointSessionOp replica

/-- `afterCompact`, on the first entry, which holds `op`. -/
def afterCompact (replica : Replica χ) (cfg : Config) (inputs : Inputs χ) (op : Nat)
    (next : Replica χ → Replica χ) : Replica χ :=
  if replica.view < replica.pendingView then replica.yieldCheckpointToView cfg inputs next
  else
    match replica.reachNext cfg op with
    | (replica, .error err) => replica.fail err
    | (replica, .ok none) => replica.completeCommitEntry cfg inputs next
    | (replica, .ok (some target)) =>
      let replica := { replica with checkpointTarget := target }.setStage .checkpointData
      if inputs.checkpointReady op then replica.applyCheckpoint cfg inputs next else replica

/-- `continueCommitMaintenance`, on the first entry. -/
def continueCommitMaintenance (replica : Replica χ) (cfg : Config) (inputs : Inputs χ) (op : Nat)
    (next : Replica χ → Replica χ) : Replica χ :=
  if (op + 1) % cfg.cluster.compactionOps ≠ 0 then
    (replica.setStage .checkpointDurable).afterCompact cfg inputs op next
  else
    let replica := replica.setStage .compact
    if inputs.compactReady op then replica.afterCompact cfg inputs op next else replica

/-- What `finishCommit` records. -/
def recordCommit (replica : Replica χ) (header : Header χ) : Replica χ :=
  let execution : Execution χ := { before := replica.commitMin, header := header, live := true }
  { replica with
    commitMin := header.op
    commitMax := max replica.commitMax header.op
    lastCommitTimestamp := header.timestamp
    durable := { replica.durable with executed := execution :: replica.durable.executed } }

/-- `finishCommit`, on the first entry. -/
def finishCommit (replica : Replica χ) (cfg : Config) (inputs : Inputs χ) (header : Header χ)
    (next : Replica χ → Replica χ) : Replica χ :=
  (replica.recordCommit header).continueCommitMaintenance cfg inputs header.op next

/-- The length of the reply `executeEntry` builds; `none` where it has no operation to execute. -/
def replyLength (inputs : Inputs χ) (header : Header χ) : Option Nat :=
  match header.operation with
  | .register => some 64
  | .noop => some 0
  | .reconfigure => some 4
  | .application _ => some (inputs.replyLength header.op)
  | _ => none

/-- `executeEntry`, on the first entry. -/
def executeEntry (replica : Replica χ) (cfg : Config) (inputs : Inputs χ) (header : Header χ)
    (next : Replica χ → Replica χ) : Replica χ :=
  if header.client = 0 then replica.finishCommit cfg inputs header next
  else
    match replyLength inputs header with
    | none => replica.fail .stateMachine
    | some length =>
      if cfg.cluster.applicationReplySizeMax < length then replica.fail .stateMachine
      else if length = 0 then replica.finishCommit cfg inputs header next
      else
        match replica.submit inputs .replyWrite with
        | .error err => replica.fail err
        | .ok (replica, handle) =>
          replica.modifyEntry 0 fun entry => { entry with io := some handle }

/-- The guard of `advanceCommit` before it looks at the first entry. -/
def mayCommit (replica : Replica χ) (inputs : Inputs χ) : Bool :=
  ¬ replica.stateSyncAwaitingOpen ∧ ¬ inputs.replyRepairBlocksCommit ∧
    (replica.status = .normal ∨
      (replica.status = .recoveringHead ∧ replica.repairViewValid ∧ replica.repairViewRebuilt)) ∧
    replica.fatalErr.isNone

/-- Whether the first entry is ready to commit. -/
def entryReady (replica : Replica χ) (cfg : Config) (entry : PipelineEntry χ) : Bool :=
  entry.durable ∧
    if replica.isPrimary cfg then entry.quorum else entry.header.op ≤ replica.commitMax

/-- One round of `advanceCommit`. -/
def advanceCommitRound (replica : Replica χ) (cfg : Config) (inputs : Inputs χ)
    (next : Replica χ → Replica χ) : Replica χ :=
  if ¬ replica.mayCommit inputs then replica
  else
    match replica.pipeline with
    | [] => replica
    | entry :: _ =>
      if ¬ replica.entryReady cfg entry then replica
      else
        match entry.stage with
        | .idle | .start | .checkPrepare =>
          -- `startPrefetch`
          if ¬ entry.header.operation.prefetches ∨ inputs.prefetchReady entry.header.op then
            next (replica.setStage .stall)
          else replica.setStage .prefetch
        | .stall | .replySetup =>
          (replica.setStage .execute).executeEntry cfg inputs entry.header next
        | _ => replica

def advanceCommitRounds (cfg : Config) (inputs : Inputs χ) : Nat → Replica χ → Replica χ
  | 0, replica => replica
  | rounds + 1, replica =>
    replica.advanceCommitRound cfg inputs (advanceCommitRounds cfg inputs rounds)

/-- Two rounds for each entry, those that a queued request becomes included. -/
def commitRounds (replica : Replica χ) : Nat :=
  2 * (replica.pipeline.length + replica.requestQueue.length) + 2

def advanceCommit (replica : Replica χ) (cfg : Config) (inputs : Inputs χ) : Replica χ :=
  advanceCommitRounds cfg inputs replica.commitRounds replica

/-- The rounds that follow a commit finished outside `advanceCommit`. -/
def commitNext (replica : Replica χ) (cfg : Config) (inputs : Inputs χ) : Replica χ → Replica χ :=
  advanceCommitRounds cfg inputs replica.commitRounds

/-- What `finishCheckpointPersistence` publishes. -/
def publishCheckpoint (replica : Replica χ) (checkpoint : CheckpointState χ) (sessionOp : Nat) :
    Replica χ :=
  { replica with
    checkpointRepairDrain := false
    checkpoint := checkpoint
    checkpointSessionOp := sessionOp
    checkpointTarget := 0
    pendingCheckpoint := none
    syncRangeRepaired := false }

/-- `finishCheckpointPersistence`, on the first entry. -/
def finishCheckpointPersistence (replica : Replica χ) (cfg : Config) (inputs : Inputs χ) :
    Replica χ :=
  match replica.pipeline.head?, replica.pendingCheckpoint with
  | some entry, some checkpoint =>
    if entry.stage ≠ .checkpointSuperblock then replica.fail .replicaInvariant
    else if inputs.blockRepairActive then { replica with checkpointRepairDrain := true }
    else
      match checkpointAfter cfg.cluster checkpoint.prepareOp with
      | none =>
        { replica with
          checkpointRepairDrain := false, checkpoint := checkpoint, checkpointSessionOp := 0
          }.fail .replicaInvariant
      | some nextCheckpoint =>
        let replica := replica.publishCheckpoint checkpoint
          (if entry.header.op = nextCheckpoint then nextCheckpoint else 0)
        let replica :=
          if replica.resumesPendingView then replica.resumePendingViewChange cfg inputs else replica
        replica.completeCommitEntry cfg inputs (replica.commitNext cfg inputs)
  | _, _ => replica.fail .replicaInvariant

def finishCheckpointRepairDrain (replica : Replica χ) (cfg : Config) (inputs : Inputs χ) : Replica χ :=
  if ¬ replica.checkpointRepairDrain ∨ inputs.blockRepairActive ∨ replica.fatalErr.isSome then replica
  else replica.finishCheckpointPersistence cfg inputs

end Replica

end Supervsr
