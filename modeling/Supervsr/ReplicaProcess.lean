import Supervsr.ReplicaRepair

/-
# Supervsr.ReplicaProcess — the event loop: frames, completions, timers and the end of a round

`Process` takes completed storage requests, frames and state-machine completions one at a time and ends
a round by resuming what was put off: a pending view change, a view under installation,
acknowledgements, commits, a state sync.  A round ends with the check of the replica's own invariants;
an error there, or one recorded by any handler, stops the replica for good.

Storage requests are executed by workers while the loop goes on.  Each request is one step here: the
journal and the superblock store take a lock for the whole of theirs.
-/

namespace Supervsr

variable {χ : Type}

/-! ## Validation of frames -/

/-- `validClientOperation`. -/
def Operation.validClient : Operation → Bool
  | .reconfigure | .noop | .application _ => true
  | _ => false

/-- `validPreparedOperation`. -/
def Operation.validPrepared : Operation → Bool
  | .register | .reconfigure | .pulse | .upgrade | .noop | .application _ => true
  | _ => false

section Validation

variable [DecidableEq χ] [Checksums χ]

/-- `validateRequest`, without the shape of the body. -/
def Request.valid (cfg : Config) (request : Request χ) : Bool :=
  request.release ≠ 0 ∧ request.release ≤ cfg.currentRelease ∧
    if request.operation = .register then request.request = 0
    else request.request ≠ 0 ∧ request.operation.validClient

/-- `validRootPrepare`.  It asks `isZero16` about the 32 bytes of checkpoint and client, which is false
whatever they hold. -/
def Header.validRoot (header : Header χ) : Bool :=
  header.op = 0 ∧ header.commit = 0 ∧ header.timestamp = 0 ∧ header.parent = Checksums.zero ∧
    header.requestChecksum = Checksums.zero ∧ false ∧ header.request = 0 ∧ header.release = 0

/-- `validatePrepare`, without the shape of the body. -/
def Header.validPrepare (cfg : Config) (header : Header χ) : Bool :=
  if header.operation = .root ∨ header.operation = .reserved then header.validRoot
  else
    header.release ≠ 0 ∧ header.release ≤ cfg.currentRelease ∧ header.op ≠ 0 ∧
      header.commit < header.op ∧ header.timestamp ≠ 0 ∧ header.operation.validPrepared ∧
      (header.operation = .register → header.request = 0 ∧ header.client ≠ 0)

/-- `validatePrepareOK`. -/
def PrepareOK.valid (ack : PrepareOK χ) : Bool :=
  ack.op ≠ 0 ∧ ack.commitMin < ack.op ∧ ack.timestamp ≠ 0 ∧ ack.operation ≠ .reserved ∧
    ack.operation ≠ .root

/-- `validateJoinView`. -/
def JoinView.valid (cfg : Config) (join : JoinView χ) : Bool :=
  join.commit ≤ join.head ∧ join.checkpoint ≤ join.commit ∧ join.entries.length ≠ 0 ∧
    join.entries.length ≤ cfg.pipelineMax + 1

/-- `validateView`. -/
def ViewMessage.valid (cfg : Config) (message : ViewMessage χ) : Bool :=
  message.commit ≤ message.head ∧ message.checkpointOp ≤ message.commit ∧
    message.headers.length ≤ cfg.pipelineMax + 1

/-- `ValidateSemantics`: the author a command has to have, and `validateCommand`. -/
def validateSemantics (cfg : Config) : Message χ → Bool
  | .request request => request.valid cfg
  | .prepare header => header.validPrepare cfg
  | .prepareOK ack => ack.author < cfg.memberCount ∧ ack.valid
  | .commit view author _ _ checkpointOp commit monotonic =>
    author = cfg.primary view ∧ checkpointOp ≤ commit ∧ monotonic ≠ 0
  | .exitView _ author => author < cfg.memberCount
  | .joinView join => join.author < cfg.memberCount ∧ join.valid cfg
  | .view message => message.author = cfg.primary message.view ∧ message.valid cfg
  | .getView _ author nonce => author < cfg.memberCount ∧ nonce ≠ 0
  | .headers author headers => author < cfg.memberCount ∧ headers.length ≠ 0 ∧ headers.length ≤ 64
  | .getHeaders author start «end» => author < cfg.memberCount ∧ start ≤ «end»
  | .getPrepare author view _ checksum =>
    author < cfg.memberCount ∧ (view = 0 ↔ checksum ≠ Checksums.zero)
  | .ping _ author _ => author < cfg.memberCount
  | .pong _ author => author < cfg.memberCount

end Validation

namespace Replica

variable [DecidableEq χ] [Checksums χ]

/-! ## Frames -/

/-- `handleHigherViewEvidence`: the replica, and whether the frame is dropped. -/
def handleHigherViewEvidence (replica : Replica χ) (cfg : Config) (inputs : Inputs χ) :
    Message χ → Replica χ × Bool
  | .prepare header =>
    replica.prepareEvidence cfg inputs header.view
      (replica.repairHeader.any fun wanted => wanted.checksum = header.checksum)
  | .commit view _ _ _ _ _ _ => replica.prepareEvidence cfg inputs view false
  | .exitView view author => replica.viewEvidence cfg inputs view author false
  | .joinView join => replica.viewEvidence cfg inputs join.view join.author false
  | .ping view author _ => replica.viewEvidence cfg inputs view author true
  | .pong view author => replica.viewEvidence cfg inputs view author true
  | _ => (replica, false)

def handlePing (replica : Replica χ) (cfg : Config) (author : Nat) : Replica χ :=
  replica.send (some author) (.pong replica.durableView cfg.localIndex)

/-- The dispatch of `handleMessage`. -/
def dispatchMessage (replica : Replica χ) (cfg : Config) (inputs : Inputs χ) :
    Message χ → Replica χ
  | .request request => replica.handleRequest cfg inputs request inputs.sample
  | .prepare header =>
    match replica.handleRepairPrepare cfg inputs header with
    | some replica => replica
    | none => replica.handlePrepare cfg inputs header
  | .prepareOK ack => replica.handlePrepareOK cfg ack
  | .commit view author checksum _ _ commit monotonic =>
    replica.handleCommit cfg inputs view author checksum commit monotonic
  | .exitView view author => replica.handleExitView cfg inputs view author
  | .joinView join => replica.handleJoinView cfg inputs join
  | .view message => replica.handleView cfg inputs message
  | .getView _ author nonce => replica.handleGetView cfg author nonce
  | .headers author headers => replica.handleHeaders cfg inputs author headers
  | .getHeaders author start «end» => replica.handleGetHeaders cfg author start «end»
  | .getPrepare author view op checksum => replica.handleGetPrepare cfg author view op checksum
  | .ping _ author _ => replica.handlePing cfg author
  | .pong _ _ => replica

/-- `handleMessage`, behind the test of `Process` that drops frames during a state sync. -/
def handleMessage (replica : Replica χ) (cfg : Config) (inputs : Inputs χ) (message : Message χ) :
    Replica χ :=
  if replica.stateSync.stage ≠ .idle ∨ replica.stateSync.replayRunning ∨
      ¬ validateSemantics cfg message then
    replica
  else
    match replica.handleHigherViewEvidence cfg inputs message with
    | (replica, true) => replica
    | (replica, false) => replica.dispatchMessage cfg inputs message

/-! ## Storage requests -/

/-- What a worker does for one request: the replica with the new storage, and the result. -/
def execute (replica : Replica χ) (cfg : Config) :
    IOOperation χ → Replica χ × Except ReplicaError Unit
  | .sync | .resize | .replyWrite => (replica, .ok ())
  | .walAppend header reusableThrough =>
    match replica.wal.append replica.durable.zones cfg.cluster header reusableThrough with
    | .error err => (replica, .error (.wal err))
    | .ok (wal, zones) =>
      ({ replica with wal := wal, durable := { replica.durable with zones := zones } }, .ok ())
  | .superblockPersist next =>
    match persistSuperblock cfg replica.durable.superblock next with
    | .error err => (replica, .error (.superblock err))
    | .ok superblock =>
      ({ replica with durable := { replica.durable with superblock := superblock } }, .ok ())

/-- A worker executes the queued request with this handle. -/
def perform (replica : Replica χ) (cfg : Config) (handle : Nat) : Replica χ :=
  match replica.io.find? (fun pending => pending.handle = handle ∧ pending.result.isNone) with
  | none => replica
  | some pending =>
    let (replica, result) := replica.execute cfg pending.operation
    { replica with io := replica.io.map fun other =>
        if other.handle = handle then { other with result := some result } else other }

/-- The last case of `handleIOCompletion`: the request of a pipeline entry. -/
def completeEntryIo (replica : Replica χ) (cfg : Config) (inputs : Inputs χ) (offset : Nat)
    (header : Header χ) (operation : IOOperation χ) (result : Except ReplicaError Unit) : Replica χ :=
  let replica := replica.modifyEntry offset fun entry => { entry with io := none }
  match result with
  | .error err => replica.fail err
  | .ok () =>
    match operation with
    | .walAppend _ _ =>
      (replica.modifyEntry offset fun entry => { entry with durable := true }).acknowledgeEntry cfg offset
    | .replyWrite => replica.finishCommit cfg inputs header (replica.commitNext cfg inputs)
    | .superblockPersist _ => replica.finishCheckpointPersistence cfg inputs
    | _ => replica.fail .replicaInvariant

def handleIOCompletion (replica : Replica χ) (cfg : Config) (inputs : Inputs χ) (handle : Nat)
    (operation : IOOperation χ) (result : Except ReplicaError Unit) : Replica χ :=
  if replica.stateSync.io = some handle then replica.handleStateSyncPersistence result
  else if replica.viewIo = some handle then replica.handleViewPersistence cfg inputs result
  else
    match replica.repairWrite.filter (fun write => write.handle = handle) with
    | some write => replica.finishRepairWrite write result
    | none =>
      match replica.pipeline.findIdx? (fun entry => entry.io = some handle) with
      | none => replica
      | some offset =>
        match replica.pipeline[offset]? with
        | none => replica
        | some entry => replica.completeEntryIo cfg inputs offset entry.header operation result

/-- `Process` takes the completion with this handle, if there is one. -/
def complete (replica : Replica χ) (cfg : Config) (inputs : Inputs χ) (handle : Nat) : Replica χ :=
  match replica.completedIo handle with
  | none => replica
  | some (operation, result) =>
    let replica := replica.releaseIo handle
    if replica.stateSync.stage = .cancelingGrid then replica.handleStateSyncDrainIo handle result
    else replica.handleIOCompletion cfg inputs handle operation result

/-! ## State-machine completions -/

/-- The kinds of completion the first pipeline entry waits for. -/
inductive EntryCompletion where
  | prefetch
  | compact
  | checkpoint
deriving DecidableEq, Repr

/-- Whether `Process` hands state-machine completions to the state sync only. -/
def drainsCompletions (replica : Replica χ) : Bool :=
  replica.stateSync.stage = .cancelingGrid ∨ replica.stateSync.stage = .updatingCheckpoint ∨
    replica.stateSync.replayRunning

/-- `handleSMCompletion` for a pipeline entry.  A completion is outstanding for the first entry only,
and each is delivered once: the stage that waits for it tells. -/
def handleEntryCompletion (replica : Replica χ) (cfg : Config) (inputs : Inputs χ) (generation : Nat)
    (kind : EntryCompletion) : Replica χ :=
  if replica.drainsCompletions then replica
  else
    match replica.pipeline with
    | [] => replica
    | entry :: _ =>
      if entry.generation ≠ generation then replica
      else
        match kind, entry.stage with
        | .prefetch, .prefetch => replica.modifyEntry 0 fun entry => { entry with stage := .stall }
        | .compact, .compact =>
          replica.afterCompact cfg inputs entry.header.op (replica.commitNext cfg inputs)
        | .checkpoint, .checkpointData => replica.applyCheckpoint cfg inputs (replica.commitNext cfg inputs)
        | _, _ => replica

/-! ## Timers -/

/-- `replicaTimers`. -/
inductive Timer where
  | ping
  | prepare
  | abdication
  | commit
  | exit
  | join
  | pulse
  | repair
deriving DecidableEq, Repr

/-- `handlePrepareTimeout`: resend what a backup has not acknowledged. -/
def handlePrepareTimeout (replica : Replica χ) (cfg : Config) : Replica χ :=
  if replica.status ≠ .normal ∨ ¬ replica.isPrimary cfg then replica
  else
    replica.pipeline.foldl (fun replica entry =>
      if entry.quorum then replica
      else
        (List.range cfg.activeCount).foldl (fun replica member =>
          if member ∈ entry.acks ∨ member = cfg.localIndex then replica
          else replica.send (some member) (.prepare entry.prepare)) replica) replica

def sendCommit (replica : Replica χ) (cfg : Config) (inputs : Inputs χ) : Replica χ :=
  match (replica.localHeaderEvidence cfg replica.commitMin).1 with
  | none => replica.fail .replicaInvariant
  | some header =>
    replica.send none (.commit replica.view cfg.localIndex header.checksum replica.checkpointID
      replica.checkpointOp replica.commitMin (max 1 inputs.sample.monotonic))

def sendExitView (replica : Replica χ) (cfg : Config) (inputs : Inputs χ) : Replica χ :=
  (replica.handleExitView cfg inputs replica.view cfg.localIndex).send none
    (.exitView replica.view cfg.localIndex)

def handleAbdicationTimeout (replica : Replica χ) (cfg : Config) (inputs : Inputs χ) : Replica χ :=
  if replica.status = .normal ∧ replica.isPrimary cfg ∧
      replica.pipeline.head?.any (fun entry => ¬ entry.quorum) then
    replica.sendExitView cfg inputs
  else replica

def handleJoinTimeout (replica : Replica χ) (cfg : Config) (inputs : Inputs χ) : Replica χ :=
  if replica.status ≠ .viewChange ∨ replica.durableView ≠ replica.view then
    { replica with joinAttempts := 0 }
  else if replica.joinAttempts = 0 then { replica.sendJoinView cfg with joinAttempts := 1 }
  else if replica.view = maxView then replica.fail .replicaInvariant
  else { replica with joinAttempts := 0 }.beginViewChange cfg inputs (replica.view + 1)

def handleExitTimeout (replica : Replica χ) (cfg : Config) (inputs : Inputs χ) : Replica χ :=
  if replica.status = .normal ∧ ¬ replica.isPrimary cfg ∧ inputs.failureRed then
    replica.sendExitView cfg inputs
  else replica

/-- `handlePulseTimeout` in a cluster without a `ReleaseExecutor`, which has no upgrade to propose. -/
def handlePulseTimeout (replica : Replica χ) (cfg : Config) (inputs : Inputs χ) : Replica χ :=
  if replica.status ≠ .normal ∨ ¬ replica.isPrimary cfg ∨ replica.durableView ≠ replica.view ∨
      (1 < cfg.activeCount ∧ ¬ inputs.sample.synchronized) then
    replica
  else if replica.pipeline.length = cfg.pipelineMax ∨ ¬ inputs.pulseNeeded ∨
      replica.pipeline.any (fun entry => entry.header.operation = .pulse) then
    replica
  else
    (replica.broadcastPrepare cfg inputs (replica.pulsePrepare cfg inputs.sample.wall)).getD replica

/-- `tickTimers`, for one timer that has fired. -/
def handleTimer (replica : Replica χ) (cfg : Config) (inputs : Inputs χ) : Timer → Replica χ
  | .ping => replica.send none (.ping replica.durableView cfg.localIndex replica.checkpointOp)
  | .prepare => replica.handlePrepareTimeout cfg
  | .abdication => replica.handleAbdicationTimeout cfg inputs
  | .commit =>
    if replica.status = .normal ∧ replica.isPrimary cfg then replica.sendCommit cfg inputs else replica
  | .exit => replica.handleExitTimeout cfg inputs
  | .join => replica.handleJoinTimeout cfg inputs
  | .pulse => replica.handlePulseTimeout cfg inputs
  | .repair => replica.handleRepairTimeout cfg inputs

/-! ## The end of a round -/

/-- `Snapshot` and `validateReplicaSnapshot`. -/
def validSnapshot (replica : Replica χ) (cfg : Config) : Bool :=
  let committing : Bool := replica.pipeline.head?.any fun entry =>
    (entry.stage = .checkpointDurable ∨ entry.stage = .compact ∨ entry.stage = .checkpointData ∨
      entry.stage = .checkpointSuperblock) ∧ entry.header.op = replica.commitMin
  let pending := if committing then replica.pipeline.length - 1 else replica.pipeline.length
  replica.durableView ≤ replica.view ∧ replica.logView ≤ replica.view ∧
    (replica.status = .normal → replica.view = replica.logView ∧ replica.view = replica.durableView) ∧
    replica.checkpointOp ≤ replica.commitMin ∧ replica.commitMin ≤ replica.headOp ∧
    replica.commitMin ≤ replica.commitMax ∧ replica.headOp - cfg.pipelineMax ≤ replica.commitMax ∧
    (replica.status = .normal → replica.isPrimary cfg →
      replica.commitMin = replica.commitMax ∧ replica.headOp - replica.commitMin = pending)

/-- The end of a round, first part: a view change that was put off. -/
def resumeRound (replica : Replica χ) (cfg : Config) (inputs : Inputs χ) : Replica χ :=
  if ¬ replica.stateSyncAwaitingOpen ∧ replica.view < replica.pendingView ∧ replica.viewIo.isNone ∧
      ¬ replica.commitInFlight then
    replica.resumePendingViewChange cfg inputs
  else replica

/-- The end of a round, second part: the view under installation, and acknowledgements. -/
def installRound (replica : Replica χ) (cfg : Config) (inputs : Inputs χ) : Replica χ :=
  if replica.stateSync.stage = .idle ∧ ¬ replica.stateSync.replayRunning ∧
      ¬ replica.stateSyncAwaitingOpen then
    let replica := if replica.repairViewValid then replica.continueRecoveringView cfg inputs else replica
    replica.acknowledgeDurablePrepares cfg
  else replica

/-- The end of a round, third part: commits. -/
def commitRound (replica : Replica χ) (cfg : Config) (inputs : Inputs χ) : Replica χ :=
  if ¬ replica.stateSync.replayRunning ∧ replica.stateSync.stage = .idle then
    replica.advanceCommit cfg inputs
  else replica

/-- The part of `Process` behind its loop, up to the checks. -/
def endRound (replica : Replica χ) (cfg : Config) (inputs : Inputs χ) : Replica χ :=
  (((replica.resumeRound cfg inputs).installRound cfg inputs).commitRound cfg inputs).dispatchStateSync
    cfg inputs

/-- Whether a round that has come to its end goes on to the next. -/
def continues (replica : Replica χ) (cfg : Config) : Bool :=
  replica.fatalErr.isNone ∧ replica.validSnapshot cfg

/-! ## Events -/

/-- What the loop reacts to, and the steps of the workers beside it. -/
inductive Event (χ : Type) where
  | receive (message : Message χ)
  | perform (handle : Nat)
  | complete (handle : Nat)
  | entryCompletion (generation : Nat) (kind : EntryCompletion)
  | syncCompletion (generation : Nat) (kind : SyncCompletion)
  | replayed
  | blocksRepaired
  | repairDrained
  | timer (timer : Timer)
deriving DecidableEq, Repr

/-- The handler of each event. -/
def handle (replica : Replica χ) (cfg : Config) (inputs : Inputs χ) : Event χ → Replica χ
  | .receive message => replica.handleMessage cfg inputs message
  | .perform handle => replica.perform cfg handle
  | .complete handle => replica.complete cfg inputs handle
  | .entryCompletion generation kind => replica.handleEntryCompletion cfg inputs generation kind
  | .syncCompletion generation kind => replica.handleStateSyncCompletion cfg inputs generation kind
  | .replayed => replica.finishInterruptedReplay cfg inputs
  | .blocksRepaired => replica.stateSyncBlocksRepaired cfg inputs
  | .repairDrained => replica.finishCheckpointRepairDrain cfg inputs
  | .timer timer => if replica.stateSync.replayRunning then replica else replica.handleTimer cfg inputs timer

end Replica

end Supervsr
