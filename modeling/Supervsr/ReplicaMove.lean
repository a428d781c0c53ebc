import Mathlib.Logic.Relation
import Supervsr.ReplicaProcess

/-
# Supervsr.ReplicaMove — the elementary things a replica does to its state

Every handler is a sequence of moves: an update of a few fields under the conditions its callers have
checked.  `Supervsr.ReplicaMoveNormal`, `Supervsr.ReplicaMoveView` and `Supervsr.ReplicaMoveRound` show that
of each handler; invariants of runs are then proved move by move and never look at a handler again.

A step is taken in surroundings: the frames that can reach the replica, which the moves that take data
from one name, and what is known not to coincide in it.  Some properties need to know that a state sync
or the installation of a view is not crossed by a view change, that no reply is being written when a
repair window opens, or that a view change does not keep a checkpoint from being taken.
-/

namespace Supervsr

variable {χ : Type}

/-- An entry without its acknowledgements. -/
def PipelineEntry.unacknowledged (entry : PipelineEntry χ) : PipelineEntry χ :=
  { entry with acks := [], quorum := false }

/-- The stages of an entry whose op is already executed. -/
def CommitStage.maintains : CommitStage → Bool
  | .checkpointDurable | .compact | .checkpointData | .checkpointSuperblock => true
  | _ => false

/-- What is known about the step a move is part of. -/
structure Surroundings (χ : Type) where
  heard : Message χ → Prop
  /-- neither a state sync nor an installation is crossed by a view change or a checkpoint -/
  calm : Prop
  /-- no reply is being written when a `View` opens a repair window -/
  unreplying : Prop
  /-- no view change is pending when the op that triggers a checkpoint is completed -/
  punctual : Prop

namespace Replica

variable [DecidableEq χ] [Checksums χ]

/-- What an acknowledgement rests on: a durable pipeline entry, or an executed prepare in the journal. -/
def Vouches (replica : Replica χ) (cfg : Config) (header : Header χ) : Prop :=
  replica.canAcknowledge cfg header true = true ∧
    ((∃ entry ∈ replica.pipeline, entry.header = header ∧ entry.durable = true) ∨
      (header.op ≤ replica.commitMin ∧ replica.storedHeader cfg header.op = some header))

/-- What a frame says about the replica that sends it; a `View` has a move of its own. -/
def Says (replica : Replica χ) (cfg : Config) : Message χ → Prop
  | .request _ => False
  | .view _ => False
  | .prepare header =>
    (∃ entry ∈ replica.pipeline, entry.prepare = header) ∨
      WAL.readPrepare replica.durable.zones cfg.cluster header.op = .ok header
  | .prepareOK ack => ∃ header, ack = replica.prepareOK cfg header ∧ replica.Vouches cfg header
  | .commit view author checksum checkpointID checkpointOp commit monotonic =>
    replica.status = .normal ∧ replica.isPrimary cfg = true ∧ view = replica.view ∧
      author = cfg.localIndex ∧
      (∃ header, (replica.localHeaderEvidence cfg replica.commitMin).1 = some header ∧
        checksum = header.checksum) ∧
      checkpointID = replica.checkpointID ∧ checkpointOp = replica.checkpointOp ∧
      commit = replica.commitMin ∧ 0 < monotonic
  | .exitView _ author => author = cfg.localIndex
  | .joinView join =>
    join = replica.joinView cfg ∧ replica.status = .viewChange ∧ replica.durableView = replica.view
  | .getView _ author nonce => author = cfg.localIndex ∧ nonce ≠ 0
  | .headers author headers =>
    author = cfg.localIndex ∧ headers ≠ [] ∧ headers.length ≤ 64 ∧
      ∀ header ∈ headers, header.operation ≠ .reserved ∧
        ∃ op, replica.storedHeader cfg op = some header
  | .getHeaders author _ _ => author = cfg.localIndex
  | .getPrepare author view _ _ => author = cfg.localIndex ∧ view = 0
  | .ping view author checkpointOp =>
    author = cfg.localIndex ∧ view = replica.durableView ∧ checkpointOp = replica.checkpointOp
  | .pong view author => author = cfg.localIndex ∧ view = replica.durableView

/-- Whether a state sync is under way: from the decision until the state machine has opened the
checkpoint and, after a restart, the log is replayed. -/
def syncing (replica : Replica χ) : Bool :=
  replica.stateSync.stage ≠ .idle ∨ replica.stateSyncAwaitingOpen ∨ replica.stateSync.replayRunning

omit [DecidableEq χ] [Checksums χ] in
theorem syncing_eq_false {replica : Replica χ} : replica.syncing = false ↔
    replica.stateSync.stage = .idle ∧ replica.stateSyncAwaitingOpen = false ∧
      replica.stateSync.replayRunning = false := by
  simp [syncing]

omit [DecidableEq χ] [Checksums χ] in
theorem not_syncing {P : Prop} {replica : Replica χ} (syncs : replica.syncing = true)
    (idle : replica.stateSync.stage = .idle) (waits : replica.stateSyncAwaitingOpen = false)
    (replays : replica.stateSync.replayRunning = false) : P :=
  absurd (syncs.symm.trans (syncing_eq_false.mpr ⟨idle, waits, replays⟩)) (by decide)

/-- The op whose completion triggers the next checkpoint. -/
def nextTrigger (replica : Replica χ) (cfg : Config) : Option Nat :=
  (checkpointAfter cfg.cluster replica.checkpointOp).bind (checkpointTrigger cfg.cluster)

/-- What a completed request is taken for: replies and checkpoints belong to the first pipeline entry. -/
structure Attributed (given : Surroundings χ) (replica : Replica χ) : Prop where
  reply : ∀ {handle offset : Nat} {result : Except ReplicaError Unit} {entry : PipelineEntry χ},
    replica.completedIo handle = some (.replyWrite, result) → replica.pipeline[offset]? = some entry →
    entry.io = some handle → offset = 0 ∧ entry.stage = .execute
  checkpoint : ∀ {handle offset : Nat} {next : Superblock χ} {result : Except ReplicaError Unit}
    {entry : PipelineEntry χ}, replica.completedIo handle = some (.superblockPersist next, result) →
    replica.pipeline[offset]? = some entry → entry.io = some handle → offset = 0
  drained : given.calm → replica.checkpointRepairDrain = true →
    replica.syncing = false ∧ ∀ entry ∈ replica.pipeline.head?, entry.io = none
  unsynced : given.calm → ∀ {handle offset : Nat} {operation : IOOperation χ}
    {result : Except ReplicaError Unit} {entry : PipelineEntry χ},
    replica.completedIo handle = some (operation, result) → replica.pipeline[offset]? = some entry →
    entry.io = some handle → replica.stateSync.stage ≠ .cancelingGrid → replica.syncing = false
  persisting : given.calm → replica.viewIo ≠ none → replica.commitInFlight = false

/-- Where the bound of a repair window comes from: a `View`, or the replica's own bound. -/
def WindowSource (replica : Replica χ) (given : Surroundings χ) (view commit : Nat) : Prop :=
  (∃ message, given.heard (.view message) ∧ message.view = view ∧ message.commit = commit ∧
      replica.repairViewValid = false ∧ replica.viewIo = none ∧ replica.repairWrite = none ∧
      replica.view ≤ view ∧ replica.commitMax ≤ commit ∧ replica.syncing = false ∧
      (given.calm → replica.pendingView ≤ replica.view) ∧
      (given.unreplying → ∀ entry ∈ replica.pipeline, entry.stage ≠ .execute)) ∨
    (replica.status = .normal ∧ replica.pipeline = [] ∧ view = replica.view ∧
      commit = replica.commitMax ∧ replica.pendingView ≤ replica.view)

/-- What `handleView` has checked about the body of a `View` before it acts on it. -/
def acceptsView (replica : Replica χ) (cfg : Config) (message : ViewMessage χ) : Bool :=
  message.checkpoint.valid (cfg.validation : SuperblockValidation χ).checkpointValidation ∧
    message.headers.length ≠ 0 ∧ message.headers.length ≤ cfg.pipelineMax + 1 ∧
    message.headers.all (fun header => header.any fun header => header.view ≤ message.view) ∧
    replica.canonicalHeaders.take message.headers.length = message.headers ∧
    message.checkpoint.prepareOp ≤ message.commit ∧ message.commit ≤ message.head ∧
    viewProofFrom message.checkpoint message.head message.headers

/-- What a primary makes a prepare of: a request that has come in, or a pulse that is due. -/
def Creates (replica : Replica χ) (cfg : Config) (given : Surroundings χ) (header : Header χ) : Prop :=
  (∃ request wall,
      (given.heard (.request request) ∨ ∃ sample, (request, sample) ∈ replica.requestQueue) ∧
        header = replica.requestPrepare request wall) ∨
    ∃ wall, header = replica.pulsePrepare cfg wall

/-- A header named by a `View` or by one of the recorded joins. -/
def Names (replica : Replica χ) (given : Surroundings χ) (header : Header χ) : Prop :=
  (∃ message, given.heard (.view message) ∧ some header ∈ message.headers) ∨
    ∃ record op, some record ∈ replica.joins ∧ joinHeaderAt record op = some header

/-- One elementary update of the state of a replica. -/
inductive Move (cfg : Config) (given : Surroundings χ) : Replica χ → Replica χ → Prop where
  /-- bookkeeping of requests, retries and timers -/
  | quiet {replica : Replica χ} (requestQueue : List (Request χ × TimeSample)) (exitViewBits : List Nat)
      (joinAttempts getViewNonce getViewTarget getViewLast lastPrimaryCommit repairHeadersLast : Nat)
      (queued : ∀ queued ∈ requestQueue, queued ∈ replica.requestQueue ∨ given.heard (.request queued.1)) :
      Move cfg given replica { replica with
        requestQueue := requestQueue, exitViewBits := exitViewBits, joinAttempts := joinAttempts,
        getViewNonce := getViewNonce, getViewTarget := getViewTarget, getViewLast := getViewLast,
        lastPrimaryCommit := lastPrimaryCommit, repairHeadersLast := repairHeadersLast }
  | fail {replica : Replica χ} (err : ReplicaError) : Move cfg given replica (replica.fail err)
  | send {replica : Replica χ} (destination : Option Nat) {message : Message χ}
      (spoken : replica.Says cfg message) : Move cfg given replica (replica.send destination message)
  | announce {replica : Replica χ} (destination : Option Nat) (nonce : Nat)
      (normal : replica.status = .normal) (primary : replica.isPrimary cfg = true)
      (durable : replica.durableView = replica.view) :
      Move cfg given replica ((replica.buildView cfg nonce).1.send destination
        (.view (replica.buildView cfg nonce).2))
  -- prepares and acknowledgements
  | acks {replica : Replica χ} {pipeline : List (PipelineEntry χ)}
      (same : pipeline.map PipelineEntry.unacknowledged =
        replica.pipeline.map PipelineEntry.unacknowledged) :
      Move cfg given replica { replica with pipeline := pipeline }
  | accept {replica next : Replica χ} {inputs : Inputs χ} {header : Header χ}
      (normal : replica.status = .normal) (durable : replica.durableView = replica.view)
      (current : header.view = replica.view)
      (source : given.heard (.prepare header) ∨
        (replica.isPrimary cfg = true ∧ replica.Creates cfg given header))
      (accepted : replica.acceptPrepare cfg inputs header = some next) : Move cfg given replica next
  | learnCommit {replica : Replica χ} {checksum checkpointID : χ} {checkpointOp commit monotonic : Nat}
      (normal : replica.status = .normal)
      (heard : given.heard (.commit replica.view (cfg.primary replica.view) checksum checkpointID
        checkpointOp commit monotonic)) :
      Move cfg given replica (replica.learnCommit commit monotonic)
  | distrustHead {replica : Replica χ} (normal : replica.status = .normal) :
      Move cfg given replica replica.distrustHead
  -- view changes
  | pend {replica : Replica χ} {target : Nat} (higher : replica.view < target)
      (trusted : replica.status ≠ .recoveringHead)
      (busy : replica.viewIo ≠ none ∨ replica.commitInFlight = true)
      (undisturbed : given.calm → replica.syncing = true → replica.status ≠ .recovering) :
      Move cfg given replica { replica with pendingView := max replica.pendingView target }
  | settle {replica : Replica χ} (none_higher : replica.pendingView ≤ replica.view) :
      Move cfg given replica { replica with pendingView := 0 }
  | beginViewChange {replica : Replica χ} (inputs : Inputs χ) {target : Nat}
      (higher : replica.view < target) (trusted : replica.status ≠ .recoveringHead)
      (idle : replica.viewIo = none) (committed : replica.commitInFlight = false)
      (undisturbed : given.calm → replica.syncing = true → replica.status ≠ .recovering) :
      Move cfg given replica (replica.beginViewChangeNow cfg inputs target)
  | resume {replica : Replica χ} (inputs : Inputs χ) (higher : replica.view < replica.pendingView)
      (free : replica.viewIo = none) (committed : given.calm → replica.commitInFlight = false) :
      Move cfg given replica
        ({ replica with pendingView := 0 }.beginViewChangeNow cfg inputs replica.pendingView)
  | join {replica : Replica χ} {join : JoinView χ} (recordable : replica.recordable cfg join = true)
      (changing : replica.status = .viewChange) (current : join.view = replica.view)
      (primary : replica.isPrimary cfg = true) (durable : replica.durableView = replica.view)
      (source : (given.heard (.joinView join) ∧ replica.syncing = false) ∨ join = replica.joinView cfg) :
      Move cfg given replica
        { replica with joins := replica.joins.set join.author (some (joinRecord join)) }
  -- the commit pipeline
  | progress {replica : Replica χ} {entry : PipelineEntry χ} {rest : List (PipelineEntry χ)}
      {stage : CommitStage} (first : replica.pipeline = entry :: rest)
      (waits : entry.stage = .idle ∨ entry.stage = .start ∨ entry.stage = .checkPrepare ∨
        entry.stage = .prefetch ∨ entry.stage = .stall ∨ entry.stage = .replySetup)
      (ready : (entry.stage = .prefetch ∧ stage = .stall) ∨
        ((∃ inputs, replica.mayCommit inputs = true) ∧ replica.entryReady cfg entry = true))
      (ahead : stage = .prefetch ∨ stage = .stall ∨ stage = .execute) :
      Move cfg given replica (replica.setStage stage)
  | submitReply {replica next : Replica χ} {inputs : Inputs χ} {handle : Nat}
      {entry : PipelineEntry χ} {rest : List (PipelineEntry χ)}
      (first : replica.pipeline = entry :: rest)
      (waits : entry.stage = .stall ∨ entry.stage = .replySetup)
      (ready : (∃ inputs, replica.mayCommit inputs = true) ∧ replica.entryReady cfg entry = true)
      (submitted : (replica.setStage .execute).submit inputs .replyWrite = .ok (next, handle)) :
      Move cfg given replica (next.modifyEntry 0 fun entry => { entry with io := some handle })
  | commit {replica : Replica χ} {entry : PipelineEntry χ} {rest : List (PipelineEntry χ)}
      {stage : CommitStage} (first : replica.pipeline = entry :: rest)
      (waits : entry.stage = .stall ∨ entry.stage = .replySetup)
      (ready : (∃ inputs, replica.mayCommit inputs = true) ∧ replica.entryReady cfg entry = true)
      (maintains : stage = .checkpointDurable ∨ stage = .compact) :
      Move cfg given replica (((replica.setStage .execute).recordCommit entry.header).setStage stage)
  | session {replica : Replica χ} {target : Nat}
      (next : checkpointAfter cfg.cluster replica.checkpointOp = some target) :
      Move cfg given replica { replica with checkpointSessionOp := target }
  | checkpointData {replica : Replica χ} {entry : PipelineEntry χ} {rest : List (PipelineEntry χ)}
      {target : Nat} (first : replica.pipeline = entry :: rest)
      (maintains : entry.stage = .checkpointDurable ∨ entry.stage = .compact)
      (next : checkpointAfter cfg.cluster replica.checkpointOp = some target)
      (trigger : checkpointTrigger cfg.cluster target = some entry.header.op)
      (session : replica.checkpointSessionOp = target) :
      Move cfg given replica ({ replica with checkpointTarget := target }.setStage .checkpointData)
  | submitCheckpoint {replica next : Replica χ} {inputs : Inputs χ} {handle : Nat}
      {checkpoint : CheckpointState χ} {entry : PipelineEntry χ} {rest : List (PipelineEntry χ)}
      (first : replica.pipeline = entry :: rest) (data : entry.stage = .checkpointData)
      (built : replica.buildCheckpointState cfg inputs = .ok checkpoint)
      (undrained : given.calm → replica.status = .recovering → replica.drainsCompletions = false)
      (submitted : replica.submit inputs (.superblockPersist (replica.checkpointSuperblock checkpoint)) =
        .ok (next, handle))
      (targeted : replica.checkpointTarget ≠ 0) :
      Move cfg given replica ({ next with pendingCheckpoint := some checkpoint }.modifyEntry 0
        fun entry => { entry with stage := .checkpointSuperblock, io := some handle })
  | yield {replica : Replica χ} (inputs : Inputs χ) {entry : PipelineEntry χ}
      {rest : List (PipelineEntry χ)} (first : replica.pipeline = entry :: rest)
      (maintains : entry.stage.maintains = true) (unsubmitted : entry.stage ≠ .checkpointSuperblock)
      (higher : replica.view < replica.pendingView)
      (punctual : given.punctual → replica.nextTrigger cfg ≠ some entry.header.op) :
      Move cfg given replica
        ((({ replica with pendingView := 0, checkpointTarget := 0, pendingCheckpoint := none
          }.setStage .idle).beginViewChangeNow cfg inputs replica.pendingView).popPipeline)
  | yieldPublished {replica : Replica χ} (inputs : Inputs χ) {entry : PipelineEntry χ}
      {rest : List (PipelineEntry χ)} (first : replica.pipeline = entry :: rest)
      (persisted : entry.stage = .checkpointSuperblock)
      (free : given.calm → replica.syncing = false ∧ entry.io = none)
      (published : replica.pendingCheckpoint = none) (higher : replica.view < replica.pendingView) :
      Move cfg given replica
        (({ replica with pendingView := 0 }.beginViewChangeNow cfg inputs replica.pendingView).popPipeline)
  | drain {replica : Replica χ} {entry : PipelineEntry χ} {rest : List (PipelineEntry χ)}
      (first : replica.pipeline = entry :: rest) (persisted : entry.stage = .checkpointSuperblock)
      (free : given.calm → replica.syncing = false ∧ entry.io = none)
      (pending : replica.pendingCheckpoint ≠ none) :
      Move cfg given replica { replica with checkpointRepairDrain := true }
  | publish {replica : Replica χ} {checkpoint : CheckpointState χ} {entry : PipelineEntry χ}
      {rest : List (PipelineEntry χ)} (sessionOp : Nat) (first : replica.pipeline = entry :: rest)
      (persisted : entry.stage = .checkpointSuperblock)
      (free : given.calm → replica.syncing = false ∧ entry.io = none)
      (pending : replica.pendingCheckpoint = some checkpoint) :
      Move cfg given replica (replica.publishCheckpoint checkpoint sessionOp)
  | publishLast {replica : Replica χ} {checkpoint : CheckpointState χ} {entry : PipelineEntry χ}
      {rest : List (PipelineEntry χ)} (first : replica.pipeline = entry :: rest)
      (persisted : entry.stage = .checkpointSuperblock)
      (free : given.calm → replica.syncing = false ∧ entry.io = none)
      (pending : replica.pendingCheckpoint = some checkpoint) (err : ReplicaError) :
      Move cfg given replica ({ replica with
        checkpointRepairDrain := false, checkpoint := checkpoint, checkpointSessionOp := 0 }.fail err)
  | pop {replica : Replica χ} {entry : PipelineEntry χ} {rest : List (PipelineEntry χ)}
      (first : replica.pipeline = entry :: rest) (maintains : entry.stage.maintains = true)
      (low : replica.pendingView ≤ replica.view)
      (done : (entry.stage ≠ .checkpointSuperblock ∧ replica.nextTrigger cfg ≠ some entry.header.op) ∨
        (entry.stage = .checkpointSuperblock ∧ replica.pendingCheckpoint = none ∧
          (given.calm → replica.syncing = false ∧ entry.io = none))) :
      Move cfg given replica replica.popPipeline
  -- installing a view
  | openWindow {replica : Replica χ} {view commit windowHead : Nat} (ahead : replica.commitMin < windowHead)
      (bounded : windowHead = min commit (replica.commitMin + cfg.pipelineMax))
      (source : replica.WindowSource given view commit) :
      Move cfg given replica (replica.openWindow cfg view commit windowHead)
  | overwriteHeaders {replica : Replica χ} {headers : List (Option (Header χ))}
      (short : headers.length ≤ cfg.pipelineMax + 1)
      (free : replica.repairViewValid = false ∨ replica.status ≠ .recoveringHead)
      (reported : ∀ header, some header ∈ headers → replica.Names given header) :
      Move cfg given replica (replica.overwriteCanonicalHeaders headers)
  | recordView {replica : Replica χ} (requestQueue : List (Request χ × TimeSample))
      {view commit head count : Nat} (counted : count ≤ cfg.pipelineMax + 1)
      (valid : replica.validRecoveringView cfg view commit head count = true)
      (free : replica.repairViewValid = false ∨ replica.status = .viewChange)
      (source : (∃ message, given.heard (.view message) ∧ message.view = view ∧
          message.commit = commit ∧ message.head = head ∧ message.headers.length = count ∧
          replica.canonicalHeaders.take count = message.headers ∧ replica.syncing = false ∧
          (given.calm → replica.pendingView ≤ replica.view)) ∨
        (replica.isPrimary cfg = true ∧ replica.status = .viewChange ∧ view = replica.view ∧
          replica.durableView = replica.view ∧
          cfg.quorums.viewChange ≤ replica.joins.countP Option.isSome))
      (queued : requestQueue ⊆ replica.requestQueue) :
      Move cfg given replica ({ replica with status := .recoveringHead, requestQueue := requestQueue
        }.recordRecoveringView cfg view commit head count)
  | windowHeaders {replica : Replica χ} {author : Nat} {headers : List (Header χ)}
      (window : replica.repairViewWindow = true) (heard : given.heard (.headers author headers)) :
      Move cfg given replica (replica.handleRepairWindowHeaders cfg author headers)
  | wantHeader {replica : Replica χ} {header : Option (Header χ)}
      (wanted : ∀ candidate ∈ header, (replica.safeRepairHeader cfg candidate = true ∧
          ∃ author headers, given.heard (.headers author headers) ∧ candidate ∈ headers) ∨
        (replica.repairViewValid = true ∧
          some candidate ∈ replica.canonicalHeaders.take replica.repairViewCount ∧
          replica.repairViewAncestor < candidate.op)) :
      Move cfg given replica { replica with repairHeader := header }
  | repairAppend {replica next : Replica χ} {inputs : Inputs χ} {header : Header χ}
      (heard : given.heard (.prepare header))
      (repaired : replica.handleRepairPrepare cfg inputs header = some next) : Move cfg given replica next
  | rebuild {replica next : Replica χ} (installing : replica.repairViewValid = true)
      (named : replica.repairViewWindow = false) (unbuilt : replica.repairViewRebuilt = false)
      (written : replica.repairWrite = none) (idle : replica.viewIo = none)
      (quiet : ∀ entry ∈ replica.pipeline, entry.io = none ∧ entry.stage = .idle)
      (rebuilt : replica.rebuildPipeline cfg = .ok next ∨ replica.rebuildPipeline cfg = .error next) :
      Move cfg given replica next
  | persistInstall {replica next : Replica χ} {inputs : Inputs χ}
      (installing : replica.repairViewValid = true) (rebuilt : replica.repairViewRebuilt = true)
      (committed : replica.repairViewCommit ≤ replica.commitMin)
      (quiet : ∀ entry ∈ replica.pipeline, entry.io = none ∧ entry.stage = .idle)
      (persisted : replica.persistView cfg inputs true replica.repairViewCommit replica.repairViewHead
        (replica.canonicalHeaders.take replica.repairViewCount) = .ok next) :
      Move cfg given replica { next with
        repairViewValid := false, repairViewRebuilt := false, repairHeader := none }
  -- storage
  | perform {replica : Replica χ} (handle : Nat) : Move cfg given replica (replica.perform cfg handle)
  | drop {replica : Replica χ} {handle : Nat} {operation : IOOperation χ}
      {result : Except ReplicaError Unit} (done : replica.completedIo handle = some (operation, result))
      (unowned : replica.viewIo ≠ some handle ∧
        (∀ write ∈ replica.repairWrite, write.handle ≠ handle) ∧
        ∀ entry ∈ replica.pipeline, entry.io ≠ some handle)
      (undrained : replica.stateSync.io ≠ some handle ∨ replica.stateSync.stage = .cancelingGrid) :
      Move cfg given replica (replica.releaseIo handle)
  | clearSync {replica : Replica χ} {handle : Nat} {operation : IOOperation χ}
      {result : Except ReplicaError Unit} (done : replica.completedIo handle = some (operation, result))
      (owner : replica.stateSync.io = some handle) :
      Move cfg given replica { replica.releaseIo handle with
        stateSync := { replica.stateSync with io := none } }
  | clearView {replica : Replica χ} {handle : Nat} {operation : IOOperation χ}
      {result : Except ReplicaError Unit} (done : replica.completedIo handle = some (operation, result))
      (owner : replica.viewIo = some handle) (draining : replica.stateSync.stage = .cancelingGrid) :
      Move cfg given replica { replica.releaseIo handle with viewIo := none }
  | viewFailed {replica : Replica χ} {handle : Nat} {operation : IOOperation χ}
      {result : Except ReplicaError Unit} (done : replica.completedIo handle = some (operation, result))
      (owner : replica.viewIo = some handle) (err : ReplicaError) :
      Move cfg given replica ({ replica.releaseIo handle with viewIo := none }.fail err)
  | clearRepair {replica : Replica χ} {handle : Nat} {operation : IOOperation χ}
      {result : Except ReplicaError Unit} {write : RepairWrite χ}
      (done : replica.completedIo handle = some (operation, result))
      (owner : replica.repairWrite = some write) (same : write.handle = handle) :
      Move cfg given replica { replica.releaseIo handle with repairWrite := none }
  | clearEntry {replica : Replica χ} {handle offset : Nat} {operation : IOOperation χ}
      {result : Except ReplicaError Unit} {entry : PipelineEntry χ}
      (done : replica.completedIo handle = some (operation, result))
      (place : replica.pipeline[offset]? = some entry) (owner : entry.io = some handle) :
      Move cfg given replica
        ((replica.releaseIo handle).modifyEntry offset fun entry => { entry with io := none })
  | syncPersisted {replica : Replica χ} {handle : Nat} {operation : IOOperation χ}
      (done : replica.completedIo handle = some (operation, .ok ()))
      (owner : replica.stateSync.io = some handle) :
      Move cfg given replica { replica.releaseIo handle with
        stateSync := { replica.stateSync with io := none, persistDone := true } }
  | viewPersisted {replica : Replica χ} {handle : Nat} {operation : IOOperation χ}
      (done : replica.completedIo handle = some (operation, .ok ()))
      (owner : replica.viewIo = some handle) (change : replica.viewInstall = false)
      (low : replica.pendingView ≤ replica.view) :
      Move cfg given replica { replica.releaseIo handle with
        viewIo := none, durableView := replica.view, pendingView := 0 }
  | viewPersistedOnward {replica : Replica χ} (inputs : Inputs χ) {handle : Nat}
      {operation : IOOperation χ} (done : replica.completedIo handle = some (operation, .ok ()))
      (owner : replica.viewIo = some handle) (change : replica.viewInstall = false)
      (higher : replica.view < replica.pendingView) :
      Move cfg given replica ({ replica.releaseIo handle with
        viewIo := none, durableView := replica.view, pendingView := 0
        }.beginViewChangeNow cfg inputs replica.pendingView)
  | viewInstalled {replica : Replica χ} {handle : Nat} {operation : IOOperation χ}
      (done : replica.completedIo handle = some (operation, .ok ()))
      (owner : replica.viewIo = some handle) (install : replica.viewInstall = true) :
      Move cfg given replica ({ replica.releaseIo handle with
        viewIo := none, durableView := replica.view }.installDurable cfg)
  | repairWritten {replica : Replica χ} {handle : Nat} {operation : IOOperation χ} {write : RepairWrite χ}
      (done : replica.completedIo handle = some (operation, .ok ()))
      (owner : replica.repairWrite = some write) (same : write.handle = handle) :
      Move cfg given replica ((replica.releaseIo handle).finishRepairWrite write (.ok ()))
  | appended {replica : Replica χ} {handle offset reusableThrough : Nat} {header : Header χ}
      {entry : PipelineEntry χ}
      (done : replica.completedIo handle = some (.walAppend header reusableThrough, .ok ()))
      (place : replica.pipeline[offset]? = some entry) (owner : entry.io = some handle) :
      Move cfg given replica (((replica.releaseIo handle).modifyEntry offset
        fun entry => { entry with io := none }).modifyEntry offset
          fun entry => { entry with durable := true })
  | replyWritten {replica : Replica χ} {handle : Nat} {entry : PipelineEntry χ}
      {rest : List (PipelineEntry χ)} {stage : CommitStage}
      (done : replica.completedIo handle = some (.replyWrite, .ok ()))
      (first : replica.pipeline = entry :: rest) (owner : entry.io = some handle)
      (executing : entry.stage = .execute) (maintains : stage = .checkpointDurable ∨ stage = .compact) :
      Move cfg given replica ((((replica.releaseIo handle).modifyEntry 0
        fun entry => { entry with io := none }).recordCommit entry.header).setStage stage)
  -- state sync
  | enterStateSync {replica : Replica χ} {message : ViewMessage χ} (heard : given.heard (.view message))
      (idle : replica.stateSync.stage = .idle) (unopened : replica.stateSync.opening = false)
      (unreplayed : replica.stateSync.replayRunning = false)
      (ahead : replica.checkpointOp < message.checkpoint.prepareOp)
      (free : replica.viewIo = none ∧ replica.repairWrite = none ∧ replica.repairViewValid = false)
      (undisturbed : given.calm → replica.pendingView ≤ replica.view ∧ replica.checkpointRepairDrain = false)
      (current : replica.view ≤ message.view ∧ replica.commitMax ≤ message.commit)
      (author : message.author = cfg.primary message.view)
      (accepted : replica.acceptsView cfg message = true)
      (tail : headerOp (replica.viewTail message.checkpoint message.headers.length) ≤ message.commit + 1)
      (proved : replica.validStateSyncView message.checkpoint message.head message.commit
        message.headers.length = true) :
      Move cfg given replica (replica.enterStateSync message.checkpoint message.view message.commit
        message.head message.headers)
  | cancelSync {replica : Replica χ} (stage : replica.stateSync.stage = .cancelingGrid) :
      Move cfg given replica
        { replica with stateSync := { replica.stateSync with cancelStarted := true } }
  | drained {replica : Replica χ} (stage : replica.stateSync.stage = .cancelingGrid)
      (empty : replica.io = []) :
      Move cfg given replica
        { replica with stateSync := { replica.stateSync with stage := .updatingCheckpoint } }
  | submitSync {replica next : Replica χ} {inputs : Inputs χ} {handle phase : Nat}
      {operation : IOOperation χ} (free : replica.stateSync.io = none)
      (kind : (replica.stateSync.stage = .updatingCheckpoint ∧ replica.stateSync.persistPhase = 0 ∧
          phase = 1 ∧ operation = .superblockPersist replica.syncIntentSuperblock) ∨
        (replica.stateSync.stage = .updatingCheckpoint ∧ replica.stateSync.persistPhase = 1 ∧
          phase = 2 ∧ replica.pipeline = [] ∧
          operation = .superblockPersist replica.stateSyncSuperblock) ∨
        (replica.stateSync.stage = .resizingStorage ∧ (operation = .resize ∨ operation = .sync)))
      (submitted : replica.submit inputs operation = .ok (next, handle)) :
      Move cfg given replica { next with
        stateSync := { next.stateSync with io := some handle, persistPhase := phase } }
  | startReset {replica : Replica χ} (inputs : Inputs χ) :
      Move cfg given replica (replica.startStateSyncReset inputs)
  | releaseFrames {replica : Replica χ} (stage : replica.stateSync.stage = .updatingCheckpoint)
      (phase : replica.stateSync.persistPhase = 1) (done : replica.stateSync.persistDone = true)
      (free : replica.stateSync.io = none) :
      Move cfg given replica { replica.releaseOwnedFrames cfg with
        stateSync := { replica.stateSync with persistDone := false } }
  | installCheckpoint {replica : Replica χ} (stage : replica.stateSync.stage = .updatingCheckpoint)
      (phase : replica.stateSync.persistPhase = 2) (done : replica.stateSync.persistDone = true)
      (free : replica.stateSync.io = none) : Move cfg given replica replica.installStateSyncCheckpoint
  | resizePhase {replica : Replica χ} (stage : replica.stateSync.stage = .resizingStorage) :
      Move cfg given replica
        { replica with stateSync := { replica.stateSync with persistDone := false } }
  | resized {replica : Replica χ} (stage : replica.stateSync.stage = .resizingStorage)
      (free : replica.stateSync.io = none) :
      Move cfg given replica
        { replica with stateSync := { replica.stateSync with persistDone := false, stage := .idle } }
  | resetDone {replica : Replica χ} :
      Move cfg given replica { replica with
        stateSync := { replica.stateSync with resetDone := true, completion := none } }
  | opening {replica : Replica χ} (idle : replica.stateSync.stage = .idle)
      (waits : replica.stateSyncAwaitingOpen = true) :
      Move cfg given replica { replica with stateSync := { replica.stateSync with
        generation := replica.stateSync.generation + 1, opening := true, completion := some .openState } }
  | resizedOpening {replica : Replica χ} (stage : replica.stateSync.stage = .resizingStorage)
      (free : replica.stateSync.io = none) :
      Move cfg given replica { replica with stateSync := { replica.stateSync with
        persistDone := false, stage := .idle, generation := replica.stateSync.generation + 1,
        opening := true, completion := some .openState } }
  | openReplay {replica : Replica χ} (answered : replica.stateSync.completion = some .openState)
      (resumes : replica.stateSync.resumeRecovery = true)
      (complete : replica.stateSync.recovery.any (fun recovery =>
        recovery.faultySlots = 0 ∧ replica.stateSync.commit ≤ recovery.headOp) = true) :
      Move cfg given replica { replica.openedSync with
        stateSync := { replica.openedSync.stateSync with replayRunning := true } }
  | openIncomplete {replica : Replica χ} {status : Status}
      (answered : replica.stateSync.completion = some .openState)
      (resumes : replica.stateSync.resumeRecovery = true)
      (distrusts : status = replica.status ∨ status = .recoveringHead) :
      Move cfg given replica { replica.openedSync with
        status := status
        stateSync := { replica.openedSync.stateSync with resumeRecovery := false } }
  | openHeaders {replica : Replica χ} (answered : replica.stateSync.completion = some .openState)
      (fresh : replica.stateSync.resumeRecovery = false)
      (ahead : replica.checkpointOp < replica.stateSync.head)
      (fits : ¬ (replica.commitMin < replica.stateSync.commit ∧
        cfg.pipelineMax < replica.stateSync.head - replica.commitMin)) :
      Move cfg given replica (replica.openedSync.resumeFromHeaders cfg)
  | openBehind {replica : Replica χ} {windowHead : Nat}
      (answered : replica.stateSync.completion = some .openState)
      (fresh : replica.stateSync.resumeRecovery = false)
      (ahead : replica.commitMin < windowHead)
      (bounded : windowHead = min replica.stateSync.commit (replica.commitMin + cfg.pipelineMax)) :
      Move cfg given replica
        (replica.openedSync.openWindow cfg replica.stateSync.view replica.stateSync.commit windowHead)
  | openLevel {replica : Replica χ} (answered : replica.stateSync.completion = some .openState)
      (fresh : replica.stateSync.resumeRecovery = false)
      (level : replica.stateSync.head ≤ replica.checkpointOp) :
      Move cfg given replica { replica.openedSync with status := .normal }
  | openStuck {replica : Replica χ} (answered : replica.stateSync.completion = some .openState)
      (fresh : replica.stateSync.resumeRecovery = false)
      (err : ReplicaError) : Move cfg given replica (replica.openedSync.fail err)
  | repliesRepaired {replica : Replica χ} (pending : replica.stateSync.repliesPending = true)
      (idle : replica.syncing = false) :
      Move cfg given replica { replica with
        syncRangeRepaired := true
        stateSync := { replica.stateSync with repliesPending := false, repairing := false } }
  | replay {replica : Replica χ} : Move cfg given replica (replica.replayInterrupted cfg).1

/-- A sequence of moves. -/
abbrev Moves (cfg : Config) (given : Surroundings χ) : Replica χ → Replica χ → Prop :=
  Relation.ReflTransGen (Move cfg given)

end Replica

end Supervsr
