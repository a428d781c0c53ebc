import Supervsr.SuperblockStore
import Supervsr.WalRecovery

/-
# Supervsr.Replica — the state of a replica, the messages it exchanges and the updates its handlers share

One record holds everything the event loop of `replica.go` owns: the journal and superblock with their
storage, the view numbers and commit bounds, the pipeline, the records of a view change, of a view
being installed and of a state sync, and the storage requests under way.  Two parts are bookkeeping
that no handler reads: what the replica has sent and what it has executed, kept over restarts so that
properties of whole runs can be stated.

What the code draws from its surroundings while it handles an event (the clock, random numbers, whether
the state machine answers at once, what the session table decides) is an argument, `Inputs`.
-/

namespace Supervsr

inductive Status where
  | normal
  | viewChange
  | recovering
  | recoveringHead
deriving DecidableEq, Repr

inductive CommitStage where
  | idle
  | start
  | checkPrepare
  | prefetch
  | stall
  | replySetup
  | execute
  | checkpointDurable
  | compact
  | checkpointData
  | checkpointSuperblock
deriving DecidableEq, Repr

/-- `SyncStage`.  The stage that waits for a commit to be cancelled is never entered: the field it
tests is always idle. -/
inductive SyncStage where
  | idle
  | cancelingGrid
  | updatingCheckpoint
  | resizingStorage
deriving DecidableEq, Repr

/-- The errors a replica stops with; `indexOutOfRange` is the panic that ends its process. -/
inductive ReplicaError where
  | indexOutOfRange
  | invalidConfiguration
  | replicaInvariant
  | unrecoverableConsensusState
  | backpressure
  | ioBackpressure
  | stateMachine
  | invalidCheckpoint
  | wal (err : WALError)
  | superblock (err : SuperblockError)
deriving DecidableEq, Repr

/-- `Config`: the part the event loop reads.  The process limits are the pace of retries and the length
of the request queue. -/
structure Config extends FormatConfig where
  clientReleaseMin : Nat
  initialRTT : Nat
  primaryRequestQueueMax : Nat
deriving DecidableEq, Repr

namespace Config

def activeCount (cfg : Config) : Nat := cfg.membership.activeCount

def memberCount (cfg : Config) : Nat := cfg.membership.activeCount + cfg.membership.standbyCount

/-- `Membership.LocalIndex`. -/
def localIndex (cfg : Config) : Nat :=
  (cfg.membership.members.take cfg.memberCount).idxOf cfg.membership.localMember

def primary (cfg : Config) (view : Nat) : Nat := cfg.membership.primary view

/-- The quorums `Open` derives. -/
def quorums (cfg : Config) : Quorums :=
  (quorumsFor cfg.activeCount (min cfg.cluster.replicationQuorumMax 255)).getD ⟨0, 0, 0, 0, 0⟩

def pipelineMax (cfg : Config) : Nat := cfg.cluster.pipelineMax

end Config

/-! ## Messages -/

/-- The fields of a request a prepare is built from. -/
structure Request (χ : Type) where
  client : Nat
  request : Nat
  operation : Operation
  view : Nat
  release : Nat
  checksum : χ
  bodyChecksum : χ
deriving DecidableEq, Repr

/-- The fields of `CommandPrepareOK`. -/
structure PrepareOK (χ : Type) where
  view : Nat
  author : Nat
  parent : χ
  prepareChecksum : χ
  checkpointID : χ
  client : Nat
  op : Nat
  commitMin : Nat
  timestamp : Nat
  request : Nat
  operation : Operation
deriving DecidableEq, Repr

/-- One place of a `CommandJoinView` body with its bits of the two masks. -/
structure JoinEntry (χ : Type) where
  header : Option (Header χ)
  present : Bool
  nack : Bool
deriving DecidableEq, Repr

/-- `CommandJoinView`.  The entries go down from `head`. -/
structure JoinView (χ : Type) where
  view : Nat
  author : Nat
  head : Nat
  commit : Nat
  checkpoint : Nat
  logView : Nat
  entries : List (JoinEntry χ)
deriving DecidableEq, Repr

/-- `CommandView`.  The headers go down from `head`; a blank one is `none`. -/
structure ViewMessage (χ : Type) where
  view : Nat
  author : Nat
  nonce : Nat
  head : Nat
  commit : Nat
  checkpointOp : Nat
  checkpoint : CheckpointState χ
  headers : List (Option (Header χ))
deriving DecidableEq, Repr

/-- The frames replicas exchange to agree on the log. -/
inductive Message (χ : Type) where
  | request (request : Request χ)
  | prepare (header : Header χ)
  | prepareOK (ack : PrepareOK χ)
  | commit (view author : Nat) (checksum checkpointID : χ) (checkpointOp commit monotonic : Nat)
  | exitView (view author : Nat)
  | joinView (join : JoinView χ)
  | view (message : ViewMessage χ)
  | getView (view author nonce : Nat)
  | headers (author : Nat) (headers : List (Header χ))
  | getHeaders (author start «end» : Nat)
  | getPrepare (author view op : Nat) (checksum : χ)
  | ping (view author checkpointOp : Nat)
  | pong (view author : Nat)
deriving DecidableEq, Repr

/-- A frame handed to the message bus; no destination is a broadcast. -/
structure Packet (χ : Type) where
  destination : Option Nat
  message : Message χ
deriving DecidableEq, Repr

/-! ## State -/

/-- `pipelineEntry`: `prepare` is the header of the frame the entry owns. -/
structure PipelineEntry (χ : Type) where
  generation : Nat
  prepare : Header χ
  header : Header χ
  acks : List Nat
  durable : Bool
  quorum : Bool
  io : Option Nat
  stage : CommitStage
deriving DecidableEq, Repr

/-- `joinRecord` with its slice of `joinHeaders`. -/
structure JoinRecord (χ : Type) where
  head : Nat
  commit : Nat
  checkpoint : Nat
  logView : Nat
  entries : List (JoinEntry χ)
deriving DecidableEq, Repr

/-- `IOOperation`: the requests that write. -/
inductive IOOperation (χ : Type) where
  | sync
  | resize
  | walAppend (header : Header χ) (reusableThrough : Nat)
  | replyWrite
  | superblockPersist (next : Superblock χ)
deriving DecidableEq, Repr

/-- A submitted request; `result` is set once a worker has executed it. -/
structure PendingIo (χ : Type) where
  handle : Nat
  operation : IOOperation χ
  result : Option (Except ReplicaError Unit)

structure RepairWrite (χ : Type) where
  handle : Nat
  message : Header χ
deriving DecidableEq, Repr

/-- The kinds of completion a state sync waits for. -/
inductive SyncCompletion where
  | reset
  | openState
deriving DecidableEq, Repr

/-- `stateSyncRuntime`. -/
structure StateSync (χ : Type) where
  checkpoint : CheckpointState χ
  headers : List (Option (Header χ))
  completion : Option SyncCompletion
  generation : Nat
  io : Option Nat
  view : Nat
  commit : Nat
  head : Nat
  requestedCheckpoint : Nat
  persistPhase : Nat
  stage : SyncStage
  cancelStarted : Bool
  resetStarted : Bool
  resetDone : Bool
  persistDone : Bool
  repairing : Bool
  resumeRecovery : Bool
  recovery : Option (WALRecoveryReport χ)
  replayRunning : Bool
  recoveryState : Option (Superblock χ)
  opening : Bool
  repliesPending : Bool
deriving DecidableEq, Repr

/-- One execution of a prepare: `before` is `commitMin` at that moment, `live` tells `finishCommit`
from `replayExecute`. -/
structure Execution (χ : Type) where
  before : Nat
  header : Header χ
  live : Bool
deriving DecidableEq, Repr

/-- What survives a crash: the storage, and the record of what the replica has done so far. -/
structure Durable (χ : Type) where
  superblock : Superblock χ
  zones : WALZones χ
  sent : List (Packet χ)
  executed : List (Execution χ)
deriving DecidableEq, Repr

structure TimeSample where
  wall : Nat
  monotonic : Nat
  synchronized : Bool
deriving DecidableEq, Repr

structure Replica (χ : Type) where
  durable : Durable χ
  wal : WAL χ
  status : Status
  view : Nat
  durableView : Nat
  logView : Nat
  headOp : Nat
  commitMin : Nat
  commitMax : Nat
  checkpoint : CheckpointState χ
  syncRangeRepaired : Bool
  headChecksum : χ
  lastPrepareTimestamp : Nat
  lastCommitTimestamp : Nat
  pipeline : List (PipelineEntry χ)
  requestQueue : List (Request χ × TimeSample)
  generation : Nat
  io : List (PendingIo χ)
  nextHandle : Nat
  exitViewBits : List Nat
  joins : List (Option (JoinRecord χ))
  joinAttempts : Nat
  viewIo : Option Nat
  viewInstall : Bool
  viewCommit : Nat
  viewHead : Nat
  pendingView : Nat
  canonicalHeaders : List (Option (Header χ))
  getViewNonce : Nat
  getViewTarget : Nat
  getViewLast : Nat
  lastPrimaryCommit : Nat
  repairHeader : Option (Header χ)
  repairWrite : Option (RepairWrite χ)
  repairFrames : List (Option (Header χ))
  repairHeadersLast : Nat
  repairViewValid : Bool
  repairView : Nat
  repairViewCommit : Nat
  repairViewHead : Nat
  repairViewAncestor : Nat
  repairViewCount : Nat
  repairViewRebuilt : Bool
  repairViewWindow : Bool
  checkpointTarget : Nat
  checkpointSessionOp : Nat
  pendingCheckpoint : Option (CheckpointState χ)
  checkpointRepairDrain : Bool
  stateSync : StateSync χ
  fatalErr : Option ReplicaError

/-- What the surroundings answer while one event is handled. -/
structure Inputs (χ : Type) where
  /-- `Clock.Now` -/
  sample : TimeSample
  /-- the generator's next nonzero nonce -/
  nonce : Nat
  /-- the peer `repairBudget.Reserve` picks, if it grants the request -/
  repairPeer : Option Nat
  /-- `randomRepairPeer` -/
  headersPeer : Option Nat
  /-- whether the storage request pool has room -/
  ioAvailable : Bool
  /-- whether the reads of repair and of duplicate replies have drained -/
  readsDrained : Bool
  /-- whether the session table and the state machine admit a request -/
  admitted : Request χ → Bool
  /-- the length of the application's reply to the prepare at an op -/
  replyLength : Nat → Nat
  /-- whether `StartPrefetch`, `StartCompact`, `StartCheckpoint` at an op, `StartReset` and `StartOpen`
  answer at once -/
  prefetchReady : Nat → Bool
  compactReady : Nat → Bool
  checkpointReady : Nat → Bool
  resetReady : Bool
  openReady : Bool
  /-- the block references of the checkpoint at an op -/
  checkpointBlocks : Nat → CheckpointState χ
  /-- whether block repair has writes under way -/
  blockRepairActive : Bool
  /-- whether every reply a state sync has to repair is there -/
  repliesRepaired : Bool
  /-- whether `continueReplyRepair` has a request to make -/
  replyRepairActive : Bool
  /-- `replyRepairBlocksCommit` -/
  replyRepairBlocksCommit : Bool
  /-- whether the failure detector has given the primary up -/
  failureRed : Bool
  /-- `PulseNeeded` -/
  pulseNeeded : Bool

/-! ## Shared updates -/

section Header

variable {χ : Type} [Checksums χ]

/-- `prepareOp` of a header that may be blank. -/
def headerOp (header : Option (Header χ)) : Nat := (header.map Header.op).getD 0

/-- `HeaderChecksum` of a header that may be blank. -/
def headerChecksum (header : Option (Header χ)) : χ := (header.map Header.checksum).getD Checksums.zero

/-- `prepareParent` of a header that may be blank. -/
def headerParent (header : Option (Header χ)) : χ := (header.map Header.parent).getD Checksums.zero

end Header

namespace Replica

variable {χ α : Type}

/-- `fail`: the first error stays. -/
def fail (replica : Replica χ) (err : ReplicaError) : Replica χ :=
  { replica with fatalErr := replica.fatalErr.or (some err) }

theorem fail_fatalErr (replica : Replica χ) (err : ReplicaError) : (replica.fail err).fatalErr ≠ none := by
  unfold fail
  cases replica.fatalErr <;> exact Option.some_ne_none _

def checkpointOp (replica : Replica χ) : Nat := replica.checkpoint.prepareOp

def checkpointID [Checksums χ] (replica : Replica χ) : χ := replica.checkpoint.id

/-- `SendReplica`, or `BroadcastReplicas` where there is no destination. -/
def send (replica : Replica χ) (destination : Option Nat) (message : Message χ) : Replica χ :=
  { replica with durable :=
      { replica.durable with sent := ⟨destination, message⟩ :: replica.durable.sent } }

def isPrimary (replica : Replica χ) (cfg : Config) : Bool :=
  cfg.primary replica.view = cfg.localIndex

def commitInFlight (replica : Replica χ) : Bool :=
  replica.pipeline.any (fun entry => entry.stage ≠ .idle)

def stateSyncAwaitingOpen (replica : Replica χ) : Bool :=
  replica.stateSync.repairing ∧ ¬ replica.stateSync.repliesPending

/-- `io.Submit`. -/
def submit (replica : Replica χ) (inputs : Inputs χ) (operation : IOOperation χ) :
    Except ReplicaError (Replica χ × Nat) :=
  if ¬ inputs.ioAvailable then .error .ioBackpressure
  else
    .ok ({ replica with
      io := replica.io ++ [⟨replica.nextHandle, operation, none⟩]
      nextHandle := replica.nextHandle + 1 }, replica.nextHandle)

theorem submit_eq_ok {replica next : Replica χ} {inputs : Inputs χ} {operation : IOOperation χ}
    {handle : Nat} (submitted : replica.submit inputs operation = .ok (next, handle)) :
    handle = replica.nextHandle ∧
      next = { replica with
        io := replica.io ++ [⟨replica.nextHandle, operation, none⟩]
        nextHandle := replica.nextHandle + 1 } := by
  unfold submit at submitted
  split at submitted
  · cases submitted
  · cases submitted
    exact ⟨rfl, rfl⟩

/-- Update the pipeline entry at `offset`. -/
def modifyEntry (replica : Replica χ) (offset : Nat) (f : PipelineEntry χ → PipelineEntry χ) :
    Replica χ :=
  { replica with pipeline := replica.pipeline.modify offset f }

theorem modify_concat (front : List α) (last : α) (f : α → α) :
    (front ++ [last]).modify front.length f = front ++ [f last] := by
  induction front with
  | nil => rfl
  | cons first front ih => exact congrArg (first :: ·) ih

theorem mem_modify {f : α → α} {a : α} :
    ∀ {list : List α} {index : Nat}, a ∈ list.modify index f → a ∈ list ∨ ∃ b ∈ list, f b = a := by
  intro list
  induction list with
  | nil =>
    intro index mem
    cases index <;> exact absurd mem List.not_mem_nil
  | cons first rest ih =>
    intro index mem
    cases index with
    | zero =>
      obtain rfl | mem := List.mem_cons.mp mem
      · exact .inr ⟨first, List.mem_cons_self, rfl⟩
      · exact .inl (List.mem_cons_of_mem first mem)
    | succ index =>
      obtain rfl | mem := List.mem_cons.mp mem
      · exact .inl List.mem_cons_self
      · obtain hold | ⟨b, hold, rfl⟩ := ih mem
        · exact .inl (List.mem_cons_of_mem first hold)
        · exact .inr ⟨b, List.mem_cons_of_mem first hold, rfl⟩

theorem mem_tail_modify {f : α → α} {a : α} {list : List α} {index : Nat} (mem : a ∈ (list.modify index f).tail) :
    a ∈ list.tail ∨ ∃ b ∈ list.tail, f b = a := by
  cases list with
  | nil => cases index <;> exact absurd mem List.not_mem_nil
  | cons first rest =>
    cases index with
    | zero => exact .inl mem
    | succ index => exact mem_modify mem

/-- `pushPipeline`, with the fields its callers set on the new entry. -/
def pushPipeline [Checksums χ] (replica : Replica χ) (cfg : Config) (prepare header : Header χ)
    (io : Option Nat) (durable : Bool) : Option (Replica χ) :=
  if replica.pipeline.length = cfg.pipelineMax then none
  else
    some { replica with
      pipeline := replica.pipeline ++
        [{ generation := replica.generation, prepare := prepare, header := header, acks := [],
           durable := durable, quorum := false, io := io, stage := .idle }]
      generation := replica.generation + 1
      headOp := header.op
      headChecksum := header.checksum }

theorem pushPipeline_eq_some [Checksums χ] {replica next : Replica χ} {cfg : Config}
    {prepare header : Header χ} {io : Option Nat} {durable : Bool}
    (pushed : replica.pushPipeline cfg prepare header io durable = some next) :
    replica.pipeline.length ≠ cfg.pipelineMax ∧
      next = { replica with
        pipeline := replica.pipeline ++
          [{ generation := replica.generation, prepare := prepare, header := header, acks := [],
             durable := durable, quorum := false, io := io, stage := .idle }]
        generation := replica.generation + 1
        headOp := header.op
        headChecksum := header.checksum } := by
  unfold pushPipeline at pushed
  split at pushed
  · cases pushed
  · exact ⟨‹_›, (Option.some.inj pushed).symm⟩

def popPipeline (replica : Replica χ) : Replica χ :=
  { replica with pipeline := replica.pipeline.tail }

/-- `localHeaderEvidence`: the header if one is found, and whether it is not (yet) on storage, or its
absence is certain. -/
def localHeaderEvidence (replica : Replica χ) (cfg : Config) (op : Nat) : Option (Header χ) × Bool :=
  match replica.pipeline.find? (fun entry => entry.header.op = op) with
  | some entry => (some entry.header, ¬ entry.durable)
  | none =>
    if op = replica.checkpointOp then (some replica.checkpoint.header, false)
    else replica.wal.joinEvidence cfg.cluster op

/-- The header at `op` when it is known to be on storage. -/
def storedHeader (replica : Replica χ) (cfg : Config) (op : Nat) : Option (Header χ) :=
  match replica.localHeaderEvidence cfg op with
  | (header, false) => header
  | (_, true) => none

def releaseQueuedRequests (replica : Replica χ) : Replica χ :=
  { replica with requestQueue := [] }

/-- Copy headers to the front of the array of canonical headers. -/
def overwriteCanonicalHeaders (replica : Replica χ) (headers : List (Option (Header χ))) :
    Replica χ :=
  { replica with canonicalHeaders := headers ++ replica.canonicalHeaders.drop headers.length }

/-- Release the frames held for a view under installation. -/
def clearRepairFrames (replica : Replica χ) (cfg : Config) : Replica χ :=
  { replica with repairFrames := List.replicate (cfg.pipelineMax + 1) none }

end Replica

end Supervsr
