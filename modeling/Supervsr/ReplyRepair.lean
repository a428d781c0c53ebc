import Supervsr.Execution
import Supervsr.SmallCluster
import Supervsr.Lib.Transition

/-
# Supervsr.ReplyRepair — reply repair beside the commit pipeline

Two parts of a replica reserve slots of the one session table: the commit of the first pipeline entry,
while its reply is written, and reply repair (`replica_reply_repair.go`), while it writes a reply that
it has asked a peer for.  A session trailer is encoded in the middle of a commit and fails while any
slot is reserved.  This module embeds both parts, with everything else that happens to a replica as
events that may come in any order.

`handleReplyRepair` refuses to start while `replica.stage` is not idle.  That field is idle always: the
stage of a commit is a field of its pipeline entry.
-/

namespace Supervsr

/-! ## State -/

/-- A pipeline entry, as far as its commit is concerned: `writing` is `ioKind = IOReplyWrite`. -/
structure CommitEntry (χ : Type) where
  prepared : Prepared χ
  stage : CommitStage
  token : Nat
  reply : Option (ReplyHeader χ × SessionCommitPlan χ)
  writing : Bool
deriving DecidableEq, Repr

/-- The I/O operation of reply repair: the read of a stored reply or the write of a repaired one. -/
inductive RepairIo (χ : Type) where
  | read (header : ReplyHeader χ)
  | write (plan : SessionCommitPlan χ)
deriving DecidableEq, Repr

/-- `replyRepairRuntime`: a fault is the checksum of the reply a slot should hold. -/
structure ReplyRepairRuntime (χ : Type) where
  faults : List (Option χ)
  io : Option (RepairIo χ)
  requested : Option (ReplyHeader χ)
  cursor : Nat
  scanning : Bool
deriving DecidableEq, Repr

/-- The part of a replica that holds session slots.  `snapshots` collects the table at every call of
`EncodeTrailer`, the latest first. -/
structure ReplyState (χ : Type) where
  config : ExecutionConfig
  members : Nat
  execution : ExecutionState χ
  pipeline : List (CommitEntry χ)
  repair : ReplyRepairRuntime χ
  failed : Option ExecutionError
  snapshots : List (SessionTable χ)
deriving DecidableEq, Repr

namespace ReplyState

variable {χ : Type}

def replyRepairBlocksCommit (state : ReplyState χ) : Bool :=
  match state.repair.io with
  | some (.write _) => true
  | _ => false

def sessions (state : ReplyState χ) : SessionTable χ := state.execution.sessions

def withSessions (state : ReplyState χ) (sessions : SessionTable χ) : ReplyState χ :=
  { state with execution := { state.execution with sessions } }

/-- `fail`: the first error stops the replica. -/
def fail (state : ReplyState χ) (error : ExecutionError) : ReplyState χ :=
  { state with failed := some error }

/-- `EncodeTrailer` is called with the sessions of this moment, where the op calls for it. -/
def snapshotIf (state : ReplyState χ) (encodes : Prop) [Decidable encodes] : ReplyState χ :=
  if encodes then { state with snapshots := state.sessions :: state.snapshots } else state

section

variable (state : ReplyState χ) (encodes : Prop) [Decidable encodes]

@[simp] theorem snapshotIf_execution : (state.snapshotIf encodes).execution = state.execution := by
  unfold snapshotIf; split <;> rfl

@[simp] theorem snapshotIf_config : (state.snapshotIf encodes).config = state.config := by
  unfold snapshotIf; split <;> rfl

@[simp] theorem snapshotIf_repair : (state.snapshotIf encodes).repair = state.repair := by
  unfold snapshotIf; split <;> rfl

theorem mem_snapshotIf {table : SessionTable χ} (mem : table ∈ (state.snapshotIf encodes).snapshots) :
    encodes ∧ table = state.sessions ∨ table ∈ state.snapshots := by
  unfold snapshotIf at mem
  split at mem
  · rename_i hencodes
    exact (List.mem_cons.mp mem).imp_left (.intro hencodes)
  · exact .inr mem

end

/-- The ops at which a commit encodes the sessions: that of the next checkpoint, and that of the one after
it, whose sessions are kept where it triggers the next. -/
def encodesAt (state : ReplyState χ) (op : Nat) : Bool :=
  let target := checkpointAfter state.config.cluster state.config.checkpoint
  target = some op ∨ target.bind (checkpointAfter state.config.cluster) = some op

/-- The commit of the entry has yet to encode the sessions and no longer waits for reply repair: it is past
its prefetch, at an op that encodes them. -/
def encodes (state : ReplyState χ) (entry : CommitEntry χ) : Bool :=
  match entry.stage with
  | .idle | .start | .checkPrepare | .prefetch | .stall | .replySetup => false
  | _ => state.encodesAt entry.prepared.header.op

/-! ## Commits -/

def pushPipeline (state : ReplyState χ) (prepared : Prepared χ) : ReplyState χ :=
  { state with pipeline := state.pipeline ++ [⟨prepared, .idle, 0, none, false⟩] }

/-- `afterCompact`; `yields` is `pendingView > view`. -/
def afterCompact (state : ReplyState χ) (entry : CommitEntry χ) (rest : List (CommitEntry χ))
    (yields : Bool) : ReplyState χ :=
  if yields then { state with pipeline := rest }
  else
    let target := checkpointAfter state.config.cluster state.config.checkpoint
    let state := state.snapshotIf (target = some entry.prepared.header.op)
    match Supervsr.afterCompact state.config state.execution entry.prepared with
    | .error error => state.fail error
    | .ok execution =>
      if target.bind (checkpointTrigger state.config.cluster) = some entry.prepared.header.op then
        { state with execution, pipeline := { entry with stage := .checkpointData } :: rest }
      else { state with execution, pipeline := rest }

/-- `continueCommitMaintenance`: a compaction is waited for. -/
def continueCommitMaintenance (state : ReplyState χ) (entry : CommitEntry χ)
    (rest : List (CommitEntry χ)) (yields : Bool) : ReplyState χ :=
  let header := entry.prepared.header
  if (header.op + 1) % state.config.cluster.compactionOps ≠ 0 then state.afterCompact entry rest yields
  else
    let calls := state.execution.calls ++ [.startCompact header.op header.timestamp]
    { state with
      execution := { state.execution with calls }
      pipeline := { entry with stage := .compact } :: rest }

/-- The completion of a compaction, `applyCompact`. -/
def applyCompact (state : ReplyState χ) (machine : StateMachine) (yields : Bool) : Option (ReplyState χ) :=
  match state.pipeline with
  | [] => none
  | entry :: rest =>
    if entry.stage ≠ .compact then none
    else if ¬ machine.compact state.execution.calls then some (state.fail .stateMachine)
    else some (state.afterCompact entry rest yields)

/-- `applyCheckpoint`, which either yields to a view change or persists the checkpoint. -/
def applyCheckpoint (state : ReplyState χ) (yields : Bool) : Option (ReplyState χ) :=
  match state.pipeline with
  | [] => none
  | entry :: rest =>
    if entry.stage ≠ .checkpointData then none
    else if yields then some { state with pipeline := rest }
    else some { state with pipeline := { entry with stage := .checkpointSuperblock } :: rest }

/-- `finishCheckpointPersistence`: a checkpoint whose trigger is the next checkpoint's op encodes the
sessions for that one as well. -/
def finishCheckpointPersistence (state : ReplyState χ) : Option (ReplyState χ) :=
  match state.pipeline with
  | [] => none
  | entry :: rest =>
    if entry.stage ≠ .checkpointSuperblock then none
    else
      match checkpointAfter state.config.cluster state.config.checkpoint with
      | none => some (state.fail .replicaInvariant)
      | some target =>
        let state := { state with
          config := { state.config with checkpoint := target }
          execution := { state.execution with checkpointSession := none } }
        match checkpointAfter state.config.cluster target with
        | none => some (state.fail .replicaInvariant)
        | some next =>
          let state := state.snapshotIf (entry.prepared.header.op = next)
          match keepSessions next state.execution entry.prepared with
          | .error error => some (state.fail error)
          | .ok execution =>
            let upgrade := { execution.upgrade with window := UpgradeState.idle.window }
            some { state with execution := { execution with upgrade }, pipeline := rest }

/-- `truncatePipelineAfter`: entries leave from the end while they are idle. -/
def truncatePipelineAfter (state : ReplyState χ) (kept : Nat) : Option (ReplyState χ) :=
  if (state.pipeline.drop kept).any (fun entry => entry.stage ≠ .idle ∨ entry.writing) then none
  else some { state with pipeline := state.pipeline.take kept }

/-! ## Repair -/

/-- Where the scan over the stored replies stands: held up by a reserved slot, at a reply to read, or
at its end. -/
inductive ScanStep (χ : Type) where
  | blocked (cursor : Nat)
  | read (cursor : Nat) (header : ReplyHeader χ)
  | finished

/-- The scan of `continueReplyRepair` from a slot on: replies without a body are passed over. -/
def scanReplies (cursor : Nat) : List (SessionSlot χ) → ScanStep χ
  | [] => .finished
  | slot :: rest =>
    if slot.busy then .blocked cursor
    else match slot.record with
      | none => scanReplies (cursor + 1) rest
      | some record =>
        if record.reply.size = headerBytes then scanReplies (cursor + 1) rest
        else .read cursor record.reply

/-- `releaseReplyRepair`: the plan is given up and the faults are forgotten. -/
def releaseReplyRepair (state : ReplyState χ) : ReplyState χ :=
  let sessions := match state.repair.io with
    | some (.write plan) => state.sessions.abort plan
    | _ => state.sessions
  { state.withSessions sessions with
    repair := ⟨state.repair.faults.map fun _ => none, none, none, 0, false⟩ }

/-- `releaseOwnedFrames`: every plan is given up and the pipeline dropped. -/
def releaseOwnedFrames (state : ReplyState χ) : ReplyState χ :=
  let state := state.releaseReplyRepair
  let sessions := state.pipeline.foldl
    (fun sessions entry => match entry.reply with
      | none => sessions
      | some (_, plan) => sessions.abort plan) state.sessions
  { state.withSessions sessions with pipeline := [] }

/-- A state sync from `installStateSyncCheckpoint` to `finishStateSyncOpen`: the state machine is opened
anew with the sessions of the checkpoint, and the stored replies are scanned again. -/
def reopen (state : ReplyState χ) (sessions : SessionTable χ) (checkpoint : Nat) : ReplyState χ :=
  let state := state.releaseReplyRepair
  { state with
    config := { state.config with checkpoint }
    execution := { state.execution with sessions, calls := [], commitMin := checkpoint }
    repair := { state.repair with cursor := 0, scanning := true } }

variable [Checksums χ] [DecidableEq χ]

def markReplyFault (state : ReplyState χ) (header : ReplyHeader χ) : ReplyState χ :=
  match state.sessions.lookup header.client with
  | (none, _) => state
  | (some record, slot) =>
    if record.reply.checksum ≠ header.checksum ∨ header.size = headerBytes then state
    else
      let state := { state with
        repair := { state.repair with faults := state.repair.faults.set slot (some header.checksum) } }
      if state.members = 1 then state.fail .replicaInvariant else state

/-- The loop of `continueReplyRepair` over the faults: outdated ones are cleared up to the first that
stands, which is asked for unless its slot is reserved. -/
def nextFault (slots : List (SessionSlot χ)) :
    Nat → List (Option χ) → List (Option χ) × Option (ReplyHeader χ × Bool)
  | _, [] => ([], none)
  | slot, none :: rest =>
    let next := nextFault slots (slot + 1) rest
    (none :: next.1, next.2)
  | slot, some checksum :: rest =>
    match slots[slot]? with
    | some ⟨some record, busy, _⟩ =>
      if record.reply.checksum = checksum then (some checksum :: rest, some (record.reply, busy))
      else
        let next := nextFault slots (slot + 1) rest
        (none :: next.1, next.2)
    | _ =>
      let next := nextFault slots (slot + 1) rest
      (none :: next.1, next.2)

/-- `continueReplyRepair`: `waiting` is a state sync in its way, `due` that the last request for the
same reply is old enough, `available` that an operation or a frame can be had. -/
def continueReplyRepair (state : ReplyState χ) (waiting due available : Bool) : ReplyState χ :=
  if waiting ∨ state.repair.io.isSome then state
  else
    let scan := if state.repair.scanning then
        scanReplies state.repair.cursor (state.sessions.slots.drop state.repair.cursor)
      else .finished
    match scan with
    | .blocked cursor => { state with repair := { state.repair with cursor } }
    | .read cursor header =>
      if ¬ available then { state with repair := { state.repair with cursor } }
      else { state with repair := { state.repair with cursor := cursor + 1, io := some (.read header) } }
    | .finished =>
      let (faults, request) := nextFault state.sessions.slots 0 state.repair.faults
      let state := { state with repair := { state.repair with scanning := false, faults } }
      match request with
      | none => { state with repair := { state.repair with requested := none } }
      | some (header, busy) =>
        if busy ∨ (state.repair.requested = some header ∧ ¬ due) then state
        else if state.members ≤ 1 then state.fail .replicaInvariant
        else if ¬ available then state
        else { state with repair := { state.repair with requested := some header } }

/-- `handleReplyRepair`: `syncing` is a state sync at work, `decodes` that the frame decodes to the
reply the slot should hold, `available` that the write can be submitted. -/
def handleReplyRepair (state : ReplyState χ) (header : ReplyHeader χ)
    (syncing decodes available : Bool) : ReplyState χ :=
  if syncing ∨ state.repair.io.isSome ∨ state.repair.requested.map (·.checksum) ≠ some header.checksum then
    state
  else match state.sessions.repairReply header.client header.op header.checksum with
    | none => state
    | some (expected, slot) =>
      if state.repair.faults[slot]? ≠ some (some header.checksum) ∨ expected.size = headerBytes ∨
          ¬ decodes then
        state
      else match state.sessions.planCommit expected ((state.sessions.session header.client).getD 0) with
        | .error _ => state
        | .ok (plan, reserved) =>
          if ¬ available then state.withSessions (reserved.abort plan)
          else
            { state.withSessions reserved with
              repair := { state.repair with
                faults := state.repair.faults.set slot none, io := some (.write plan) } }

/-- `handleReplyRepairIO`; `succeeds` is a write without an error or a read of the whole reply. -/
def handleReplyRepairIo (state : ReplyState χ) (succeeds : Bool) : Option (ReplyState χ) :=
  match state.repair.io with
  | none => none
  | some (.write plan) =>
    let state := { state.withSessions (state.sessions.abort plan) with
      repair := { state.repair with io := none, requested := none } }
    some (if succeeds then state else state.fail .replicaInvariant)
  | some (.read header) =>
    let state := { state with repair := { state.repair with io := none } }
    some (if succeeds then state else state.markReplyFault header)

/-! ## The commit of the first entry -/

def finishCommit (state : ReplyState χ) (entry : CommitEntry χ) (rest : List (CommitEntry χ))
    (yields : Bool) : ReplyState χ :=
  match commitReply state.sessions entry.reply with
  | .error error => state.fail error
  | .ok sessions =>
    match trackUpgradeWindow state.config state.execution.upgrade entry.prepared with
    | .error error => state.fail error
    | .ok upgrade =>
      let execution := { state.execution with sessions, upgrade, commitMin := entry.prepared.header.op }
      { state with execution }.continueCommitMaintenance entry rest yields

/-- `executeEntry`: a reply with a body is written first; `available` is that the write can be
submitted. -/
def executeEntry (state : ReplyState χ) (machine : StateMachine) (entry : CommitEntry χ)
    (rest : List (CommitEntry χ)) (available yields : Bool) : ReplyState χ :=
  match Supervsr.executeEntry state.config machine state.execution entry.prepared entry.token with
  | .error error => state.fail error
  | .ok (reply, execution) =>
    let state := { state with execution }
    let entry := { entry with stage := .execute, reply }
    match reply with
    | none => state.finishCommit entry rest yields
    | some (header, plan) =>
      if header.size = headerBytes then state.finishCommit entry rest yields
      else if ¬ available then (state.withSessions (state.sessions.abort plan)).fail .replicaInvariant
      else { state with pipeline := { entry with writing := true } :: rest }

/-- `advanceCommit` and `startPrefetch`, as far as the next completion: `ready` is the state of the
replica and of the first entry that allows the commit. -/
def advanceCommit (state : ReplyState χ) (machine : StateMachine) (ready available yields : Bool) :
    ReplyState χ :=
  match state.pipeline with
  | [] => state
  | entry :: rest =>
    if ¬ ready ∨ state.replyRepairBlocksCommit then state
    else
      match entry.stage with
      | .idle | .start | .checkPrepare =>
        if ¬ entry.prepared.executes then { state with pipeline := { entry with stage := .stall } :: rest }
        else
          let calls := state.execution.calls ++ [.startPrefetch entry.prepared.input]
          { state with
            execution := { state.execution with calls }
            pipeline := { entry with stage := .prefetch } :: rest }
      | .stall | .replySetup => state.executeEntry machine entry rest available yields
      | _ => state

/-- The completion of a prefetch. -/
def applyPrefetch (state : ReplyState χ) (machine : StateMachine) : Option (ReplyState χ) :=
  match state.pipeline with
  | [] => none
  | entry :: rest =>
    if entry.stage ≠ .prefetch then none
    else match machine.prefetch state.execution.calls with
      | none => some (state.fail .stateMachine)
      | some token => some { state with pipeline := { entry with stage := .stall, token } :: rest }

/-- The completion of the first entry's reply write; a state sync that drains the I/O gives the plan up
instead of committing it. -/
def finishReplyWrite (state : ReplyState χ) (succeeds draining yields : Bool) : Option (ReplyState χ) :=
  match state.pipeline with
  | [] => none
  | entry :: rest =>
    if ¬ entry.writing then none
    else
      let entry := { entry with writing := false }
      let state := { state with pipeline := entry :: rest }
      match entry.reply with
      | none => none
      | some (_, plan) =>
        let aborted := state.withSessions (state.sessions.abort plan)
        if ¬ succeeds then some (aborted.fail .replicaInvariant)
        else if draining then some aborted
        else some (state.finishCommit entry rest yields)

end ReplyState

/-! ## Runs -/

/-- What can happen to this part of a replica.  The Booleans are decided by the rest of it: whether the
first entry may be committed (`ready`), an operation can be submitted (`available`) or has succeeded
(`succeeds`), a view change is pending (`yields`) and a state sync is in the way. -/
inductive ReplyEvent (χ : Type) where
  | push (prepared : Prepared χ)
  | advance (ready available yields : Bool)
  | prefetched
  | replyWritten (succeeds draining yields : Bool)
  | compacted (yields : Bool)
  | checkpointed (yields : Bool)
  | persisted
  | truncate (kept : Nat)
  | reply (header : ReplyHeader χ) (syncing decodes available : Bool)
  | repairDone (succeeds : Bool)
  | continueRepair (waiting due available : Bool)
  | readFault (header : ReplyHeader χ)
  | release
  | reopen (sessions : SessionTable χ) (checkpoint : Nat)
deriving DecidableEq, Repr

/-- One event.  A failed replica takes no further one; no slot is reserved in a table that a state sync
decodes. -/
def ReplyState.step {χ : Type} [Checksums χ] [DecidableEq χ] (machine : StateMachine) (state : ReplyState χ)
    (event : ReplyEvent χ) : Option (ReplyState χ) :=
  if state.failed.isSome then none
  else match event with
    | .push prepared => some (state.pushPipeline prepared)
    | .advance ready available yields => some (state.advanceCommit machine ready available yields)
    | .prefetched => state.applyPrefetch machine
    | .replyWritten succeeds draining yields => state.finishReplyWrite succeeds draining yields
    | .compacted yields => state.applyCompact machine yields
    | .checkpointed yields => state.applyCheckpoint yields
    | .persisted => state.finishCheckpointPersistence
    | .truncate kept => state.truncatePipelineAfter kept
    | .reply header syncing decodes available =>
      some (state.handleReplyRepair header syncing decodes available)
    | .repairDone succeeds => state.handleReplyRepairIo succeeds
    | .continueRepair waiting due available => some (state.continueReplyRepair waiting due available)
    | .readFault header => some (state.markReplyFault header)
    | .release => some state.releaseOwnedFrames
    | .reopen sessions checkpoint =>
      if sessions.slots.any (·.busy) then none else some (state.reopen sessions checkpoint)

/-- No reply that was asked for arrives in the middle of a commit that is going to encode the sessions. -/
def ReplyEvent.timely {χ : Type} [Checksums χ] [DecidableEq χ] (state : ReplyState χ) : ReplyEvent χ → Bool
  | .reply header _ _ _ =>
    state.repair.requested.map (·.checksum) = some header.checksum →
      state.pipeline.any state.encodes = false
  | _ => true

/-- Every event of a run is timely. -/
def ReplyEvent.Timely {χ : Type} [Checksums χ] [DecidableEq χ] (state : ReplyState χ) (event : ReplyEvent χ) :
    Prop :=
  event.timely state = true

/-! ## Who holds a slot -/

/-- The plan an entry holds while its reply is written. -/
def CommitEntry.plan {χ : Type} (entry : CommitEntry χ) : Option (SessionCommitPlan χ) :=
  if entry.writing then entry.reply.map (·.2) else none

/-- The plan reply repair holds while it writes. -/
def ReplyRepairRuntime.plan {χ : Type} (repair : ReplyRepairRuntime χ) : Option (SessionCommitPlan χ) :=
  match repair.io with
  | some (.write plan) => some plan
  | _ => none

namespace ReplyState

variable {χ : Type} {slot : SessionSlot χ}

theorem replyRepairBlocksCommit_eq (state : ReplyState χ) :
    state.replyRepairBlocksCommit = state.repair.plan.isSome := by
  unfold replyRepairBlocksCommit ReplyRepairRuntime.plan
  split <;> rfl

/-- A running replica: repair does not write in the middle of a commit that encodes the sessions, only the
first entry is under way, and every reserved slot is held by the write of repair or of an entry. -/
structure Held (state : ReplyState χ) : Prop where
  exclusive : ∀ {plan}, state.repair.plan = some plan →
    ∀ entry ∈ state.pipeline, state.encodes entry = false
  first : ∀ entry ∈ state.pipeline.tail, entry.stage = .idle
  writing : ∀ entry ∈ state.pipeline, entry.writing = true → entry.stage = .execute
  busy : ∀ {index : Nat} {slot : SessionSlot χ}, state.sessions.slots[index]? = some slot →
    slot.busy = true → ∃ plan, (state.repair.plan = some plan ∨ ∃ entry ∈ state.pipeline,
      entry.plan = some plan) ∧ plan.slot = index ∧ plan.generation = slot.generation

/-- What holds in every state: no slot was reserved when a trailer was encoded, and who holds what
while the replica runs. -/
structure Sound (state : ReplyState χ) : Prop where
  snapshots : ∀ table ∈ state.snapshots, ∀ slot ∈ table.slots, slot.busy = false
  held : state.failed = none → state.Held

/-- The middle of a commit: the entries behind the first are idle, and no slot is reserved but by the write
of repair and the plan the first one holds. -/
structure Committing (state : ReplyState χ) (plan : Option (SessionCommitPlan χ))
    (rest : List (CommitEntry χ)) : Prop where
  snapshots : ∀ table ∈ state.snapshots, ∀ slot ∈ table.slots, slot.busy = false
  rest : ∀ entry ∈ rest, entry.stage = .idle ∧ entry.writing = false
  busy : ∀ {index : Nat} {slot : SessionSlot χ}, state.sessions.slots[index]? = some slot →
    slot.busy = true → ∃ held, (state.repair.plan = some held ∨ plan = some held) ∧
      held.slot = index ∧ held.generation = slot.generation

/-- Repair does not write where the op encodes the sessions. -/
def Spares (state : ReplyState χ) (op : Nat) : Prop :=
  ∀ plan, state.repair.plan = some plan → state.encodesAt op = false

theorem Spares.of_none {state : ReplyState χ} (repair : state.repair.plan = none) (op : Nat) :
    state.Spares op := by
  intro plan hplan
  rw [repair] at hplan
  cases hplan

theorem Spares.repair_eq_none {state : ReplyState χ} {op : Nat} (spares : state.Spares op)
    (encodes : state.encodesAt op = true) : state.repair.plan = none := by
  cases hplan : state.repair.plan with
  | none => rfl
  | some plan =>
    rw [spares plan hplan] at encodes
    cases encodes

theorem encodes_of_idle {state : ReplyState χ} {entry : CommitEntry χ} (idle : entry.stage = .idle) :
    state.encodes entry = false := by
  simp [encodes, idle]

theorem encodes_of_not_encodesAt {state : ReplyState χ} {entry : CommitEntry χ}
    (spared : state.encodesAt entry.prepared.header.op = false) : state.encodes entry = false := by
  unfold encodes
  split <;> first | rfl | exact spared

theorem CommitEntry.plan_eq_none {entry : CommitEntry χ} (still : entry.writing = false) :
    entry.plan = none := by
  simp [CommitEntry.plan, still]

/-! ## The commit of an entry -/

namespace Committing

variable {state next : ReplyState χ} {plan : Option (SessionCommitPlan χ)} {entry : CommitEntry χ}
  {rest : List (CommitEntry χ)}

theorem congr (committing : state.Committing plan rest) (snapshots : next.snapshots = state.snapshots)
    (repair : next.repair = state.repair) (sessions : next.sessions = state.sessions) :
    next.Committing plan rest :=
  ⟨by rw [snapshots]; exact committing.snapshots, committing.rest,
    by rw [repair, sessions]; exact committing.busy⟩

theorem not_busy (committing : state.Committing none rest) (repair : state.repair.plan = none) :
    ∀ slot ∈ state.sessions.slots, slot.busy = false := by
  intro slot mem
  obtain ⟨index, hindex⟩ := List.mem_iff_getElem?.mp mem
  by_contra hbusy
  obtain ⟨held, hrepair | hheld, -⟩ := committing.busy hindex (by simpa using hbusy)
  · rw [repair] at hrepair
    cases hrepair
  · cases hheld

theorem failed (committing : state.Committing plan rest) (error : ExecutionError) :
    (state.fail error).Sound :=
  ⟨committing.snapshots, fun hrunning => by cases hrunning⟩

/-- The entry has left the pipeline. -/
theorem sound_rest (committing : state.Committing none rest) (pipeline : state.pipeline = rest) :
    state.Sound := by
  refine ⟨committing.snapshots, fun _ => ⟨fun _ => ?_, ?_, ?_, fun hslot hbusy => ?_⟩⟩
  · rw [pipeline]
    exact fun entry mem => encodes_of_idle (committing.rest entry mem).1
  · rw [pipeline]
    exact fun entry mem => (committing.rest entry (List.mem_of_mem_tail mem)).1
  · rw [pipeline]
    intro entry mem hwriting
    rw [(committing.rest entry mem).2] at hwriting
    cases hwriting
  · obtain ⟨held, hrepair | hheld, hmatch⟩ := committing.busy hslot hbusy
    · exact ⟨held, .inl hrepair, hmatch⟩
    · cases hheld

/-- The entry is still first and holds the plan. -/
theorem sound_cons (committing : state.Committing plan rest) (pipeline : state.pipeline = entry :: rest)
    (spared : ∀ {held}, state.repair.plan = some held → state.encodes entry = false)
    (holds : entry.plan = plan) (writing : entry.writing = true → entry.stage = .execute) : state.Sound := by
  refine ⟨committing.snapshots, fun _ => ⟨fun hrepair => ?_, ?_, ?_, fun hslot hbusy => ?_⟩⟩
  · rw [pipeline]
    intro other mem
    obtain rfl | hmem := List.mem_cons.mp mem
    · exact spared hrepair
    · exact encodes_of_idle (committing.rest other hmem).1
  · rw [pipeline]
    exact fun entry mem => (committing.rest entry mem).1
  · rw [pipeline]
    intro other mem hwriting
    obtain rfl | hmem := List.mem_cons.mp mem
    · exact writing hwriting
    · rw [(committing.rest other hmem).2] at hwriting
      cases hwriting
  · obtain ⟨held, hrepair | hheld, hmatch⟩ := committing.busy hslot hbusy
    · exact ⟨held, .inl hrepair, hmatch⟩
    · exact ⟨held, .inr ⟨entry, by rw [pipeline]; exact List.mem_cons_self, holds.trans hheld⟩, hmatch⟩

section

variable (committing : state.Committing none rest)

include committing

theorem snapshotIf (encodes : Prop) [Decidable encodes] (quiet : encodes → state.repair.plan = none) :
    (state.snapshotIf encodes).Committing none rest := by
  refine ⟨fun table mem => ?_, committing.rest, ?_⟩
  · obtain ⟨hencodes, rfl⟩ | hmem := mem_snapshotIf state encodes mem
    · exact committing.not_busy (quiet hencodes)
    · exact committing.snapshots table hmem
  · unfold ReplyState.sessions
    rw [snapshotIf_execution, snapshotIf_repair]
    exact committing.busy

variable (spares : state.Spares entry.prepared.header.op)

include spares

theorem afterCompact (still : entry.writing = false)
    (yields : Bool) : (state.afterCompact entry rest yields).Sound := by
  unfold ReplyState.afterCompact
  split
  · exact sound_rest (committing.congr rfl rfl rfl) rfl
  dsimp only
  have hcommitting := committing.snapshotIf
    (checkpointAfter state.config.cluster state.config.checkpoint = some entry.prepared.header.op)
    fun hop => spares.repair_eq_none (decide_eq_true (.inl hop))
  split
  · exact hcommitting.failed _
  rename_i execution hexecution
  have hsessions := afterCompact_sessions hexecution
  split
  · refine sound_cons (hcommitting.congr rfl rfl hsessions) rfl (fun hrepair => ?_)
      (CommitEntry.plan_eq_none still) fun hwriting => by rw [still] at hwriting; cases hwriting
    simp only [snapshotIf_repair] at hrepair
    refine encodes_of_not_encodesAt ?_
    simp only [encodesAt, snapshotIf_config]
    exact spares _ hrepair
  · exact sound_rest (hcommitting.congr rfl rfl hsessions) rfl

theorem continueCommitMaintenance (still : entry.writing = false)
    (yields : Bool) : (state.continueCommitMaintenance entry rest yields).Sound := by
  unfold ReplyState.continueCommitMaintenance
  dsimp only
  split
  · exact committing.afterCompact spares still yields
  · exact sound_cons (committing.congr rfl rfl rfl) rfl
      (fun hrepair => encodes_of_not_encodesAt (spares _ hrepair)) (CommitEntry.plan_eq_none still)
      fun hwriting => by rw [still] at hwriting; cases hwriting

end

theorem abort {held : SessionCommitPlan χ} (committing : state.Committing (some held) rest) :
    (state.withSessions (state.sessions.abort held)).Committing none rest := by
  refine ⟨committing.snapshots, committing.rest, fun hslot hbusy => ?_⟩
  obtain ⟨hbefore, hother⟩ := SessionTableOf.reserved_of_abort hslot hbusy
  obtain ⟨plan, hrepair | hplan, hmatch⟩ := committing.busy hbefore hbusy
  · exact ⟨plan, .inl hrepair, hmatch⟩
  · obtain rfl := Option.some.inj hplan
    exact (hother hmatch).elim

variable [Checksums χ] [DecidableEq χ]

theorem finishCommit (committing : state.Committing plan rest)
    (spares : state.Spares entry.prepared.header.op) (holds : entry.reply.map (·.2) = plan)
    (still : entry.writing = false) (yields : Bool) : (state.finishCommit entry rest yields).Sound := by
  unfold ReplyState.finishCommit
  split
  · exact committing.failed _
  rename_i sessions hsessions
  split
  · exact committing.failed _
  dsimp only
  refine continueCommitMaintenance ?_ ?_ still yields
  case refine_2 => exact spares
  refine ⟨committing.snapshots, committing.rest, ?_⟩
  intro index slot hslot hbusy
  cases hreply : entry.reply with
  | none =>
    rw [hreply] at hsessions holds
    obtain rfl : state.sessions = sessions := Except.ok.inj hsessions
    obtain ⟨held, hrepair | hheld, hmatch⟩ := committing.busy hslot hbusy
    · exact ⟨held, .inl hrepair, hmatch⟩
    · rw [← holds] at hheld
      cases hheld
  | some reply =>
    obtain ⟨header, planned⟩ := reply
    rw [hreply] at hsessions holds
    obtain ⟨hbefore, hother⟩ :=
      SessionTableOf.reserved_of_commitAt (sessionResult_eq_ok hsessions) hslot hbusy
    obtain ⟨held, hrepair | hheld, hmatch⟩ := committing.busy hbefore hbusy
    · exact ⟨held, .inl hrepair, hmatch⟩
    · rw [← holds] at hheld
      obtain rfl := Option.some.inj hheld
      exact (hother hmatch.1).elim

theorem executeEntry {machine : StateMachine} (committing : state.Committing none rest)
    (spares : state.Spares entry.prepared.header.op) (still : entry.writing = false)
    (available yields : Bool) :
    (state.executeEntry machine entry rest available yields).Sound := by
  unfold ReplyState.executeEntry
  split
  · exact committing.failed _
  rename_i reply execution hexecute
  by_cases hclient : entry.prepared.header.client = 0
  · obtain ⟨rfl, -, -, hexecution⟩ := executeEntry_zero hclient hexecute
    have hsessions : execution.sessions = state.execution.sessions := by rw [hexecution]
    have hcommitting : Committing { state with execution } none rest := committing.congr rfl rfl hsessions
    refine finishCommit hcommitting ?_ ?_ ?_ yields
    · exact spares
    · rfl
    · exact still
  · obtain ⟨body, calls, session, plan, reserved, -, -, hplan, rfl, rfl⟩ :=
      executeEntry_client hclient hexecute
    have hcommitting : Committing
        { state with execution := { state.execution with
          sessions := reserved, calls
          replies := writeReply state.execution.replies plan.slot
            ⟨buildReplyHeader state.config entry.prepared body, body⟩ } } (some plan) rest := by
      refine ⟨committing.snapshots, committing.rest, fun hslot hbusy => ?_⟩
      obtain hmatch | hbefore := SessionTableOf.reserved_of_planCommit hplan hslot
      · exact ⟨plan, .inr rfl, hmatch⟩
      · obtain ⟨held, hrepair | hheld, hmatch⟩ := committing.busy hbefore hbusy
        · exact ⟨held, .inl hrepair, hmatch⟩
        · cases hheld
    dsimp only
    split
    · refine finishCommit hcommitting ?_ ?_ ?_ yields
      · exact spares
      · rfl
      · exact still
    · split
      · exact (hcommitting.abort).failed _
      · exact sound_cons (hcommitting.congr rfl rfl rfl) rfl
          (fun hrepair => encodes_of_not_encodesAt (spares _ hrepair)) rfl fun _ => rfl

end Committing

/-! ## Every event -/

namespace Held

variable {state next : ReplyState χ} {entry : CommitEntry χ} {rest : List (CommitEntry χ)}

variable (held : state.Held)

include held

/-- Only what the sessions, the pipeline, the checkpoint and the write of repair are matters. -/
theorem congr (config : next.config = state.config) (pipeline : next.pipeline = state.pipeline)
    (repair : next.repair.plan = state.repair.plan) (sessions : next.sessions = state.sessions) :
    next.Held :=
  ⟨by simp only [pipeline, repair, encodes, encodesAt, config]; exact held.exclusive, by rw [pipeline]; exact held.first,
    by rw [pipeline]; exact held.writing, by rw [pipeline, repair, sessions]; exact held.busy⟩

theorem committing (snapshots : ∀ table ∈ state.snapshots, ∀ slot ∈ table.slots, slot.busy = false)
    (pipeline : state.pipeline = entry :: rest) : state.Committing entry.plan rest := by
  have hrest : ∀ other ∈ rest, other.stage = .idle ∧ other.writing = false := by
    intro other mem
    have hidle : other.stage = .idle := held.first other (by rw [pipeline]; exact mem)
    refine ⟨hidle, ?_⟩
    by_contra hwriting
    have hexecute := held.writing other (by rw [pipeline]; exact List.mem_cons_of_mem _ mem) (by simpa using hwriting)
    rw [hidle] at hexecute
    cases hexecute
  refine ⟨snapshots, hrest, fun hslot hbusy => ?_⟩
  obtain ⟨plan, hrepair | ⟨other, hmem, hplan⟩, hmatch⟩ := held.busy hslot hbusy
  · exact ⟨plan, .inl hrepair, hmatch⟩
  rw [pipeline] at hmem
  obtain rfl | hmem := List.mem_cons.mp hmem
  · exact ⟨plan, .inr hplan, hmatch⟩
  · rw [CommitEntry.plan_eq_none (hrest other hmem).2] at hplan
    cases hplan

/-- Past the prefetch of an entry that encodes the sessions, repair is not writing. -/
theorem spares (pipeline : state.pipeline = entry :: rest)
    (late : state.encodes entry = state.encodesAt entry.prepared.header.op) :
    state.Spares entry.prepared.header.op := by
  intro plan hplan
  rw [← late]
  exact held.exclusive hplan entry (by rw [pipeline]; exact List.mem_cons_self)

theorem not_writing (mem : entry ∈ state.pipeline) (stage : entry.stage ≠ .execute) :
    entry.writing = false := by
  by_contra hwriting
  exact stage (held.writing entry mem (by simpa using hwriting))

/-- An entry at a stage other than the reply's write holds no plan. -/
theorem committing_none
    (snapshots : ∀ table ∈ state.snapshots, ∀ slot ∈ table.slots, slot.busy = false)
    (pipeline : state.pipeline = entry :: rest) (stage : entry.stage ≠ .execute) :
    state.Committing none rest ∧ entry.writing = false := by
  have hstill := held.not_writing (by rw [pipeline]; exact List.mem_cons_self) stage
  exact ⟨CommitEntry.plan_eq_none hstill ▸ held.committing snapshots pipeline, hstill⟩

theorem pushPipeline (prepared : Prepared χ) : (state.pushPipeline prepared).Held := by
  refine ⟨fun hplan entry mem => ?_, fun entry mem => ?_, fun entry mem hwriting => ?_, fun hslot hbusy => ?_⟩
  · obtain hold | hnew := List.mem_append.mp mem
    · exact held.exclusive hplan entry hold
    · rw [List.mem_singleton.mp hnew]
      rfl
  · unfold ReplyState.pushPipeline at mem
    cases hpipeline : state.pipeline with
    | nil => simp [hpipeline] at mem
    | cons first rest =>
      rw [hpipeline, List.cons_append, List.tail_cons] at mem
      obtain hold | hnew := List.mem_append.mp mem
      · exact held.first entry (by rw [hpipeline]; exact hold)
      · rw [List.mem_singleton.mp hnew]
  · obtain hold | hnew := List.mem_append.mp mem
    · exact held.writing entry hold hwriting
    · rw [List.mem_singleton.mp hnew] at hwriting
      cases hwriting
  · obtain ⟨plan, hplan, hmatch⟩ := held.busy hslot hbusy
    exact ⟨plan, hplan.imp_right fun ⟨entry, mem, hentry⟩ => ⟨entry, List.mem_append_left _ mem, hentry⟩, hmatch⟩

theorem truncatePipelineAfter {kept : Nat}
    (truncates : state.truncatePipelineAfter kept = some next) : next.Held := by
  unfold ReplyState.truncatePipelineAfter at truncates
  split_ifs at truncates with hdropped
  cases truncates
  have hsub : ∀ entry ∈ state.pipeline.take kept, entry ∈ state.pipeline := fun _ => List.mem_of_mem_take
  refine ⟨fun hplan entry mem => held.exclusive hplan entry (hsub entry mem), fun entry mem => ?_,
    fun entry mem => held.writing entry (hsub entry mem), fun hslot hbusy => ?_⟩
  · refine held.first entry ?_
    cases hpipeline : state.pipeline with
    | nil => simp [hpipeline] at mem
    | cons first rest =>
      cases kept with
      | zero => simp at mem
      | succ kept =>
        simp only [hpipeline, List.take_succ_cons, List.tail_cons] at mem
        exact List.mem_of_mem_take mem
  · obtain ⟨plan, hrepair | ⟨entry, mem, hplan⟩, hmatch⟩ := held.busy hslot hbusy
    · exact ⟨plan, .inl hrepair, hmatch⟩
    refine ⟨plan, .inr ⟨entry, ?_, hplan⟩, hmatch⟩
    -- An entry that holds a plan is writing, so it is not among those dropped.
    have hmem : entry ∈ state.pipeline.take kept ++ state.pipeline.drop kept := by
      rw [List.take_append_drop]; exact mem
    refine (List.mem_append.mp hmem).resolve_right fun hdrop => hdropped ?_
    rw [List.any_eq_true]
    refine ⟨entry, hdrop, ?_⟩
    have hwriting : entry.writing = true := by
      by_contra hstill
      rw [CommitEntry.plan_eq_none (by simpa using hstill)] at hplan
      cases hplan
    simp [hwriting]

/-- Giving up a plan takes its slot from whoever held it. -/
theorem busy_of_abort {plan : SessionCommitPlan χ} {index : Nat}
    (hslot : (state.sessions.abort plan).slots[index]? = some slot) (hbusy : slot.busy = true) :
    ∃ other, other ≠ plan ∧ (state.repair.plan = some other ∨
      ∃ entry ∈ state.pipeline, entry.plan = some other) ∧ other.slot = index ∧
      other.generation = slot.generation := by
  obtain ⟨hbefore, hother⟩ := SessionTableOf.reserved_of_abort hslot hbusy
  obtain ⟨other, hholds, hmatch⟩ := held.busy hbefore hbusy
  exact ⟨other, fun hsame => hother (hsame ▸ hmatch), hholds, hmatch⟩

end Held

section Events

variable {state next : ReplyState χ} {machine : StateMachine}

section

variable (sound : state.Sound) (running : state.failed = none)

include sound running

theorem Sound.applyPrefetch (applied : state.applyPrefetch machine = some next) : next.Sound := by
  unfold ReplyState.applyPrefetch at applied
  split at applied
  · cases applied
  rename_i entry rest hpipeline
  split_ifs at applied with hstage
  have hstage := not_not.mp hstage
  obtain ⟨hcommitting, hstill⟩ := (sound.held running).committing_none sound.snapshots hpipeline
    (by rw [hstage]; decide)
  split at applied
  · cases applied
    exact hcommitting.failed _
  · cases applied
    exact Committing.sound_cons (hcommitting.congr rfl rfl rfl) rfl (fun _ => rfl)
      (CommitEntry.plan_eq_none hstill) fun hwriting => by rw [hstill] at hwriting; cases hwriting

theorem Sound.applyCompact {yields : Bool} (applied : state.applyCompact machine yields = some next) : next.Sound := by
  unfold ReplyState.applyCompact at applied
  split at applied
  · cases applied
  rename_i entry rest hpipeline
  split_ifs at applied with hstage hcompact
  all_goals
    have hstage := not_not.mp hstage
    obtain ⟨hcommitting, hstill⟩ := (sound.held running).committing_none sound.snapshots hpipeline
      (by rw [hstage]; decide)
    cases applied
  · exact hcommitting.afterCompact ((sound.held running).spares hpipeline (by simp [encodes, hstage]))
      hstill yields
  · exact hcommitting.failed _

theorem Sound.applyCheckpoint {yields : Bool} (applied : state.applyCheckpoint yields = some next) : next.Sound := by
  unfold ReplyState.applyCheckpoint at applied
  split at applied
  · cases applied
  rename_i entry rest hpipeline
  split_ifs at applied with hstage hyields
  all_goals
    have hstage := not_not.mp hstage
    obtain ⟨hcommitting, hstill⟩ := (sound.held running).committing_none sound.snapshots hpipeline
      (by rw [hstage]; decide)
    cases applied
  · exact Committing.sound_rest (hcommitting.congr rfl rfl rfl) rfl
  · have hspares := (sound.held running).spares hpipeline (by simp [encodes, hstage])
    exact Committing.sound_cons (hcommitting.congr rfl rfl rfl) rfl
      (fun hrepair => encodes_of_not_encodesAt (hspares _ hrepair)) (CommitEntry.plan_eq_none hstill) fun hwriting => by rw [hstill] at hwriting; cases hwriting

theorem Sound.finishCheckpointPersistence (finished : state.finishCheckpointPersistence = some next) : next.Sound := by
  unfold ReplyState.finishCheckpointPersistence at finished
  split at finished
  · cases finished
  rename_i entry rest hpipeline
  split_ifs at finished with hstage
  have hstage := not_not.mp hstage
  obtain ⟨hcommitting, hstill⟩ := (sound.held running).committing_none sound.snapshots hpipeline
    (by rw [hstage]; decide)
  have hspares := (sound.held running).spares hpipeline (by simp [encodes, hstage])
  split at finished
  · cases finished
    exact hcommitting.failed _
  rename_i target htarget
  have hadvanced : Committing { state with
      config := { state.config with checkpoint := target }
      execution := { state.execution with checkpointSession := none } } none rest :=
    hcommitting.congr rfl rfl rfl
  dsimp only at finished
  split at finished
  · cases finished
    exact hadvanced.failed _
  rename_i following hfollowing
  have hencoded := hadvanced.snapshotIf (entry.prepared.header.op = following) fun hop =>
    hspares.repair_eq_none (decide_eq_true (.inr (by rw [htarget, hop]; exact hfollowing)))
  split at finished
  · cases finished
    exact hencoded.failed _
  · rename_i execution hkept
    have hsessions := keepSessions_sessions hkept
    cases finished
    exact Committing.sound_rest (hencoded.congr rfl rfl hsessions) rfl

end

theorem Sound.failed (sound : state.Sound) (error : ExecutionError) : (state.fail error).Sound :=
  ⟨sound.snapshots, fun hrunning => by cases hrunning⟩

theorem Sound.with_repair (sound : state.Sound) {repair : ReplyRepairRuntime χ}
    (plan : repair.plan = state.repair.plan) : Sound { state with repair } :=
  ⟨sound.snapshots, fun running => (sound.held running).congr rfl rfl plan rfl⟩

/-- What is reserved after every entry's plan was given up is held by none of them. -/
theorem reserved_of_aborts {entries : List (CommitEntry χ)} {table : SessionTable χ} {index : Nat}
    (hslot : (entries.foldl (fun sessions entry => match entry.reply with
      | none => sessions
      | some (_, plan) => sessions.abort plan) table).slots[index]? = some slot) (hbusy : slot.busy = true) :
    table.slots[index]? = some slot ∧ ∀ entry ∈ entries, ∀ plan, entry.plan = some plan →
      ¬ (plan.slot = index ∧ plan.generation = slot.generation) := by
  induction entries generalizing table with
  | nil => exact ⟨hslot, by simp⟩
  | cons entry rest ih =>
    rw [List.foldl_cons] at hslot
    obtain ⟨hafter, hrest⟩ := ih hslot
    cases hreply : entry.reply with
    | none =>
      rw [hreply] at hafter
      refine ⟨hafter, fun other mem plan hplan => ?_⟩
      obtain rfl | hmem := List.mem_cons.mp mem
      · simp [CommitEntry.plan, hreply] at hplan
      · exact hrest other hmem plan hplan
    | some reply =>
      obtain ⟨header, held⟩ := reply
      rw [hreply] at hafter
      obtain ⟨hbefore, hother⟩ := SessionTableOf.reserved_of_abort hafter hbusy
      refine ⟨hbefore, fun other mem plan hplan => ?_⟩
      obtain rfl | hmem := List.mem_cons.mp mem
      · unfold CommitEntry.plan at hplan
        split_ifs at hplan
        rw [hreply] at hplan
        obtain rfl := Option.some.inj hplan
        exact hother
      · exact hrest other hmem plan hplan

/-- Once repair has given its plan up, only entries hold slots. -/
theorem Held.busy_of_releaseReplyRepair (held : state.Held) {index : Nat}
    (hslot : state.releaseReplyRepair.sessions.slots[index]? = some slot) (hbusy : slot.busy = true) :
    ∃ entry ∈ state.pipeline, ∃ plan, entry.plan = some plan ∧ plan.slot = index ∧
      plan.generation = slot.generation := by
  cases hplan : state.repair.plan with
  | none =>
    have hsessions : state.releaseReplyRepair.sessions = state.sessions := by
      unfold ReplyRepairRuntime.plan at hplan
      unfold releaseReplyRepair
      dsimp only
      split <;> simp_all [withSessions, sessions]
    rw [hsessions] at hslot
    obtain ⟨plan, hrepair | ⟨entry, mem, hentry⟩, hmatch⟩ := held.busy hslot hbusy
    · rw [hplan] at hrepair
      cases hrepair
    · exact ⟨entry, mem, plan, hentry, hmatch⟩
  | some given =>
    have hsessions : state.releaseReplyRepair.sessions = state.sessions.abort given := by
      unfold ReplyRepairRuntime.plan at hplan
      unfold releaseReplyRepair
      dsimp only
      split <;> simp_all [withSessions, sessions]
    rw [hsessions] at hslot
    obtain ⟨plan, hother, hrepair | ⟨entry, mem, hentry⟩, hmatch⟩ := held.busy_of_abort hslot hbusy
    · rw [hplan] at hrepair
      exact (hother (Option.some.inj hrepair).symm).elim
    · exact ⟨entry, mem, plan, hentry, hmatch⟩

theorem Sound.releaseOwnedFrames (sound : state.Sound) (running : state.failed = none) :
    state.releaseOwnedFrames.Sound := by
  refine ⟨sound.snapshots, fun _ => ⟨?_, ?_, ?_, fun hslot hbusy => ?_⟩⟩
  · intro plan hplan
    cases hplan
  · simp [ReplyState.releaseOwnedFrames]
  · simp [ReplyState.releaseOwnedFrames]
  obtain ⟨hreleased, hentries⟩ := reserved_of_aborts hslot hbusy
  obtain ⟨entry, mem, plan, hplan, hmatch⟩ := (sound.held running).busy_of_releaseReplyRepair hreleased hbusy
  exact (hentries entry mem plan hplan hmatch).elim

variable [Checksums χ] [DecidableEq χ]

section

variable (sound : state.Sound)

include sound

theorem Sound.advanceCommit (running : state.failed = none) (ready available yields : Bool) : (state.advanceCommit machine ready available yields).Sound := by
  unfold ReplyState.advanceCommit
  split
  · exact sound
  rename_i entry rest hpipeline
  split
  · exact sound
  rename_i hready
  have hrepair : state.repair.plan = none := by
    rw [replyRepairBlocksCommit_eq] at hready
    simpa using (not_or.mp hready).2
  have hcommitting := (sound.held running).committing_none sound.snapshots hpipeline
  split
  case h_1 hstage | h_2 hstage | h_3 hstage =>
    obtain ⟨hcommitting, hstill⟩ := hcommitting (by rw [hstage]; decide)
    split <;> exact Committing.sound_cons (hcommitting.congr rfl rfl rfl) rfl (fun _ => rfl)
      (CommitEntry.plan_eq_none hstill) fun hwriting => by rw [hstill] at hwriting; cases hwriting
  case h_4 hstage | h_5 hstage =>
    obtain ⟨hcommitting, hstill⟩ := hcommitting (by rw [hstage]; decide)
    exact hcommitting.executeEntry (.of_none hrepair _) hstill available yields
  case h_6 => exact sound

theorem Sound.finishReplyWrite (running : state.failed = none) {succeeds draining yields : Bool}
    (finished : state.finishReplyWrite succeeds draining yields = some next) : next.Sound := by
  unfold ReplyState.finishReplyWrite at finished
  split at finished
  · cases finished
  rename_i entry rest hpipeline
  split at finished
  · cases finished
  rename_i hwriting
  have hwriting : entry.writing = true := by simpa using hwriting
  have hmem : entry ∈ state.pipeline := by rw [hpipeline]; exact List.mem_cons_self
  have hstage := (sound.held running).writing entry hmem hwriting
  have hcommitting := (sound.held running).committing sound.snapshots hpipeline
  have hspares := (sound.held running).spares hpipeline (by simp [encodes, hstage])
  cases hreply : entry.reply with
  | none => simp [hreply] at finished
  | some reply =>
    obtain ⟨header, plan⟩ := reply
    rw [show entry.plan = some plan by simp [CommitEntry.plan, hwriting, hreply]] at hcommitting
    have hwritten : Committing
        { state with pipeline := { entry with reply := some (header, plan), writing := false } :: rest }
        (some plan) rest := hcommitting.congr rfl rfl rfl
    simp only [hreply] at finished
    split_ifs at finished
    · cases finished
      exact Committing.sound_cons hwritten.abort rfl
        (fun hrepair => encodes_of_not_encodesAt (hspares _ hrepair)) rfl fun hwriting => by cases hwriting
    · cases finished
      refine hwritten.finishCommit ?_ ?_ ?_ yields
      · exact hspares
      · rfl
      · rfl
    · cases finished
      exact hwritten.abort.failed _

theorem Sound.markReplyFault (header : ReplyHeader χ) :
    (state.markReplyFault header).Sound := by
  unfold ReplyState.markReplyFault
  split
  · exact sound
  split
  · exact sound
  dsimp only
  split
  · refine Sound.failed ?_ _
    exact sound.with_repair rfl
  · exact sound.with_repair rfl

theorem Sound.continueReplyRepair (waiting due available : Bool) :
    (state.continueReplyRepair waiting due available).Sound := by
  unfold ReplyState.continueReplyRepair
  split
  · exact sound
  rename_i hready
  have hio : state.repair.io = none := by simpa using (not_or.mp hready).2
  dsimp only
  split
  · exact sound.with_repair rfl
  · split
    · exact sound.with_repair rfl
    · exact sound.with_repair (by simp [ReplyRepairRuntime.plan, hio])
  split
  · exact sound.with_repair rfl
  split
  · exact sound.with_repair rfl
  split
  · refine Sound.failed ?_ _
    exact sound.with_repair rfl
  · split
    · exact sound.with_repair rfl
    · exact sound.with_repair rfl

theorem Sound.handleReplyRepairIo (running : state.failed = none) {succeeds : Bool}
    (handled : state.handleReplyRepairIo succeeds = some next) : next.Sound := by
  unfold ReplyState.handleReplyRepairIo at handled
  split at handled
  · cases handled
  · rename_i plan hio
    have hheld := sound.held running
    have hplan : state.repair.plan = some plan := by simp [ReplyRepairRuntime.plan, hio]
    have hdone : Sound { state.withSessions (state.sessions.abort plan) with
        repair := { state.repair with io := none, requested := none } } := by
      refine ⟨sound.snapshots, fun _ => ⟨?_, hheld.first, hheld.writing, fun hslot hbusy => ?_⟩⟩
      · intro other hnone
        cases hnone
      obtain ⟨other, hother, hrepair | hentry, hmatch⟩ := hheld.busy_of_abort hslot hbusy
      · rw [hplan] at hrepair
        exact (hother (Option.some.inj hrepair).symm).elim
      · exact ⟨other, .inr hentry, hmatch⟩
    cases handled
    split
    · exact hdone
    · exact hdone.failed _
  · rename_i header hio
    have hdone : Sound { state with repair := { state.repair with io := none } } :=
      sound.with_repair (by simp [ReplyRepairRuntime.plan, hio])
    cases handled
    split
    · exact hdone
    · exact hdone.markReplyFault header

theorem Sound.handleReplyRepair (running : state.failed = none) {header : ReplyHeader χ}
    (syncing decodes available : Bool)
    (timely : state.repair.requested.map (·.checksum) = some header.checksum →
      state.pipeline.any state.encodes = false) :
    (state.handleReplyRepair header syncing decodes available).Sound := by
  unfold ReplyState.handleReplyRepair
  split
  · exact sound
  rename_i hready
  simp only [not_or, not_not] at hready
  obtain ⟨-, hio, hrequested⟩ := hready
  split
  · exact sound
  split
  · exact sound
  split
  · exact sound
  rename_i plan reserved hplan
  have hheld := sound.held running
  have hrepair : state.repair.plan = none := by
    have hnone : state.repair.io = none := by simpa using hio
    simp [ReplyRepairRuntime.plan, hnone]
  split
  · -- The write could not be submitted, and the slot is free again.
    refine ⟨sound.snapshots, fun _ => ⟨hheld.exclusive, hheld.first, hheld.writing,
      fun hslot hbusy => ?_⟩⟩
    obtain ⟨hreserved, hother⟩ := SessionTableOf.reserved_of_abort hslot hbusy
    obtain hmatch | hbefore := SessionTableOf.reserved_of_planCommit hplan hreserved
    · exact (hother hmatch).elim
    · exact hheld.busy hbefore hbusy
  · have hspared (entry) (mem : entry ∈ state.pipeline) : state.encodes entry = false := by
      simpa using List.any_eq_false.mp (timely hrequested) entry mem
    refine ⟨sound.snapshots, fun _ => ⟨fun _ => hspared, hheld.first, hheld.writing,
      fun hslot hbusy => ?_⟩⟩
    obtain hmatch | hbefore := SessionTableOf.reserved_of_planCommit hplan hslot
    · exact ⟨plan, .inl rfl, hmatch⟩
    obtain ⟨other, hrepairs | hentry, hmatch⟩ := hheld.busy hbefore hbusy
    · rw [hrepair] at hrepairs
      cases hrepairs
    · exact ⟨other, .inr hentry, hmatch⟩

/-- Every event keeps the invariant, as long as a reply that was asked for does not arrive in the middle of
a commit that encodes the sessions. -/
theorem Sound.step {event : ReplyEvent χ} (timely : ReplyEvent.Timely state event)
    (taken : state.step machine event = some next) : next.Sound := by
  unfold ReplyState.step at taken
  split at taken
  · cases taken
  rename_i hrunning
  have running : state.failed = none := by simpa using hrunning
  cases event with
  | push prepared =>
    cases taken
    exact ⟨sound.snapshots, fun _ => (sound.held running).pushPipeline prepared⟩
  | advance ready available yields =>
    cases taken
    exact sound.advanceCommit running ready available yields
  | prefetched => exact sound.applyPrefetch running taken
  | replyWritten succeeds draining yields => exact sound.finishReplyWrite running taken
  | compacted yields => exact sound.applyCompact running taken
  | checkpointed yields => exact sound.applyCheckpoint running taken
  | persisted => exact sound.finishCheckpointPersistence running taken
  | truncate kept =>
    have hsnapshots : next.snapshots = state.snapshots := by
      simp only [ReplyState.truncatePipelineAfter] at taken
      split_ifs at taken
      cases taken
      rfl
    exact ⟨by rw [hsnapshots]; exact sound.snapshots,
      fun _ => (sound.held running).truncatePipelineAfter taken⟩
  | reply header syncing decodes available =>
    cases taken
    exact sound.handleReplyRepair running syncing decodes available (of_decide_eq_true timely)
  | repairDone succeeds => exact sound.handleReplyRepairIo running taken
  | continueRepair waiting due available =>
    cases taken
    exact sound.continueReplyRepair waiting due available
  | readFault header =>
    cases taken
    exact sound.markReplyFault header
  | release =>
    cases taken
    exact sound.releaseOwnedFrames running
  | reopen sessions checkpoint =>
    simp only at taken
    split_ifs at taken with hbusy
    cases taken
    have hheld := sound.held running
    refine ⟨sound.snapshots, fun _ => ⟨?_, hheld.first, hheld.writing, fun hslot hheld => ?_⟩⟩
    · intro plan hplan
      cases hplan
    · exact (hbusy (List.any_eq_true.mpr ⟨_, List.mem_of_getElem? hslot, hheld⟩)).elim

end

/-- A replica that has just been opened: nothing is under way and no slot is reserved. -/
structure Opened (state : ReplyState χ) : Prop where
  failed : state.failed = none
  snapshots : state.snapshots = []
  repair : state.repair.io = none
  pipeline : ∀ entry ∈ state.pipeline, entry.stage = .idle ∧ entry.writing = false
  sessions : ∀ slot ∈ state.sessions.slots, slot.busy = false

omit [Checksums χ] [DecidableEq χ] in
theorem Opened.sound (opened : state.Opened) : state.Sound := by
  refine Committing.sound_rest ⟨?_, opened.pipeline, fun hslot hbusy => ?_⟩ rfl
  · rw [opened.snapshots]
    simp
  · rw [opened.sessions _ (List.mem_of_getElem? hslot)] at hbusy
    cases hbusy

/-- In every run in which no reply that was asked for arrives in the middle of a commit that encodes the
sessions, every session table that is encoded for a checkpoint is free of reservations, and encoding it
succeeds. -/
theorem snapshots_free {start : ReplyState χ} (opened : start.Opened)
    (reached : Transition.Reaches (ReplyState.step machine) ReplyEvent.Timely start state) :
    ∀ table ∈ state.snapshots, (∀ slot ∈ table.slots, slot.busy = false) ∧
      table.encodeTrailer = .ok (table.slots.map (·.record)) := by
  have hsound := reached.invariant opened.sound fun sound timely taken => Sound.step sound timely taken
  intro table mem
  have hfree := hsound.snapshots table mem
  refine ⟨hfree, ?_⟩
  have hany : table.slots.any (·.busy) = false := List.any_eq_false.mpr fun slot hslot => by simp [hfree slot hslot]
  simp [SessionTable.encodeTrailer, SessionTableOf.records, hany]

end Events

/-! ## A reply that arrives during a compaction -/

/-- Three members that compact at every op, at the checkpoint of op 1; the next one is that of op 3. -/
def afterFirst : ExecutionConfig where
  cluster := .small 15 33
  activeCount := 3
  currentRelease := 1
  releaseHistory := [1]
  checkpoint := 1
  checkpointRelease := 1

/-- The stored reply to the registration of client 7. -/
def registeredReply : ReplyHeader Digest :=
  buildReplyHeader afterFirst
    ⟨{ Header.root with client := 7, op := 1, timestamp := 1, operation := .register, release := 1 }, []⟩
    (Bytes.zeros 64)

/-- A replica opened with one session, whose reply has yet to be scanned. -/
def oneSession : ReplyState Digest where
  config := afterFirst
  members := 3
  execution := .opened afterFirst
    ⟨⟨2, 3, 1048576, 1048320⟩, [⟨some ⟨registeredReply, 1⟩, false, 1⟩, ⟨none, false, 1⟩], 1⟩ .empty
  pipeline := []
  repair := ⟨[none, none], none, none, 0, true⟩
  failed := none
  snapshots := []

/-- A state machine without replies. -/
def silent : StateMachine where
  prefetch := fun _ => some 0
  commit := fun _ => some []
  compact := fun _ => true

/-- The stored reply turns out to be damaged and is asked for. -/
def askForReply : List (ReplyEvent Digest) :=
  [.continueRepair false true true, .repairDone false, .continueRepair false true true]

/-- The pulse `op` is committed, up to the compaction that ends it. -/
def commitPulse (op : Nat) : List (ReplyEvent Digest) :=
  [.push ⟨{ Header.root with op, commit := op - 1, timestamp := op, operation := .pulse, release := 1 }, []⟩,
    .advance true true false, .prefetched, .advance true true false]

/-- The reply arrives while the compaction of op 2 is awaited, which encodes nothing. -/
def promptReply : List (ReplyEvent Digest) :=
  askForReply ++ commitPulse 2 ++ [.reply registeredReply false true true, .compacted false, .repairDone true] ++
    commitPulse 3 ++ [.compacted false]

/-- The reply arrives while the compaction of op 3 is awaited. -/
def lateReply : List (ReplyEvent Digest) :=
  askForReply ++ commitPulse 2 ++ [.compacted false] ++ commitPulse 3 ++
    [.reply registeredReply false true true, .compacted false]

theorem oneSession_opened : oneSession.Opened :=
  ⟨rfl, rfl, rfl, by simp [oneSession], by decide⟩

theorem snapshots_free_oneSession :
    ∃ state, Transition.Reaches (ReplyState.step silent) ReplyEvent.Timely oneSession state ∧
      state.snapshots.length = 1 ∧ ∀ table ∈ state.snapshots, (∀ slot ∈ table.slots, slot.busy = false) ∧
        table.encodeTrailer = .ok (table.slots.map (·.record)) := by
  have hpasses : Transition.passes (ReplyState.step silent) ReplyEvent.timely oneSession promptReply = true := by
    decide +kernel
  have hruns : (Transition.exec (ReplyState.step silent) oneSession promptReply).any
      (·.snapshots.length = 1) = true := by decide +kernel
  obtain ⟨state, hran, hlength⟩ := (Option.any_eq_true _ _).mp hruns
  have hreached := Transition.reaches_of_exec (fun _ _ timely => timely) hpasses hran
  exact ⟨state, hreached, of_decide_eq_true hlength, snapshots_free oneSession_opened hreached⟩

/-- Where the reply is late the sessions are encoded while its slot is reserved, and the replica stops. -/
theorem snapshot_busy :
    ∃ state, Transition.Reaches (ReplyState.step silent) (fun _ _ => True) oneSession state ∧
      (∃ table ∈ state.snapshots, ∃ slot ∈ table.slots, slot.busy = true) ∧
      state.failed = some (.session .capacity) := by
  have hpasses : Transition.passes (ReplyState.step silent) (fun _ _ => true) oneSession lateReply = true := by
    decide +kernel
  have hruns : ((Transition.exec (ReplyState.step silent) oneSession lateReply).any fun state =>
      state.snapshots.any (fun table => table.slots.any (·.busy)) ∧
        state.failed = some (.session .capacity)) = true := by decide +kernel
  obtain ⟨state, hran, hstate⟩ := (Option.any_eq_true _ _).mp hruns
  obtain ⟨hbusy, hfailed⟩ := of_decide_eq_true hstate
  exact ⟨state, Transition.reaches_of_exec (fun _ _ _ => trivial) hpasses hran, by simpa using hbusy, hfailed⟩

end ReplyState

end Supervsr
