import Supervsr.ReplicaNormal
import Supervsr.Sessions
import Supervsr.Lib.Table

/-
# Supervsr.Execution — how a committed prepare is executed

The commit path of `replica_normal.go` and `replica_checkpoint.go`, from the prefetch of a prepare to
the end of its maintenance: the calls into the state machine, the reply and its session slot, the
upgrade that is being tracked and the compaction at every `CompactionOps`-th op.  The path waits for
completions between its stages; as nothing else touches what it reads, a prepare is executed here in
one step.

The state machine is any deterministic one: its answers are functions of the calls it has received
since it was opened at the checkpoint.
-/

namespace Supervsr

/-! ## The state machine -/

/-- `PrefetchInput` and `CommitInput`, which have the same fields. -/
structure CommitInput where
  operation : Operation
  body : Bytes
  timestamp : Nat
  op : Nat
  release : Nat
deriving DecidableEq, Repr

/-- A call of the replication layer into the state machine, with its arguments.  The reply buffer given
to `Commit` is cleared by both of its callers, so only its length is an argument; a pulse gets none. -/
inductive Call where
  | startPrefetch (input : CommitInput)
  | commit (input : CommitInput) (token : Nat) (reply : Option Nat)
  | startCompact (op timestamp : Nat)
  | startCheckpoint (op timestamp release : Nat)
deriving DecidableEq, Repr

/-- A state machine: what it answers to a call, the last one of those received.  `none` and `false` are
its errors; a commit answers with the part of the reply buffer it returns the length of. -/
structure StateMachine where
  prefetch : List Call → Option Nat
  commit : List Call → Option Bytes
  compact : List Call → Bool

/-! ## Prepares and replies -/

/-- A decoded prepare frame. -/
structure Prepared (χ : Type) where
  header : Header χ
  body : Bytes
deriving DecidableEq, Repr

/-- A sealed reply frame. -/
structure ReplyFrame (χ : Type) where
  header : ReplyHeader χ
  body : Bytes
deriving DecidableEq, Repr

/-- The checksum of a frame's body. -/
def bodyDigest {χ : Type} [Checksums χ] (body : Bytes) : χ :=
  checksumBytes (body.map fun byte => .num byte.toNat)

namespace Prepared

variable {χ : Type}

variable {token : Nat} {reply : Option (ReplyHeader χ × SessionCommitPlan χ)}

def input (prepared : Prepared χ) : CommitInput where
  operation := prepared.header.operation
  body := prepared.body
  timestamp := prepared.header.timestamp
  op := prepared.header.op
  release := prepared.header.release

/-- The release an upgrade names. -/
def target (prepared : Prepared χ) : Nat := (prepared.body.slice 0 4).uint

/-- The operations that are prefetched and committed by the state machine. -/
def executes (prepared : Prepared χ) : Bool :=
  match prepared.header.operation with
  | .pulse | .application _ => true
  | _ => false

end Prepared

/-! ## Upgrades (`release.go`) -/

structure UpgradeWindow where
  checkpoint : Nat
  target : Nat
  valid : Bool
  started : Bool
deriving DecidableEq, Repr

/-- The upgrade a replica follows: the release to move to and the window of upgrade prepares between
the next checkpoint and its trigger. -/
structure UpgradeState where
  target : Nat
  window : UpgradeWindow
deriving DecidableEq, Repr

/-- No upgrade under way. -/
def UpgradeState.idle : UpgradeState := ⟨0, 0, 0, false, false⟩

/-- The end of `observe` and of `trackUpgradeWindow`: a window stays valid while every prepare in it is
an upgrade to one release. -/
def UpgradeWindow.extend {χ : Type} (window : UpgradeWindow) (prepared : Prepared χ) : UpgradeWindow :=
  if ¬ window.valid ∨ prepared.header.operation ≠ .upgrade then { window with valid := false }
  else
    let window := if window.target = 0 then { window with target := prepared.target } else window
    if prepared.target = 0 ∨ prepared.target ≠ window.target then { window with valid := false } else window

/-! ## Executing one prepare -/

inductive ExecutionError where
  | stateMachine
  | replicaInvariant
  | releaseUnavailable
  | walRecovery
  | session (error : SessionError)
deriving DecidableEq, Repr

/-- What execution reads: the configuration of the member and the checkpoint it is at. -/
structure ExecutionConfig where
  cluster : ClusterConfig
  activeCount : Nat
  currentRelease : Nat
  releaseHistory : List Nat
  checkpoint : Nat
  checkpointRelease : Nat
deriving DecidableEq, Repr

/-- What execution changes: the session table, the reply store by slot, the upgrade, the calls made
and the session trailer kept for the next checkpoint. -/
structure ExecutionState (χ : Type) where
  sessions : SessionTable χ
  replies : Table (Option (ReplyFrame χ))
  upgrade : UpgradeState
  calls : List Call
  commitMin : Nat
  checkpointSession : Option (Nat × List (Option (SessionRecord χ)))
deriving DecidableEq, Repr

/-- The state a checkpoint is opened with: its sessions, the reply store and a fresh state machine. -/
def ExecutionState.opened {χ : Type} (config : ExecutionConfig) (sessions : SessionTable χ)
    (replies : Table (Option (ReplyFrame χ))) : ExecutionState χ :=
  { sessions, replies, upgrade := .idle, calls := [], commitMin := config.checkpoint
    checkpointSession := none }

/-- A session error as the error of the execution. -/
def sessionResult {α : Type} : Except SessionError α → Except ExecutionError α
  | .ok a => .ok a
  | .error e => .error (.session e)

section

variable {χ : Type}

/-- `startPrefetch`, with the calls made so far. -/
def startPrefetch (machine : StateMachine) (calls : List Call) (prepared : Prepared χ) :
    Except ExecutionError (Nat × List Call) :=
  if ¬ prepared.executes then .ok (0, calls)
  else
    let calls := calls ++ [.startPrefetch prepared.input]
    match machine.prefetch calls with
    | none => .error .stateMachine
    | some token => .ok (token, calls)

def commitApplication (machine : StateMachine) (calls : List Call) (prepared : Prepared χ)
    (token : Nat) (reply : Option Nat) : Except ExecutionError (Bytes × List Call) :=
  let calls := calls ++ [.commit prepared.input token reply]
  match machine.commit calls with
  | none => .error .stateMachine
  | some body => .ok (body, calls)

/-- The reply to a client's prepare, as both `executeEntry` and `replayExecute` choose it.  They differ
in the length of the buffer they commit into and in how they find the result of a reconfiguration. -/
def replyContents (config : ExecutionConfig) (machine : StateMachine) (calls : List Call)
    (prepared : Prepared χ) (token buffer : Nat) (reconfigured : Bytes) :
    Except ExecutionError (Bytes × List Call) :=
  match prepared.header.operation with
  | .register => .ok (Bytes.putUint 4 config.cluster.applicationBatchSizeMax ++ Bytes.zeros 60, calls)
  | .reconfigure => .ok (reconfigured, calls)
  | .noop => .ok ([], calls)
  | .application _ => commitApplication machine calls prepared token (some buffer)
  | _ => .error .replicaInvariant

/-- The reply body, within the limit of the configuration. -/
def replyBody (config : ExecutionConfig) (machine : StateMachine) (calls : List Call)
    (prepared : Prepared χ) (token buffer : Nat) (reconfigured : Bytes) :
    Except ExecutionError (Bytes × List Call) := do
  let (body, calls) ← replyContents config machine calls prepared token buffer reconfigured
  if config.cluster.applicationReplySizeMax < body.length then .error .stateMachine
  else return (body, calls)

/-- The session a reply is committed under: its own op for a registration. -/
def replySession (sessions : SessionTable χ) (prepared : Prepared χ) : Except ExecutionError Nat :=
  if prepared.header.operation = .register then .ok prepared.header.op
  else match sessions.session prepared.header.client with
    | none => .error (.session .encoding)
    | some session => .ok session

/-- A reply is written to the store unless it has no body. -/
def writeReply (replies : Table (Option (ReplyFrame χ))) (slot : Nat) (frame : ReplyFrame χ) :
    Table (Option (ReplyFrame χ)) :=
  if frame.body.length = 0 then replies else replies.set slot (some frame)

def executeUpgrade (config : ExecutionConfig) (upgrade : UpgradeState) (prepared : Prepared χ) :
    Except ExecutionError UpgradeState :=
  if prepared.target = config.checkpointRelease ∨ prepared.target = config.currentRelease then .ok upgrade
  else if prepared.target < config.currentRelease ∨ prepared.target ∉ config.releaseHistory then
    .error .releaseUnavailable
  else if upgrade.target ≠ 0 ∧ upgrade.target ≠ prepared.target then .error .replicaInvariant
  else .ok { upgrade with target := prepared.target }

def trackUpgradeWindow (config : ExecutionConfig) (upgrade : UpgradeState) (prepared : Prepared χ) :
    Except ExecutionError UpgradeState :=
  match checkpointAfter config.cluster config.checkpoint with
  | none => .error .replicaInvariant
  | some checkpoint =>
    match checkpointTrigger config.cluster checkpoint with
    | none => .error .replicaInvariant
    | some trigger =>
      let op := prepared.header.op
      if op ≤ checkpoint ∨ trigger < op then .ok upgrade
      else
        let window :=
          if ¬ upgrade.window.started ∨ upgrade.window.checkpoint ≠ checkpoint then
            ⟨checkpoint, 0, op = checkpoint + 1, true⟩
          else upgrade.window
        .ok { upgrade with window := window.extend prepared }

def checkpointRelease (config : ExecutionConfig) (upgrade : UpgradeState) (target : Nat) : Nat :=
  if upgrade.window.started ∧ upgrade.window.valid ∧ upgrade.window.checkpoint = target ∧
      upgrade.window.target = upgrade.target then
    upgrade.window.target
  else config.currentRelease

/-- The sessions are encoded for the next checkpoint when its op is executed. -/
def keepSessions (next : Nat) (state : ExecutionState χ) (prepared : Prepared χ) :
    Except ExecutionError (ExecutionState χ) :=
  if prepared.header.op ≠ next then .ok state
  else do
    let trailer ← sessionResult state.sessions.encodeTrailer
    return { state with checkpointSession := some (next, trailer) }

/-- `afterCompact` of a replica that is not changing views: the sessions are kept at the next
checkpoint's op, the checkpoint is started at its trigger. -/
def afterCompact (config : ExecutionConfig) (state : ExecutionState χ) (prepared : Prepared χ) :
    Except ExecutionError (ExecutionState χ) := do
  let (state, reached) := reachCheckpoint config.cluster config.checkpoint prepared.header.op .replicaInvariant
    (keepSessions · · prepared) (fun state => (state.checkpointSession.map (·.1)).getD 0) state
  match ← reached with
  | none => return state
  | some target =>
    let release := checkpointRelease config state.upgrade target
    return { state with
      calls := state.calls ++ [.startCheckpoint target prepared.header.timestamp release] }

def continueCommitMaintenance (config : ExecutionConfig) (machine : StateMachine)
    (state : ExecutionState χ) (prepared : Prepared χ) : Except ExecutionError (ExecutionState χ) :=
  if (prepared.header.op + 1) % config.cluster.compactionOps ≠ 0 then afterCompact config state prepared
  else
    let calls := state.calls ++ [.startCompact prepared.header.op prepared.header.timestamp]
    if ¬ machine.compact calls then .error .stateMachine
    else afterCompact config { state with calls } prepared

variable [Checksums χ]

/-- `buildReplyHeader`, and the same lines of `replayExecute`.  The context is the checksum of the
header before the context is filled in. -/
def buildReplyHeader (config : ExecutionConfig) (prepared : Prepared χ) (body : Bytes) : ReplyHeader χ :=
  let header : ReplyHeader χ :=
    { requestChecksum := prepared.header.requestChecksum
      context := Checksums.zero
      client := prepared.header.client
      op := prepared.header.op
      commit := prepared.header.op
      timestamp := prepared.header.timestamp
      request := prepared.header.request
      operation := prepared.header.operation
      view := prepared.header.view
      release := prepared.header.release
      author := prepared.header.view % config.activeCount
      size := headerBytes + body.length
      bodyChecksum := bodyDigest body }
  { header with context := header.checksum }

/-- `executeEntry`: the reply that is to be committed, with its plan, once it is written. -/
def executeEntry (config : ExecutionConfig) (machine : StateMachine) (state : ExecutionState χ)
    (prepared : Prepared χ) (token : Nat) :
    Except ExecutionError (Option (ReplyHeader χ × SessionCommitPlan χ) × ExecutionState χ) :=
  if prepared.header.client = 0 then
    match prepared.header.operation with
    | .pulse => do
      let (_, calls) ← commitApplication machine state.calls prepared token none
      return (none, { state with calls })
    | .upgrade => do
      let upgrade ← executeUpgrade config state.upgrade prepared
      return (none, { state with upgrade })
    | _ => return (none, state)
  else do
    let (body, calls) ← replyBody config machine state.calls prepared token
      config.cluster.applicationReplySizeMax (prepared.body.slice 252 256)
    let header := buildReplyHeader config prepared body
    let session ← replySession state.sessions prepared
    let (plan, sessions) ← sessionResult (state.sessions.planCommit header session)
    return (some (header, plan),
      { state with sessions, calls, replies := writeReply state.replies plan.slot ⟨header, body⟩ })

variable [DecidableEq χ]

/-- The first lines of `finishCommit`: the plan of the reply, if there is one, is committed. -/
def commitReply (sessions : SessionTable χ) :
    Option (ReplyHeader χ × SessionCommitPlan χ) → Except ExecutionError (SessionTable χ)
  | none => .ok sessions
  | some (header, plan) => sessionResult (sessions.commitAt plan header plan.session)

def finishCommit (config : ExecutionConfig) (machine : StateMachine) (state : ExecutionState χ)
    (prepared : Prepared χ) (reply : Option (ReplyHeader χ × SessionCommitPlan χ)) :
    Except ExecutionError (ExecutionState χ) := do
  let sessions ← commitReply state.sessions reply
  let upgrade ← trackUpgradeWindow config state.upgrade prepared
  continueCommitMaintenance config machine
    { state with sessions, upgrade, commitMin := prepared.header.op } prepared

/-- The commit of one pipeline entry, from `startPrefetch` to the end of its maintenance. -/
def commitEntry (config : ExecutionConfig) (machine : StateMachine) (state : ExecutionState χ)
    (prepared : Prepared χ) : Except ExecutionError (ExecutionState χ) := do
  let (token, calls) ← startPrefetch machine state.calls prepared
  let (reply, state) ← executeEntry config machine { state with calls } prepared token
  finishCommit config machine state prepared reply

/-- The entries of the pipeline committed one after the other. -/
def commitEntries (config : ExecutionConfig) (machine : StateMachine) (state : ExecutionState χ)
    (prepares : List (Prepared χ)) : Except ExecutionError (ExecutionState χ) :=
  prepares.foldlM (commitEntry config machine) state

end

/-! ## What a step leaves -/

theorem sessionResult_eq_ok {α : Type} {result : Except SessionError α} {a : α}
    (succeeds : sessionResult result = .ok a) : result = .ok a := by
  cases result with
  | error => cases succeeds
  | ok => rw [← Except.ok.inj succeeds]

section

variable {χ : Type} {config : ExecutionConfig} {machine : StateMachine} {prepared : Prepared χ}

/-- The upgrade of a prepare on the commit path, before the window is extended. -/
def followUpgrade (config : ExecutionConfig) (upgrade : UpgradeState) (prepared : Prepared χ) :
    Except ExecutionError UpgradeState :=
  if prepared.header.operation = .upgrade then executeUpgrade config upgrade prepared else .ok upgrade

theorem keepSessions_sessions {state kept : ExecutionState χ} {next : Nat}
    (keeps : keepSessions next state prepared = .ok kept) : kept.sessions = state.sessions := by
  unfold keepSessions at keeps
  split_ifs at keeps
  · cases keeps
    rfl
  · obtain ⟨trailer, -, hkept⟩ := bind_eq_ok.mp keeps
    cases hkept
    rfl

theorem afterCompact_sessions {state result : ExecutionState χ}
    (maintained : afterCompact config state prepared = .ok result) : result.sessions = state.sessions := by
  unfold afterCompact at maintained
  split at maintained
  rename_i kept reached hreached
  obtain ⟨begun, -, hrest⟩ := bind_eq_ok.mp maintained
  have hsessions : kept.sessions = state.sessions := by
    obtain rfl | ⟨_, -, hkept⟩ := reachCheckpoint_state hreached
    · rfl
    · exact keepSessions_sessions hkept
  cases begun <;> cases hrest <;> exact hsessions

variable [Checksums χ]

/-- A prepare without a client: a pulse is committed, an upgrade followed, nothing else changes. -/
theorem executeEntry_zero {state executed : ExecutionState χ} (client : prepared.header.client = 0)
    (executes : executeEntry config machine state prepared token = .ok (reply, executed)) :
    reply = none ∧ followUpgrade config state.upgrade prepared = .ok executed.upgrade ∧
      (if prepared.header.operation = .pulse then
        (commitApplication machine state.calls prepared token none).map (·.2) else .ok state.calls) =
          .ok executed.calls ∧
      executed = { state with upgrade := executed.upgrade, calls := executed.calls } := by
  unfold executeEntry at executes
  rw [if_pos client] at executes
  unfold followUpgrade
  cases hoperation : prepared.header.operation with
  | pulse =>
    simp only [hoperation] at executes
    obtain ⟨⟨body, calls⟩, hcommit, hrest⟩ := bind_eq_ok.mp executes
    cases hrest
    rw [hcommit]
    exact ⟨rfl, rfl, rfl, rfl⟩
  | upgrade =>
    simp only [hoperation] at executes
    obtain ⟨upgrade, hupgrade, hrest⟩ := bind_eq_ok.mp executes
    cases hrest
    exact ⟨rfl, hupgrade, rfl, rfl⟩
  | _ =>
    simp only [hoperation] at executes
    cases executes
    exact ⟨rfl, rfl, rfl, rfl⟩

/-- A client's prepare: its reply is planned under the client's session and written. -/
theorem executeEntry_client {state executed : ExecutionState χ} (client : prepared.header.client ≠ 0)
    (executes : executeEntry config machine state prepared token = .ok (reply, executed)) :
    ∃ body calls session plan reserved,
      replyBody config machine state.calls prepared token config.cluster.applicationReplySizeMax
        (prepared.body.slice 252 256) = .ok (body, calls) ∧
      replySession state.sessions prepared = .ok session ∧
      state.sessions.planCommit (buildReplyHeader config prepared body) session = .ok (plan, reserved) ∧
      reply = some (buildReplyHeader config prepared body, plan) ∧
      executed = { state with
        sessions := reserved, calls
        replies := writeReply state.replies plan.slot ⟨buildReplyHeader config prepared body, body⟩ } := by
  unfold executeEntry at executes
  rw [if_neg client] at executes
  obtain ⟨⟨body, calls⟩, hbody, hrest⟩ := bind_eq_ok.mp executes
  obtain ⟨session, hsession, hrest⟩ := bind_eq_ok.mp hrest
  obtain ⟨⟨plan, reserved⟩, hplan, hrest⟩ := bind_eq_ok.mp hrest
  cases hrest
  exact ⟨body, calls, session, plan, reserved, hbody, hsession, sessionResult_eq_ok hplan, rfl, rfl⟩

/-- `Replica.executeEntry` has the length of a reply only, by which it tells whether to wait for its write:
it is the length of the reply made here. -/
theorem executeEntry_replyLength {state executed : ExecutionState χ} {inputs : Inputs χ}
    {header : ReplyHeader χ} {plan : SessionCommitPlan χ} (client : prepared.header.client ≠ 0)
    (executes : executeEntry config machine state prepared token = .ok (some (header, plan), executed))
    (reconfigures : prepared.header.operation = .reconfigure → prepared.body.length = 256)
    (answers : ∀ code, prepared.header.operation = .application code →
      header.size = headerBytes + inputs.replyLength prepared.header.op) :
    ∃ length ≤ config.cluster.applicationReplySizeMax,
      Replica.replyLength inputs prepared.header = some length ∧ header.size = headerBytes + length := by
  obtain ⟨body, _, _, _, _, hbody, -, -, hreply, -⟩ := executeEntry_client client executes
  cases hreply
  obtain ⟨⟨contents, _⟩, hcontents, hfits⟩ := bind_eq_ok.mp hbody
  dsimp only at hfits
  split_ifs at hfits with hlong
  cases hfits
  refine ⟨body.length, Nat.not_lt.mp hlong, ?_, rfl⟩
  unfold replyContents at hcontents
  unfold Replica.replyLength
  cases hoperation : prepared.header.operation with
  | application code => exact congrArg some (Nat.add_left_cancel (answers code hoperation)).symm
  | reconfigure =>
    rw [hoperation] at hcontents
    cases hcontents
    simp [Bytes.slice, reconfigures hoperation]
  | register | noop =>
    rw [hoperation] at hcontents
    cases hcontents
    rfl
  | _ =>
    rw [hoperation] at hcontents
    cases hcontents

end

end Supervsr
