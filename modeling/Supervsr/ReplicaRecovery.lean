import Supervsr.ReplicaNormal

/-
# Supervsr.ReplicaRecovery — replaying and reloading the recovered journal

The functions of `open.go` that a restart shares with the resumption of an interrupted state sync: how
far the recovered log is replayed, in which status and view the replica comes back, and the suffix that
is loaded into the pipeline behind the replayed part.
-/

namespace Supervsr

variable {χ : Type} [DecidableEq χ] [Checksums χ]

variable {cfg : Config} {replica next : Replica χ}

/-- `SuperblockStore.Persist`, on the record it selects: the copies are the subject of
`Supervsr.SuperblockStore`. -/
def persistSuperblock (cfg : Config) (current next : Superblock χ) :
    Except SuperblockError (Superblock χ) :=
  if ¬ successor current next then .error .invalidSuperblock
  else do
    next.validate cfg.validation
    return next

section Replay

variable {σ π ε : Type}

/-- The loop of `replayCommitted` over `rounds` ops from `op` on: what was executed before an error stays. -/
def replayFrom (read : Nat → Except ε π) (execute : σ → Nat → π → Except ε σ) :
    Nat → Nat → σ → σ × Except ε Unit
  | 0, _, state => (state, .ok ())
  | rounds + 1, op, state =>
    match read op >>= execute state op with
    | .error err => (state, .error err)
    | .ok state => replayFrom read execute rounds (op + 1) state

/-- `replayCommitted`, for whatever is read and whatever its execution changes; `refused` is
`ErrWALRecovery`. -/
def replayCommittedOf (cluster : ClusterConfig) (refused : ε) (read : Nat → Except ε π)
    (execute : Nat → σ → Nat → π → Except ε σ) (state : σ) («from» target : Nat) : σ × Except ε Unit :=
  match checkpointAfter cluster «from» with
  | none => (state, .error refused)
  | some nextCheckpoint =>
    if target < «from» then (state, .error refused)
    else replayFrom read (execute nextCheckpoint) (target - «from») («from» + 1) state

section

variable {read : Nat → Except ε π} {state : σ} (holds : Nat → σ → Prop)

theorem replayFrom_keeps {execute : σ → Nat → π → Except ε σ} {rounds op : Nat}
    (keeps : ∀ {op state prepared next}, holds op state → execute state op prepared = .ok next →
      holds (op + 1) next) (start : holds op state) :
    ∃ reached ≥ op, holds reached (replayFrom read execute rounds op state).1 ∧
      ((replayFrom read execute rounds op state).2 = .ok () → reached = op + rounds) := by
  induction rounds generalizing op state with
  | zero => exact ⟨op, Nat.le_refl op, start, fun _ => rfl⟩
  | succ rounds ih =>
    unfold replayFrom
    split
    · exact ⟨op, Nat.le_refl op, start, fun h => by cases h⟩
    · rename_i next hexecuted
      obtain ⟨prepared, -, hnext⟩ := bind_eq_ok.mp hexecuted
      obtain ⟨reached, hle, hholds, hlast⟩ := ih (keeps start hnext)
      exact ⟨reached, by omega, hholds, fun h => by have := hlast h; omega⟩

/-- What every execution keeps holds behind the last one; without an error that is the target's. -/
theorem replayCommittedOf_keeps (execute : Nat → σ → Nat → π → Except ε σ) {cluster : ClusterConfig}
    {refused : ε} {«from» target : Nat}
    (keeps : ∀ {nextCheckpoint op state prepared next}, holds op state →
      execute nextCheckpoint state op prepared = .ok next → holds (op + 1) next)
    (start : holds («from» + 1) state) :
    ∃ reached ≥ «from» + 1,
      holds reached (replayCommittedOf cluster refused read execute state «from» target).1 ∧
      ((replayCommittedOf cluster refused read execute state «from» target).2 = .ok () →
        reached = target + 1) := by
  unfold replayCommittedOf
  split
  · exact ⟨_, Nat.le_refl _, start, fun h => by cases h⟩
  split
  · exact ⟨_, Nat.le_refl _, start, fun h => by cases h⟩
  obtain ⟨reached, hle, hholds, hlast⟩ := replayFrom_keeps holds keeps start
  exact ⟨reached, hle, hholds, fun h => by have := hlast h; omega⟩

end

end Replay

/-- `replayResult`. -/
structure ReplayResult (χ : Type) where
  executed : List (Header χ)
  commitMin : Nat
  checkpointSessionOp : Nat
  outcome : Except ReplicaError Unit

/-- The end of a round of `replayCommitted`, as far as the headers tell. -/
def ReplayResult.note (nextCheckpoint : Nat) (result : ReplayResult χ) (op : Nat) (header : Header χ) :
    Except ReplicaError (ReplayResult χ) :=
  .ok { result with
    executed := result.executed ++ [header]
    commitMin := op
    checkpointSessionOp := if op = nextCheckpoint then op else result.checkpointSessionOp }

/-- `replayCommitted`, on the headers of the journal. -/
def replayCommitted (cluster : ClusterConfig) (zones : WALZones χ) («from» target : Nat) :
    ReplayResult χ :=
  let replayed := replayCommittedOf cluster (ReplicaError.wal .recovery)
    (fun op => (WAL.readPrepare zones cluster op).mapError .wal) ReplayResult.note
    ⟨[], «from», 0, .ok ()⟩ «from» target
  { replayed.1 with outcome := replayed.2 }

omit [DecidableEq χ] [Checksums χ] in
/-- A replay starts from where it is told to, and without an error it goes as far as it is told to. -/
theorem replayCommitted_commitMin (cluster : ClusterConfig) (zones : WALZones χ) («from» target : Nat) :
    «from» ≤ (replayCommitted cluster zones «from» target).commitMin ∧
      ((replayCommitted cluster zones «from» target).outcome = .ok () →
        (replayCommitted cluster zones «from» target).commitMin = target) := by
  obtain ⟨_, hle, rfl, hlast⟩ : ∃ reached ≥ «from» + 1,
      reached = (replayCommitted cluster zones «from» target).commitMin + 1 ∧
      ((replayCommitted cluster zones «from» target).outcome = .ok () → reached = target + 1) :=
    replayCommittedOf_keeps (fun op (result : ReplayResult χ) => op = result.commitMin + 1) ReplayResult.note
      (fun _ h => by cases h; rfl) rfl
  exact ⟨Nat.le_of_succ_le_succ hle, fun h => Nat.succ.inj (hlast h)⟩

/-- The executions a replay adds to the record of a replica. -/
def replayExecutions («from» : Nat) : List (Header χ) → List (Execution χ) → List (Execution χ)
  | [], executed => executed
  | header :: rest, executed =>
    replayExecutions («from» + 1) rest
      ({ before := «from», header := header, live := false } :: executed)

omit [DecidableEq χ] [Checksums χ] in
/-- A replay adds executions of its own kind only. -/
theorem live_of_mem_replayExecutions {«from» : Nat} {headers : List (Header χ)}
    {executed : List (Execution χ)} {execution : Execution χ}
    (recorded : execution ∈ replayExecutions «from» headers executed) (live : execution.live = true) :
    execution ∈ executed := by
  induction headers generalizing «from» executed with
  | nil => exact recorded
  | cons header rest ih =>
    obtain rfl | h := List.mem_cons.mp (ih recorded)
    · cases live
    · exact h

def recoveredCommitTarget (cfg : Config) (durable : Superblock χ) (recovery : WALRecoveryReport χ) :
    Except ReplicaError Nat :=
  let checkpoint := durable.state.checkpoint.prepareOp
  if recovery.headOp < checkpoint ∨ durable.state.commitMax < checkpoint ∨
      recovery.headOp < durable.state.commitMax then
    .error (.wal .recovery)
  else if checkpoint < recovery.headOp ∧ recovery.headHeader.op ≠ recovery.headOp then
    .error (.wal .recovery)
  else
    let target := durable.state.commitMax
    let target := if checkpoint < recovery.headOp then max target recovery.headHeader.commit else target
    let target := if cfg.pipelineMax < recovery.headOp then max target (recovery.headOp - cfg.pipelineMax)
      else target
    if recovery.headOp < target then .error (.wal .recovery) else .ok target

/-! ## The recovered status -/

/-- The results of `deriveRecoveredStatus`. -/
structure RecoveredStatus where
  status : Status
  view : Nat
  durableView : Nat
  logView : Nat
  headOp : Nat
deriving DecidableEq, Repr

/-- The header loop of `persistRecoveredView`: down from `op`, linked, above the checkpoint. -/
def recoveredViewHeaders (cluster : ClusterConfig) (wal : WAL χ) (checkpoint : Nat) :
    Nat → Nat → Option (Header χ) → List (Header χ)
  | 0, _, _ => []
  | rounds + 1, op, child =>
    if op ≤ checkpoint then []
    else
      match wal.recoveredHeader cluster op with
      | none => []
      | some header =>
        if child.any (fun child => child.parent ≠ header.checksum) then []
        else header :: recoveredViewHeaders cluster wal checkpoint rounds (op - 1) (some header)

def persistRecoveredView (cfg : Config) (current : Superblock χ) (wal : WAL χ)
    (head view logView commitMax : Nat) : Except ReplicaError (Superblock χ) :=
  let checkpoint := current.state.checkpoint.prepareOp
  let headers := recoveredViewHeaders cfg.cluster wal checkpoint cfg.pipelineMax head none
  if head < checkpoint ∨ (checkpoint < head ∧ headers = []) then .error (.wal .recovery)
  else
    let next := { current with
      parentChecksum := current.checksum
      sequence := current.sequence + 1
      state := { current.state with view := view, logView := logView, commitMax := commitMax }
      viewHeaders := headers.map some ++ [some current.state.checkpoint.header] }
    match persistSuperblock cfg current next with
    | .error err => .error (.superblock err)
    | .ok superblock => .ok superblock

/-- `deriveRecoveredStatus`, with the superblock it leaves. -/
def deriveRecoveredStatus (cfg : Config) (current durable : Superblock χ)
    (recovery : WALRecoveryReport χ) (wal : WAL χ) : Except ReplicaError (RecoveredStatus × Superblock χ) :=
  let view := durable.state.view
  let logView := durable.state.logView
  if recovery.faultySlots ≠ 0 then
    .ok (⟨.recoveringHead, view, view, logView, max recovery.headOp durable.state.commitMax⟩, current)
  else if logView < view then .ok (⟨.viewChange, view, view, logView, recovery.headOp⟩, current)
  else if 1 < cfg.activeCount ∧ cfg.primary view ≠ cfg.localIndex then
    .ok (⟨.normal, view, view, logView, recovery.headOp⟩, current)
  else if view = maxView then .error .replicaInvariant
  else
    let solo := cfg.activeCount = 1
    let logView := if solo then view + 1 else logView
    match persistRecoveredView cfg current wal recovery.headOp (view + 1) logView
        durable.state.commitMax with
    | .error err => .error err
    | .ok superblock =>
      .ok (⟨if solo then .normal else .viewChange, view + 1, view + 1, logView, recovery.headOp⟩, superblock)

def recoveredCommittedHeader (cfg : Config) (durable : Superblock χ) (recovery : WALRecoveryReport χ)
    (commitMin : Nat) (wal : WAL χ) : Except ReplicaError (Header χ) :=
  if commitMin = recovery.headOp then .ok recovery.headHeader
  else if commitMin ≠ durable.state.checkpoint.prepareOp then
    match wal.recoveredHeader cfg.cluster commitMin with
    | none => .error (.wal .recovery)
    | some header => .ok header
  else .ok durable.state.checkpoint.header

/-! ## Loading the suffix -/

namespace Replica

/-- One round of `loadRecoveredSuffix`. -/
def loadRecovered (cfg : Config) (replica : Replica χ) (op : Nat) : Except ReplicaError (Replica χ) :=
  match WAL.readPrepare replica.durable.zones cfg.cluster op with
  | .error err => .error (.wal err)
  | .ok header =>
    match replica.pushPipeline cfg header header none true with
    | none => .error .replicaInvariant
    | some replica =>
      .ok (if cfg.activeCount = 1 then
        replica.countPrepareAck cfg (replica.pipeline.length - 1) cfg.localIndex
      else replica)

omit [DecidableEq χ] in
/-- A round that succeeds pushes the prepare of its op behind the others. -/
theorem loadRecovered_eq_ok {op : Nat} (loaded : loadRecovered cfg replica op = .ok next) :
    replica.pipeline.length ≠ cfg.pipelineMax ∧ ∃ entry,
      WAL.readPrepare replica.durable.zones cfg.cluster op = .ok entry.header ∧
      entry.io = none ∧ entry.stage = .idle ∧ entry.durable = true ∧
      next = { replica with
        pipeline := replica.pipeline ++ [entry]
        generation := replica.generation + 1
        headOp := entry.header.op
        headChecksum := entry.header.checksum } := by
  unfold loadRecovered at loaded
  split at loaded
  · cases loaded
  rename_i header hread
  split at loaded
  · cases loaded
  rename_i pushed hpushed
  obtain ⟨hroom, rfl⟩ := pushPipeline_eq_some hpushed
  refine ⟨hroom, ?_⟩
  split_ifs at loaded with hsolo
  · cases loaded
    refine ⟨⟨replica.generation, header, header, [cfg.localIndex], true,
      decide (cfg.quorums.replication ≤ 1), none, .idle⟩, hread, rfl, rfl, rfl, ?_⟩
    simp [countPrepareAck, modifyEntry, modify_concat]
  · cases loaded
    exact ⟨⟨replica.generation, header, header, [], true, false, none, .idle⟩, hread, rfl, rfl, rfl, rfl⟩

def loadRecoveredSuffix (replica : Replica χ) (cfg : Config) (first last : Nat) :
    Except ReplicaError (Replica χ) :=
  (List.range' first (last + 1 - first)).foldlM (loadRecovered cfg) replica

omit [DecidableEq χ] in
/-- What the loop leaves when it succeeds: the prepares of all its ops are in the pipeline. -/
theorem foldlM_loadRecovered_eq_ok {ops : List Nat} (loaded : ops.foldlM (loadRecovered cfg) replica = .ok next) :
    ∃ entries generation headOp headChecksum,
      entries.map (fun entry : PipelineEntry χ => Except.ok (ε := WALError) entry.header) =
        ops.map (WAL.readPrepare replica.durable.zones cfg.cluster) ∧
      (∀ entry ∈ entries, entry.io = none ∧ entry.stage = .idle ∧ entry.durable = true) ∧
      (replica.pipeline.length ≤ cfg.pipelineMax →
        (replica.pipeline ++ entries).length ≤ cfg.pipelineMax) ∧
      next = { replica with
        pipeline := replica.pipeline ++ entries
        generation := generation
        headOp := headOp
        headChecksum := headChecksum } ∧
      headOp = (entries.getLast?.map fun entry => entry.header.op).getD replica.headOp ∧
      headChecksum = (entries.getLast?.map fun entry => entry.header.checksum).getD replica.headChecksum := by
  induction ops generalizing replica with
  | nil =>
    obtain rfl : replica = next := Except.ok.inj loaded
    refine ⟨[], replica.generation, replica.headOp, replica.headChecksum,
      rfl, fun _ h => absurd h List.not_mem_nil, fun h => by rwa [List.append_nil], ?_, rfl, rfl⟩
    rw [List.append_nil]
  | cons op ops ih =>
    rw [List.foldlM_cons] at loaded
    obtain ⟨middle, hmiddle, hrest⟩ := bind_eq_ok.mp loaded
    obtain ⟨hroom, entry, hread, hio, hstage, hdurable, rfl⟩ := loadRecovered_eq_ok hmiddle
    obtain ⟨entries, generation, headOp, headChecksum, hreads, hentries, hlength, rfl, hop, hsum⟩ :=
      ih hrest
    refine ⟨entry :: entries, generation, headOp, headChecksum, ?_, ?_, ?_, ?_, ?_, ?_⟩
    · rw [List.map_cons, List.map_cons, hread, ← hreads]
    · intro other hother
      obtain rfl | hother := List.mem_cons.mp hother
      · exact ⟨hio, hstage, hdurable⟩
      · exact hentries other hother
    · intro hle
      have := hlength (by rw [List.length_append, List.length_singleton]; omega)
      rwa [List.append_assoc, List.singleton_append] at this
    · rw [List.append_assoc, List.singleton_append]
    · rw [hop]
      cases entries <;> rfl
    · rw [hsum]
      cases entries <;> rfl

def loadOpenSuffix (replica : Replica χ) (cfg : Config) (recovery : WALRecoveryReport χ)
    (commitMin : Nat) : Except ReplicaError (Replica χ) :=
  if recovery.faultySlots ≠ 0 then .ok replica
  else replica.loadRecoveredSuffix cfg (commitMin + 1) recovery.headOp

/-- An entry whose prepare was read from the journal. -/
def Loaded (replica : Replica χ) (cfg : Config) (entry : PipelineEntry χ) : Prop :=
  entry.io = none ∧ entry.stage = .idle ∧ entry.durable = true ∧
    ∃ op, WAL.readPrepare replica.durable.zones cfg.cluster op = .ok entry.header

omit [DecidableEq χ] in
/-- Loading touches the pipeline and the head. -/
theorem loadOpenSuffix_eq_ok {recovery : WALRecoveryReport χ} {commitMin : Nat}
    (loaded : replica.loadOpenSuffix cfg recovery commitMin = .ok next) :
    ∃ entries generation headOp headChecksum,
      (∀ entry ∈ entries, replica.Loaded cfg entry) ∧
      next = { replica with
        pipeline := replica.pipeline ++ entries
        generation := generation
        headOp := headOp
        headChecksum := headChecksum } := by
  unfold loadOpenSuffix at loaded
  split at loaded
  · obtain rfl : replica = next := Except.ok.inj loaded
    refine ⟨[], replica.generation, replica.headOp, replica.headChecksum,
      fun _ h => absurd h List.not_mem_nil, ?_⟩
    rw [List.append_nil]
  · obtain ⟨entries, generation, headOp, headChecksum, hreads, hentries, -, hnext, -, -⟩ :=
      foldlM_loadRecovered_eq_ok loaded
    refine ⟨entries, generation, headOp, headChecksum, ?_, hnext⟩
    intro entry hentry
    obtain ⟨hio, hstage, hdurable⟩ := hentries entry hentry
    have hread : Except.ok entry.header ∈ (List.range' (commitMin + 1) (recovery.headOp + 1 -
        (commitMin + 1))).map (WAL.readPrepare replica.durable.zones cfg.cluster) := by
      rw [← hreads]
      exact List.mem_map_of_mem hentry
    obtain ⟨op, -, hop⟩ := List.mem_map.mp hread
    exact ⟨hio, hstage, hdurable, op, hop⟩

end Replica

end Supervsr
