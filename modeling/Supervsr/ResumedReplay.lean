import Supervsr.ReplicaRank
import Supervsr.ReplicaStorage
import Supervsr.SmallCluster

/-
# Supervsr.ResumedReplay — how far an interrupted state sync replays its journal

`Open` replays up to the largest of the durable commit bound, the commit the head was prepared with and the
op a pipeline's length below the head, so that what is left fits the pipeline.  A member that comes back
with a sync range outstanding replays to the durable commit bound alone, which is written when a checkpoint
or a view is, and loads the rest of its journal behind it.  This module says when that fits.
-/

namespace Supervsr

variable {χ : Type} [DecidableEq χ] [Checksums χ] {cfg : Config}

/-- A replay that can read and execute everything gets to its end. -/
theorem replayFrom_eq_ok {σ π ε : Type} {read : Nat → Except ε π} {execute : σ → Nat → π → Except ε σ}
    {rounds op : Nat} {state : σ}
    (reads : ∀ later, op ≤ later → later < op + rounds → ∃ prepared, read later = .ok prepared)
    (executes : ∀ state op prepared, ∃ next, execute state op prepared = .ok next) :
    (replayFrom read execute rounds op state).2 = .ok () := by
  induction rounds generalizing op state with
  | zero => rfl
  | succ rounds ih =>
    obtain ⟨prepared, hread⟩ := reads op (Nat.le_refl op) (by omega)
    obtain ⟨next, hnext⟩ := executes state op prepared
    have hround : (read op >>= execute state op) = .ok next := bind_eq_ok.mpr ⟨prepared, hread, hnext⟩
    rw [replayFrom, hround]
    exact ih fun later hle hlt => reads later (by omega) (by omega)

namespace Replica

variable {replica : Replica χ} {durable : Superblock χ} {recovery : WALRecoveryReport χ}

omit [DecidableEq χ] in
/-- Loading what can be read stops only when there are more prepares than the pipeline takes. -/
theorem lt_of_foldlM_loadRecovered {ops : List Nat} {err : ReplicaError}
    (stopped : ops.foldlM (loadRecovered cfg) replica = .error err)
    (room : replica.pipeline.length ≤ cfg.pipelineMax)
    (reads : ∀ op ∈ ops, ∃ header, WAL.readPrepare replica.durable.zones cfg.cluster op = .ok header) :
    cfg.pipelineMax < replica.pipeline.length + ops.length := by
  induction ops generalizing replica with
  | nil => cases stopped
  | cons op ops ih =>
    rw [List.foldlM_cons] at stopped
    rw [List.length_cons]
    cases hloaded : loadRecovered cfg replica op with
    | ok middle =>
      rw [hloaded] at stopped
      obtain ⟨hroom, _, -, -, -, -, rfl⟩ := loadRecovered_eq_ok hloaded
      have hrest := ih stopped (by rw [List.length_append, List.length_singleton]; omega)
        fun op hop => reads op (List.mem_cons_of_mem _ hop)
      rw [List.length_append, List.length_singleton] at hrest
      omega
    | error err =>
      -- of the two errors of a round, only the full pipeline is left
      obtain ⟨header, hread⟩ := reads op List.mem_cons_self
      simp only [loadRecovered, hread] at hloaded
      split at hloaded
      · rename_i hfull
        simp only [pushPipeline, ite_eq_left_iff, reduceCtorEq, imp_false, not_not] at hfull
        omega
      · cases hloaded

omit [DecidableEq χ] [Checksums χ] in
theorem Recoverable.reads {cluster : ClusterConfig} {head op : Nat} {wal : WAL χ} {zones : WALZones χ}
    (recoverable : Recoverable cluster durable head wal zones)
    (above : durable.state.checkpoint.prepareOp < op) (le : op ≤ head) :
    ∃ header, WAL.readPrepare zones cluster op = .ok header := by
  obtain ⟨header, rfl, -, hstored⟩ := recoverable.kept op above le
  exact ⟨header, readPrepare_of_frame hstored⟩

/-- The resumption of an interrupted sync gets to its end, no further below the recovered head than the
pipeline is long. -/
def ResumptionFits (replica : Replica χ) (cfg : Config) : Prop :=
  (replica.replayInterrupted cfg).2 = true ∧ ∀ recovery ∈ replica.stateSync.recovery,
    recovery.headOp ≤ (replica.replayInterrupted cfg).1.commitMin + cfg.pipelineMax

section

omit [DecidableEq χ] [Checksums χ]

variable (recoverable : Recoverable cfg.cluster durable recovery.headOp replica.wal replica.durable.zones)
  (commit : durable.state.commitMax ≤ recovery.headOp)

include recoverable commit

/-- The replay gets to the durable commit bound. -/
theorem Recoverable.replays (valid : cfg.toFormatConfig.valid = true)
    (checkpoint : replica.checkpointOp = durable.state.checkpoint.prepareOp) :
    (replica.interruptedReplay cfg durable).outcome = .ok () := by
  have habove := recoverable.above
  obtain ⟨prepareMax, hbounded⟩ := recoverable.bounded
  obtain ⟨interval, hinterval, hpos, -⟩ := (FormatConfig.validated_of_valid valid).interval
  obtain ⟨next, hnext⟩ : ∃ next, checkpointAfter cfg.cluster replica.checkpointOp = some next := by
    simp only [prepareMaximum, Option.bind_eq_bind, Option.bind_eq_some_iff] at hbounded
    obtain ⟨_, h, first, hfirst, -⟩ := hbounded
    cases hinterval.symm.trans h
    rw [checkpointAfter, hinterval, checkpoint]
    simp only [show interval ≠ 0 by omega, if_false]
    split_ifs
    · exact ⟨_, rfl⟩
    · exact ⟨first, hfirst⟩
  unfold interruptedReplay replayCommitted replayCommittedOf
  rw [hnext, checkpoint]
  simp only
  rw [if_neg (Nat.not_lt.mpr habove)]
  refine replayFrom_eq_ok (fun op hlow hhigh => ?_) fun _ _ _ => ⟨_, rfl⟩
  obtain ⟨header, hread⟩ := recoverable.reads (show _ < op by omega) (by omega)
  exact ⟨header, by rw [hread]; rfl⟩

/-- The header of the durable commit bound has been recovered. -/
theorem Recoverable.committed : ∃ committed,
    recoveredCommittedHeader cfg durable recovery durable.state.commitMax replica.wal = .ok committed := by
  have habove := recoverable.above
  unfold recoveredCommittedHeader
  split_ifs
  · exact ⟨_, rfl⟩
  · obtain ⟨header, hop, hslot, -⟩ := recoverable.kept durable.state.commitMax (by omega) commit
    refine ⟨header, ?_⟩
    simp [WAL.recoveredHeader, hslot, WALSlot.holding, hop]
  · exact ⟨_, rfl⟩

end

/-- What was replayed to the durable commit bound is adopted when what is left fits the pipeline and the view
the replica comes back in can be recorded. -/
theorem Recoverable.adopts {result : ReplayResult χ}
    (recoverable : Recoverable cfg.cluster durable recovery.headOp replica.wal replica.durable.zones)
    (commit : durable.state.commitMax ≤ recovery.headOp) (reached : result.commitMin = durable.state.commitMax)
    (empty : replica.pipeline = []) (clean : recovery.faultySlots = 0) :
    ((replica.adoptReplay cfg durable recovery result).2 = true ∧
        recovery.headOp ≤ (replica.adoptReplay cfg durable recovery result).1.commitMin + cfg.pipelineMax) ↔
      recovery.headOp ≤ durable.state.commitMax + cfg.pipelineMax ∧ ∃ restarted,
        deriveRecoveredStatus cfg replica.durable.superblock durable recovery replica.wal = .ok restarted := by
  obtain ⟨committed, hcommitted⟩ := recoverable.committed commit
  have habove := recoverable.above
  rw [← reached] at hcommitted habove ⊢
  unfold adoptReplay
  split
  · rename_i hrefused
    exact iff_of_false (fun h => by cases h.1) fun ⟨_, _, h⟩ => by cases hrefused.symm.trans h
  rename_i status superblock hderived
  simp only [hcommitted]
  split
  · rename_i hstopped
    refine iff_of_false (fun h => by cases h.1) fun ⟨hfits, _⟩ => ?_
    rw [loadOpenSuffix, if_neg (not_not.mpr clean)] at hstopped
    have hlength : replica.pipeline.length = 0 := congrArg List.length empty
    have hmore := lt_of_foldlM_loadRecovered hstopped (hlength.trans_le (Nat.zero_le _)) fun op hop => by
      have hop := List.mem_range'_1.mp hop
      exact recoverable.reads (by omega) (by omega)
    change cfg.pipelineMax < replica.pipeline.length + _ at hmore
    rw [hlength, List.length_range'] at hmore
    omega
  · rename_i loaded hloaded
    obtain ⟨_, _, _, _, -, rfl⟩ := loadOpenSuffix_eq_ok hloaded
    exact ⟨fun h => ⟨h.2, _, hderived⟩, fun h => ⟨rfl, h.1⟩⟩

end Replica

namespace Cluster

open Transition

/-- Whatever has happened to a member, the replay of an interrupted sync gets to the durable commit bound.  The
resumption gets to its end exactly when the recovered head is at most a pipeline's length above that bound
and the view it comes back in can be recorded. -/
theorem resumption_fits_iff {allowed : Cluster χ → Nat × NodeAction χ → Prop} {cluster : Cluster χ}
    {index : Nat} {node : Node χ} {replica : Replica χ}
    (reached : Reaches (Cluster.step cfg) allowed (.initial cfg) cluster)
    (found : cluster.nodes[index]? = some node) (up : node.replica? = some replica)
    (running : replica.stateSync.replayRunning = true) :
    (∀ durable ∈ replica.stateSync.recoveryState,
      (replica.interruptedReplay (cfg.member index) durable).outcome = .ok ()) ∧
    (replica.ResumptionFits (cfg.member index) ↔
      ∀ durable ∈ replica.stateSync.recoveryState, ∀ recovery ∈ replica.stateSync.recovery,
        recovery.headOp ≤ durable.state.commitMax + (cfg.member index).pipelineMax ∧
          ∃ restarted, deriveRecoveredStatus (cfg.member index) replica.durable.superblock durable recovery
            replica.wal = .ok restarted) := by
  have hsound := ((Cluster.stored reached found).replica up).1
  have hsynced : replica.synced = true := by simp [Replica.synced, running]
  obtain ⟨-, hresumes, hwhole⟩ := hsound.phase.replaying running
  obtain ⟨durable, hdurable, recovery, hrecovery, hcheckpoint, hbound, hrecoverable, -⟩ :=
    hsound.phase.resuming hresumes hsynced
  obtain ⟨hclean, hcommit⟩ := hwhole recovery hrecovery
  rw [hbound] at hcommit
  have hreplays := hrecoverable.replays hcommit hsound.valid hcheckpoint
  rw [Option.mem_def] at hdurable hrecovery
  rw [Replica.ResumptionFits, Replica.replayInterrupted, running, hdurable, hrecovery]
  simp only [Option.mem_some_iff, forall_eq']
  refine ⟨hreplays, ?_⟩
  have hreaches : (replica.interruptedReplay (cfg.member index) durable).commitMin = durable.state.commitMax :=
    (replayCommitted_commitMin _ _ _ _).2 hreplays
  rw [hreplays]
  refine Replica.Recoverable.adopts ?_ hcommit hreaches ?_ hclean
  · exact hrecoverable
  · exact hsound.phase.vacated (Replica.vacant_of_synced hsynced)

/-- The journal is not damaged. -/
def sparesJournal (_ : Cluster χ) : Nat × NodeAction χ → Bool
  | (_, .damage _ _) => false
  | _ => true

/-- The third member executes ten ops and has an eleventh in its journal, with which the others take a
checkpoint.  A `View` makes it sync to that checkpoint, and it goes down once it has recorded that it will.
Opened again, it is about to replay its journal. -/
def interruptedSync (cfg : Config) : List Direction :=
  toNormal ++ (List.range 10).flatMap (fun round => onePulse (10 * round + 10)) ++ (onePulse 110).take 6 ++
    [.settle 1 110, .settle 1 110, .round 1 120 (.timer .pulse), .settle 1 120, .deliver 1 2 0 120,
      .deliver 2 1 0 120, .deliver 1 2 0 120] ++
    List.replicate 3 (.act 2 (.endRound (.prompt cfg 120))) ++
    [.settle 2 120, .act 2 (.crash none), .act 2 .open, .act 2 (.endRound (.prompt cfg 130)),
      .settle 2 130, .settle 2 130]

/-- Three members whose checkpoints are as far apart as their pipelines are long. -/
def shortInterval : Config := .small 3 10 32

/-- A replay that ends too far below the head, and at which the replica stops. -/
def overruns (replica : Replica Digest) (durable : Superblock Digest) (recovery : WALRecoveryReport Digest) : Bool :=
  replica.stateSync.replayRunning && durable.state.syncMin ≠ 0 &&
    durable.state.commitMax + shortInterval.pipelineMax < recovery.headOp &&
    (replica.replayInterrupted (shortInterval.member 2)).1.fatalErr = some .replicaInvariant

/-- Whether the third member is about to make such a replay. -/
def resuming (cluster : Cluster Digest) : Bool :=
  (cluster.running? 2).any fun replica => replica.stateSync.recoveryState.any fun durable =>
    replica.stateSync.recovery.any (overruns replica durable)

theorem interruptedSync_resuming :
    (Cluster.follow shortInterval sparesJournal (interruptedSync shortInterval)).any resuming = true := by
  decide +kernel

theorem interruptedSync_overruns : ∃ (cluster : Cluster Digest) (replica : Replica Digest) (durable : Superblock Digest)
      (recovery : WALRecoveryReport Digest),
    Reaches (Cluster.step shortInterval) (fun cluster action => cluster.sparesJournal action = true)
      (.initial shortInterval) cluster ∧ cluster.nodes[2]? = some (.running replica) ∧
    durable ∈ replica.stateSync.recoveryState ∧ recovery ∈ replica.stateSync.recovery ∧
    overruns replica durable recovery = true := by
  obtain ⟨cluster, replica, hreached, hnode, hfound⟩ := Cluster.running_of_follow _ (fun _ _ h => h) interruptedSync_resuming
  obtain ⟨durable, hdurable, hfound⟩ := (Option.any_eq_true _ _).mp hfound
  obtain ⟨recovery, hrecovery, hfound⟩ := (Option.any_eq_true _ _).mp hfound
  exact ⟨cluster, replica, durable, recovery, hreached, hnode, hdurable, hrecovery, hfound⟩

/-- A member that comes back in the middle of a state sync stops over its own journal. -/
theorem interrupted_replay_stops : ∃ (cluster : Cluster Digest) (replica : Replica Digest)
      (durable : Superblock Digest) (recovery : WALRecoveryReport Digest),
    Reaches (Cluster.step shortInterval) (fun cluster action => cluster.sparesJournal action = true)
      (.initial shortInterval) cluster ∧ cluster.nodes[2]? = some (.running replica) ∧
    durable ∈ replica.stateSync.recoveryState ∧ recovery ∈ replica.stateSync.recovery ∧
    replica.stateSync.replayRunning = true ∧ durable.state.syncMin ≠ 0 ∧
    (replica.replayInterrupted (shortInterval.member 2)).1.fatalErr = some .replicaInvariant := by
  obtain ⟨cluster, replica, durable, recovery, hreached, hfound, hdurable, hrecovery, hoverruns⟩ :=
    interruptedSync_overruns
  simp only [overruns, Bool.and_eq_true, decide_eq_true_eq] at hoverruns
  exact ⟨cluster, replica, durable, recovery, hreached, hfound, hdurable, hrecovery, hoverruns.1.1.1, hoverruns.1.1.2,
    hoverruns.2⟩

theorem resumption_fits_iff_short : ∃ (cluster : Cluster Digest) (replica : Replica Digest),
    Reaches (Cluster.step shortInterval) (fun cluster action => cluster.sparesJournal action = true)
      (.initial shortInterval) cluster ∧ cluster.nodes[2]? = some (.running replica) ∧
      replica.stateSync.replayRunning = true ∧ ¬ replica.ResumptionFits (shortInterval.member 2) := by
  obtain ⟨cluster, replica, durable, recovery, hreached, hfound, hdurable, hrecovery, hoverruns⟩ :=
    interruptedSync_overruns
  simp only [overruns, Bool.and_eq_true, decide_eq_true_eq] at hoverruns
  refine ⟨cluster, replica, hreached, hfound, hoverruns.1.1.1, fun hfits => ?_⟩
  have hshort := ((resumption_fits_iff hreached hfound rfl hoverruns.1.1.1).2.1 hfits durable hdurable recovery hrecovery).1
  exact absurd hshort (Nat.not_le.mpr hoverruns.1.2)

/-- A state sync keeps a member out of normal status, of the installation of a view and of the join records
of others.  Its pipeline is empty from the reset on, and nothing is executed above a checkpoint that is
still to be opened. -/
theorem sync_excludes {allowed : Cluster χ → Nat × NodeAction χ → Prop} {cluster : Cluster χ} {index : Nat}
    {node : Node χ} {replica : Replica χ} (reached : Reaches (Cluster.step cfg) allowed (.initial cfg) cluster)
    (found : cluster.nodes[index]? = some node) (up : node.replica? = some replica) :
    (replica.syncing = true → replica.status ≠ .normal ∧ replica.repairViewValid = false ∧
      (replica.status = .viewChange → ∀ other ≠ (cfg.member index).localIndex,
        replica.joins.getD other none = none)) ∧
      (replica.vacant = true → replica.pipeline = []) ∧
      (replica.synced = true → replica.commitMin = replica.checkpointOp) := by
  have hphase := ((Cluster.stored reached found).replica up).1.phase
  refine ⟨fun hsyncing => ?_, hphase.vacated, hphase.level⟩
  obtain ⟨hsilent, -, halone, huninstalled, -⟩ := hphase.asleep hsyncing
  exact ⟨hsilent, huninstalled, halone⟩

theorem sync_excludes_short : ∃ (cluster : Cluster Digest) (replica : Replica Digest),
    Reaches (Cluster.step shortInterval) (fun cluster action => cluster.sparesJournal action = true)
      (.initial shortInterval) cluster ∧ cluster.nodes[2]? = some (.running replica) ∧
    replica.synced = true ∧ replica.commitMin = replica.checkpointOp := by
  obtain ⟨cluster, replica, _, _, hreached, hfound, _, _, hoverruns⟩ := interruptedSync_overruns
  simp only [overruns, Bool.and_eq_true] at hoverruns
  have hsynced : replica.synced = true := by simp [Replica.synced, hoverruns.1.1.1]
  exact ⟨cluster, replica, hreached, hfound, hsynced, (sync_excludes hreached hfound rfl).2.2 hsynced⟩

end Cluster

end Supervsr
