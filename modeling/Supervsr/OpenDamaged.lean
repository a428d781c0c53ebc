import Supervsr.ReplicaStorage
import Supervsr.SmallCluster

/-
# Supervsr.OpenDamaged — restarting over a damaged journal

A replica with peers may come back although slots of its journal have decayed: nothing is replayed, and the
replica starts with a head it does not trust.  The head is the later of the recovered chain and the durable
commit bound, the executed prefix is the checkpoint, and the commit bound is the durable one.  The only check
of the initial snapshot these can fail is the width of the pipeline.  As the commit bound reaches storage with
views and checkpoints only, a chain of ordinary length is enough to fail it.
-/

namespace Supervsr

open Transition

variable {χ : Type} [DecidableEq χ] [Checksums χ] {cfg : Config}

variable {durable : Durable χ} {wal : WAL χ} {recovery : WALRecoveryReport χ}

namespace Durable

/-- Some slot is left to remote repair. -/
def Damaged (durable : Durable χ) (cfg : Config) (prepareMax : Nat) : Prop :=
  ∃ slot < cfg.cluster.journalSlots, durable.zones.decision cfg.cluster
    durable.superblock.state.checkpoint.prepareOp prepareMax durable.installedView slot = .remoteRepair

instance (durable : Durable χ) (cfg : Config) (prepareMax : Nat) :
    Decidable (durable.Damaged cfg prepareMax) := by
  unfold Damaged
  infer_instance

/-- The chain that recovery rebuilds from the checkpoint. -/
def Chained (durable : Durable χ) (cfg : Config) (prepareMax op : Nat) (header : Header χ) : Prop :=
  durable.zones.Intact cfg.cluster durable.superblock.state.checkpoint prepareMax durable.installedView
    op header

/-- The state a replica starts from while slots are damaged. -/
def damagedStart (durable : Durable χ) (recovery : WALRecoveryReport χ) : InitialState χ where
  status := .recoveringHead
  view := durable.superblock.state.view
  durableView := durable.superblock.state.view
  logView := durable.superblock.state.logView
  headOp := max recovery.headOp durable.superblock.state.commitMax
  commitMin := durable.superblock.state.checkpoint.prepareOp
  commitMax := max durable.superblock.state.commitMax durable.superblock.state.checkpoint.prepareOp
  checkpoint := durable.superblock.state.checkpoint
  headHeader := recovery.headHeader
  syncRangeRepaired := durable.superblock.state.syncMin ≠ 0

/-- Among peers, recovery of a damaged journal reports the end of its chain. -/
theorem recovery_damaged {prepareMax : Nat} (stored : durable.Stored cfg) (slots : cfg.cluster.journalSlots ≠ 0)
    (several : cfg.memberCount ≠ 1)
    (bounded : prepareMaximum cfg.cluster durable.superblock.state.checkpoint.prepareOp = some prepareMax)
    (damaged : durable.Damaged cfg prepareMax) :
    ∃ wal recovery, durable.recovery cfg = .ok (wal, recovery) ∧ recovery.faultySlots ≠ 0 ∧
      durable.Chained cfg prepareMax recovery.headOp recovery.headHeader ∧
      ∀ op header, durable.Chained cfg prepareMax op header → op ≤ recovery.headOp := by
  obtain ⟨wal, recovery, hrecovered, hrecovers⟩ :=
    recover_eq _ _ slots (fun slot hslot => decision_ne_fail stored.placed hslot) bounded
  have hfaulty : recovery.faultySlots ≠ 0 := by
    obtain ⟨slot, hslot, hremote⟩ := damaged
    exact fun h => hrecovered.faulty.mp h slot hslot hremote
  refine ⟨wal, recovery, ?_, hfaulty, hrecovered.head, fun op header h => hrecovered.last h⟩
  refine hrecovers.trans ?_
  rw [if_neg fun h => several h.2, if_neg fun h => hfaulty h.2]

/-- What `Open` makes of a recovery that reports damaged slots. -/
theorem open_damaged (valid : cfg.toFormatConfig.valid = true)
    (accepted : durable.superblock.validate cfg.validation = .ok ())
    (settled : durable.superblock.state.syncMin = 0) (recovered : durable.recovery cfg = .ok (wal, recovery))
    (faulty : recovery.faultySlots ≠ 0) :
    (durable.open cfg).2 =
      newReplica cfg (durable.damagedStart recovery) (durable.afterRecovery cfg) wal 0 := by
  have hresumes : (durable.afterRecovery cfg).resumes = false := by
    simp [resumes, afterRecovery, settled]
  have hreplay : (durable.afterRecovery cfg).openReplay cfg recovery = .ok
      { executed := [], commitMin := durable.superblock.state.checkpoint.prepareOp,
        checkpointSessionOp := 0, outcome := .ok () } := by
    unfold openReplay
    exact if_pos faulty
  have hsuperblock : (durable.afterRecovery cfg).openSuperblock cfg recovery = durable.superblock :=
    if_neg fun h => faulty h.2
  have hderived : deriveInitialState cfg durable.superblock durable.superblock recovery
      durable.superblock.state.checkpoint.prepareOp wal =
        .ok (durable.damagedStart recovery, durable.superblock) := by
    obtain ⟨committed, hcommitted⟩ : ∃ committed, recoveredCommittedHeader cfg durable.superblock recovery
        durable.superblock.state.checkpoint.prepareOp wal = .ok committed := by
      unfold recoveredCommittedHeader
      split
      · exact ⟨_, rfl⟩
      · rw [if_neg (not_not.mpr rfl)]
        exact ⟨_, rfl⟩
    unfold deriveInitialState deriveRecoveredStatus
    simp only [hcommitted]
    rw [if_pos faulty]
    rfl
  unfold «open»
  rw [if_neg (not_not.mpr valid), accepted]
  simp only [recovered]
  unfold openRecovered
  rw [hresumes, hreplay]
  simp only [Bool.false_eq_true, if_false]
  unfold openReplayed
  rw [show (durable.afterRecovery cfg).recordReplay [] = durable.afterRecovery cfg from rfl, hsuperblock,
    show (durable.afterRecovery cfg).superblock = durable.superblock from rfl, hderived]
  show (newReplica cfg (durable.damagedStart recovery) (durable.afterRecovery cfg) wal 0 >>= _) = _
  unfold newReplica
  simp only
  split
  · show Replica.loadOpenSuffix _ cfg recovery _ = _
    unfold Replica.loadOpenSuffix
    rw [if_pos faulty]
  · rfl

/-- The only check of the initial snapshot that can fail is the width of the pipeline. -/
theorem validSnapshot_damagedStart {left : Durable χ}
    (accepted : durable.superblock.validate cfg.validation = .ok ())
    (ahead : durable.superblock.state.checkpoint.prepareOp ≤ recovery.headOp) :
    (Replica.initial cfg (durable.damagedStart recovery) left wal 0).validSnapshot cfg = true ↔
      recovery.headOp ≤ durable.superblock.state.commitMax + cfg.pipelineMax := by
  have haccepted := Superblock.validate_eq_ok.mp accepted
  have hcommit := haccepted.commit
  have hviews := haccepted.views
  have hsnapshot : (Replica.initial cfg (durable.damagedStart recovery) left wal 0).validSnapshot cfg = true ↔
      durable.superblock.state.view ≤ durable.superblock.state.view ∧
      durable.superblock.state.logView ≤ durable.superblock.state.view ∧
      durable.superblock.state.checkpoint.prepareOp ≤ durable.superblock.state.checkpoint.prepareOp ∧
      durable.superblock.state.checkpoint.prepareOp ≤
        max recovery.headOp durable.superblock.state.commitMax ∧
      durable.superblock.state.checkpoint.prepareOp ≤
        max durable.superblock.state.commitMax durable.superblock.state.checkpoint.prepareOp ∧
      max recovery.headOp durable.superblock.state.commitMax - cfg.pipelineMax ≤
        max durable.superblock.state.commitMax durable.superblock.state.checkpoint.prepareOp := by
    simp [Replica.validSnapshot, Replica.initial, damagedStart, Replica.checkpointOp]
  rw [hsnapshot]
  omega

end Durable

/-! ## Runs -/

namespace Cluster

/-- After any run, a member with peers that finds slots to be repaired remotely is opened with a head it does
not trust exactly if its recovered chain is not longer than the durable commit bound and a pipeline. -/
theorem opens_damaged_iff {cluster : Cluster χ} {index prepareMax : Nat} {durable : Durable χ}
    (reached : Reaches (Cluster.step cfg) (fun _ _ => True) (.initial cfg) cluster)
    (several : 2 ≤ cfg.memberCount) (valid : (cfg.member index).toFormatConfig.valid = true)
    (found : cluster.nodes[index]? = some (.down durable))
    (settled : durable.superblock.state.syncMin = 0)
    (bounded : prepareMaximum cfg.cluster durable.superblock.state.checkpoint.prepareOp = some prepareMax)
    (damaged : durable.Damaged cfg prepareMax) :
    (∃ replica, (durable.open (cfg.member index)).2 = .ok replica ∧ replica.status = .recoveringHead ∧
        replica.validSnapshot (cfg.member index) = true) ↔
      ∀ op header, durable.Chained cfg prepareMax op header →
        op ≤ durable.superblock.state.commitMax + cfg.pipelineMax := by
  obtain ⟨-, hstored⟩ := Cluster.stored reached found
  have hslots : (cfg.member index).cluster.journalSlots ≠ 0 := by
    have := (FormatConfig.validated_of_valid valid).journal_ge
    omega
  have hseveral : (cfg.member index).memberCount ≠ 1 := by
    show cfg.memberCount ≠ 1
    omega
  have haccepted := hstored.accepted valid
  obtain ⟨wal, recovery, hrecovered, hfaulty, hhead, hlast⟩ :=
    Durable.recovery_damaged hstored hslots hseveral bounded damaged
  have hsnapshot : ∀ left : Durable χ,
      (Replica.initial (cfg.member index) (durable.damagedStart recovery) left wal 0).validSnapshot
          (cfg.member index) = true ↔
        recovery.headOp ≤ durable.superblock.state.commitMax + cfg.pipelineMax :=
    fun left => Durable.validSnapshot_damagedStart haccepted hhead.checkpoint_le
  rw [Durable.open_damaged valid haccepted settled hrecovered hfaulty]
  constructor
  · rintro ⟨replica, hopened, -, hchecked⟩ op header hchained
    obtain ⟨rfl, -⟩ := newReplica_eq_ok hopened
    exact (hlast op header hchained).trans ((hsnapshot _).mp hchecked)
  intro hshort
  have hchecked := (hsnapshot (durable.afterRecovery (cfg.member index))).mpr (hshort _ _ hhead)
  refine ⟨_, ?_, rfl, hchecked⟩
  unfold newReplica
  exact if_pos hchecked

/-- Whether a member is down with some slot left to remote repair and no state sync to resume. -/
def damaged? (cluster : Cluster Digest) (index prepareMax : Nat) : Option (Durable Digest) :=
  (cluster.down? index).filter fun durable => durable.superblock.state.syncMin = 0 ∧
    prepareMaximum threeMembers.cluster durable.superblock.state.checkpoint.prepareOp = some prepareMax ∧
    durable.Damaged threeMembers prepareMax

/-- One op is chained behind the checkpoint, and is what the opened member takes for its head. -/
theorem opens_damaged_iff_pulse : ∃ (cluster : Cluster Digest) (durable : Durable Digest),
    Reaches (Cluster.step threeMembers) (fun _ _ => True) (.initial threeMembers) cluster ∧
      cluster.nodes[2]? = some (.down durable) ∧ durable.Damaged threeMembers 31 ∧
      (durable.open (threeMembers.member 2)).2.toOption.map (·.headOp) = some 1 ∧
      ((∃ replica, (durable.open (threeMembers.member 2)).2 = .ok replica ∧
          replica.status = .recoveringHead ∧ replica.validSnapshot (threeMembers.member 2) = true) ↔
        ∀ op header, durable.Chained threeMembers 31 op header →
          op ≤ durable.superblock.state.commitMax + threeMembers.pipelineMax) := by
  have hfinds : (Cluster.follow threeMembers (fun _ _ => true) (toNormal ++ onePulse 10 ++
      [.act 2 (.crash none), .act 2 (.damage 3 false)])).any (fun cluster =>
        (damaged? cluster 2 31).any fun durable =>
          (durable.open (threeMembers.member 2)).2.toOption.map (·.headOp) = some 1) = true := by
    decide +kernel
  obtain ⟨cluster, hreached, hfound⟩ :=
    Cluster.reaches_of_follow (fun _ _ => True) (fun _ _ _ => trivial) hfinds
  obtain ⟨durable, hdurable, hhead⟩ := (Option.any_eq_true _ _).mp hfound
  obtain ⟨hdown, hdamaged⟩ := Option.filter_eq_some_iff.mp hdurable
  obtain ⟨hsettled, hbounded, hdamaged⟩ := of_decide_eq_true hdamaged
  have hnode := Cluster.down?_eq_some hdown
  exact ⟨cluster, durable, hreached, hnode, hdamaged, of_decide_eq_true hhead,
    opens_damaged_iff hreached (by decide) (by decide) hnode hsettled hbounded hdamaged⟩

/-- Two ops executed since the durable commit bound was last written, with a pipeline of one, and a decayed
header of a slot that was never used: `Open` refuses the state it has derived. -/
theorem damaged_open_refused : ∃ (cluster : Cluster Digest) (durable : Durable Digest),
    Reaches (Cluster.step threeMembers) (fun _ _ => True) (.initial threeMembers) cluster ∧
      cluster.nodes[2]? = some (.down durable) ∧
      (durable.superblock.state.syncMin = 0 ∧ durable.Damaged threeMembers 31) ∧
      (durable.open (threeMembers.member 2)).2.toOption.isNone = true := by
  have hfinds : (Cluster.follow threeMembers (fun _ _ => true) (toNormal ++ onePulse 10 ++ onePulse 20 ++
      [.act 2 (.crash none), .act 2 (.damage 3 false)])).any (fun cluster =>
        (damaged? cluster 2 31).any fun durable =>
          (durable.open (threeMembers.member 2)).2.toOption.isNone) = true := by decide +kernel
  obtain ⟨cluster, hreached, hfound⟩ :=
    Cluster.reaches_of_follow (fun _ _ => True) (fun _ _ _ => trivial) hfinds
  obtain ⟨durable, hdurable, hrefused⟩ := (Option.any_eq_true _ _).mp hfound
  obtain ⟨hdown, hdamaged⟩ := Option.filter_eq_some_iff.mp hdurable
  obtain ⟨hsettled, -, hdamaged⟩ := of_decide_eq_true hdamaged
  exact ⟨cluster, durable, hreached, Cluster.down?_eq_some hdown, ⟨hsettled, hdamaged⟩, hrefused⟩

end Cluster

end Supervsr
