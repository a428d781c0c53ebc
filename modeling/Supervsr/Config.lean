import Mathlib.Tactic.Common
import Supervsr.Protocol

/-
# Supervsr.Config — cluster limits, their validation, and the quorums and intervals derived from them

`ClusterConfig.validate` is the gate every replica passes before it starts.  The rest of the
development uses what it accepts only through the facts at the end of this module: quorums intersect
and the checkpoint interval leaves room for two pipelines in the journal.
-/

namespace Supervsr

variable {right left n activeCount standbyCount : Nat}

/-! ## Checked 64-bit arithmetic (`checked.go`) -/

def checkedAdd (left right : Nat) : Option Nat :=
  if right > maxUint64 - left then none else some (left + right)

def checkedMul (left right : Nat) : Option Nat :=
  if left ≠ 0 ∧ right > maxUint64 / left then none else some (left * right)

def checkedAlignUp (value alignment : Nat) : Option Nat :=
  if alignment = 0 ∨ alignment &&& (alignment - 1) ≠ 0 then none
  else do
    let added ← checkedAdd value (alignment - 1)
    return added - (added &&& (alignment - 1))

def checkedRoundUp (value multiple : Nat) : Option Nat :=
  if multiple = 0 then none
  else
    let remainder := value % multiple
    if remainder = 0 then some value else checkedAdd value (multiple - remainder)

theorem checkedAdd_eq_some (h : checkedAdd left right = some n) : n = left + right := by
  unfold checkedAdd at h
  split at h
  · cases h
  · simpa using h.symm

theorem checkedMul_eq_some (h : checkedMul left right = some n) : n = left * right := by
  unfold checkedMul at h
  split at h
  · cases h
  · simpa using h.symm

theorem checkedAdd_of_le (fits : left + right ≤ maxUint64) : checkedAdd left right = some (left + right) := by
  rw [checkedAdd, if_neg (by omega)]

theorem checkedMul_of_le (fits : left * right ≤ maxUint64) : checkedMul left right = some (left * right) := by
  rw [checkedMul, if_neg]
  rintro ⟨hleft, hright⟩
  rw [Nat.mul_comm] at fits
  exact Nat.not_lt.mpr ((Nat.le_div_iff_mul_le (Nat.pos_of_ne_zero hleft)).mpr fits) hright

theorem checkedAdd_le (h : checkedAdd left right = some n) (fits : left ≤ maxUint64) : n ≤ maxUint64 := by
  unfold checkedAdd at h
  split at h
  · cases h
  · cases h
    omega

theorem checkedMul_le (h : checkedMul left right = some n) : n ≤ maxUint64 := by
  unfold checkedMul at h
  split at h
  · cases h
  rename_i hfits
  cases h
  rcases Nat.eq_zero_or_pos left with rfl | hpos
  · rw [Nat.zero_mul]
    exact Nat.zero_le _
  · rw [Nat.mul_comm]
    exact (Nat.le_div_iff_mul_le hpos).mp (by omega)

/-! ## Limits -/

def activeMax : Nat := 6
def standbyMax : Nat := 6
def membersMax : Nat := activeMax + standbyMax
def cacheLineSize : Nat := 64
def sectorSize : Nat := 4096
def superblockBytes : Nat := 8192
def headerBytes : Nat := 256

/-- `ClusterConfig`: the limits all members share. -/
structure ClusterConfig where
  cacheLineSize : Nat
  clientsMax : Nat
  pipelineMax : Nat
  viewChangeHeadersSuffixMax : Nat
  replicationQuorumMax : Nat
  journalSlots : Nat
  messageSizeMax : Nat
  applicationBatchSizeMax : Nat
  applicationReplySizeMax : Nat
  superblockCopies : Nat
  blockSize : Nat
  storageLevels : Nat
  storageGrowthFactor : Nat
  compactionOps : Nat
  storageSnapshotsMax : Nat
  manifestCompactExtraBlocks : Nat
  tableCoalescingThresholdPercent : Nat
  releaseHistoryMax : Nat
  storageScansMax : Nat
deriving DecidableEq, Repr

variable {cfg : ClusterConfig}

/-- `ConfigError`: the field that was refused and why. -/
structure ConfigError where
  field : String
  reason : String
deriving DecidableEq, Repr

structure Quorums where
  replication : Nat
  viewChange : Nat
  negative : Nat
  majority : Nat
  upgrade : Nat
deriving DecidableEq, Repr

def quorumsFor (activeCount replicationQuorumMax : Nat) : Option Quorums :=
  if activeCount = 0 ∨ activeCount > activeMax ∨ replicationQuorumMax = 0 then none
  else
    let replication := if activeCount = 2 then 2 else min replicationQuorumMax ((activeCount + 1) / 2)
    let viewChange := if activeCount = 2 then 2 else activeCount - replication + 1
    some {
      replication := replication
      viewChange := viewChange
      negative := activeCount - replication + 1
      majority := activeCount / 2 + 1
      upgrade := activeCount }

/-- Two steps of a computation that may be refused both succeed. -/
theorem bind_eq_ok {ε α β : Type} {x : Except ε α} {f : α → Except ε β} {b : β} :
    (x >>= f) = .ok b ↔ ∃ a, x = .ok a ∧ f a = .ok b := by
  cases x <;> simp [bind, Except.bind]

/-- A computation with one guard that succeeds. -/
theorem eq_of_ite_error {ε α : Type} {p : Prop} [Decidable p] {err : ε} {a b : α}
    (h : (if p then .error err else .ok a) = Except.ok b) : a = b := by
  split at h
  · cases h
  · exact Except.ok.inj h

namespace ClusterConfig

/-- `DefaultClusterConfig`. -/
def default : ClusterConfig where
  cacheLineSize := Supervsr.cacheLineSize
  clientsMax := 64
  pipelineMax := 8
  viewChangeHeadersSuffixMax := 9
  replicationQuorumMax := 3
  journalSlots := 1024
  messageSizeMax := 1048576
  applicationBatchSizeMax := 1048576 - headerBytes
  applicationReplySizeMax := 1048576 - headerBytes
  superblockCopies := 4
  blockSize := 524288
  storageLevels := 7
  storageGrowthFactor := 8
  compactionOps := 32
  storageSnapshotsMax := 32
  manifestCompactExtraBlocks := 1
  tableCoalescingThresholdPercent := 50
  releaseHistoryMax := 64
  storageScansMax := 6

/-- `CheckpointInterval`: the ops between two checkpoints. -/
def checkpointInterval (cfg : ClusterConfig) : Option Nat := do
  let twicePipeline ← checkedMul 2 cfg.pipelineMax
  let rounded ← checkedRoundUp twicePipeline cfg.compactionOps
  let subtrahend ← checkedAdd cfg.compactionOps rounded
  if cfg.journalSlots ≤ subtrahend then none else some (cfg.journalSlots - subtrahend)

/-- `BlockBase`: the storage offset behind the superblock, journal and reply zones. -/
def blockBase (cfg : ClusterConfig) : Option Nat := do
  let superblockSize ← checkedMul cfg.superblockCopies superblockBytes
  let headerBytes ← checkedMul cfg.journalSlots headerBytes
  let headerSize ← checkedAlignUp headerBytes sectorSize
  let prepareBase ← checkedAdd superblockSize headerSize
  let prepareStride ← checkedAlignUp cfg.messageSizeMax sectorSize
  let prepareSize ← checkedMul cfg.journalSlots prepareStride
  let replyBase ← checkedAdd prepareBase prepareSize
  let replySize ← checkedMul cfg.clientsMax prepareStride
  let «end» ← checkedAdd replyBase replySize
  checkedAlignUp «end» cfg.blockSize

/-- The refusal of `Validate`: `cond` holds, so `field` is reported with `reason`. -/
def refuseIf (cond : Prop) [Decidable cond] (field reason : String) : Except ConfigError Unit :=
  if cond then .error ⟨field, reason⟩ else .ok ()

@[simp] theorem refuseIf_eq_ok {cond : Prop} [Decidable cond] {field reason : String} {u : Unit} :
    refuseIf cond field reason = .ok u ↔ ¬ cond := by
  unfold refuseIf
  split <;> simp_all

/-- The smallest message that holds a view with its checkpoint. -/
def minimumMessageSize (cfg : ClusterConfig) : Option Nat := do
  let headers ← checkedMul (cfg.pipelineMax + 1) headerBytes
  checkedAdd headers (headerBytes + 1024)

/-- `ClusterConfig.Validate`. -/
def validate (cfg : ClusterConfig) (activeCount standbyCount : Nat) : Except ConfigError Unit := do
  refuseIf (activeCount = 0 ∨ activeCount > activeMax) "ActiveCount" "must be between 1 and 6"
  refuseIf (standbyCount > standbyMax ∨ activeCount + standbyCount > membersMax)
    "StandbyCount" "active and standby members exceed 12"
  refuseIf (cfg.cacheLineSize ≠ Supervsr.cacheLineSize) "CacheLineSize" "format 1 requires 64"
  refuseIf (cfg.clientsMax = 0) "ClientsMax" "must be positive"
  refuseIf (cfg.pipelineMax = 0 ∨ cfg.pipelineMax > 15) "PipelineMax" "must be between 1 and 15"
  refuseIf (cfg.viewChangeHeadersSuffixMax ≠ cfg.pipelineMax + 1)
    "ViewChangeHeadersSuffixMax" "must equal PipelineMax+1"
  refuseIf (cfg.replicationQuorumMax = 0) "ReplicationQuorumMax" "must be positive"
  refuseIf (cfg.journalSlots ≤ cfg.pipelineMax) "JournalSlots" "must exceed PipelineMax"
  refuseIf (¬ (checkedMul cfg.journalSlots headerBytes).any (2 * sectorSize ≤ ·))
    "JournalSlots" "header ring must span at least two sectors"
  refuseIf (cfg.messageSizeMax % sectorSize ≠ 0) "MessageSizeMax" "must be a sector multiple"
  refuseIf (¬ cfg.minimumMessageSize.any (· ≤ cfg.messageSizeMax))
    "MessageSizeMax" "cannot hold a view and checkpoint"
  let maximumBody := cfg.messageSizeMax - headerBytes
  refuseIf (cfg.applicationBatchSizeMax = 0 ∨ cfg.applicationBatchSizeMax > maximumBody)
    "ApplicationBatchSizeMax" "must fit a frame body"
  refuseIf (cfg.applicationReplySizeMax < 64 ∨ cfg.applicationReplySizeMax > maximumBody)
    "ApplicationReplySizeMax" "must be between 64 and the maximum frame body"
  refuseIf (cfg.superblockCopies ≠ 4 ∧ cfg.superblockCopies ≠ 6 ∧ cfg.superblockCopies ≠ 8)
    "SuperblockCopies" "must be 4, 6, or 8"
  refuseIf (cfg.blockSize = 0 ∨ cfg.blockSize % sectorSize ≠ 0 ∨ cfg.blockSize > cfg.messageSizeMax)
    "BlockSize" "must be a sector multiple no larger than MessageSizeMax"
  refuseIf (cfg.storageLevels = 0 ∨ cfg.storageLevels > 64) "StorageLevels" "must be between 1 and 64"
  refuseIf (cfg.storageGrowthFactor < 2) "StorageGrowthFactor" "must be at least 2"
  refuseIf (cfg.compactionOps = 0 ∨ cfg.compactionOps &&& (cfg.compactionOps - 1) ≠ 0)
    "CompactionOps" "must be a power of two"
  refuseIf (cfg.storageSnapshotsMax = 0) "StorageSnapshotsMax" "must be positive"
  refuseIf (cfg.manifestCompactExtraBlocks = 0) "ManifestCompactExtraBlocks" "must be positive"
  refuseIf (cfg.tableCoalescingThresholdPercent = 0 ∨ cfg.tableCoalescingThresholdPercent > 100)
    "TableCoalescingThresholdPercent" "must be between 1 and 100"
  refuseIf (cfg.releaseHistoryMax = 0 ∨ cfg.releaseHistoryMax > 65535 ∨
      cfg.releaseHistoryMax * 4 > maximumBody)
    "ReleaseHistoryMax" "must fit the Ping body and uint16 count"
  refuseIf (cfg.storageScansMax = 0) "StorageScansMax" "must be positive"
  refuseIf (¬ cfg.checkpointInterval.any (fun interval =>
      interval ≠ 0 ∧ interval % cfg.compactionOps = 0))
    "JournalSlots" "derived checkpoint interval is invalid"
  refuseIf (¬ (quorumsFor activeCount (min cfg.replicationQuorumMax 255)).any (fun quorums =>
      activeCount < quorums.replication + quorums.viewChange ∧
        activeCount < quorums.replication + quorums.negative))
    "ReplicationQuorumMax" "derived quorums do not intersect"
  refuseIf cfg.blockBase.isNone "storage layout" "derived offsets overflow"

/-- What `validate` has checked when it accepts. -/
structure Validated (cfg : ClusterConfig) (activeCount : Nat) : Prop where
  active_pos : 0 < activeCount
  active_le : activeCount ≤ activeMax
  pipeline_pos : 0 < cfg.pipelineMax
  pipeline_le : cfg.pipelineMax ≤ 15
  pipeline_lt_journal : cfg.pipelineMax < cfg.journalSlots
  journal_ge : 32 ≤ cfg.journalSlots
  copies : cfg.superblockCopies = 4 ∨ cfg.superblockCopies = 6 ∨ cfg.superblockCopies = 8
  compaction_pos : 0 < cfg.compactionOps
  interval : ∃ interval, cfg.checkpointInterval = some interval ∧ 0 < interval ∧
    interval % cfg.compactionOps = 0
  quorums : ∃ quorums, quorumsFor activeCount (min cfg.replicationQuorumMax 255) = some quorums ∧
    activeCount < quorums.replication + quorums.viewChange ∧
    activeCount < quorums.replication + quorums.negative
  blockBase : cfg.blockBase.isSome

theorem validated_of_validate (h : cfg.validate activeCount standbyCount = .ok ()) :
    cfg.Validated activeCount := by
  simp only [validate, bind_eq_ok, refuseIf_eq_ok, exists_and_left, exists_const, not_or, not_not] at h
  obtain ⟨hactive, -, -, -, hpipeline, -, -, hslots, hring, -, -, -, -, hcopies, -, -, -, hcompaction, -, -,
    -, -, -, hinterval, hquorums, hbase⟩ := h
  rw [Bool.not_eq_true, Option.isNone_eq_false_iff] at hbase
  obtain ⟨ring, hringSome, hring⟩ := (Option.any_eq_true _ _).mp hring
  obtain ⟨interval, hintervalSome, hinterval⟩ := (Option.any_eq_true _ _).mp hinterval
  obtain ⟨quorums, hquorumsSome, hquorums⟩ := (Option.any_eq_true _ _).mp hquorums
  have hring := of_decide_eq_true hring
  have hinterval := of_decide_eq_true hinterval
  have hquorums := of_decide_eq_true hquorums
  have hringSize := checkedMul_eq_some hringSome
  simp only [headerBytes, sectorSize] at hringSize hring
  exact {
    active_pos := by omega
    active_le := by omega
    pipeline_pos := by omega
    pipeline_le := by omega
    pipeline_lt_journal := by omega
    journal_ge := by omega
    copies := by omega
    compaction_pos := by omega
    interval := ⟨interval, hintervalSome, by omega, hinterval.2⟩
    quorums := ⟨quorums, hquorumsSome, hquorums⟩
    blockBase := hbase }

/-- Aligning goes up to the next multiple of the alignment, a power of two. -/
theorem checkedAlignUp_eq_some {value alignment n : Nat} (h : checkedAlignUp value alignment = some n) :
    (∃ k, alignment = 2 ^ k) ∧ alignment ∣ n ∧ value ≤ n ∧ n < value + alignment ∧
      (value ≤ maxUint64 → n ≤ maxUint64) := by
  unfold checkedAlignUp at h
  split at h
  · cases h
  rename_i hpower
  simp only [not_or, ne_eq, not_not] at hpower
  obtain ⟨k, hk⟩ := (Nat.and_sub_one_eq_zero_iff_isPowerOfTwo hpower.1).mp hpower.2
  simp only [Option.bind_eq_bind, Option.bind_eq_some_iff, Option.pure_def, Option.some.injEq] at h
  obtain ⟨added, hadded, rfl⟩ := h
  have hsum := checkedAdd_eq_some hadded
  have hmask : added &&& (alignment - 1) = added % alignment := by
    rw [hk, Nat.and_two_pow_sub_one_eq_mod]
  have hlt : added % alignment < alignment := Nat.mod_lt _ (Nat.pos_of_ne_zero hpower.1)
  have hdiv := Nat.div_add_mod added alignment
  rw [hmask]
  refine ⟨⟨k, hk⟩, ⟨added / alignment, by omega⟩, by omega, by omega, fun hvalue => ?_⟩
  have hbound := checkedAdd_le hadded hvalue
  omega

/-- Aligning never moves an offset down. -/
theorem checkedAlignUp_le {value alignment n : Nat} (h : checkedAlignUp value alignment = some n) :
    value ≤ n :=
  (checkedAlignUp_eq_some h).2.2.1

/-- What `validate` has checked of the sizes of messages and blocks when it accepts. -/
structure Sized (cfg : ClusterConfig) : Prop where
  clients_pos : 0 < cfg.clientsMax
  message_aligned : cfg.messageSizeMax % sectorSize = 0
  message_ge : headerBytes + 1024 ≤ cfg.messageSizeMax
  batch_le : cfg.applicationBatchSizeMax ≤ cfg.messageSizeMax - headerBytes
  reply_le : cfg.applicationReplySizeMax ≤ cfg.messageSizeMax - headerBytes
  block_pos : 0 < cfg.blockSize
  block_aligned : cfg.blockSize % sectorSize = 0
  block_le : cfg.blockSize ≤ cfg.messageSizeMax
  history_le : cfg.releaseHistoryMax ≤ 65535

theorem sized_of_validate (h : cfg.validate activeCount standbyCount = .ok ()) : cfg.Sized := by
  simp only [validate, bind_eq_ok, refuseIf_eq_ok, exists_and_left, exists_const, not_or, not_not] at h
  obtain ⟨-, -, -, hclients, -, -, -, -, -, hmessage, hminimum, hbatch, hreply, -, hblock, -, -, -, -, -, -,
    hhistory, -⟩ := h
  obtain ⟨minimum, hminimumSome, hminimum⟩ := (Option.any_eq_true _ _).mp hminimum
  simp only [minimumMessageSize, Option.bind_eq_bind, Option.bind_eq_some_iff] at hminimumSome
  obtain ⟨headers, -, hadd⟩ := hminimumSome
  have hminimum := of_decide_eq_true hminimum
  have hadd := checkedAdd_eq_some hadd
  exact {
    clients_pos := by omega
    message_aligned := hmessage
    message_ge := by omega
    batch_le := by omega
    reply_le := by omega
    block_pos := by omega
    block_aligned := hblock.2.1
    block_le := by omega
    history_le := by omega }

theorem batch_pos_of_validate (h : cfg.validate activeCount standbyCount = .ok ()) :
    0 < cfg.applicationBatchSizeMax := by
  simp only [validate, bind_eq_ok, refuseIf_eq_ok, exists_and_left, exists_const, not_or, not_not] at h
  obtain ⟨-, -, -, -, -, -, -, -, -, -, -, hbatch, -⟩ := h
  omega

/-- A product with a smaller factor does not overflow either. -/
theorem checkedMul_isSome_of_le {left right smaller n : Nat} (h : checkedMul left right = some n)
    (le : smaller ≤ right) : (checkedMul left smaller).isSome := by
  unfold checkedMul at h ⊢
  split at h
  · cases h
  · rw [if_neg (by omega)]
    rfl

/-- What checkpoints are checked against: blocks have a size, and the sessions of all clients one too. -/
theorem sessions_of_validate (h : cfg.validate activeCount standbyCount = .ok ()) :
    cfg.blockSize ≠ 0 ∧ (checkedMul cfg.clientsMax (headerBytes + 8)).isSome := by
  have hsized := sized_of_validate h
  obtain ⟨base, hbase⟩ := Option.isSome_iff_exists.mp (validated_of_validate h).blockBase
  refine ⟨Nat.ne_of_gt hsized.block_pos, ?_⟩
  simp only [blockBase, Option.bind_eq_bind, Option.bind_eq_some_iff] at hbase
  obtain ⟨-, -, -, -, -, -, -, -, stride, hstride, -, -, -, -, replySize, hreplies, -⟩ := hbase
  -- a reply slot holds a whole message, and a message more than a header
  have hstride := checkedAlignUp_le hstride
  have hmessage := hsized.message_ge
  exact checkedMul_isSome_of_le hreplies (by simp only [headerBytes] at hmessage ⊢; omega)

/-- The block area starts behind the superblock copies. -/
theorem superblocks_le_blockBase {base : Nat} (h : cfg.blockBase = some base) :
    cfg.superblockCopies * superblockBytes ≤ base := by
  simp only [blockBase, Option.bind_eq_bind, Option.bind_eq_some_iff] at h
  obtain ⟨superblockSize, hsuperblock, headers, -, headerSize, -, prepareBase, hprepare, stride, -,
    prepareSize, -, replyBase, hreply, replySize, -, last, hlast, hbase⟩ := h
  have hsuperblock := checkedMul_eq_some hsuperblock
  have hprepare := checkedAdd_eq_some hprepare
  have hreply := checkedAdd_eq_some hreply
  have hlast := checkedAdd_eq_some hlast
  have hbase := checkedAlignUp_le hbase
  omega

end ClusterConfig

end Supervsr
