import Supervsr.ReplicaNormal
import Supervsr.SmallCluster

/-
# Supervsr.RecoveryBounds — what a replica may acknowledge and what recovery keeps

`canAcknowledge` bounds acknowledgements by the trigger of a checkpoint, `prepareMaximum` bounds what
recovery takes for a prepare of the current ring.  Both bounds are derived from the checkpoint interval,
each by its own chain of checked additions.  The second lies a pipeline further on and grows with the
checkpoint, so an acknowledged prepare is never taken for one from the future, as long as the second bound
fits a word at all.
-/

namespace Supervsr

section Bounds

variable {χ : Type} [DecidableEq χ] [Checksums χ] {cfg : Config} {cluster : ClusterConfig}

variable {op prepareMax : Nat} {replica : Replica χ} {header : Header χ} {durable : Bool}

/-- The checkpoints a configuration produces, from the root onwards. -/
inductive CheckpointSequence (cluster : ClusterConfig) : Nat → Prop where
  | root : CheckpointSequence cluster 0
  | after {op next : Nat} (produced : CheckpointSequence cluster op)
      (follows : checkpointAfter cluster op = some next) : CheckpointSequence cluster next

/-- The checkpoints behind the root are the multiples of the interval, less one. -/
theorem CheckpointSequence.of_interval {interval rounds : Nat}
    (spaced : cluster.checkpointInterval = some interval) (pos : 1 < interval)
    (fits : interval * (rounds + 1) ≤ maxUint64) : CheckpointSequence cluster (interval * (rounds + 1) - 1) := by
  induction rounds with
  | zero =>
    refine .after .root ?_
    rw [checkpointAfter, spaced]
    simp only
    rw [if_neg (by omega), if_pos trivial, Nat.zero_add, Nat.mul_one]
  | succ rounds ih =>
    have hstep : interval * (rounds + 1 + 1) = interval * (rounds + 1) + interval := Nat.mul_succ _ _
    have hlow : interval ≤ interval * (rounds + 1) := Nat.le_mul_of_pos_right _ (Nat.succ_pos _)
    refine .after (ih (by omega)) ?_
    rw [checkpointAfter, spaced]
    simp only
    rw [if_neg (by omega), if_neg (by omega), checkedAdd, if_neg (by omega)]
    congr 1
    omega

/-- The next checkpoint, where there is one, lies an interval ahead; the first is a step closer. -/
theorem checkpointAfter_eq_some {next : Nat} (follows : checkpointAfter cluster op = some next) :
    ∃ interval, cluster.checkpointInterval = some interval ∧ 0 < interval ∧
      next = if op = 0 then interval - 1 else op + interval := by
  unfold checkpointAfter at follows
  split at follows
  · cases follows
  rename_i interval hinterval
  split_ifs at follows with hzero hroot
  · cases follows
    exact ⟨interval, hinterval, Nat.pos_of_ne_zero hzero, (if_pos hroot).symm⟩
  · refine ⟨interval, hinterval, Nat.pos_of_ne_zero hzero, ?_⟩
    rw [if_neg hroot]
    exact checkedAdd_eq_some follows

/-- `prepareMaximum` is the trigger of the next checkpoint and two pipelines. -/
theorem prepareMaximum_eq_some (bounded : prepareMaximum cluster op = some prepareMax) :
    ∃ interval, cluster.checkpointInterval = some interval ∧
      prepareMax = (if op = 0 then interval - 1 else op + interval) + cluster.compactionOps +
        2 * cluster.pipelineMax := by
  simp only [prepareMaximum, Option.bind_eq_bind, Option.bind_eq_some_iff] at bounded
  obtain ⟨interval, hinterval, first, hfirst, trigger, htrigger, hmax⟩ := bounded
  have hfirst := checkedAdd_eq_some hfirst
  have htrigger := checkedAdd_eq_some htrigger
  have hmax := checkedAdd_eq_some hmax
  refine ⟨interval, hinterval, ?_⟩
  split_ifs at htrigger ⊢ <;> omega

section

omit [DecidableEq χ] [Checksums χ]

/-- The checkpoint whose trigger bounds acknowledgements is the next one or the current one. -/
theorem Replica.acknowledgeCheckpoint_eq_some {checkpoint : Nat}
    (chosen : replica.acknowledgeCheckpoint cfg = some checkpoint) :
    ∃ next, checkpointAfter cfg.cluster replica.checkpointOp = some next ∧
      (checkpoint = next ∨ (checkpoint = replica.checkpointOp ∧ replica.checkpointOp ≠ 0)) := by
  simp only [acknowledgeCheckpoint, Option.bind_eq_bind, Option.bind_eq_some_iff] at chosen
  obtain ⟨next, hnext, hchosen⟩ := chosen
  refine ⟨next, hnext, ?_⟩
  split_ifs at hchosen with hsyncing
  · simp only [Option.bind_eq_some_iff] at hchosen
    obtain ⟨trigger, -, bound, -, hchosen⟩ := hchosen
    split_ifs at hchosen with hbehind
    · cases hchosen
      exact .inr ⟨rfl, hbehind.1⟩
    · cases hchosen
      exact .inl rfl
  · cases hchosen
    exact .inl rfl

variable (acknowledges : replica.canAcknowledge cfg header durable = true)

include acknowledges

/-- What can be acknowledged lies at most a pipeline behind the trigger of the next checkpoint. -/
theorem Replica.op_le_of_canAcknowledge :
    ∃ next, checkpointAfter cfg.cluster replica.checkpointOp = some next ∧
      header.op ≤ next + cfg.cluster.compactionOps + cfg.cluster.pipelineMax := by
  simp only [canAcknowledge, Bool.decide_and, Bool.and_eq_true, decide_eq_true_eq] at acknowledges
  obtain ⟨-, -, -, -, -, -, hbound⟩ := acknowledges
  obtain ⟨bound, hbound, hop⟩ := (Option.any_eq_true _ _).mp hbound
  have hop := of_decide_eq_true hop
  simp only [acknowledgeBound, Option.bind_eq_bind, Option.bind_eq_some_iff] at hbound
  obtain ⟨checkpoint, hchosen, trigger, htrigger, hbound⟩ := hbound
  have htrigger := checkedAdd_eq_some htrigger
  have hbound := checkedAdd_eq_some hbound
  obtain ⟨next, hnext, hcheckpoint⟩ := acknowledgeCheckpoint_eq_some hchosen
  refine ⟨next, hnext, ?_⟩
  obtain ⟨interval, -, -, hnext⟩ := checkpointAfter_eq_some hnext
  have hle : checkpoint ≤ next := by
    obtain rfl | ⟨rfl, hpos⟩ := hcheckpoint
    · exact Nat.le_refl _
    · rw [if_neg hpos] at hnext
      omega
  simp only [Config.pipelineMax] at hbound
  omega

/-- The bound of recovery lies ahead of that of acknowledgements, and stays there. -/
theorem Replica.op_le_prepareMaximum {later : Nat}
    (ahead : replica.checkpointOp ≤ later) (bounded : prepareMaximum cfg.cluster later = some prepareMax) :
    header.op ≤ prepareMax := by
  obtain ⟨next, hnext, hop⟩ := op_le_of_canAcknowledge acknowledges
  obtain ⟨interval, hinterval, hpos, hnext⟩ := checkpointAfter_eq_some hnext
  obtain ⟨interval', hinterval', hmax⟩ := prepareMaximum_eq_some bounded
  obtain rfl : interval = interval' := Option.some.inj (hinterval.symm.trans hinterval')
  split_ifs at hnext hmax <;> omega

end

/-- A slot of which both cells hold a prepare of one op that recovery can keep is emptied only where both
prepares are behind the installed view. -/
theorem classifyWALSlot_keeps_op {written prepared : Header χ} {context : WALRecoveryContext}
    (slots : context.journalSlots ≠ 0) (place : context.physicalSlot = op % context.journalSlots)
    (bounded : op ≤ context.prepareMax) (hwritten : written.op = op) (hprepared : prepared.op = op)
    (emptied : classifyWALSlot (.ordinary written) (.ordinary prepared) context ∈ [WALRecoveryDecision.truncate,
      .cleanEmpty, .fail]) :
    context.installed.headOp < op ∧ written.view < context.installed.logView ∧
      prepared.view < context.installed.logView := by
  have hpossible : ∀ header : Header χ, header.op = op →
      impossibleWALCandidate (.ordinary header) context = false := by
    rintro header rfl
    simp [impossibleWALCandidate, slots, place]
  have hpast : ∀ header : Header χ, header.op = op →
      futureWALCandidate (.ordinary header) context = false := by
    rintro header rfl
    simpa [futureWALCandidate] using bounded
  rw [classifyWALSlot, if_neg (by simp [hpossible, hwritten, hprepared]),
    if_neg (by simp [hpast, hwritten, hprepared])] at emptied
  split_ifs at emptied with hobsolete
  · rw [classifyObsolete, if_neg (by simp [WALCandidate.isInvalid])] at emptied
    dsimp only at emptied
    split_ifs at emptied with hdropped hrepaired
    · -- nothing is retained: both candidates are obsolete
      simp [WALCandidate.isOrdinary, obsoleteWALCandidate, hwritten, hprepared] at hdropped
      exact ⟨hdropped.1.1, hdropped.1.2, hdropped.2.2⟩
    · simp at emptied
    · simp at emptied
  · unfold classifyCurrent at emptied
    simp only at emptied
    split_ifs at emptied <;> simp at emptied

/-- A prepare acknowledged at one checkpoint is within the bound of recovery at this and every later one,
and a slot that holds it twice is not emptied unless the installed view excludes it.  Where the bound does
not fit a word, recovery refuses to start. -/
theorem Replica.acknowledged_recoverable {replica : Replica χ} {header : Header χ} {durable : Bool}
    {later : Nat} (valid : cfg.cluster.validate cfg.activeCount cfg.membership.standbyCount = .ok ())
    (ahead : replica.checkpointOp ≤ later)
    (acknowledges : replica.canAcknowledge cfg header durable = true) :
    match prepareMaximum cfg.cluster later with
    | some prepareMax => header.op ≤ prepareMax ∧
        (later < header.op → ∀ (written prepared : Header χ) (retainedMin untrustedMax : Nat)
            (installed : WALRecoveryView), written.op = header.op → prepared.op = header.op →
          classifyWALSlot (.ordinary written) (.ordinary prepared)
              { physicalSlot := header.op % cfg.cluster.journalSlots
                journalSlots := cfg.cluster.journalSlots
                retainedMin := retainedMin
                prepareMax := prepareMax
                untrustedMax := untrustedMax
                installed := installed } ∈ [WALRecoveryDecision.truncate, .cleanEmpty, .fail] →
            installed.headOp < header.op ∧ written.view < installed.logView ∧
              prepared.view < installed.logView)
    | none => ∀ (zones : WALZones χ) (memberCount commitMax : Nat) (checkpoint : CheckpointState χ)
        (installed : WALRecoveryView), checkpoint.prepareOp = later →
        zones.recover cfg.cluster memberCount checkpoint commitMax installed = .error .recovery := by
  have hslots : cfg.cluster.journalSlots ≠ 0 := by
    have := (ClusterConfig.validated_of_validate valid).journal_ge
    omega
  split
  · rename_i prepareMax hbounded
    have hop := op_le_prepareMaximum acknowledges ahead hbounded
    refine ⟨hop, ?_⟩
    intro _ written prepared retainedMin untrustedMax installed hwritten hprepared hemptied
    exact classifyWALSlot_keeps_op hslots rfl hop hwritten hprepared hemptied
  · rename_i hunbounded
    rintro zones memberCount commitMax checkpoint installed rfl
    simp only [WALZones.recover, WALZones.recoverSlots, hunbounded]
    rfl

end Bounds

/-! ## The end of the word -/

/-- A cluster of three that takes a checkpoint at every second op. -/
def frequentCheckpoints : Config := .small 3 15 33

/-- A normal replica of that cluster that has got to the checkpoint at `op`. -/
def Replica.checkpointedAt (op : Nat) : Replica Digest :=
  { Replica.fresh frequentCheckpoints with
    status := .normal
    checkpoint := { (CheckpointState.formatted 1 0 : CheckpointState Digest) with
      header := .linkedTo Checksums.zero op 0 } }

theorem Replica.acknowledged_recoverable_first :
    (Replica.checkpointedAt 1).canAcknowledge frequentCheckpoints (.linkedTo Checksums.zero 19 0) true = true ∧
      ∃ prepareMax, prepareMaximum frequentCheckpoints.cluster 1 = some prepareMax ∧
        (Header.linkedTo Checksums.zero 19 0).op ≤ prepareMax := by
  have hacknowledges : (Replica.checkpointedAt 1).canAcknowledge frequentCheckpoints
      (.linkedTo Checksums.zero 19 0) true = true := by decide +kernel
  have hahead : (Replica.checkpointedAt 1).checkpointOp ≤ 1 := by decide +kernel
  have hkept := Replica.acknowledged_recoverable (by decide +kernel) hahead hacknowledges
  exact ⟨hacknowledges, _, rfl, hkept.1⟩

/-- At the end of the word a prepare is acknowledged that has no bound of recovery to lie within. -/
theorem Replica.acknowledged_unbounded :
    frequentCheckpoints.cluster.validate 3 0 = .ok () ∧
      CheckpointSequence frequentCheckpoints.cluster (2 ^ 64 - 19) ∧
      (Replica.checkpointedAt (2 ^ 64 - 19)).checkpointOp = 2 ^ 64 - 19 ∧
      (Replica.checkpointedAt (2 ^ 64 - 19)).canAcknowledge frequentCheckpoints
        (.linkedTo Checksums.zero (2 ^ 64 - 1) 0) true = true ∧
      prepareMaximum frequentCheckpoints.cluster (2 ^ 64 - 19) = none := by
  refine ⟨by decide +kernel, ?_, by decide +kernel, by decide +kernel, by decide +kernel⟩
  have hspaced : frequentCheckpoints.cluster.checkpointInterval = some 2 := by decide +kernel
  have hfits : 2 * (2 ^ 63 - 10 + 1) ≤ maxUint64 := by decide
  exact .of_interval hspaced (by decide) hfits

end Supervsr
