import Supervsr.RecoveredJournal
import Supervsr.ReplicaOwnership

/-
# Supervsr.ReplicaPhase — how a state sync and the installation of a view exclude each other

A state sync empties the pipeline, waits for its checkpoint to be opened and only then decides how the
replica goes on; a view is installed by a replica in recovering-head status.  Nothing in the source says
which of the flags and stages can be set together.  `Phase` does, and every move keeps it, in whatever
order events come and whatever else is pending.
-/

namespace Supervsr

variable {χ : Type} {cfg : Config}

variable {replica next : Replica χ}

/-- With more than one voter, a view change takes the join records of at least two. -/
theorem Config.two_le_viewChange (valid : cfg.cluster.Validated cfg.activeCount) (voters : 1 < cfg.activeCount) :
    2 ≤ cfg.quorums.viewChange := by
  obtain ⟨quorums, hquorums, -⟩ := valid.quorums
  rw [Config.quorums, hquorums]
  unfold quorumsFor at hquorums
  split at hquorums
  · cases hquorums
  · cases hquorums
    simp only [Option.getD_some]
    split_ifs <;> omega

/-- The only voter is the primary of every view. -/
theorem Config.primary_of_solo (solo : cfg.activeCount = 1) (view : Nat) : cfg.primary view = 0 := by
  show view % cfg.activeCount = 0
  rw [solo, Nat.mod_one]

/-- A list that is blank outside one place holds at most one value. -/
theorem countP_isSome_le_one {α : Type} {list : List (Option α)} {place : Nat}
    (blank : ∀ index, index ≠ place → list.getD index none = none) : list.countP Option.isSome ≤ 1 := by
  induction list generalizing place with
  | nil => exact Nat.zero_le 1
  | cons first rest ih =>
    cases place with
    | zero =>
      -- everything behind the first place is blank
      have hrest : rest.countP Option.isSome = 0 := by
        rw [List.countP_eq_zero]
        intro value hvalue
        obtain ⟨index, hindex, rfl⟩ := List.getElem_of_mem hvalue
        have hblank := blank (index + 1) (Nat.succ_ne_zero index)
        rw [List.getD_cons_succ, List.getD_eq_getElem?_getD, List.getElem?_eq_getElem hindex,
          Option.getD_some] at hblank
        rw [hblank]
        exact Bool.false_ne_true
      rw [List.countP_cons, hrest]
      split_ifs <;> decide
    | succ place =>
      have hfirst : first = none := blank 0 (Nat.succ_ne_zero place).symm
      rw [List.countP_cons, hfirst]
      apply ih
      intro index hindex
      exact blank (index + 1) fun h => hindex (Nat.succ.inj h)

namespace Replica

variable [DecidableEq χ] [Checksums χ] {given : Surroundings χ}

/-- The checkpoint of a state sync is in place and nothing has been done with it yet. -/
def synced (replica : Replica χ) : Bool :=
  (replica.stateSyncAwaitingOpen ∧ replica.stateSync.stage = .idle) ∨
    replica.stateSync.stage = .resizingStorage ∨ replica.stateSync.replayRunning

/-- The stages of a state sync in which the pipeline is empty. -/
def vacant (replica : Replica χ) : Bool :=
  replica.synced ∨ (replica.stateSync.stage = .updatingCheckpoint ∧ replica.stateSync.persistPhase = 2)

/-- An operation that, if it is an append, gives up no slot above the checkpoint. -/
def Spares (checkpointOp : Nat) (operation : IOOperation χ) : Prop :=
  ∀ header reusableThrough, operation = .walAppend header reusableThrough → reusableThrough = checkpointOp

/-- A superblock from which a restart can go on with its journal, up to a head. -/
structure Recoverable (cluster : ClusterConfig) (durable : Superblock χ) (head : Nat) (wal : WAL χ)
    (zones : WALZones χ) : Prop where
  bounded : ∃ prepareMax, prepareMaximum cluster durable.state.checkpoint.prepareOp = some prepareMax
  above : durable.state.checkpoint.prepareOp ≤ durable.state.commitMax
  kept : ∀ op, durable.state.checkpoint.prepareOp < op → op ≤ head → wal.Keeps zones cluster op

/-- What a restart has recovered is still there. -/
def Resumes (cfg : Config) (replica : Replica χ) : Prop :=
  ∃ durable ∈ replica.stateSync.recoveryState, ∃ recovery ∈ replica.stateSync.recovery,
    replica.checkpointOp = durable.state.checkpoint.prepareOp ∧
      replica.stateSync.commit = durable.state.commitMax ∧
      Recoverable cfg.cluster durable recovery.headOp replica.wal replica.durable.zones ∧
      ∀ pending ∈ replica.io, Spares replica.checkpointOp pending.operation

/-- What a state sync keeps a replica from.  A view change that crosses it hears of no other member, and
the only voter has nobody to sync from. -/
def Asleep (cfg : Config) (replica : Replica χ) : Prop :=
  replica.status ≠ .normal ∧ (replica.viewIo ≠ none → replica.viewInstall = false) ∧
  (replica.status = .viewChange → ∀ index, index ≠ cfg.localIndex → replica.joins.getD index none = none) ∧
  replica.repairViewValid = false ∧ (cfg.activeCount = 1 → cfg.localIndex ≠ 0)

/-- What the flags and stages of a replica have to do with each other. -/
structure Phase (cfg : Config) (replica : Replica χ) : Prop where
  asleep : replica.syncing = true → replica.Asleep cfg
  answered : replica.stateSync.completion = some .openState →
    replica.stateSyncAwaitingOpen = true ∧ replica.stateSync.stage = .idle ∧ replica.stateSync.opening = true
  replaying : replica.stateSync.replayRunning = true →
    (replica.stateSync.stage = .idle ∧ replica.stateSyncAwaitingOpen = false) ∧
    replica.stateSync.resumeRecovery = true ∧ ∀ recovery ∈ replica.stateSync.recovery,
      recovery.faultySlots = 0 ∧ replica.stateSync.commit ≤ recovery.headOp
  resizing : replica.stateSync.stage = .resizingStorage → replica.stateSyncAwaitingOpen = true
  canceling : replica.stateSync.stage = .cancelingGrid → replica.stateSync.persistPhase = 0
  vacated : replica.vacant = true → replica.pipeline = []
  level : replica.synced = true → replica.commitMin = replica.checkpointOp
  solo : cfg.activeCount = 1 → cfg.localIndex = 0 → replica.durable.superblock.state.syncMin = 0 ∧
    ∀ pending ∈ replica.io, ∀ next, pending.operation = .superblockPersist next → next.state.syncMin = 0
  installing : replica.repairViewValid = true →
    replica.status = .recoveringHead ∨ replica.status = .viewChange
  persisting : replica.viewIo ≠ none → replica.viewInstall = true →
    replica.status ≠ .normal ∧ replica.repairViewValid = false
  settled : replica.stateSync.resumeRecovery = true →
    replica.stateSync.stage = .idle ∨ replica.stateSync.stage = .resizingStorage
  /-- a restart that waits for its checkpoint keeps its journal -/
  resuming : replica.stateSync.resumeRecovery = true → replica.synced = true → replica.Resumes cfg

/-! ## Ways to keep it -/

section

omit [DecidableEq χ] [Checksums χ]

theorem syncing_of_vacant (vacant : replica.vacant = true) : replica.syncing = true := by
  simp only [Replica.vacant, synced, decide_eq_true_eq] at vacant
  simp only [syncing, decide_eq_true_eq]
  obtain (⟨hwaits, -⟩ | hstage | hreplay) | ⟨hstage, -⟩ := vacant
  · exact .inr (.inl hwaits)
  · exact .inl (by rw [hstage]; decide)
  · exact .inr (.inr hreplay)
  · exact .inl (by rw [hstage]; decide)

theorem vacant_of_synced (synced : replica.synced = true) : replica.vacant = true := by
  rw [Replica.vacant, decide_eq_true_eq]
  exact .inl synced

theorem syncing_of_synced (synced : replica.synced = true) : replica.syncing = true :=
  syncing_of_vacant (vacant_of_synced synced)

theorem Phase.uninstalled (phase : Phase cfg replica) (syncing : replica.syncing = true) :
    replica.repairViewValid = false := (phase.asleep syncing).2.2.2.1

/-- An answer about the checkpoint is taken while it waits to be opened. -/
theorem Phase.opens (phase : Phase cfg replica) (answered : replica.stateSync.completion = some .openState) :
    replica.synced = true ∧ replica.stateSync.stage = .idle ∧ replica.stateSync.replayRunning = false := by
  obtain ⟨hwaits, hidle, -⟩ := phase.answered answered
  refine ⟨?_, hidle, ?_⟩
  · rw [Replica.synced, decide_eq_true_eq]
    exact .inl ⟨hwaits, hidle⟩
  rw [← Bool.not_eq_true]
  intro hreplay
  rw [(phase.replaying hreplay).1.2] at hwaits
  cases hwaits

theorem Phase.unresumed (phase : Phase cfg replica)
    (busy : ¬ (replica.stateSync.stage = .idle ∨ replica.stateSync.stage = .resizingStorage)) :
    replica.stateSync.resumeRecovery = false := Bool.eq_false_iff.mpr fun h => busy (phase.settled h)

end

/-- A request that was there before, or one that gives up no slot and writes no new range to sync. -/
def Requested (replica : Replica χ) (pending : PendingIo χ) : Prop :=
  (∃ old ∈ replica.io, old.operation = pending.operation) ∨
    (Spares replica.checkpointOp pending.operation ∧ ∀ next, pending.operation = .superblockPersist next →
      next.state.syncMin = 0 ∨ next.state.syncMin = replica.durable.superblock.state.syncMin)

section

omit [DecidableEq χ] [Checksums χ]

theorem Requested.of_mem {pending : PendingIo χ} (mem : pending ∈ replica.io) : replica.Requested pending := .inl ⟨pending, mem, rfl⟩

theorem requested_append {operation : IOOperation χ} {handle : Nat} (spares : Spares replica.checkpointOp operation)
    (range : ∀ next, operation = .superblockPersist next →
      next.state.syncMin = 0 ∨ next.state.syncMin = replica.durable.superblock.state.syncMin) :
    ∀ pending ∈ replica.io ++ [⟨handle, operation, none⟩], replica.Requested pending := by
  intro pending hmem
  obtain hmem | hmem := List.mem_append.mp hmem
  · exact .of_mem hmem
  · rw [List.mem_singleton.mp hmem]
    exact .inr ⟨spares, range⟩

theorem Phase.requests (phase : Phase cfg replica) (voter : cfg.activeCount = 1) (first : cfg.localIndex = 0)
    {io : List (PendingIo χ)} (requested : ∀ pending ∈ io, replica.Requested pending) :
    ∀ pending ∈ io, ∀ next, pending.operation = .superblockPersist next → next.state.syncMin = 0 := by
  obtain ⟨hdisk, hio⟩ := phase.solo voter first
  intro pending hmem next hoperation
  obtain ⟨old, hold, hsame⟩ | hrange := requested pending hmem
  · exact hio old hold next (hsame.trans hoperation)
  · obtain h | h := hrange.2 next hoperation
    · exact h
    · rw [h, hdisk]

/-- The journal, and what of storage a restart reads. -/
def disk (replica : Replica χ) : WAL χ × WALZones χ × Superblock χ :=
  (replica.wal, replica.durable.zones, replica.durable.superblock)

theorem Resumes.keep (resumes : replica.Resumes cfg) (sync : next.stateSync = replica.stateSync)
    (checkpoint : next.checkpointOp = replica.checkpointOp) (disk : next.disk = replica.disk)
    (requested : ∀ pending ∈ next.io, replica.Requested pending) : next.Resumes cfg := by
  obtain ⟨durable, hdurable, recovery, hrecovery, hcheckpoint, hcommit, hrecoverable, hspares⟩ := resumes
  obtain ⟨hwal, hrest⟩ := Prod.mk.inj disk
  unfold Resumes
  rw [sync, checkpoint, hwal, (Prod.mk.inj hrest).1]
  refine ⟨durable, hdurable, recovery, hrecovery, hcheckpoint, hcommit, hrecoverable, fun pending hmem => ?_⟩
  obtain ⟨old, hold, hsame⟩ | hnew := requested pending hmem
  · exact hsame ▸ hspares old hold
  · exact hnew.1

section

variable (phase : Phase cfg replica) (sync : next.stateSync = replica.stateSync)
  (status : next.status = replica.status) (valid : next.repairViewValid = replica.repairViewValid)
  (viewIo : next.viewIo = replica.viewIo) (viewInstall : next.viewInstall = replica.viewInstall)
  (joins : next.joins = replica.joins)

include phase sync status valid viewIo viewInstall joins

/-- Steps that leave the state sync, the status and the view under installation alone. -/
theorem Phase.same
    (kept : replica.vacant = true → replica.pipeline = [] →
      next.pipeline = [] ∧ next.commitMin = replica.commitMin ∧ next.checkpointOp = replica.checkpointOp)
    (disk : next.disk = replica.disk)
    (requested : ∀ pending ∈ next.io, replica.Requested pending) : Phase cfg next := by
  have hsuperblock : next.durable.superblock = replica.durable.superblock :=
    (Prod.mk.inj (Prod.mk.inj disk).2).2
  have hwaits : next.stateSyncAwaitingOpen = replica.stateSyncAwaitingOpen := by
    rw [stateSyncAwaitingOpen, sync]
    rfl
  have hsyncing : next.syncing = replica.syncing := by rw [syncing, syncing, hwaits, sync]
  have hsynced : next.synced = replica.synced := by rw [synced, synced, hwaits, sync]
  have hvacant : next.vacant = replica.vacant := by rw [vacant, vacant, hsynced, sync]
  constructor
  · rw [hsyncing]
    unfold Asleep
    rw [status, viewIo, viewInstall, joins, valid]
    exact phase.asleep
  · rw [sync, hwaits]
    exact phase.answered
  · rw [sync, hwaits]
    exact phase.replaying
  · rw [sync, hwaits]
    exact phase.resizing
  · rw [sync]
    exact phase.canceling
  · rw [hvacant]
    exact fun h => (kept h (phase.vacated h)).1
  · rw [hsynced]
    intro h
    have hkept := kept (vacant_of_synced h) (phase.vacated (vacant_of_synced h))
    rw [hkept.2.1, hkept.2.2]
    exact phase.level h
  · intro hvoter hfirst
    rw [hsuperblock]
    exact ⟨(phase.solo hvoter hfirst).1, phase.requests hvoter hfirst requested⟩
  · rw [valid, status]
    exact phase.installing
  · rw [viewIo, viewInstall, status, valid]
    exact phase.persisting
  · rw [sync]
    exact phase.settled
  · rw [sync, hsynced]
    intro hresumes h
    exact (phase.resuming hresumes h).keep sync
      (kept (vacant_of_synced h) (phase.vacated (vacant_of_synced h))).2.2 disk requested

/-- Steps that touch nothing `Phase` speaks of but the entries of the pipeline. -/
theorem Phase.entries (empty : replica.pipeline = [] → next.pipeline = [])
    (commitMin : next.commitMin = replica.commitMin) (checkpoint : next.checkpoint = replica.checkpoint)
    (disk : next.disk = replica.disk) (io : next.io = replica.io) : Phase cfg next :=
  phase.same sync status valid viewIo viewInstall joins
    (fun _ h => ⟨empty h, commitMin, by rw [checkpointOp, checkpoint]; rfl⟩) disk
    (fun pending hmem => .of_mem (io ▸ hmem))

/-- Steps that leave everything `Phase` speaks of alone. -/
theorem Phase.frame (pipeline : next.pipeline = replica.pipeline) (commitMin : next.commitMin = replica.commitMin)
    (checkpoint : next.checkpoint = replica.checkpoint) (disk : next.disk = replica.disk)
    (io : next.io = replica.io) : Phase cfg next :=
  phase.entries sync status valid viewIo viewInstall joins (fun h => pipeline.trans h) commitMin checkpoint
    disk io

end

/-- A first entry shows that the pipeline need not be empty. -/
theorem kept_of_first {entry : PipelineEntry χ} {rest : List (PipelineEntry χ)}
    (first : replica.pipeline = entry :: rest) :
    replica.vacant = true → replica.pipeline = [] → next.pipeline = [] ∧ next.commitMin = replica.commitMin ∧
      next.checkpointOp = replica.checkpointOp := by
  intro _ hempty
  rw [first] at hempty
  cases hempty

end

omit [DecidableEq χ] in
/-- A view change may begin at any time. -/
theorem Phase.beginViewChangeNow (phase : Phase cfg replica) (inputs : Inputs χ) (target : Nat) :
    Phase cfg (replica.beginViewChangeNow cfg inputs target) := by
  have hchanging : Status.viewChange ≠ Status.normal := by decide
  have hblank : ∀ index, (replica.joins.map fun _ => (none : Option (JoinRecord χ))).getD index none = none := by
    intro index
    rw [List.getD_eq_getElem?_getD, List.getElem?_map]
    cases replica.joins[index]? <;> rfl
  have hempty : replica.pipeline = [] →
      replica.pipeline.map (fun entry => { entry with acks := [], quorum := false }) = [] := by
    intro h
    rw [h]
    rfl
  obtain ⟨err, h⟩ | ⟨hfree, h⟩ := replica.beginViewChangeNow_cases cfg inputs target
  · rw [h]
    exact { phase with
      asleep := fun h => ⟨hchanging, (phase.asleep h).2.1, fun _ index _ => hblank index, (phase.asleep h).2.2.2⟩
      vacated := fun hvacant => hempty (phase.vacated hvacant)
      installing := fun _ => .inr rfl
      persisting := fun hview hinstall => ⟨hchanging, (phase.persisting hview hinstall).2⟩ }
  · rw [h]
    exact { phase with
      asleep := fun h => ⟨hchanging, fun _ => rfl, fun _ index _ => hblank index, (phase.asleep h).2.2.2⟩
      vacated := fun hvacant => hempty (phase.vacated hvacant)
      solo := fun hvoter hfirst => ⟨(phase.solo hvoter hfirst).1,
        phase.requests hvoter hfirst (requested_append (by rintro _ _ ⟨⟩) (by rintro _ ⟨⟩; exact .inr rfl))⟩
      installing := fun _ => .inr rfl
      persisting := fun _ hinstall => by cases hinstall
      resuming := fun hresumes hsynced => (phase.resuming hresumes hsynced).keep rfl rfl rfl
        (requested_append (by rintro _ _ ⟨⟩) (by rintro _ ⟨⟩; exact .inr rfl)) }

section

omit [DecidableEq χ] [Checksums χ]

theorem Phase.unanswered (phase : Phase cfg replica) (idle : replica.syncing = false) :
    replica.stateSync.completion ≠ some .openState := by
  intro hanswered
  rw [syncing_of_synced ((phase.opens hanswered).1)] at idle
  cases idle

theorem Phase.idle_of_normal (phase : Phase cfg replica) (normal : replica.status = .normal) :
    replica.syncing = false := by
  rw [← Bool.not_eq_true]
  exact fun h => (phase.asleep h).1 normal

theorem Phase.idle_of_installing (phase : Phase cfg replica) (installing : replica.repairViewValid = true) :
    replica.syncing = false := by
  rw [← Bool.not_eq_true]
  intro h
  rw [phase.uninstalled h] at installing
  cases installing

/-- Without a state sync there is little to say. -/
theorem Phase.of_idle (idle : replica.syncing = false) (unanswered : replica.stateSync.completion ≠ some .openState)
    (solo : cfg.activeCount = 1 → cfg.localIndex = 0 → replica.durable.superblock.state.syncMin = 0 ∧
      ∀ pending ∈ replica.io, ∀ next, pending.operation = .superblockPersist next → next.state.syncMin = 0)
    (installing : replica.repairViewValid = true →
      replica.status = .recoveringHead ∨ replica.status = .viewChange)
    (persisting : replica.viewIo ≠ none → replica.viewInstall = true →
      replica.status ≠ .normal ∧ replica.repairViewValid = false) : Phase cfg replica := by
  have hidle := syncing_eq_false.mp idle
  have hvacant : replica.vacant ≠ true := fun h => by
    rw [syncing_of_vacant h] at idle
    cases idle
  have hstage : ∀ {stage : SyncStage}, stage ≠ .idle → replica.stateSync.stage ≠ stage := by
    intro stage hstage h
    exact hstage (h.symm.trans hidle.1)
  exact {
    asleep := fun h => absurd (h.symm.trans idle) (by decide)
    answered := fun h => absurd h unanswered
    replaying := fun h => absurd (h.symm.trans hidle.2.2) (by decide)
    resizing := fun h => absurd h (hstage (by decide))
    canceling := fun h => absurd h (hstage (by decide))
    vacated := fun h => absurd h hvacant
    level := fun h => absurd (vacant_of_synced h) hvacant
    solo := solo
    installing := installing
    persisting := persisting
    settled := fun _ => .inl hidle.1
    resuming := fun _ h => absurd (vacant_of_synced h) hvacant }

/-- Steps after which no state sync is under way. -/
theorem Phase.awake (phase : Phase cfg replica) (idle : next.syncing = false)
    (unanswered : next.stateSync.completion ≠ some .openState)
    (superblock : next.durable.superblock.state.syncMin = replica.durable.superblock.state.syncMin)
    (requested : ∀ pending ∈ next.io, replica.Requested pending)
    (installing : next.repairViewValid = true → next.status = .recoveringHead ∨ next.status = .viewChange)
    (persisting : next.viewIo ≠ none → next.viewInstall = true →
      next.status ≠ .normal ∧ next.repairViewValid = false) : Phase cfg next :=
  .of_idle idle unanswered (fun hvoter hfirst => ⟨superblock.trans (phase.solo hvoter hfirst).1,
    phase.requests hvoter hfirst requested⟩) installing persisting

theorem requested_releaseIo (replica : Replica χ) (handle : Nat) :
    ∀ pending ∈ (replica.releaseIo handle).io, replica.Requested pending :=
  fun _ hmem => .of_mem (List.mem_of_mem_filter hmem)

theorem Phase.solo_releaseIo (phase : Phase cfg replica) (handle : Nat) :
    cfg.activeCount = 1 → cfg.localIndex = 0 → replica.durable.superblock.state.syncMin = 0 ∧
      ∀ pending ∈ (replica.releaseIo handle).io, ∀ next, pending.operation = .superblockPersist next →
        next.state.syncMin = 0 :=
  fun hvoter hfirst => ⟨(phase.solo hvoter hfirst).1,
    phase.requests hvoter hfirst (requested_releaseIo replica handle)⟩

theorem Phase.resuming_releaseIo (phase : Phase cfg replica) (handle : Nat)
    (resumes : replica.stateSync.resumeRecovery = true) (synced : replica.synced = true) :
    (replica.releaseIo handle).Resumes cfg :=
  (phase.resuming resumes synced).keep rfl rfl rfl (requested_releaseIo replica handle)

theorem modify_eq_nil {pipeline : List (PipelineEntry χ)} {offset : Nat}
    {f : PipelineEntry χ → PipelineEntry χ} (empty : pipeline = []) : pipeline.modify offset f = [] := by
  rw [empty]
  exact List.modify_nil f offset

/-- The storage has its new size, and the checkpoint waits to be opened. -/
theorem Phase.leaveResizing (phase : Phase cfg replica) (stage : replica.stateSync.stage = .resizingStorage) :
    Phase cfg { replica with stateSync := { replica.stateSync with persistDone := false, stage := .idle } } := by
  have hsyncing : replica.syncing = true := by simp [syncing, stage]
  have hsynced : replica.synced = true := by simp [synced, stage]
  have hreplay : replica.stateSync.replayRunning ≠ true := fun h => by
    rw [(phase.replaying h).1.1] at stage
    cases stage
  exact { phase with
    asleep := fun _ => phase.asleep hsyncing
    answered := fun h => by
      rw [(phase.answered h).2.1] at stage
      cases stage
    replaying := fun h => absurd h hreplay
    resizing := fun h => by cases h
    canceling := fun h => by cases h
    vacated := fun _ => phase.vacated (vacant_of_synced hsynced)
    level := fun _ => phase.level hsynced
    settled := fun _ => .inl rfl
    resuming := fun h _ => phase.resuming h hsynced }

theorem openedSync_awaiting (replica : Replica χ) : replica.openedSync.stateSyncAwaitingOpen = false := by
  simp [openedSync, stateSyncAwaitingOpen]

theorem Phase.uninstalled_of_answered (phase : Phase cfg replica)
    (answered : replica.stateSync.completion = some .openState) : replica.repairViewValid = false :=
  phase.uninstalled (syncing_of_synced ((phase.opens answered).1))

/-- The checkpoint has been opened and the state sync is over. -/
theorem Phase.opened (phase : Phase cfg replica) (answered : replica.stateSync.completion = some .openState)
    (stage : next.stateSync.stage = replica.stateSync.stage) (waits : next.stateSync.repliesPending = true)
    (replay : next.stateSync.replayRunning = replica.stateSync.replayRunning)
    (completion : next.stateSync.completion = none)
    (superblock : next.durable.superblock = replica.durable.superblock) (io : next.io = replica.io)
    (viewIo : next.viewIo = replica.viewIo) (viewInstall : next.viewInstall = replica.viewInstall)
    (installing : next.repairViewValid = true → next.status = .recoveringHead ∨ next.status = .viewChange) :
    Phase cfg next := by
  obtain ⟨hsynced, hidle, hreplay⟩ := phase.opens answered
  have hundecided := (phase.asleep (syncing_of_synced hsynced)).2.1
  refine phase.awake ?_ ?_ (by rw [superblock]) (fun pending hmem => .of_mem (io ▸ hmem)) installing ?_
  · refine syncing_eq_false.mpr ⟨stage.trans hidle, ?_, replay.trans hreplay⟩
    simp [stateSyncAwaitingOpen, waits]
  · rw [completion]
    exact fun h => by cases h
  rw [viewIo, viewInstall]
  intro hview hinstall
  rw [hundecided hview] at hinstall
  cases hinstall

end

/-- A restart keeps the range that is still to be synced, and leaves a superblock that is accepted. -/
theorem RestartedSuperblock.keeps {wal : WAL χ} {current next : Superblock χ}
    (restarted : RestartedSuperblock cfg wal current next) :
    next.state.syncMin = current.state.syncMin ∧
      (current.validate cfg.validation = .ok () → next.validate cfg.validation = .ok ()) := by
  obtain rfl | ⟨head, view, logView, commitMax, hpersisted⟩ := restarted
  · exact ⟨rfl, id⟩
  unfold persistRecoveredView at hpersisted
  simp only at hpersisted
  split at hpersisted
  · cases hpersisted
  split at hpersisted
  · cases hpersisted
  rename_i written hwritten
  cases hpersisted
  obtain ⟨-, hvalid, rfl⟩ := persistSuperblock_eq_ok hwritten
  exact ⟨rfl, fun _ => hvalid⟩

/-- The replay of an interrupted state sync ends it. -/
theorem Phase.replay (phase : Phase cfg replica) : Phase cfg (replica.replayInterrupted cfg).1 := by
  obtain h | ⟨hreplay, resumes, recovery, recoveryState, hsync, -⟩ := replica.replayInterrupted_cases cfg
  · rw [h]
    exact phase
  obtain ⟨⟨hidle, hwaits⟩, -⟩ := phase.replaying hreplay
  have hsyncing : replica.syncing = true := by simp [syncing, hreplay]
  have hunanswered : replica.stateSync.completion ≠ some .openState := fun h => by
    rw [(phase.answered h).1] at hwaits
    cases hwaits
  obtain ⟨durable, status, _, _, _, _, _, _, _, _, _, _, _, _, stateSync, _, h, -, hsuperblock, -⟩ :=
    replica.replayInterrupted_frame cfg
  rw [h] at hsync ⊢
  have hsync : stateSync = _ := hsync
  subst hsync
  refine phase.awake ?_ hunanswered hsuperblock.keeps.1 (fun pending hmem => ?_) ?_ ?_
  · exact syncing_eq_false.mpr ⟨hidle, hwaits, rfl⟩
  · have hmem : pending ∈ replica.io := hmem
    exact .of_mem hmem
  · exact fun hvalid => absurd (hvalid.symm.trans (phase.uninstalled hsyncing)) (by decide)
  · exact fun hview hinstall => absurd (hinstall.symm.trans ((phase.asleep hsyncing).2.1 hview)) (by decide)

/-! ## Every move keeps it -/

/-- Every move keeps the phases apart, as long as no `View` of the replica itself comes back to it. -/
theorem Phase.move (phase : Phase cfg replica) (valid : cfg.cluster.Validated cfg.activeCount)
    (foreign : ∀ message, given.heard (.view message) → message.author ≠ cfg.localIndex)
    (move : Move cfg given replica next) : Phase cfg next := by
  cases move with
  | quiet | fail | send | learnCommit | pend | settle | session | drain | overwriteHeaders
  | wantHeader => exact phase.frame rfl rfl rfl rfl rfl rfl rfl rfl rfl rfl rfl
  | announce destination nonce =>
    obtain ⟨headers, h⟩ := replica.buildView_cases cfg nonce
    rw [h]
    exact phase.frame rfl rfl rfl rfl rfl rfl rfl rfl rfl rfl rfl
  | @acks pipeline same =>
    refine phase.entries rfl rfl rfl rfl rfl rfl (fun hempty => ?_) rfl rfl rfl rfl
    rw [hempty] at same
    exact List.map_eq_nil_iff.mp same
  | accept normal durable current source accepted =>
    obtain ⟨-, -, -, -, -, rfl⟩ := acceptPrepare_eq_some accepted
    refine phase.same rfl rfl rfl rfl rfl rfl (fun hvacant _ => ?_) rfl
      (requested_append (by rintro _ _ ⟨⟩; rfl) (by rintro _ ⟨⟩))
    exact absurd normal (phase.asleep (syncing_of_vacant hvacant)).1
  | distrustHead normal =>
    have hidle := phase.idle_of_normal normal
    refine phase.awake hidle (phase.unanswered hidle) rfl (fun _ => .of_mem) (fun _ => .inl rfl) ?_
    exact fun hview hinstall => absurd normal (phase.persisting hview hinstall).1
  | beginViewChange inputs => exact phase.beginViewChangeNow inputs _
  | resume inputs =>
    have hsettled : Phase cfg { replica with pendingView := 0 } :=
      phase.frame rfl rfl rfl rfl rfl rfl rfl rfl rfl rfl rfl
    exact hsettled.beginViewChangeNow inputs _
  | @join join recordable changing current primary durable source =>
    exact { phase with
      asleep := by
        intro hsyncing
        obtain ⟨hsilent, hundecided, halone, hrest⟩ := phase.asleep hsyncing
        refine ⟨hsilent, hundecided, fun hstatus index hindex => ?_, hrest⟩
        obtain ⟨-, hidle⟩ | rfl := source
        · exact absurd (hsyncing.symm.trans hidle) (by decide)
        show (replica.joins.set cfg.localIndex _).getD index none = none
        rw [List.getD_eq_getElem?_getD, List.getElem?_set_ne (Ne.symm hindex),
          ← List.getD_eq_getElem?_getD]
        exact halone hstatus index hindex }
  | progress first | commit first | checkpointData first | publish _ first | publishLast first | pop first =>
    exact phase.same rfl rfl rfl rfl rfl rfl (kept_of_first first) rfl
      fun pending (hmem : pending ∈ replica.io) => .of_mem hmem
  | submitReply first waits ready submitted =>
    obtain ⟨rfl, rfl⟩ := submit_eq_ok submitted
    exact phase.same rfl rfl rfl rfl rfl rfl (kept_of_first first) rfl
      (requested_append (by rintro _ _ ⟨⟩) (by rintro _ ⟨⟩))
  | submitCheckpoint first data built undrained submitted =>
    obtain ⟨rfl, rfl⟩ := submit_eq_ok submitted
    refine phase.same rfl rfl rfl rfl rfl rfl (kept_of_first first) rfl
      (requested_append (by rintro _ _ ⟨⟩) ?_)
    rintro next ⟨⟩
    show (if _ then 0 else _) = 0 ∨ (if _ then 0 else _) = _
    split_ifs
    · exact .inl rfl
    · exact .inr rfl
  | @yield inputs entry rest first =>
    have hyielded : Phase cfg ({ replica with
        pendingView := 0, checkpointTarget := 0, pendingCheckpoint := none }.setStage .idle) :=
      phase.same rfl rfl rfl rfl rfl rfl (kept_of_first first) rfl fun _ => .of_mem
    exact (hyielded.beginViewChangeNow inputs _).entries rfl rfl rfl rfl rfl rfl
      (fun h => by rw [popPipeline, h]; rfl) rfl rfl rfl rfl
  | yieldPublished inputs =>
    have hyielded : Phase cfg { replica with pendingView := 0 } :=
      phase.frame rfl rfl rfl rfl rfl rfl rfl rfl rfl rfl rfl
    exact (hyielded.beginViewChangeNow inputs _).entries rfl rfl rfl rfl rfl rfl
      (fun h => by rw [popPipeline, h]; rfl) rfl rfl rfl rfl
  | openWindow ahead bounded source =>
    have hidle : replica.syncing = false ∧ (replica.viewIo ≠ none → replica.viewInstall = false) := by
      obtain ⟨_, -, -, -, -, hview, -, -, -, hidle, -⟩ | ⟨normal, -⟩ := source
      · exact ⟨hidle, fun h => absurd hview h⟩
      · refine ⟨phase.idle_of_normal normal, fun hview => ?_⟩
        rw [← Bool.not_eq_true]
        exact fun hinstall => (phase.persisting hview hinstall).1 normal
    refine phase.awake hidle.1 (phase.unanswered hidle.1) rfl (fun _ => .of_mem) (fun _ => .inl rfl) ?_
    exact fun hview hinstall => absurd (hinstall.symm.trans (hidle.2 hview)) (by decide)
  | recordView requestQueue counted recorded free source =>
    have hview : replica.viewIo = none := by
      simp only [validRecoveringView, decide_eq_true_eq, Option.isNone_iff_eq_none] at recorded
      exact recorded.2.2.2.2.1
    have hidle : replica.syncing = false := by
      obtain ⟨_, -, -, -, -, -, -, hidle, -⟩ | ⟨primary, changing, -, -, quorum⟩ := source
      · exact hidle
      -- a view change that crosses a state sync never gets a quorum
      rw [← Bool.not_eq_true]
      intro hsyncing
      have hone := countP_isSome_le_one ((phase.asleep hsyncing).2.2.1 changing)
      by_cases hvoters : 1 < cfg.activeCount
      · have := cfg.two_le_viewChange valid hvoters
        omega
      have hsolo : cfg.activeCount = 1 := by
        have := valid.active_pos
        omega
      have hfirst : cfg.localIndex = 0 := by
        have hprimary : cfg.primary replica.view = cfg.localIndex := of_decide_eq_true primary
        rw [← hprimary, cfg.primary_of_solo hsolo]
      exact (phase.asleep hsyncing).2.2.2.2 hsolo hfirst
    refine phase.awake hidle (phase.unanswered hidle) rfl (fun _ => .of_mem) (fun _ => .inl rfl) ?_
    exact fun h => absurd hview h
  | windowHeaders =>
    obtain ⟨_, _, _, _, h⟩ := replica.handleRepairWindowHeaders_frame cfg _ _
    rw [h]
    exact phase.frame rfl rfl rfl rfl rfl rfl rfl rfl rfl rfl rfl
  | repairAppend heard repaired =>
    obtain ⟨-, -, -, -, -, -, rfl⟩ := handleRepairPrepare_eq_some repaired
    exact phase.same rfl rfl rfl rfl rfl rfl (fun _ h => ⟨h, rfl, rfl⟩) rfl
      (requested_append (by rintro _ _ ⟨⟩; rfl) (by rintro _ ⟨⟩))
  | rebuild installing named unbuilt written idle quiet rebuilt =>
    have hkept : replica.vacant ≠ true := fun h =>
      absurd ((syncing_of_vacant h).symm.trans (phase.idle_of_installing installing)) (by decide)
    obtain rfl | ⟨entries, _, _, _, _, -, rfl | rfl⟩ := rebuilt_cases rebuilt
    · exact phase
    · exact phase.same rfl rfl rfl rfl rfl rfl (fun h => absurd h hkept) rfl fun _ => .of_mem
    · exact phase.same rfl rfl rfl rfl rfl rfl (fun h => absurd h hkept) rfl fun _ => .of_mem
  | persistInstall installing rebuilt committed quiet persisted =>
    obtain ⟨-, -, -, rfl⟩ := persistView_eq_ok persisted
    have hidle := phase.idle_of_installing installing
    refine phase.awake hidle (phase.unanswered hidle) rfl
      (requested_append (by rintro _ _ ⟨⟩) (by rintro _ ⟨⟩; exact .inr rfl)) (fun h => by cases h) ?_
    intro _ _
    refine ⟨fun hnormal => ?_, rfl⟩
    have hnormal : replica.status = .normal := hnormal
    obtain h | h := phase.installing installing <;> rw [hnormal] at h <;> cases h
  | perform handle =>
    obtain h | ⟨pending, hmem, -, -, wal, zones, superblock, result, hexecutes, h⟩ :=
      replica.perform_cases cfg handle
    · rw [h]
      exact phase
    rw [h]
    have hrequested : ∀ other ∈ replica.io.map (fun other : PendingIo χ =>
        if other.handle = handle then { other with result := some result } else other),
        replica.Requested other := by
      intro other hother
      obtain ⟨old, hold, rfl⟩ := List.mem_map.mp hother
      exact .inl ⟨old, hold, by split_ifs <;> rfl⟩
    exact { phase with
      solo := by
        intro hvoter hfirst
        refine ⟨?_, phase.requests hvoter hfirst hrequested⟩
        show superblock.state.syncMin = 0
        generalize hoperation : pending.operation = operation at hexecutes
        cases hexecutes with
        | refused | plain | append => exact (phase.solo hvoter hfirst).1
        | persist => exact (phase.solo hvoter hfirst).2 pending hmem _ hoperation
      resuming := fun hresumes hsynced => by
        obtain ⟨durable, hdurable, recovery, hrecovery, hcheckpoint, hcommit, hrecoverable, hspares⟩ :=
          phase.resuming hresumes hsynced
        refine ⟨durable, hdurable, recovery, hrecovery, hcheckpoint, hcommit, ?_, fun other hother => ?_⟩
        · refine { hrecoverable with kept := fun op habove hle => ?_ }
          have hkept := hrecoverable.kept op habove hle
          have hspare := hspares pending hmem
          generalize pending.operation = operation at hexecutes hspare
          cases hexecutes with
          | refused | plain | persist => exact hkept
          | append appended =>
            refine hkept.append appended ?_
            rw [hspare _ _ rfl, hcheckpoint]
            exact habove
        · obtain ⟨old, hold, hsame⟩ | hnew := hrequested other hother
          · exact hsame ▸ hspares old hold
          · exact hnew.1 }
  | @drop handle | @clearRepair handle | @repairWritten handle =>
    exact phase.same rfl rfl rfl rfl rfl rfl (fun _ h => ⟨h, rfl, rfl⟩) rfl (requested_releaseIo replica handle)
  | @clearSync handle | @syncPersisted handle =>
    exact { phase with solo := phase.solo_releaseIo handle, resuming := phase.resuming_releaseIo handle }
  | @clearView handle | @viewFailed handle | @viewPersisted handle =>
    exact { phase with
      asleep := fun h => (phase.asleep h).imp_right (.imp_left fun _ h => absurd rfl h)
      solo := phase.solo_releaseIo handle
      persisting := fun h => absurd rfl h
      resuming := phase.resuming_releaseIo handle }
  | @clearEntry handle offset =>
    exact phase.same rfl rfl rfl rfl rfl rfl (fun _ h => ⟨modify_eq_nil h, rfl, rfl⟩) rfl
      (requested_releaseIo replica handle)
  | @viewPersistedOnward inputs handle =>
    have hreleased : Phase cfg { replica.releaseIo handle with
        viewIo := none, durableView := replica.view, pendingView := 0 } :=
      { phase with
        asleep := fun h => (phase.asleep h).imp_right (.imp_left fun _ h => absurd rfl h)
        solo := phase.solo_releaseIo handle
        persisting := fun h => absurd rfl h
        resuming := phase.resuming_releaseIo handle }
    exact hreleased.beginViewChangeNow inputs _
  | @viewInstalled handle operation done owner install =>
    have hview : replica.viewIo ≠ none := by rw [owner]; exact Option.some_ne_none handle
    have hidle : replica.syncing = false := by
      rw [← Bool.not_eq_true]
      intro hsyncing
      rw [(phase.asleep hsyncing).2.1 hview] at install
      cases install
    refine phase.awake hidle (phase.unanswered hidle) rfl (requested_releaseIo replica handle) ?_ ?_
    · intro hvalid
      exact absurd (hvalid.symm.trans (phase.persisting hview install).2) (by decide)
    · exact fun h => absurd rfl h
  | @appended handle offset =>
    exact phase.same rfl rfl rfl rfl rfl rfl (fun _ h => ⟨modify_eq_nil (modify_eq_nil h), rfl, rfl⟩) rfl
      (requested_releaseIo replica handle)
  | @replyWritten handle entry rest stage done first =>
    exact phase.same rfl rfl rfl rfl rfl rfl (kept_of_first first) rfl (requested_releaseIo replica handle)
  | @enterStateSync message heard idle unopened unreplayed ahead free undisturbed current author accepted =>
    have hvacant : (replica.enterStateSync message.checkpoint message.view message.commit message.head
        message.headers).vacant ≠ true := by
      simp [vacant, synced, Replica.enterStateSync, unreplayed]
    exact {
      asleep := by
        refine fun _ => ⟨nofun, fun h => absurd free.1 h, nofun, free.2.2, fun hvoter hfirst => ?_⟩
        refine absurd ?_ (foreign message heard)
        rw [author, hfirst, cfg.primary_of_solo hvoter]
      answered := fun h => absurd ((phase.answered h).2.2.symm.trans unopened) (by decide)
      replaying := fun h => absurd (h.symm.trans unreplayed) (by decide)
      resizing := fun h => by cases h
      canceling := fun _ => rfl
      vacated := fun h => absurd h hvacant
      level := fun h => absurd (vacant_of_synced h) hvacant
      solo := phase.solo
      installing := fun h => absurd (h.symm.trans free.2.2) (by decide)
      persisting := fun h => absurd free.1 h
      settled := nofun
      resuming := nofun }
  | cancelSync | resizePhase => exact { phase with level := phase.level }
  | drained stage empty =>
    have hsyncing : replica.syncing = true := by simp [syncing, stage]
    have hreplay : replica.stateSync.replayRunning ≠ true := fun h => by
      rw [(phase.replaying h).1.1] at stage
      cases stage
    have hvacant : ({ replica with stateSync := { replica.stateSync with stage := .updatingCheckpoint } } :
        Replica χ).vacant ≠ true := by
      simp [vacant, synced, hreplay, phase.canceling stage]
    exact { phase with
      asleep := fun _ => phase.asleep hsyncing
      answered := fun h => by
        rw [(phase.answered h).2.1] at stage
        cases stage
      replaying := fun h => absurd h hreplay
      resizing := fun h => by cases h
      canceling := fun h => by cases h
      vacated := fun h => absurd h hvacant
      level := fun h => absurd (vacant_of_synced h) hvacant
      settled := fun h => by simpa [stage] using phase.settled h
      resuming := fun _ h => absurd (vacant_of_synced h) hvacant }
  | @submitSync _ _ _ _ operation free kind submitted =>
    obtain ⟨rfl, rfl⟩ := submit_eq_ok submitted
    have hstage : replica.stateSync.stage = .updatingCheckpoint ∨
        replica.stateSync.stage = .resizingStorage := by
      rcases kind with ⟨h, -⟩ | ⟨h, -⟩ | ⟨h, -⟩
      · exact .inl h
      · exact .inl h
      · exact .inr h
    have hsyncing : replica.syncing = true := by
      rcases hstage with h | h <;> simp [syncing, h]
    exact { phase with
      canceling := fun h => by
        have h : replica.stateSync.stage = .cancelingGrid := h
        rcases hstage with hstage | hstage <;> rw [hstage] at h <;> cases h
      vacated := fun h => by
        show replica.pipeline = []
        simp only [vacant, decide_eq_true_eq] at h
        obtain hsynced | ⟨hupdating, hphase⟩ := h
        · exact phase.vacated (vacant_of_synced hsynced)
        rcases kind with ⟨-, -, rfl, -⟩ | ⟨-, -, -, hempty, -⟩ | ⟨hresizing, -⟩
        · cases hphase
        · exact hempty
        · exact absurd (hresizing.symm.trans hupdating) (by decide)
      solo := fun hvoter hfirst => absurd hfirst ((phase.asleep hsyncing).2.2.2.2 hvoter)
      resuming := fun hresumes hsynced => by
        obtain ⟨durable, hdurable, recovery, hrecovery, hcheckpoint, hcommit, hrecoverable, hspares⟩ :=
          phase.resuming hresumes hsynced
        refine ⟨durable, hdurable, recovery, hrecovery, hcheckpoint, hcommit, hrecoverable, ?_⟩
        refine List.forall_mem_append.mpr ⟨hspares, List.forall_mem_singleton.mpr ?_⟩
        rintro _ _ rfl
        simp at kind }
  | startReset inputs =>
    unfold startStateSyncReset
    split
    · exact phase
    · exact { phase with answered := fun h => by cases h }
  | releaseFrames => exact { phase with vacated := fun _ => rfl }
  | installCheckpoint stage persisted done free =>
    have hsyncing : replica.syncing = true := by simp [syncing, stage]
    have hempty : replica.pipeline = [] := by
      apply phase.vacated
      rw [vacant, decide_eq_true_eq]
      exact .inr ⟨stage, persisted⟩
    exact { phase with
      asleep := fun _ => phase.asleep hsyncing
      answered := fun h => by
        rw [(phase.answered h).2.1] at stage
        cases stage
      replaying := fun h => by
        rw [(phase.replaying h).1.1] at stage
        cases stage
      resizing := fun _ => rfl
      canceling := fun h => by cases h
      vacated := fun _ => hempty
      level := fun _ => rfl
      settled := fun _ => .inr rfl
      resuming := fun h => by simpa [stage] using phase.settled h }
  | resized stage free =>
    exact { phase.leaveResizing stage with level := (phase.leaveResizing stage).level }
  | resetDone => exact { phase with answered := fun h => by cases h }
  | opening idle waits => exact { phase with answered := fun _ => ⟨waits, idle, rfl⟩ }
  | resizedOpening stage free =>
    exact { phase.leaveResizing stage with answered := fun _ => ⟨phase.resizing stage, rfl, rfl⟩ }
  | openReplay answered resumes complete =>
    obtain ⟨hsynced, hidle, -⟩ := phase.opens answered
    have hsyncing := syncing_of_synced hsynced
    exact { phase with
      asleep := fun _ => phase.asleep hsyncing
      answered := fun h => by cases h
      replaying := fun _ => ⟨⟨hidle, replica.openedSync_awaiting⟩, resumes, fun recovery hrecovery => by
        have hrecovery : replica.stateSync.recovery = some recovery := hrecovery
        rw [hrecovery] at complete
        exact of_decide_eq_true complete⟩
      resizing := fun h => absurd (hidle.symm.trans h) (by decide)
      canceling := fun h => absurd (hidle.symm.trans h) (by decide)
      vacated := fun _ => phase.vacated (vacant_of_synced hsynced)
      level := fun _ => phase.level hsynced
      resuming := fun h _ => phase.resuming h hsynced }
  | openIncomplete answered resumes distrusts | openLevel answered fresh level =>
    refine phase.opened answered rfl rfl rfl rfl rfl rfl rfl rfl ?_
    intro hvalid
    have hvalid : replica.repairViewValid = true := hvalid
    rw [phase.uninstalled_of_answered answered] at hvalid
    cases hvalid
  | openHeaders answered fresh ahead fits | openBehind answered fresh ahead bounded =>
    exact phase.opened answered rfl rfl rfl rfl rfl rfl rfl rfl fun _ => .inl rfl
  | openStuck answered fresh err =>
    exact phase.opened answered rfl rfl rfl rfl rfl rfl rfl rfl phase.installing
  | repliesRepaired pending idle =>
    have hidle := syncing_eq_false.mp idle
    refine phase.awake ?_ (phase.unanswered idle) rfl (fun _ => .of_mem) phase.installing phase.persisting
    exact syncing_eq_false.mpr ⟨hidle.1, by simp [stateSyncAwaitingOpen], hidle.2.2⟩
  | replay => exact phase.replay

end Replica

end Supervsr
