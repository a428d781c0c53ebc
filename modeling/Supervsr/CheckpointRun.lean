import Supervsr.GaplessRun

/-
# Supervsr.CheckpointRun — the op that triggers a checkpoint is executed on the live path

A checkpoint is taken when the op `CompactionOps` behind its own is completed, and only then; a replica whose
executed ops have gone past that one takes no checkpoint any more.  What can go past it is a replay, which
takes no checkpoints, and a view change, which makes the entry at that op give way.  As long as neither
happens, a replica with nothing under way has the trigger of its next checkpoint ahead of it.
-/

namespace Supervsr

open Transition

variable {χ : Type} [DecidableEq χ] [Checksums χ] {cfg : Config} {given : Surroundings χ} {replica : Replica χ}

variable {cluster : ClusterConfig} {current checkpoint op : Nat}

/-! ## Triggers -/

theorem checkpointAfter_le {next : Nat} (after : checkpointAfter cluster current = some next) : current ≤ next := by
  unfold checkpointAfter at after
  split at after
  · cases after
  split at after
  · cases after
  split at after
  · rename_i hroot
    rw [hroot]
    exact Nat.zero_le _
  · rw [checkedAdd_eq_some after]
    exact Nat.le_add_right _ _

theorem checkpointAfter_lt {next : Nat} (later : current ≠ 0) (after : checkpointAfter cluster current = some next) :
    current < next := by
  unfold checkpointAfter at after
  split at after
  · cases after
  split at after
  · cases after
  rw [checkedAdd_eq_some after]
  omega

theorem lt_checkpointTrigger {trigger : Nat} (compacts : 0 < cluster.compactionOps)
    (triggers : checkpointTrigger cluster checkpoint = some trigger) : checkpoint < trigger := by
  rw [checkedAdd_eq_some triggers]
  exact Nat.lt_add_of_pos_right compacts

theorem checkpointTrigger_lt {next trigger later : Nat} (ahead : checkpoint < next)
    (triggers : checkpointTrigger cluster checkpoint = some trigger)
    (follows : checkpointTrigger cluster next = some later) : trigger < later := by
  rw [checkedAdd_eq_some triggers, checkedAdd_eq_some follows]
  exact Nat.add_lt_add_right ahead _

/-! ## Schedules -/

/-- What decides when a replica takes its next checkpoint. -/
structure Schedule (χ : Type) where
  commitMin : Nat
  checkpointOp : Nat
  target : Nat
  pending : Option (CheckpointState χ)
  first : Option (Nat × CommitStage)
  syncing : Bool
  resumes : Bool
  recovered : Option (Superblock χ)

def Replica.schedule (replica : Replica χ) : Schedule χ where
  commitMin := replica.commitMin
  checkpointOp := replica.checkpointOp
  target := replica.checkpointTarget
  pending := replica.pendingCheckpoint
  first := replica.pipeline.head?.map PipelineEntry.outline
  syncing := replica.syncing
  resumes := replica.stateSync.resumeRecovery
  recovered := replica.stateSync.recoveryState

namespace Schedule

/-- The op whose completion triggers the next checkpoint. -/
def trigger (schedule : Schedule χ) (cfg : Config) : Option Nat :=
  (checkpointAfter cfg.cluster schedule.checkpointOp).bind (checkpointTrigger cfg.cluster)

/-- Whether the first entry is executed and not yet out of the way. -/
def maintains (schedule : Schedule χ) : Bool := schedule.first.any fun outline => outline.2.maintains

/-- What is settled of a checkpoint that is being taken, by the stage of the first entry. -/
def Taking (cfg : Config) (schedule : Schedule χ) (op : Nat) : CommitStage → Prop
  | .checkpointData => checkpointAfter cfg.cluster schedule.checkpointOp = some schedule.target ∧
      checkpointTrigger cfg.cluster schedule.target = some op
  | .checkpointSuperblock =>
    (∀ checkpoint ∈ schedule.pending, checkpoint.prepareOp ≠ 0 ∧
      checkpointAfter cfg.cluster schedule.checkpointOp = some checkpoint.prepareOp ∧
      checkpointTrigger cfg.cluster checkpoint.prepareOp = some op) ∧
    (schedule.pending = none → ∀ trigger ∈ schedule.trigger cfg, schedule.commitMin < trigger)
  | _ => True

/-- The next checkpoint is still to be triggered, or is being taken. -/
structure Due (cfg : Config) (schedule : Schedule χ) : Prop where
  ready : schedule.syncing = false → ∀ trigger ∈ schedule.trigger cfg,
    schedule.commitMin < trigger ∨ (schedule.commitMin = trigger ∧ schedule.maintains = true)
  taking : ∀ outline ∈ schedule.first, schedule.Taking cfg outline.1 outline.2
  resumed : schedule.resumes = true → ∀ superblock ∈ schedule.recovered, ∀ trigger ∈ schedule.trigger cfg,
    superblock.state.commitMax < trigger

variable {schedule : Schedule χ}

section

omit [DecidableEq χ] [Checksums χ]

theorem taking_of_waits {stage : CommitStage} (waits : stage.maintains = false) :
    schedule.Taking cfg op stage := by
  cases stage <;> trivial

variable (due : schedule.Due cfg)

include due

theorem Due.below (waits : schedule.maintains = false)
    (idle : schedule.syncing = false) : ∀ trigger ∈ schedule.trigger cfg, schedule.commitMin < trigger :=
  fun trigger htrigger => (due.ready idle trigger htrigger).resolve_right
    fun h => absurd (h.2.symm.trans waits) (by decide)

/-- Another entry comes first, and it is not executed yet. -/
theorem Due.replace {first : Option (Nat × CommitStage)} {target : Nat}
    {pending : Option (CheckpointState χ)} (waits : ∀ outline ∈ first, outline.2.maintains = false)
    (below : schedule.syncing = false → ∀ trigger ∈ schedule.trigger cfg, schedule.commitMin < trigger) :
    Due cfg { schedule with first := first, target := target, pending := pending } where
  ready := fun idle trigger htrigger => .inl (below idle trigger htrigger)
  taking := fun outline houtline => taking_of_waits (waits outline houtline)
  resumed := due.resumed

/-- The next op is executed. -/
theorem Due.execute (waits : schedule.maintains = false)
    (next : op = schedule.commitMin + 1) {stage : CommitStage}
    (maintains : stage = .checkpointDurable ∨ stage = .compact) :
    Due cfg { schedule with commitMin := op, first := some (op, stage) } where
  ready := fun idle trigger htrigger => by
    have hbelow := due.below waits idle trigger htrigger
    have hmaintains : stage.maintains = true := by obtain rfl | rfl := maintains <;> rfl
    obtain hlt | heq := Nat.lt_or_eq_of_le (Nat.succ_le_of_lt hbelow)
    · exact .inl (by rw [next]; exact hlt)
    · exact .inr ⟨by rw [next]; exact heq, hmaintains⟩
  taking := by
    rintro _ ⟨⟩
    obtain rfl | rfl := maintains <;> trivial
  resumed := due.resumed

/-- The checkpoint that was triggered is taken, and the next one lies ahead. -/
theorem Due.publish (first : schedule.first = some (op, .checkpointSuperblock))
    (last : op = schedule.commitMin) {checkpoint : CheckpointState χ} (pending : schedule.pending = some checkpoint)
    (unresumed : schedule.resumes = false) :
    Due cfg { schedule with checkpointOp := checkpoint.prepareOp, target := 0, pending := none } := by
  obtain ⟨hlater, hafter, htriggers⟩ := (due.taking _ first).1 checkpoint pending
  have hbelow : ∀ trigger ∈ (checkpointAfter cfg.cluster checkpoint.prepareOp).bind
      (checkpointTrigger cfg.cluster), schedule.commitMin < trigger := by
    intro trigger htrigger
    obtain ⟨next, hnext, hfollows⟩ := Option.bind_eq_some_iff.mp htrigger
    rw [← last]
    exact checkpointTrigger_lt (checkpointAfter_lt hlater hnext) htriggers hfollows
  exact {
    ready := fun _ trigger htrigger => .inl (hbelow trigger htrigger)
    taking := fun outline h => by
      cases first.symm.trans h
      exact ⟨nofun, fun _ => hbelow⟩
    resumed := fun h => absurd (h.symm.trans unresumed) (by decide) }

end

end Schedule

namespace Replica

/-- The next checkpoint of a replica is still to be triggered, or is being taken. -/
def Due (cfg : Config) (replica : Replica χ) : Prop := replica.schedule.Due cfg

variable {next : Replica χ}

section

omit [DecidableEq χ] [Checksums χ]

theorem Due.frame (due : replica.Due cfg) (schedule : next.schedule = replica.schedule) : next.Due cfg := by
  unfold Due
  rw [schedule]
  exact due

theorem first_of_outline
    (outline : next.pipeline.map PipelineEntry.outline = replica.pipeline.map PipelineEntry.outline) :
    next.schedule.first = replica.schedule.first := by
  show next.pipeline.head?.map _ = replica.pipeline.head?.map _
  rw [← List.head?_map, outline, List.head?_map]

theorem Due.outlined (due : replica.Due cfg)
    (schedule : next.schedule = { replica.schedule with first := next.schedule.first })
    (outline : next.pipeline.map PipelineEntry.outline = replica.pipeline.map PipelineEntry.outline) :
    next.Due cfg := by
  refine due.frame (schedule.trans ?_)
  rw [first_of_outline outline]

theorem schedule_first {entry : PipelineEntry χ} {rest : List (PipelineEntry χ)}
    (first : replica.pipeline = entry :: rest) :
    replica.schedule.first = some (entry.header.op, entry.stage) := by
  show replica.pipeline.head?.map PipelineEntry.outline = _
  rw [first]
  rfl

/-- The pipeline that is left behind its first entry is idle. -/
theorem waits_of_idle {pipeline : List (PipelineEntry χ)} (idle : ∀ entry ∈ pipeline, entry.stage = .idle) :
    ∀ outline ∈ pipeline.head?.map PipelineEntry.outline, outline.2.maintains = false := by
  intro outline houtline
  obtain ⟨entry, hentry, rfl⟩ := Option.map_eq_some_iff.mp houtline
  show entry.stage.maintains = false
  rw [idle entry (List.mem_of_mem_head? hentry)]
  rfl

/-- A replica that has executed nothing behind its checkpoint. -/
theorem below_of_level (compacts : 0 < cfg.cluster.compactionOps)
    (level : replica.commitMin = replica.checkpointOp) :
    ∀ trigger ∈ replica.schedule.trigger cfg, replica.commitMin < trigger := by
  intro trigger htrigger
  obtain ⟨next, hnext, htriggers⟩ := Option.bind_eq_some_iff.mp htrigger
  rw [level]
  exact Nat.lt_of_le_of_lt (checkpointAfter_le hnext) (lt_checkpointTrigger compacts htriggers)

/-- The first entry is replaced by one that is not executed. -/
theorem Due.unexecuted (due : replica.Due cfg)
    (waits : ∀ entry ∈ next.pipeline.head?, entry.stage.maintains = false)
    (below : replica.syncing = false → ∀ trigger ∈ replica.nextTrigger cfg, replica.commitMin < trigger)
    (schedule : next.schedule = { replica.schedule with
      first := next.schedule.first, target := next.checkpointTarget, pending := next.pendingCheckpoint }) :
    next.Due cfg := by
  unfold Due
  rw [schedule]
  refine Schedule.Due.replace due (fun outline houtline => ?_) below
  obtain ⟨entry, hentry, rfl⟩ := Option.map_eq_some_iff.mp houtline
  exact waits entry hentry

/-- Nothing is executed behind the checkpoint, and the log is still to come. -/
theorem Due.of_level (compacts : 0 < cfg.cluster.compactionOps)
    (level : replica.commitMin = replica.checkpointOp) (empty : replica.pipeline = [])
    (resumed : replica.stateSync.resumeRecovery = false) : replica.Due cfg := by
  have hfirst : replica.schedule.first = none := by
    show replica.pipeline.head?.map _ = none
    rw [empty]
    rfl
  exact {
    ready := fun _ trigger htrigger => .inl (below_of_level compacts level trigger htrigger)
    taking := fun _ h => by cases hfirst.symm.trans h
    resumed := fun h => absurd (h.symm.trans resumed) (by decide) }

/-- A state sync goes on. -/
theorem Due.asleep (due : replica.Due cfg) (syncing : next.syncing = true)
    (schedule : next.schedule = { replica.schedule with syncing := next.syncing }) : next.Due cfg := by
  unfold Due
  rw [schedule]
  exact { due with
    ready := fun h => absurd (h.symm.trans syncing) (by decide) }

end

omit [DecidableEq χ] in
theorem beginViewChangeNow_schedule (replica : Replica χ) (inputs : Inputs χ) (target : Nat) :
    (replica.beginViewChangeNow cfg inputs target).schedule = replica.schedule := by
  have hfirst : (replica.beginViewChangeNow cfg inputs target).schedule.first = replica.schedule.first :=
    first_of_outline (by rw [beginViewChangeNow_pipeline, List.map_map]; rfl)
  obtain ⟨err, h⟩ | ⟨-, h⟩ := replica.beginViewChangeNow_cases cfg inputs target <;> rw [h] at hfirst ⊢ <;>
    exact congrArg (fun first => { replica.schedule with first := first }) hfirst

theorem Due.move (due : replica.Due cfg) (coherent : replica.Coherent cfg)
    (calm : replica.Calm) (owned : replica.Owned) (phase : Phase cfg replica)
    (labelled : replica.wal.Labelled cfg.cluster) (slots : cfg.cluster.journalSlots ≠ 0)
    (compacts : 0 < cfg.cluster.compactionOps) (quietly : given.calm) (punctually : given.punctual)
    (sound : next.fatalErr = none) (move : Move cfg given replica next) : next.Due cfg := by
  have hsound := move.sound sound
  -- what the first entry holds, before and after it is executed
  have hgapless : ∀ {entry : PipelineEntry χ} {rest : List (PipelineEntry χ)}, replica.pipeline = entry :: rest →
      Gapless replica.commitMin replica.headOp (entry :: rest) := by
    intro entry rest hfirst
    have h := Ledger.Coherent.gapless coherent (.inl (by rw [hfirst]; exact List.cons_ne_nil _ _))
    rwa [hfirst] at h
  have hwaits : ∀ {entry : PipelineEntry χ} {rest : List (PipelineEntry χ)}, replica.pipeline = entry :: rest →
      entry.stage.maintains = false → replica.schedule.maintains = false := by
    intro entry rest hfirst hstage
    rw [Schedule.maintains, schedule_first hfirst]
    exact hstage
  -- an entry that is not the one that triggers a checkpoint, or whose checkpoint is taken, makes room
  have hbelow : ∀ {entry : PipelineEntry χ} {rest : List (PipelineEntry χ)}, replica.pipeline = entry :: rest →
      entry.stage.maintains = true → replica.nextTrigger cfg ≠ some entry.header.op →
      replica.syncing = false → ∀ trigger ∈ replica.nextTrigger cfg, replica.commitMin < trigger := by
    intro entry rest hfirst hstage hother hidle trigger htrigger
    refine (due.ready hidle trigger htrigger).resolve_right fun h => hother ?_
    rw [(hgapless hfirst).first_last hstage, show replica.commitMin = trigger from h.1]
    exact htrigger
  cases move with
  | quiet | send | learnCommit | distrustHead | pend | settle | join | session | drain | wantHeader |
      overwriteHeaders | openWindow | recordView | drop | clearSync | clearView | clearRepair | syncPersisted |
      viewPersisted | cancelSync | resizePhase | resetDone | opening =>
    exact due.frame rfl
  | fail err | publishLast _ _ _ _ err | viewFailed _ _ err | openStuck _ _ err =>
    exact absurd sound (fail_fatalErr _ err)
  | announce destination nonce =>
    obtain ⟨headers, h⟩ := replica.buildView_cases cfg nonce
    rw [h]
    exact due.frame rfl
  | acks same => exact due.outlined rfl (outline_of_unacknowledged same)
  | @accept _ inputs header normal durable current source accepted =>
    obtain ⟨-, -, -, -, -, rfl⟩ := acceptPrepare_eq_some accepted
    cases hpipeline : replica.pipeline with
    | nil =>
      refine due.unexecuted ?_ (due.below ?_) rfl
      · simp [CommitStage.maintains]
      · simp [Schedule.maintains, Replica.schedule, hpipeline]
    | cons entry rest =>
      refine due.frame (congrArg (fun first => { replica.schedule with first := first }) ?_)
      simp [hpipeline]
  | beginViewChange inputs | resume inputs | viewPersistedOnward inputs =>
    exact due.frame (beginViewChangeNow_schedule _ inputs _)
  | @progress entry rest stage first waits ready ahead =>
    have hwait : ∀ other ∈ (replica.setStage stage).pipeline.head?, other.stage.maintains = false := by
      rw [setStage_pipeline first]
      rintro _ ⟨⟩
      obtain rfl | rfl | rfl := ahead <;> rfl
    refine due.unexecuted hwait (due.below (hwaits first ?_)) rfl
    obtain h | h | h | h | h | h := waits <;> rw [h] <;> rfl
  | @submitReply _ inputs _ entry rest first waits ready submitted =>
    obtain ⟨rfl, rfl⟩ := submit_eq_ok submitted
    refine due.unexecuted ?_ (due.below (hwaits first ?_)) rfl
    · show ∀ other ∈ ((replica.setStage .execute).pipeline.modify 0 _).head?, other.stage.maintains = false
      rw [setStage_pipeline first]
      rintro _ ⟨⟩
      rfl
    · obtain h | h := waits <;> rw [h] <;> rfl
  | @commit entry rest stage first waits ready maintains =>
    have hpipeline := executed_pipeline first stage
    have hstage : entry.stage.maintains = false := by obtain h | h := waits <;> rw [h] <;> rfl
    have hdue := Schedule.Due.execute due (hwaits first hstage) ((hgapless first).first_next hstage) maintains
    unfold Due
    rw [← schedule_first hpipeline] at hdue
    exact hdue
  | @replyWritten handle entry rest stage done first owner executing maintains =>
    have hpipeline := replied_pipeline first handle stage
    have hstage : entry.stage.maintains = false := by rw [executing]; rfl
    have hdue := Schedule.Due.execute due (hwaits first hstage) ((hgapless first).first_next hstage) maintains
    unfold Due
    rw [← schedule_first hpipeline] at hdue
    exact hdue
  | @checkpointData entry rest target first maintains next trigger =>
    have hpipeline := checkpointData_pipeline first target
    have hdue : Schedule.Due cfg { replica.schedule with
        target := target, first := some (entry.header.op, .checkpointData) } := {
      ready := fun hidle other hother => (due.ready hidle other hother).imp_right fun h => ⟨h.1, rfl⟩
      taking := by
        rintro _ ⟨⟩
        exact ⟨next, trigger⟩
      resumed := due.resumed }
    rw [← schedule_first hpipeline] at hdue
    exact hdue
  | @submitCheckpoint _ _ _ checkpoint entry rest first data built undrained submitted targeted =>
    obtain ⟨rfl, rfl⟩ := submit_eq_ok submitted
    have hpipeline : ({ replica with pendingCheckpoint := some checkpoint }.modifyEntry 0
        fun entry => { entry with stage := .checkpointSuperblock, io := some replica.nextHandle }).pipeline =
        { entry with stage := .checkpointSuperblock, io := some replica.nextHandle } :: rest := by
      simp [modifyEntry, first]
    have hfirst := schedule_first first
    rw [data] at hfirst
    have htarget := prepareOp_of_buildCheckpointState labelled slots built
    have hdue : Schedule.Due cfg { replica.schedule with
        pending := some checkpoint, first := some (entry.header.op, .checkpointSuperblock) } := {
      ready := fun hidle other hother => (due.ready hidle other hother).imp_right fun h => ⟨h.1, rfl⟩
      taking := by
        rintro _ ⟨⟩
        refine ⟨?_, fun h => by cases h⟩
        rintro _ ⟨⟩
        rw [htarget]
        exact ⟨targeted, due.taking _ hfirst⟩
      resumed := due.resumed }
    have hsubmitted : Replica.Due cfg ({ replica with pendingCheckpoint := some checkpoint }.modifyEntry 0
        fun entry => { entry with stage := .checkpointSuperblock, io := some replica.nextHandle }) := by
      unfold Due
      rw [← schedule_first hpipeline] at hdue
      exact hdue
    exact hsubmitted.frame rfl
  | @yield inputs entry rest first maintains unsubmitted higher punctual =>
    refine due.unexecuted (fun other hother => ?_) (hbelow first maintains (punctual punctually)) ?_
    · rw [owned.idle_of_tail ?_ other (List.mem_of_mem_head? hother)]
      · rfl
      rw [beginViewChangeNow_tail]
      simp [Replica.setStage, modifyEntry, first]
    · obtain ⟨err, h⟩ | ⟨-, h⟩ := Replica.beginViewChangeNow_cases ({ replica with
        pendingView := 0, checkpointTarget := 0, pendingCheckpoint := none }.setStage .idle) cfg inputs
        replica.pendingView <;> rw [h] <;> rfl
  | @yieldPublished inputs entry rest first persisted free published higher =>
    have hfirst := schedule_first first
    rw [persisted] at hfirst
    refine due.unexecuted (fun other hother => ?_) (fun _ => (due.taking _ hfirst).2 published) ?_
    · rw [owned.idle_of_tail ?_ other (List.mem_of_mem_head? hother)]
      · rfl
      rw [beginViewChangeNow_tail]
    · obtain ⟨err, h⟩ | ⟨-, h⟩ := Replica.beginViewChangeNow_cases { replica with pendingView := 0 } cfg inputs
        replica.pendingView <;> rw [h] <;> rfl
  | @publish checkpoint entry rest sessionOp first persisted free pending =>
    have hfirst := schedule_first first
    rw [persisted] at hfirst
    exact Schedule.Due.publish due hfirst ((hgapless first).first_last (by rw [persisted]; rfl)) pending
      (calm.unresumed_of_idle (free quietly).1 hsound)
  | @pop entry rest first maintains low done =>
    have hpop : replica.popPipeline.pipeline = rest := by
      show replica.pipeline.tail = rest
      rw [first]
      rfl
    have hidle := owned.rest
    rw [first] at hidle
    refine due.unexecuted (fun other hother => ?_) ?_ rfl
    · rw [hpop] at hother
      rw [hidle other (List.mem_of_mem_head? hother)]
      rfl
    obtain ⟨-, hother⟩ | ⟨hstage, hpublished, -⟩ := done
    · exact hbelow first maintains hother
    · have hfirst := schedule_first first
      rw [hstage] at hfirst
      exact fun _ => (due.taking _ hfirst).2 hpublished
  | windowHeaders =>
    obtain ⟨_, _, _, _, h⟩ := replica.handleRepairWindowHeaders_frame cfg _ _
    rw [h]
    exact due.frame rfl
  | repairAppend heard repaired =>
    obtain ⟨-, -, -, -, -, -, rfl⟩ := handleRepairPrepare_eq_some repaired
    exact due.frame rfl
  | rebuild installing named unbuilt written idle quiet rebuilt =>
    have hbelow := due.below (by
      rw [Schedule.maintains, Option.any_eq_false]
      exact waits_of_idle fun entry h => (quiet entry h).2)
    obtain rfl | ⟨entries, _, _, _, _, hentries, rfl | rfl⟩ := rebuilt_cases rebuilt
    · exact due
    · exact absurd sound (fail_fatalErr _ _)
    refine due.unexecuted (fun entry hentry => ?_) hbelow rfl
    obtain ⟨old, hold, rfl⟩ := List.mem_map.mp (List.mem_of_mem_head? hentry)
    show old.stage.maintains = false
    obtain hold | hold := List.mem_append.mp hold
    · rw [(quiet old ((replica.pipelineThrough_initial _).subset hold)).2]
      rfl
    · rw [(hentries old hold).2.1]
      rfl
  | persistInstall installing rebuilt committed quiet persisted =>
    obtain ⟨-, -, -, rfl⟩ := persistView_eq_ok persisted
    exact due.frame rfl
  | perform handle =>
    obtain h | ⟨_, -, -, -, _, _, _, _, -, h⟩ := replica.perform_cases cfg handle <;> rw [h] <;>
      exact due.frame rfl
  | viewInstalled =>
    exact due.frame rfl
  | repairWritten =>
    exact due.frame (by unfold finishRepairWrite; simp only; split <;> [split; skip] <;> rfl)
  | clearEntry =>
    exact due.outlined rfl (outline_modify (f := fun entry => { entry with io := none }) (fun _ => rfl) _)
  | appended =>
    exact due.outlined rfl
      ((outline_modify (f := fun entry => { entry with durable := true }) (fun _ => rfl) _).trans
        (outline_modify (f := fun entry => { entry with io := none }) (fun _ => rfl) _))
  | enterStateSync heard idle unopened unreplayed ahead free undisturbed current author accepted tail proved =>
    exact { due with
      ready := fun h => (by cases h)
      resumed := fun h => by cases h }
  | submitSync free kind submitted =>
    obtain ⟨rfl, rfl⟩ := submit_eq_ok submitted
    exact due.frame rfl
  | startReset inputs =>
    unfold startStateSyncReset
    split
    · exact due
    · exact due.frame rfl
  | drained stage empty => exact due.asleep rfl rfl
  | releaseFrames stage second done free =>
    have hsyncing : replica.syncing = true := by simp [syncing, stage]
    exact { due with
      ready := fun h => absurd (h.symm.trans hsyncing) (by decide)
      taking := fun _ h => by cases h }
  | installCheckpoint stage second done free =>
    have hempty : replica.pipeline = [] := phase.vacated (by simp [vacant, stage, second])
    exact .of_level compacts rfl hempty (phase.unresumed (by simp [stage]))
  | resized stage | resizedOpening stage =>
    have hwaits := phase.resizing stage
    exact due.asleep (decide_eq_true (.inr (.inl hwaits))) rfl
  | openReplay answered resumes whole => exact due.asleep (decide_eq_true (.inr (.inr rfl))) rfl
  | openIncomplete answered =>
    have hsynced := (phase.opens answered).1
    exact .of_level compacts (phase.level hsynced) (phase.vacated (vacant_of_synced hsynced)) rfl
  | openHeaders answered fresh | openBehind answered fresh | openLevel answered fresh =>
    have hsynced := (phase.opens answered).1
    exact .of_level compacts (phase.level hsynced) (phase.vacated (vacant_of_synced hsynced)) fresh
  | repliesRepaired pending idle =>
    obtain ⟨hstage, -, hreplay⟩ := syncing_eq_false.mp idle
    refine due.frame (congrArg (fun syncing => { replica.schedule with syncing := syncing }) ?_)
    refine Eq.trans (syncing_eq_false.mpr ⟨hstage, ?_, hreplay⟩) idle.symm
    rfl
  | replay =>
    obtain h | h | ⟨durable, hdurable, recovery, hrecovery, status, superblock, committed, loaded, hrunning,
      houtcome, -, -, hloaded, hadopted⟩ := replica.replayInterrupted_adopts cfg
    · rw [h]
      exact due
    · exact absurd sound h
    have hempty : replica.pipeline = [] := phase.vacated (vacant_of_synced (by simp [synced, hrunning]))
    obtain ⟨entries, generation, headOp, headChecksum, hentries, rfl⟩ :=
      loadOpenSuffix_eq_ok hloaded
    rw [hadopted]
    have hresumes := (phase.replaying hrunning).2.1
    have hbelow : ∀ trigger ∈ replica.nextTrigger cfg,
        (replica.interruptedReplay cfg durable).commitMin < trigger := fun trigger htrigger =>
      Nat.lt_of_le_of_lt ((replayCommitted_commitMin _ _ _ _).2 houtcome).le (due.resumed hresumes durable hdurable trigger htrigger)
    have hidle : ∀ entry ∈ replica.pipeline ++ entries, entry.stage = .idle := by
      rw [hempty, List.nil_append]
      exact fun entry hentry => (hentries entry hentry).2.1
    exact {
      ready := fun _ trigger htrigger => .inl (hbelow trigger htrigger)
      taking := fun outline houtline => Schedule.taking_of_waits (waits_of_idle hidle outline houtline)
      resumed := fun h => by cases h }

end Replica

/-! ## Opening -/

/-- The op up to which `Open`, or the state sync it resumes, replays the journal. -/
def Durable.replayBound (durable : Durable χ) (cfg : Config) (recovery : WALRecoveryReport χ) : Nat :=
  let checkpoint := durable.superblock.state.checkpoint.prepareOp
  if durable.resumes then durable.superblock.state.commitMax
  else if recovery.faultySlots ≠ 0 then checkpoint
  else
    match recoveredCommitTarget cfg (durable.openSuperblock cfg recovery) recovery with
    | .ok target => target
    | .error _ => checkpoint

/-- Whether a member that is opened replays the op that triggers its next checkpoint. -/
def Durable.overdue (durable : Durable χ) (cfg : Config) : Bool :=
  match durable.recovery cfg with
  | .error _ => false
  | .ok (_, recovery) =>
    ((checkpointAfter cfg.cluster durable.superblock.state.checkpoint.prepareOp).bind
      (checkpointTrigger cfg.cluster)).any fun trigger => trigger ≤ durable.replayBound cfg recovery

theorem Opened.due {durable : Durable χ} (opened : Opened cfg durable replica)
    (timely : durable.overdue cfg = false) : replica.Due cfg := by
  -- the replay ends in front of the trigger
  have hbound : ∀ {wal recovery}, durable.recovery cfg = .ok (wal, recovery) → ∀ trigger ∈
      (checkpointAfter cfg.cluster durable.superblock.state.checkpoint.prepareOp).bind
        (checkpointTrigger cfg.cluster), durable.replayBound cfg recovery < trigger := by
    intro wal recovery hrecovered trigger htrigger
    simp only [Durable.overdue, hrecovered] at timely
    rw [show _ = some trigger from htrigger, Option.any_some, decide_eq_false_iff_not, Nat.not_le] at timely
    exact timely
  cases opened with
  | resumed recovered resumes checked resumed =>
    obtain rfl := eq_of_ite_error resumed
    refine {
      ready := fun h => (by cases h)
      taking := fun _ h => (by cases h)
      resumed := fun _ superblock hsuperblock trigger htrigger => ?_ }
    cases hsuperblock
    have h := hbound recovered trigger htrigger
    rwa [Durable.replayBound, if_pos resumes] at h
  | @restarted wal recovery replayed initial superblock entries headOp headChecksum generation
      recovered fresh replays complete derived checked loads =>
    obtain ⟨status, -, hcommit, hrecovered, -⟩ := deriveInitialState_eq_ok derived
    have hreplayed : replayed.commitMin ≤ durable.replayBound cfg recovery := by
      rw [Durable.replayBound, if_neg (by rw [fresh]; decide)]
      rw [Durable.openReplay] at replays
      by_cases hfaulty : recovery.faultySlots = 0
      · rw [if_neg (by rw [hfaulty]; decide)] at replays ⊢
        obtain ⟨target, htarget, hresult⟩ := bind_eq_ok.mp replays
        cases hresult
        rw [show recoveredCommitTarget cfg (durable.openSuperblock cfg recovery) recovery = .ok target from htarget]
        exact ((replayCommitted_commitMin _ _ _ _).2 complete).le
      · rw [if_pos hfaulty] at replays ⊢
        cases replays
        exact Nat.le_refl _
    have hcheckpoint : initial.checkpoint = durable.superblock.state.checkpoint := by
      rw [hrecovered]
      unfold Durable.openSuperblock
      split <;> rfl
    have hidle : ∀ entry ∈ entries, entry.stage = .idle := fun entry hentry => (loads.idle entry hentry).2.1
    refine {
      ready := fun _ trigger htrigger => .inl ?_
      taking := fun outline houtline => Schedule.taking_of_waits (Replica.waits_of_idle hidle outline houtline)
      resumed := fun h => by cases h }
    have htrigger : trigger ∈ (checkpointAfter cfg.cluster initial.checkpoint.prepareOp).bind
      (checkpointTrigger cfg.cluster) := htrigger
    rw [hcheckpoint] at htrigger
    show initial.commitMin < trigger
    rw [hcommit]
    exact Nat.lt_of_le_of_lt hreplayed (hbound recovered trigger htrigger)

/-! ## Every punctual run -/

/-- Whether a view change waits for the op that triggers the next checkpoint, which is not being written
yet, or for a view that is being installed. -/
def Replica.late (replica : Replica χ) (cfg : Config) : Bool :=
  (replica.view < replica.pendingView ∧ replica.pipeline.head?.any fun entry =>
      entry.stage ≠ .checkpointSuperblock ∧ replica.nextTrigger cfg = some entry.header.op) ∨
    (replica.repairViewValid ∧
      (replica.view < replica.pendingView ∨ replica.repairView < replica.pendingView))

omit [DecidableEq χ] [Checksums χ] in
theorem Replica.timely_of_not_late (early : replica.late cfg = false) : Timely cfg replica := by
  simp only [late, decide_eq_false_iff_not, not_or, not_and, Bool.not_eq_true, Nat.not_lt] at early
  refine ⟨fun hhigher entry hentry hunsubmitted htrigger => ?_, early.2⟩
  have hnone := early.1 hhigher
  rw [show replica.pipeline.head? = some entry from hentry, Option.any_some, decide_eq_false_iff_not] at hnone
  exact hnone ⟨hunsubmitted, htrigger⟩

namespace Cluster

/-- What is known of a step in a punctual run. -/
def punctualRun (cfg : Config) : Surroundings χ where
  heard := Message.Genuine cfg
  calm := True
  unreplying := False
  punctual := True

theorem due_lasting (cfg : Config) : Lasting cfg (punctualRun cfg) True
    (fun durable : Durable χ => durable.gapped cfg = false ∧ durable.overdue cfg = false) (Durable.Whole cfg)
    (fun replica => replica.Whole cfg ∧ (replica.fatalErr = none → replica.Due cfg)) where
  attributed := fun ⟨whole, _⟩ => whole.calm.attributed whole.sound.owned
  move := by
    rintro replica next ⟨whole, due⟩ move
    refine ⟨whole.move trivial (fun _ hheard => hheard) move, fun hsound => ?_⟩
    have hbefore := move.sound hsound
    exact (due hbefore).move (whole.coherent hbefore) whole.calm whole.sound.owned
      whole.sound.phase whole.labelled whole.sound.slots
      (FormatConfig.validated_of_valid whole.sound.valid).compaction_pos trivial trivial hsound move
  crash := fun torn ⟨whole, _⟩ => whole.crash torn
  opened := fun whole ⟨ungapped, timely⟩ valid _ opened =>
    ⟨opened.whole whole ungapped valid, fun _ => opened.due timely⟩
  reopened := fun whole reopened => whole.reopened reopened
  damaged := fun _ _ slot prepare whole => whole.damage slot prepare

/-- Whether a step opens a member that replays the op that triggers its next checkpoint, or is taken by a
replica in which a view change waits for that op. A crash takes nothing from a checkpoint: what is replayed
is told when the member is opened again. -/
def misses (cfg : Config) (cluster : Cluster χ) (step : Nat × NodeAction χ) : Bool :=
  match step.2, cluster.nodes[step.1]? with
  | .open, some (.down durable) => durable.overdue (cfg.member step.1)
  | .crash _, _ => false
  | _, some (.running replica) => replica.late (cfg.member step.1)
  | _, _ => false

/-- A calm step without gaps that keeps no checkpoint from being triggered. -/
def punctually (cfg : Config) (cluster : Cluster χ) (step : Nat × NodeAction χ) : Bool :=
  gaplessly cfg cluster step && !misses cfg cluster step

/-- In every punctual run, a replica that has not failed, is not syncing state and has no executed entry in
its pipeline has the op that triggers its next checkpoint still to execute. -/
theorem checkpoint_ahead {cluster : Cluster χ} {index : Nat} {node : Node χ} {replica : Replica χ}
    (reached : Reaches (Cluster.step cfg) (fun cluster step => punctually cfg cluster step = true)
      (.initial cfg) cluster)
    (found : cluster.nodes[index]? = some node) (up : node.replica? = some replica)
    (sound : replica.fatalErr = none) (unsynced : replica.syncing = false)
    (idle : ∀ entry ∈ replica.pipeline, entry.stage.maintains = false) :
    ∀ trigger ∈ replica.nextTrigger cfg, replica.commitMin < trigger := by
  have hholds := Cluster.invariant (fun index node => node.Holds (Durable.Whole (cfg.member index))
    fun replica : Replica χ => replica.Whole (cfg.member index) ∧
      (replica.fatalErr = none → replica.Due (cfg.member index))) (fun _ => .formatted) ?_ reached found
  · refine ((hholds.replica up).2 sound).below ?_ unsynced
    rw [Schedule.maintains, Option.any_eq_false]
    intro outline houtline
    obtain ⟨entry, hentry, rfl⟩ := Option.map_eq_some_iff.mp houtline
    exact idle entry (List.mem_of_mem_head? hentry)
  intro cluster index node next action hlength hall hnode hallowed hadmits hstepped
  obtain ⟨hgapless, hmisses⟩ := Bool.and_eq_true_iff.mp hallowed
  obtain ⟨hcalm, hgap⟩ := Bool.and_eq_true_iff.mp hgapless
  rw [Bool.not_eq_true'] at hmisses hgap
  have hwhole : ∀ {other : Nat} {member : Node χ}, cluster.nodes[other]? = some member →
      member.Holds (Durable.Whole (cfg.member other)) (Replica.Whole (cfg.member other)) := by
    intro other member hmember
    have h := hall hmember
    cases member with
    | down => exact h
    | running => exact h.1
    | stopped => exact h.1
  refine (due_lasting (cfg.member index)).step (hall hnode) ?_ (fun _ => trivial) ?_ ?_ hstepped
  · rintro replica inputs message rfl rfl -
    refine Replica.hears_of_not_crosses (genuine_of_whole hlength hwhole hnode hadmits) id ?_
    simp only [calmly, hnode, decide_eq_true_eq, Bool.not_eq_true] at hcalm
    exact hcalm
  · rintro durable rfl rfl
    simp only [opensGap, hnode] at hgap
    simp only [misses, hnode] at hmisses
    exact ⟨hgap, hmisses⟩
  · rintro - replica rfl huncrashed
    refine Replica.timely_of_not_late ?_
    cases action with
    | crash torn => exact absurd rfl (huncrashed torn)
    | _ =>
      simp only [misses, hnode] at hmisses
      exact hmisses

theorem checkpoint_ahead_pulse : ∃ (cluster : Cluster Digest) (replica : Replica Digest),
    Reaches (Cluster.step threeMembers) (fun cluster step => punctually threeMembers cluster step = true)
        (.initial threeMembers) cluster ∧
      cluster.nodes[1]? = some (.running replica) ∧
      (replica.fatalErr = none ∧ replica.syncing = false ∧ replica.pipeline = []) ∧
      replica.nextTrigger threeMembers = some 29 ∧ replica.commitMin < 29 := by
  have hfinds : (Cluster.follow threeMembers (punctually threeMembers) (toNormal ++ onePulse 10)).any
      (fun cluster => (cluster.running? 1).any fun replica =>
        decide ((replica.fatalErr = none ∧ replica.syncing = false ∧ replica.pipeline = []) ∧
          replica.nextTrigger threeMembers = some 29)) = true := by decide +kernel
  obtain ⟨cluster, replica, hreached, hnode, hshows⟩ := Cluster.running_of_follow _ (fun _ _ h => h) hfinds
  obtain ⟨⟨hsound, hidle, hempty⟩, htrigger⟩ := of_decide_eq_true hshows
  refine ⟨cluster, replica, hreached, hnode, ⟨hsound, hidle, hempty⟩, htrigger, ?_⟩
  refine checkpoint_ahead hreached hnode rfl hsound hidle (fun entry hentry => ?_) 29 htrigger
  rw [hempty] at hentry
  cases hentry

/-- One voter with the shortest checkpoint interval but one. -/
def soloVoter : Config := .small 1 15 33

/-- The voter prepares two ops, both get to its journal, and it goes down before they are executed. -/
def replayedTrigger : List Direction :=
  [.act 0 .open, .act 0 (.event (.prompt soloVoter 10) (.receive (.request (.registration 1)))),
    .act 0 (.event (.prompt soloVoter 10) (.receive (.request (.registration 2)))),
    .act 0 (.event (.prompt soloVoter 10) (.perform 1)), .act 0 (.event (.prompt soloVoter 10) (.perform 2)),
    .act 0 (.crash none), .act 0 .open]

/-- The op that triggers the first checkpoint is replayed, and no checkpoint is taken. -/
theorem trigger_replayed : ∃ (cluster : Cluster Digest) (replica : Replica Digest),
    Reaches (Cluster.step soloVoter) (fun _ _ => True) (.initial soloVoter) cluster ∧
      cluster.nodes[0]? = some (.running replica) ∧
      (replica.fatalErr = none ∧ replica.syncing = false ∧ replica.pipeline = []) ∧
      replica.nextTrigger soloVoter = some 2 ∧ replica.commitMin = 2 := by
  have hfinds : (Cluster.follow soloVoter (fun _ _ => true) replayedTrigger).any (fun cluster =>
      (cluster.running? 0).any fun replica =>
        decide ((replica.fatalErr = none ∧ replica.syncing = false ∧ replica.pipeline = []) ∧
          replica.nextTrigger soloVoter = some 2 ∧ replica.commitMin = 2)) = true := by decide +kernel
  obtain ⟨cluster, replica, hreached, hnode, hshows⟩ :=
    Cluster.running_of_follow (fun _ _ => True) (fun _ _ _ => trivial) hfinds
  exact ⟨cluster, replica, hreached, hnode, of_decide_eq_true hshows⟩

end Cluster

end Supervsr
