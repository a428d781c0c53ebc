import Supervsr.ReplicaRank
import Supervsr.SmallCluster

/-
# Supervsr.GaplessRun — every executed op is the next one, unless a member restarts in front of a gap

`finishCommit` takes the first pipeline entry for the next op.  In a calm run that is so as long as no member
is opened with faulty slots in front of a log it still reports: such a member starts with an empty pipeline
and a head above what it has executed, finds that head in a `View`, and goes on behind it.
-/

namespace Supervsr

open Transition

variable {χ : Type} [DecidableEq χ] [Checksums χ] {cfg : Config} {given : Surroundings χ}

variable {inputs : Inputs χ} {cluster : Cluster χ} {index : Nat}

variable {replica next : Replica χ} {durable : Durable χ}

namespace Replica

/-- What is executed is always the next op. -/
structure Stepwise (replica : Replica χ) : Prop where
  executing : ∀ entry ∈ replica.pipeline.head?, entry.stage = .execute →
    entry.header.op = replica.commitMin + 1
  executed : ∀ execution ∈ replica.durable.executed, execution.live = true →
    execution.header.op = execution.before + 1

section

omit [DecidableEq χ] [Checksums χ]

section

variable (stepwise : replica.Stepwise) (executed : next.durable.executed = replica.durable.executed)

include stepwise executed

theorem Stepwise.frame (commitMin : next.commitMin = replica.commitMin)
    (pipeline : next.pipeline.map PipelineEntry.outline = replica.pipeline.map PipelineEntry.outline) :
    next.Stepwise := by
  refine ⟨?_, by rw [executed]; exact stepwise.executed⟩
  intro entry hentry hstage
  have hhead : next.pipeline.head?.map PipelineEntry.outline =
      replica.pipeline.head?.map PipelineEntry.outline := by
    rw [← List.head?_map, pipeline, List.head?_map]
  rw [show next.pipeline.head? = some entry from hentry, Option.map_some] at hhead
  obtain ⟨old, hold, hsame⟩ := Option.map_eq_some_iff.mp hhead.symm
  have hop : old.header.op = entry.header.op := congrArg Prod.fst hsame
  rw [commitMin, ← hop]
  exact stepwise.executing old hold ((congrArg Prod.snd hsame).trans hstage)

theorem Stepwise.of_not_executing (waits : ∀ entry ∈ next.pipeline.head?, entry.stage ≠ .execute) : next.Stepwise := by
  refine ⟨fun entry hentry h => absurd h (waits entry hentry), ?_⟩
  rw [executed]
  exact stepwise.executed

theorem Stepwise.of_idle (idle : ∀ entry ∈ next.pipeline, entry.stage = .idle) : next.Stepwise := by
  refine stepwise.of_not_executing executed fun entry hentry h => ?_
  rw [idle entry (List.mem_of_mem_head? hentry)] at h
  cases h

end

/-- The first entry is executed as the next op. -/
theorem Stepwise.commit (stepwise : replica.Stepwise) {header : Header χ}
    (executed : next.durable.executed = ⟨replica.commitMin, header, true⟩ :: replica.durable.executed)
    (follows : header.op = replica.commitMin + 1)
    (waits : ∀ entry ∈ next.pipeline.head?, entry.stage ≠ .execute) : next.Stepwise := by
  refine ⟨fun entry hentry h => absurd h (waits entry hentry), ?_⟩
  rw [executed]
  intro execution hexecution hlive
  obtain rfl | hexecution := List.mem_cons.mp hexecution
  · exact follows
  · exact stepwise.executed execution hexecution hlive

/-- Nothing is being executed behind the first entry. -/
theorem Owned.idle_of_tail (owned : replica.Owned)
    (tail : next.pipeline.map PipelineEntry.unacknowledged =
      replica.pipeline.tail.map PipelineEntry.unacknowledged) :
    ∀ entry ∈ next.pipeline, entry.stage = .idle := by
  intro entry hentry
  obtain ⟨old, hold, hsame⟩ : ∃ old ∈ replica.pipeline.tail, old.unacknowledged = entry.unacknowledged := by
    rw [← List.mem_map, ← tail]
    exact List.mem_map_of_mem hentry
  exact (PipelineEntry.mk.inj hsame).2.2.2.2.2.2.2 ▸ owned.rest old hold

end

/-- An interrupted replay adds what it has replayed to the record. -/
theorem replayInterrupted_executed (replica : Replica χ) (cfg : Config) :
    ∃ headers, (replica.replayInterrupted cfg).1.durable.executed =
      replayExecutions replica.checkpointOp headers replica.durable.executed := by
  unfold replayInterrupted
  split
  · simp only
    split
    · exact ⟨_, rfl⟩
    unfold adoptReplay
    split
    · exact ⟨_, rfl⟩
    simp only
    split
    · exact ⟨_, rfl⟩
    split
    · exact ⟨_, rfl⟩
    · rename_i hloaded
      obtain ⟨entries, _, _, _, -, rfl⟩ := loadOpenSuffix_eq_ok hloaded
      exact ⟨_, rfl⟩
  · exact ⟨[], rfl⟩

section

omit [DecidableEq χ] [Checksums χ]

theorem sound_of_mayCommit (may : replica.mayCommit inputs = true) : replica.fatalErr = none := by
  simp only [mayCommit, decide_eq_true_eq, Option.isNone_iff_eq_none] at may
  exact may.2.2.2

/-- A first entry that may be committed holds the next op. -/
theorem next_of_mayCommit (coherent : replica.fatalErr = none → replica.Coherent cfg) (calm : replica.Calm)
    {entry : PipelineEntry χ} {rest : List (PipelineEntry χ)} (first : replica.pipeline = entry :: rest)
    (may : replica.mayCommit inputs = true) (waits : entry.stage.maintains = false) :
    entry.header.op = replica.commitMin + 1 := by
  have hgapless := (coherent (sound_of_mayCommit may)).unsynced (calm.idle_of_mayCommit may)
  rw [first] at hgapless
  exact hgapless.first_next waits

end

/-- Every move of a calm run executes the next op or none. -/
theorem Stepwise.move (stepwise : replica.Stepwise) (coherent : replica.fatalErr = none → replica.Coherent cfg)
    (calm : replica.Calm) (owned : replica.Owned) (phase : Phase cfg replica)
    (move : Move cfg given replica next) : next.Stepwise := by
  have hbegun : ∀ {other : Replica χ} (inputs : Inputs χ) (target : Nat), other.Stepwise →
      (other.beginViewChangeNow cfg inputs target).Stepwise := by
    intro other inputs target hother
    refine hother.frame ?_ ?_ (by rw [beginViewChangeNow_pipeline, List.map_map]; rfl)
    · obtain ⟨err, h⟩ | ⟨-, h⟩ := other.beginViewChangeNow_cases cfg inputs target <;> rw [h] <;> rfl
    · obtain ⟨err, h⟩ | ⟨-, h⟩ := other.beginViewChangeNow_cases cfg inputs target <;> rw [h] <;> rfl
  cases move with
  | @progress entry rest stage first waits ready ahead =>
    refine ⟨?_, stepwise.executed⟩
    rw [setStage_pipeline first]
    rintro _ ⟨⟩ hstage
    have hstage : stage = .execute := hstage
    obtain ⟨-, h⟩ | ⟨⟨inputs, hmay⟩, -⟩ := ready
    · rw [h] at hstage
      cases hstage
    · show entry.header.op = _
      refine next_of_mayCommit coherent calm first hmay ?_
      obtain h | h | h | h | h | h := waits <;> rw [h] <;> rfl
  | @submitReply _ _ _ entry rest first waits ready submitted =>
    obtain ⟨rfl, rfl⟩ := submit_eq_ok submitted
    obtain ⟨⟨inputs, hmay⟩, -⟩ := ready
    have hpipeline := executing_pipeline first replica.nextHandle
    refine ⟨?_, stepwise.executed⟩
    show ∀ entry ∈ ((replica.setStage .execute).pipeline.modify 0
      fun entry => { entry with io := some replica.nextHandle }).head?, _
    rw [hpipeline]
    rintro _ ⟨⟩ -
    show entry.header.op = _
    refine next_of_mayCommit coherent calm first hmay ?_
    obtain h | h := waits <;> rw [h] <;> rfl
  | @commit entry rest stage first waits ready maintains =>
    obtain ⟨⟨inputs, hmay⟩, -⟩ := ready
    have hpipeline := executed_pipeline first stage
    refine stepwise.commit rfl (next_of_mayCommit coherent calm first hmay ?_) ?_
    · obtain h | h := waits <;> rw [h] <;> rfl
    rw [hpipeline]
    rintro _ ⟨⟩ (h : stage = _)
    rw [h] at maintains
    simp at maintains
  | @replyWritten handle entry rest stage done first owner executing maintains =>
    have hpipeline := replied_pipeline first handle stage
    refine stepwise.commit rfl (stepwise.executing entry (by rw [first]; rfl) executing) ?_
    rw [hpipeline]
    rintro _ ⟨⟩ (h : stage = _)
    rw [h] at maintains
    simp at maintains
  | @checkpointData entry rest target first maintains =>
    have hpipeline := checkpointData_pipeline first target
    refine stepwise.of_not_executing rfl ?_
    rw [hpipeline]
    rintro _ ⟨⟩ h
    cases h
  | @submitCheckpoint _ _ _ checkpoint entry rest first data built undrained submitted =>
    obtain ⟨rfl, rfl⟩ := submit_eq_ok submitted
    refine stepwise.of_not_executing rfl ?_
    show ∀ entry ∈ (replica.pipeline.modify 0 _).head?, _
    rw [first]
    rintro _ ⟨⟩ h
    cases h
  | @accept _ inputs header normal durable current source accepted =>
    obtain ⟨-, -, -, -, -, rfl⟩ := acceptPrepare_eq_some accepted
    refine ⟨?_, stepwise.executed⟩
    intro entry hentry hstage
    rw [List.head?_append] at hentry
    cases hfirst : replica.pipeline.head? with
    | none =>
      rw [hfirst] at hentry
      cases hentry
      cases hstage
    | some first =>
      rw [hfirst] at hentry
      cases hentry
      exact stepwise.executing _ hfirst hstage
  | announce destination nonce =>
    obtain ⟨headers, h⟩ := replica.buildView_cases cfg nonce
    rw [h]
    exact stepwise.frame rfl rfl rfl
  | acks same => exact stepwise.frame rfl rfl (outline_of_unacknowledged same)
  | beginViewChange inputs => exact hbegun inputs _ stepwise
  | resume inputs =>
    have hcleared : Stepwise { replica with pendingView := 0 } := stepwise.frame rfl rfl rfl
    exact hbegun inputs _ hcleared
  | @viewPersistedOnward inputs handle =>
    have hcleared : Stepwise { replica.releaseIo handle with
      viewIo := none, durableView := replica.view, pendingView := 0 } := stepwise.frame rfl rfl rfl
    exact hbegun inputs _ hcleared
  | @yield inputs entry rest first maintains unsubmitted higher =>
    refine stepwise.of_idle ?_ fun other hother => ?_
    · obtain ⟨err, h⟩ | ⟨-, h⟩ := Replica.beginViewChangeNow_cases
        ({ replica with pendingView := 0, checkpointTarget := 0, pendingCheckpoint := none }.setStage .idle) cfg
        inputs replica.pendingView <;> rw [h] <;> rfl
    · refine owned.idle_of_tail ?_ other hother
      rw [beginViewChangeNow_tail]
      simp [Replica.setStage, modifyEntry, first]
  | @yieldPublished inputs entry rest first persisted free published higher =>
    refine stepwise.of_idle ?_ fun other hother => ?_
    · obtain ⟨err, h⟩ | ⟨-, h⟩ := Replica.beginViewChangeNow_cases { replica with pendingView := 0 } cfg inputs
        replica.pendingView <;> rw [h] <;> rfl
    · refine owned.idle_of_tail ?_ other hother
      rw [beginViewChangeNow_tail]
  | pop first => exact stepwise.of_idle rfl owned.rest
  | windowHeaders =>
    obtain ⟨_, _, _, _, h⟩ := replica.handleRepairWindowHeaders_frame cfg _ _
    rw [h]
    exact stepwise.frame rfl rfl rfl
  | repairAppend heard repaired =>
    obtain ⟨-, -, -, -, -, -, rfl⟩ := handleRepairPrepare_eq_some repaired
    exact stepwise.frame rfl rfl rfl
  | rebuild installing named unbuilt written idle quiet rebuilt =>
    have hidle : ∀ {entries : List (PipelineEntry χ)}, (∀ entry ∈ entries, Repaired entry) →
        ∀ entry ∈ replica.pipelineThrough replica.repairViewAncestor ++ entries, entry.stage = .idle := by
      intro entries hentries entry hentry
      obtain hentry | hentry := List.mem_append.mp hentry
      · exact (quiet entry ((replica.pipelineThrough_initial _).subset hentry)).2
      · exact (hentries entry hentry).2.1
    obtain rfl | ⟨entries, _, _, _, _, hentries, rfl | rfl⟩ := rebuilt_cases rebuilt
    · exact stepwise
    · exact stepwise.of_idle rfl (hidle hentries)
    · refine stepwise.of_idle rfl fun entry hentry => ?_
      obtain ⟨old, hold, rfl⟩ := List.mem_map.mp hentry
      exact hidle hentries old hold
  | persistInstall installing rebuilt committed quiet persisted =>
    obtain ⟨-, -, -, rfl⟩ := persistView_eq_ok persisted
    exact stepwise.frame rfl rfl rfl
  | perform handle =>
    obtain h | ⟨_, -, -, -, _, _, _, _, -, h⟩ := replica.perform_cases cfg handle <;> rw [h] <;>
      exact stepwise.frame rfl rfl rfl
  | viewInstalled =>
    exact stepwise.frame rfl rfl rfl
  | clearEntry =>
    exact stepwise.frame rfl rfl
      (outline_modify (f := fun entry => { entry with io := none }) (fun _ => rfl) _)
  | appended =>
    exact stepwise.frame rfl rfl
      ((outline_modify (f := fun entry => { entry with durable := true }) (fun _ => rfl) _).trans
        (outline_modify (f := fun entry => { entry with io := none }) (fun _ => rfl) _))
  | submitSync free kind submitted =>
    obtain ⟨rfl, rfl⟩ := submit_eq_ok submitted
    exact stepwise.frame rfl rfl rfl
  | startReset inputs =>
    unfold startStateSyncReset
    split <;> exact stepwise.frame rfl rfl rfl
  | releaseFrames => exact stepwise.of_idle rfl fun _ h => absurd h List.not_mem_nil
  | installCheckpoint stage second =>
    refine stepwise.of_idle rfl fun entry hentry => ?_
    rw [show replica.installStateSyncCheckpoint.pipeline = replica.pipeline from rfl,
      phase.vacated (by simp [vacant, stage, second])] at hentry
    cases hentry
  | replay =>
    obtain ⟨headers, hexecuted⟩ := replica.replayInterrupted_executed cfg
    refine ⟨?_, ?_⟩
    · obtain h | ⟨hrunning, -⟩ := replica.replayInterrupted_cases cfg
      · rw [h]
        exact stepwise.executing
      obtain ⟨_, _, _, _, _, _, _, _, _, _, _, _, _, _, _, _, h, -, -, entries, hpipeline, hentries⟩ :=
        replica.replayInterrupted_frame cfg
      have hempty : replica.pipeline = [] := phase.vacated (vacant_of_synced (by simp [synced, hrunning]))
      intro entry hentry hstage
      rw [h, hpipeline, hempty, List.nil_append] at hentry
      rw [(hentries entry (List.mem_of_mem_head? hentry)).2.1] at hstage
      cases hstage
    · rw [hexecuted]
      exact fun execution hexecution hlive =>
        stepwise.executed execution (live_of_mem_replayExecutions hexecution hlive) hlive
  | _ => exact stepwise.frame rfl rfl rfl

end Replica

/-! ## Opening -/

/-- Whether a member is opened in front of a gap: slots of its journal are faulty, so nothing is loaded, and
its head lies above its checkpoint all the same. -/
def Durable.gapped (durable : Durable χ) (cfg : Config) : Bool :=
  match durable.recovery cfg with
  | .error _ => false
  | .ok (_, recovery) =>
    ¬ durable.resumes ∧ recovery.faultySlots ≠ 0 ∧ durable.superblock.state.checkpoint.prepareOp <
      max recovery.headOp durable.superblock.state.commitMax

theorem Opened.labelled (opened : Opened cfg durable replica) : replica.wal.Labelled cfg.cluster := by
  cases opened with
  | resumed recovered resumes checked resumed =>
    obtain ⟨prepareMax, -, hrecovered, -⟩ := recovered_of_recover recovered
    obtain rfl := eq_of_ite_error resumed
    exact hrecovered.labelled
  | restarted generation recovered =>
    obtain ⟨prepareMax, -, hrecovered, -⟩ := recovered_of_recover recovered
    exact hrecovered.labelled

omit [DecidableEq χ] in
/-- A replica that has just been built is in line with a log that is. -/
theorem Replica.Coherent.initial {initial : InitialState χ} {wal : WAL χ} {sessionOp headOp generation : Nat}
    {headChecksum : χ} {entries : List (PipelineEntry χ)}
    (checkpointed : initial.checkpoint.prepareOp ≤ initial.commitMin) (room : entries.length ≤ cfg.pipelineMax)
    (idle : ∀ entry ∈ entries, entry.stage = .idle) (gapless : Gapless initial.commitMin headOp entries) :
    Replica.Coherent cfg { Replica.initial cfg initial durable wal sessionOp with
      pipeline := entries, generation := generation, headOp := headOp, headChecksum := headChecksum } where
  sized := List.length_replicate
  framed := List.length_replicate
  room := room
  log := .inl gapless
  checkpointed := checkpointed
  targets := targets_of_idle idle
  window := fun h => by cases h
  suffix := fun h => by cases h
  sync := fun h => by cases h
  level := fun h => by cases h

theorem Opened.coherent (opened : Opened cfg durable replica) (whole : durable.gapped cfg = false) :
    replica.Coherent cfg := by
  cases opened with
  | resumed recovered resumes checked resumed =>
    obtain rfl := eq_of_ite_error resumed
    exact {
      sized := List.length_replicate
      framed := List.length_replicate
      room := Nat.zero_le _
      log := .inl (.nil _)
      checkpointed := Nat.le_refl _
      targets := fun _ h => (by cases h)
      window := fun h => by cases h
      suffix := fun h => by cases h
      sync := fun _ h => by cases h
      level := fun _ h => by cases h }
  | @restarted wal recovery replayed initial superblock entries headOp headChecksum generation
      recovered fresh replays complete derived checked loads =>
    obtain ⟨status, hstatus, hcommit, -, hplaced⟩ := deriveInitialState_eq_ok derived
    simp only [Replica.validSnapshot, decide_eq_true_eq] at checked
    obtain ⟨-, -, -, hcheckpointed, hcommitted, -⟩ := checked
    have hcheckpointed : initial.checkpoint.prepareOp ≤ initial.commitMin := hcheckpointed
    have hcommitted : initial.commitMin ≤ initial.headOp := hcommitted
    refine .initial hcheckpointed loads.room (fun entry hentry => (loads.idle entry hentry).2.1) ?_
    by_cases hfaulty : recovery.faultySlots = 0
    · -- the head is trusted, and the log is loaded up to it
      have hhead : initial.headOp = initial.commitMin := by
        rw [hplaced, hcommit]
        exact if_neg ((Replica.deriveRecoveredStatus_eq_ok hstatus).2.2.1 hfaulty)
      refine .of_reads (fun entry hentry => (loads.idle entry hentry).2.1) (loads.reads hfaulty) ?_
      rw [(loads.head hfaulty).1, hhead]
    · -- nothing is loaded, and the head lies at the checkpoint
      obtain ⟨rfl, rfl, -⟩ := loads.faulty hfaulty
      have hlow : max recovery.headOp durable.superblock.state.commitMax ≤
          durable.superblock.state.checkpoint.prepareOp := by
        simp only [Durable.gapped, recovered, fresh, decide_eq_false_iff_not, not_and, Nat.not_lt] at whole
        exact whole (by decide) hfaulty
      have hreplayed : replayed.commitMin = durable.superblock.state.checkpoint.prepareOp := by
        rw [Durable.openReplay, if_pos hfaulty] at replays
        cases replays
        rfl
      have hlevel : initial.headOp = initial.commitMin := by
        refine Nat.le_antisymm ?_ hcommitted
        rw [deriveRecoveredStatus, if_pos hfaulty] at hstatus
        cases hstatus
        rw [hplaced, hcommit]
        show max recovery.headOp (durable.openSuperblock cfg recovery).state.commitMax ≤ replayed.commitMin
        rw [hreplayed, Durable.openSuperblock, if_neg fun h => hfaulty h.2]
        exact hlow
      rw [hlevel]
      exact .nil _

theorem Opened.stepwise (opened : Opened cfg durable replica)
    (executed : ∀ execution ∈ durable.executed, execution.live = true →
      execution.header.op = execution.before + 1) : replica.Stepwise := by
  cases opened with
  | resumed recovered resumes checked resumed =>
    obtain rfl := eq_of_ite_error resumed
    exact ⟨fun _ h => (by cases h), executed⟩
  | restarted generation recovered fresh replays complete derived checked loads =>
    refine ⟨?_, fun execution hexecution hlive => ?_⟩
    · intro entry hentry hstage
      rw [(loads.idle entry (List.mem_of_mem_head? hentry)).2.1] at hstage
      cases hstage
    · exact executed execution (live_of_mem_replayExecutions hexecution hlive) hlive

/-! ## Every calm run -/

/-- Every `View` among these frames names the whole log behind a near checkpoint, and what is said as the
primary of a view is said by the primary of that view. -/
def Announced (cfg : Config) (sent : List (Packet χ)) : Prop :=
  ∀ packet ∈ sent, (∀ view, packet.message = .view view → view.Complete cfg.pipelineMax) ∧
    ∀ view ∈ packet.message.led, cfg.primary view = cfg.localIndex

theorem Announced.move (announced : Announced cfg replica.durable.sent)
    (move : Replica.Move cfg given replica next) : Announced cfg next.durable.sent := by
  obtain h | ⟨packet, h, hsays⟩ := move.effects.sent
  · rw [h]
    exact announced
  rw [h]
  intro other hother
  obtain rfl | hother := List.mem_cons.mp hother
  · obtain hsays | ⟨nonce, hnonce, hprimary⟩ := hsays
    · obtain ⟨destination, message⟩ := other
      cases message with
      | view view => exact hsays.elim
      | commit =>
        obtain ⟨-, hprimary, rfl, -⟩ := hsays
        refine ⟨fun _ h => (by cases h), fun view hview => ?_⟩
        cases hview
        exact of_decide_eq_true hprimary
      | _ => exact ⟨fun _ h => (by cases h), fun _ h => by cases h⟩
    · rw [hnonce]
      refine ⟨fun view hview => ?_, fun view hview => ?_⟩
      · cases hview
        exact replica.buildView_complete nonce
      cases hview
      obtain ⟨headers, hbuilt⟩ := replica.buildView_cases cfg nonce
      show cfg.primary (replica.buildView cfg nonce).1.view = cfg.localIndex
      rw [hbuilt]
      exact of_decide_eq_true hprimary
  · exact announced other hother

/-- What is known of the storage of a member whose log has no gaps. -/
structure Durable.Whole (cfg : Config) (durable : Durable χ) : Prop where
  sound : durable.Sound cfg
  stored : durable.Stored cfg
  announced : Announced cfg durable.sent
  executed : ∀ execution ∈ durable.executed, execution.live = true →
    execution.header.op = execution.before + 1

/-- What is known of a member that is up and whose log has no gaps. -/
structure Replica.Whole (cfg : Config) (replica : Replica χ) : Prop where
  sound : replica.Sound cfg
  stored : replica.Stored cfg
  announced : Announced cfg replica.durable.sent
  labelled : replica.wal.Labelled cfg.cluster
  calm : replica.Calm
  coherent : replica.fatalErr = none → replica.Coherent cfg
  ordered : replica.fatalErr = none → replica.Ordered cfg
  stepwise : replica.Stepwise

/-- What a frame of another member is known to be: a `View` names the whole log behind a near checkpoint, and
what is said as the primary of a view concerns a view of which this member is not the primary. -/
def Message.Genuine (cfg : Config) (message : Message χ) : Prop :=
  (∀ view, message = .view view → view.author ≠ cfg.localIndex ∧ view.Complete cfg.pipelineMax) ∧
    ∀ view ∈ message.led, cfg.primary view ≠ cfg.localIndex

omit [DecidableEq χ] [Checksums χ] in
theorem Replica.Sound.slots (sound : replica.Sound cfg) : cfg.cluster.journalSlots ≠ 0 := by
  have := (FormatConfig.validated_of_valid sound.valid).journal_ge
  omega

theorem Replica.Whole.move (whole : replica.Whole cfg) (quietly : given.calm)
    (genuine : ∀ message, given.heard message → message.Genuine cfg) (move : Move cfg given replica next) :
    next.Whole cfg where
  sound := whole.sound.move (fun message hheard => ((genuine _ hheard).1 message rfl).1) move
  stored := whole.stored.move move
  announced := whole.announced.move move
  labelled := labelled_move whole.labelled move
  calm := whole.calm.move whole.sound.owned whole.sound.phase quietly move
  coherent := fun hsound => (whole.coherent (move.sound hsound)).move whole.calm whole.sound.owned
    whole.sound.phase whole.labelled whole.sound.slots quietly
    (fun message hheard => ((genuine _ hheard).1 message rfl).2) hsound move
  ordered := fun hsound => (whole.ordered (move.sound hsound)).move (whole.coherent (move.sound hsound))
    whole.calm whole.sound.phase quietly (fun message hheard => (genuine message hheard).2) hsound move
  stepwise := whole.stepwise.move whole.coherent whole.calm whole.sound.owned whole.sound.phase move

theorem Replica.Whole.crash (whole : replica.Whole cfg) (torn : Option Nat) :
    (replica.crash cfg torn).Whole cfg := by
  obtain ⟨hsent, -, hexecuted⟩ := replica.crash_keeps torn
  refine ⟨whole.sound.crash torn, whole.stored.crash torn, ?_, ?_⟩
  · rw [hsent]
    exact whole.announced
  · rw [hexecuted]
    exact whole.stepwise.executed

theorem Opened.whole (opened : Opened cfg durable replica) (whole : durable.Whole cfg)
    (ungapped : durable.gapped cfg = false) (valid : cfg.toFormatConfig.valid = true) : replica.Whole cfg where
  sound := opened.sound whole.sound valid
  stored := opened.stored whole.stored valid
  announced := by
    rw [opened.sent]
    exact whole.announced
  labelled := opened.labelled
  calm := opened.calm
  coherent := fun _ => opened.coherent ungapped
  ordered := fun _ => opened.ordered
  stepwise := opened.stepwise whole.executed

theorem Durable.Whole.reopened {durable left : Durable χ} (whole : durable.Whole cfg)
    (reopened : Durable.Reopened cfg durable left) : left.Whole cfg := by
  refine ⟨whole.sound.reopened reopened, whole.stored.reopened reopened, ?_, ?_⟩
  · rw [reopened.sent]
    exact whole.announced
  · exact fun execution hexecution hlive =>
      whole.executed execution (reopened.executed execution hexecution hlive) hlive

theorem Durable.Whole.damage (whole : durable.Whole cfg) (slot : Nat) (prepare : Bool) :
    Durable.Whole cfg { durable with zones := durable.zones.damage slot prepare } :=
  ⟨⟨whole.sound.authored, whole.sound.solo⟩, ⟨whole.stored.placed.damage slot prepare, whole.stored.accepted⟩,
    whole.announced, whole.executed⟩

theorem Durable.Whole.formatted : (Durable.formatted cfg : Durable χ).Whole cfg :=
  ⟨.formatted, .formatted, fun _ h => absurd h List.not_mem_nil, fun _ h => absurd h List.not_mem_nil⟩

namespace Cluster

/-- What is known of a step in a calm run. -/
def calmRun (cfg : Config) : Surroundings χ where
  heard := Message.Genuine cfg
  calm := True
  unreplying := False
  punctual := False

theorem whole_lasting (cfg : Config) : Lasting cfg (calmRun cfg) True
    (fun durable : Durable χ => durable.gapped cfg = false) (Durable.Whole cfg) (Replica.Whole cfg) where
  attributed := fun whole => whole.calm.attributed whole.sound.owned
  move := fun whole move => whole.move trivial (fun _ hheard => hheard) move
  crash := fun torn whole => whole.crash torn
  opened := fun whole ungapped valid _ opened => opened.whole whole ungapped valid
  reopened := fun whole reopened => whole.reopened reopened
  damaged := fun _ _ slot prepare whole => whole.damage slot prepare

/-- What a member hears in a run in which nothing has a gap. -/
theorem genuine_of_whole {message : Message χ} (length : cluster.nodes.length = cfg.memberCount)
    (whole : ∀ {other : Nat} {member : Node χ}, cluster.nodes[other]? = some member → member.Holds (Durable.Whole
      (cfg.member other)) (Replica.Whole (cfg.member other))) (up : cluster.nodes[index]? = some (.running replica))
    (delivered : cluster.delivers index message = true) : message.Genuine (cfg.member index) := by
  have hvalid : (cfg.member index).toFormatConfig.valid = true := (whole up).sound.valid
  have hinside : index < cfg.memberCount := by
    rw [← length]
    exact (List.getElem?_eq_some_iff.mp up).1
  refine ⟨?_, fun view hview => ?_⟩
  · rintro view rfl
    refine ⟨Cluster.foreign length (fun hmember => ?_) hvalid hinside delivered, ?_⟩
    · exact (whole hmember).durable (fun _ h => h.sound.authored) fun _ h => h.sound.authored
    obtain ⟨sender, other, packet, -, hother, hpacket, hmessage⟩ :=
      cluster.sender_of_delivers delivered fun _ h => by cases h
    exact ((whole hother).durable (fun _ h => h.announced) (fun _ h => h.announced) packet hpacket).1 view
      hmessage
  · obtain ⟨sender, other, packet, hforeign, hother, hpacket, rfl⟩ :=
      cluster.sender_of_delivers delivered fun _ h => by rw [h] at hview; cases hview
    have hled : cfg.primary view = (cfg.member sender).localIndex :=
      ((whole hother).durable (fun _ h => h.announced) (fun _ h => h.announced) packet hpacket).2 view hview
    have hsender : sender < cfg.memberCount := by
      rw [← length]
      exact (List.getElem?_eq_some_iff.mp hother).1
    show cfg.primary view ≠ _
    rw [hled, Config.member_localIndex hvalid hsender, Config.member_localIndex hvalid hinside]
    exact hforeign

/-- Whether a step opens a member in front of a gap of its log. -/
def opensGap (cfg : Config) (cluster : Cluster χ) (step : Nat × NodeAction χ) : Bool :=
  match step.2, cluster.nodes[step.1]? with
  | .open, some (.down durable) => durable.gapped (cfg.member step.1)
  | _, _ => false

/-- A calm step that opens no member in front of a gap. -/
def gaplessly (cfg : Config) (cluster : Cluster χ) (step : Nat × NodeAction χ) : Bool :=
  calmly cfg cluster step && !opensGap cfg cluster step

/-- A member that is reached by calm steps without gaps has none. -/
theorem whole {node : Node χ}
    (reached : Reaches (Cluster.step cfg) (fun cluster step => gaplessly cfg cluster step = true) (.initial cfg)
      cluster) (found : cluster.nodes[index]? = some node) :
    node.Holds (Durable.Whole (cfg.member index)) (Replica.Whole (cfg.member index)) := by
  refine Cluster.invariant (fun index node => node.Holds (Durable.Whole (cfg.member index))
      (Replica.Whole (cfg.member index)))
    (fun _ => .formatted) ?_ reached found
  intro cluster index node next action hlength hall hnode hallowed hadmits hstepped
  obtain ⟨hcalm, hgap⟩ := Bool.and_eq_true_iff.mp hallowed
  refine (whole_lasting (cfg.member index)).step (hall hnode) ?_ (fun _ => trivial) ?_
    (fun h => h.elim) hstepped
  · rintro replica inputs message rfl rfl -
    refine Replica.hears_of_not_crosses (genuine_of_whole hlength hall hnode hadmits) id ?_
    simp only [calmly, hnode, decide_eq_true_eq, Bool.not_eq_true] at hcalm
    exact hcalm
  · rintro durable rfl rfl
    simpa only [opensGap, hnode, Bool.not_eq_true'] using hgap

/-- In every calm run that opens no member in front of a gap, an op is executed only when the one before it
is the last executed, and when the first pipeline entry may be committed the pipeline holds the ops after
the last executed one up to the head, one by one. -/
theorem gapless_execution {cluster : Cluster χ} {index : Nat} {node : Node χ}
    (reached : Reaches (Cluster.step cfg) (fun cluster step => gaplessly cfg cluster step = true)
      (.initial cfg) cluster)
    (found : cluster.nodes[index]? = some node) :
    (∀ execution ∈ node.durable.executed, execution.live = true →
        execution.header.op = execution.before + 1) ∧
      ∀ replica inputs, node = .running replica → replica.mayCommit inputs = true →
        (∀ entry ∈ replica.pipeline.head?, entry.stage = .idle) →
        replica.pipeline.map (fun entry => entry.header.op) =
          List.range' (replica.commitMin + 1) (replica.headOp - replica.commitMin) := by
  have hwhole := whole reached found
  refine ⟨hwhole.durable (fun _ h => h.executed) fun _ h => h.stepwise.executed, ?_⟩
  rintro replica inputs rfl hmay hfirst
  have hup : replica.Whole (cfg.member index) := hwhole
  have hsound := Replica.sound_of_mayCommit hmay
  refine ((hup.coherent hsound).unsynced (hup.calm.idle_of_mayCommit hmay)).ops_of_idle fun entry hentry => ?_
  cases hpipeline : replica.pipeline with
  | nil =>
    rw [hpipeline] at hentry
    cases hentry
  | cons first rest =>
    rw [hpipeline] at hentry
    obtain rfl | hentry := List.mem_cons.mp hentry
    · exact hfirst entry (by rw [hpipeline]; rfl)
    · exact hup.sound.owned.rest entry (by rw [hpipeline]; exact hentry)

theorem gapless_execution_pulses : ∃ (cluster : Cluster Digest) (replica : Replica Digest),
    Reaches (Cluster.step threeMembers) (fun cluster step => gaplessly threeMembers cluster step = true)
        (.initial threeMembers) cluster ∧
      cluster.nodes[1]? = some (.running replica) ∧
      (∃ execution ∈ replica.durable.executed, execution.live = true ∧
        execution.header.op = execution.before + 1) ∧
      replica.pipeline.map (fun entry => entry.header.op) =
        List.range' (replica.commitMin + 1) (replica.headOp - replica.commitMin) := by
  have hfinds : (Cluster.follow threeMembers (gaplessly threeMembers)
      (toNormal ++ onePulse 10 ++ [.round 1 20 (.timer .pulse)])).any
      (fun cluster => (cluster.running? 1).any fun replica =>
        replica.durable.executed.any (fun execution => execution.live) &&
          (replica.mayCommit (.prompt threeMembers 20) &&
            replica.pipeline.head?.any fun entry => entry.stage = .idle)) = true := by decide +kernel
  obtain ⟨cluster, replica, hreached, hnode, hshows⟩ := Cluster.running_of_follow _ (fun _ _ h => h) hfinds
  simp only [Bool.and_eq_true, List.any_eq_true, Option.any_eq_true, decide_eq_true_eq] at hshows
  obtain ⟨⟨execution, hexecution, hlive⟩, hmay, first, hfirst, hidle⟩ := hshows
  obtain ⟨hexecuted, hops⟩ := gapless_execution hreached hnode
  refine ⟨cluster, replica, hreached, hnode, ⟨execution, hexecution, hlive, hexecuted execution hexecution hlive⟩,
    hops replica _ rfl hmay fun entry hentry => ?_⟩
  rw [Option.mem_unique hentry hfirst]
  exact hidle

/-- Three members whose pipelines have room for two ops. -/
def twoInFlight : Config := .small 3 2 32

/-- Op 1 reaches the journal of the third member, which goes down; a header cell of its journal that no op
has used decays, and the member is opened again.  Its head is op 1 and its pipeline is empty, and the `View`
of the primary, whose head is op 1 too, leaves it nothing to rebuild. -/
def gapInstalled : List Direction :=
  toNormal ++
    [.round 1 10 (.receive (.request (.registration 1))), .settle 1 10, .deliver 1 2 0 10, .settle 2 10,
      .act 2 (.crash none), .act 2 (.damage 5 false), .act 2 .open, .round 2 12 (.timer .repair),
      .deliver 2 1 0 12, .deliver 1 2 0 12, .settle 2 12, .settle 2 12]

/-- Op 2 is prepared, and both ops are committed. -/
def gapCommitted : List Direction :=
  gapInstalled ++
    [.round 1 14 (.receive (.request (.registration 2))), .settle 1 14, .deliver 1 2 0 14, .settle 2 14,
      .deliver 2 1 2 16, .settle 1 16, .settle 1 16, .deliver 2 1 0 16, .settle 1 16, .settle 1 16,
      .round 1 16 (.timer .commit), .deliver 1 2 0 16, .settle 2 16]

/-- Op 2 is executed by a member that has not executed op 1. -/
theorem gap_executed : ∃ (cluster : Cluster Digest) (replica : Replica Digest),
    Reaches (Cluster.step twoInFlight) (fun _ _ => True) (.initial twoInFlight) cluster ∧
      cluster.nodes[2]? = some (.running replica) ∧ replica.status = .normal ∧
      ∃ execution, replica.durable.executed = [execution] ∧ execution.live = true ∧
        execution.before = 0 ∧ execution.header.op = 2 := by
  have hfinds : (Cluster.follow twoInFlight (fun _ _ => true) gapCommitted).any (fun cluster =>
      (cluster.running? 2).any fun replica => decide (replica.status = .normal) &&
        decide (replica.durable.executed.map (fun execution =>
          (execution.live, execution.before, execution.header.op)) = [(true, 0, 2)])) = true := by
    decide +kernel
  obtain ⟨cluster, replica, hreached, hnode, hshows⟩ :=
    Cluster.running_of_follow (fun _ _ => True) (fun _ _ _ => trivial) hfinds
  rw [Bool.and_eq_true, decide_eq_true_eq, decide_eq_true_eq, List.map_eq_singleton_iff] at hshows
  obtain ⟨hnormal, execution, hexecuted, hvalues⟩ := hshows
  simp only [Prod.mk.injEq] at hvalues
  exact ⟨cluster, replica, hreached, hnode, hnormal, execution, hexecuted, hvalues⟩

/-- In every calm run that opens no member in front of a gap, `validateReplicaSnapshot` holds of every replica
that has not failed. -/
theorem snapshot_valid {cluster : Cluster χ} {index : Nat} {node : Node χ} {replica : Replica χ}
    (reached : Reaches (Cluster.step cfg) (fun cluster step => gaplessly cfg cluster step = true)
      (.initial cfg) cluster)
    (found : cluster.nodes[index]? = some node) (up : node.replica? = some replica)
    (sound : replica.fatalErr = none) : replica.validSnapshot (cfg.member index) = true := by
  have hwhole := (whole reached found).replica up
  exact (hwhole.ordered sound).validSnapshot (hwhole.coherent sound) hwhole.sound.phase

theorem snapshot_valid_pulses : ∃ (cluster : Cluster Digest) (replica : Replica Digest),
    Reaches (Cluster.step threeMembers) (fun cluster step => gaplessly threeMembers cluster step = true)
        (.initial threeMembers) cluster ∧
      cluster.nodes[1]? = some (.running replica) ∧
      (replica.fatalErr = none ∧ replica.status = .normal ∧ replica.isPrimary (threeMembers.member 1) = true ∧
        replica.pipeline ≠ []) ∧
      replica.validSnapshot (threeMembers.member 1) = true := by
  have hfinds : (Cluster.follow threeMembers (gaplessly threeMembers)
      (toNormal ++ onePulse 10 ++ [.round 1 20 (.timer .pulse)])).any
      (fun cluster => (cluster.running? 1).any fun replica =>
        decide (replica.fatalErr = none ∧ replica.status = .normal ∧
          replica.isPrimary (threeMembers.member 1) = true ∧ replica.pipeline ≠ [])) = true := by decide +kernel
  obtain ⟨cluster, replica, hreached, hnode, hshows⟩ := Cluster.running_of_follow _ (fun _ _ h => h) hfinds
  rw [decide_eq_true_eq] at hshows
  exact ⟨cluster, replica, hreached, hnode, hshows, snapshot_valid hreached hnode rfl hshows.1⟩

/-- The primary restarts, and the member with the gap becomes the primary of view 2. -/
def gapElected : List Direction :=
  gapInstalled ++
    [.act 1 (.crash none), .act 1 .open, .round 1 30 (.timer .join), .deliver 1 2 0 30, .settle 2 30,
      .deliver 1 2 0 30, .settle 2 30]

/-- The replica of a member that its own check has stopped. -/
def tripped? (cfg : Config) (cluster : Cluster Digest) (index : Nat) : Option (Replica Digest) :=
  match cluster.nodes[index]? with
  | some (.stopped replica) =>
    if replica.fatalErr = none ∧ replica.validSnapshot (cfg.member index) = false then some replica else none
  | _ => none

/-- A primary with a gap in its log is stopped by the check although it has not failed. -/
theorem gap_stopped : ∃ (cluster : Cluster Digest) (replica : Replica Digest),
    Reaches (Cluster.step twoInFlight) (fun _ _ => True) (.initial twoInFlight) cluster ∧
      cluster.nodes[2]? = some (.stopped replica) ∧ replica.fatalErr = none ∧
      replica.validSnapshot (twoInFlight.member 2) = false := by
  have hfinds : (Cluster.follow twoInFlight (fun _ _ => true) gapElected).any (fun cluster =>
      (tripped? twoInFlight cluster 2).isSome) = true := by decide +kernel
  obtain ⟨cluster, hreached, hfound⟩ :=
    Cluster.reaches_of_follow (fun _ _ => True) (fun _ _ _ => trivial) hfinds
  obtain ⟨replica, htripped⟩ := Option.isSome_iff_exists.mp hfound
  unfold tripped? at htripped
  split at htripped
  · rename_i stopped hnode
    obtain ⟨htrips, -⟩ := Option.ite_none_right_eq_some.mp htripped
    exact ⟨cluster, stopped, hreached, hnode, htrips⟩
  · cases htripped

end Cluster

end Supervsr
