import Supervsr.ReplicaCoherence

/-
# Supervsr.ReplicaRank — views, commit bounds and who is primary

`validateReplicaSnapshot` compares the view of a replica with the views on its storage and in its log, and
its executed ops with the commit bound it has learned; a normal primary has learned nothing it has not
executed.  These are kept up by what a replica waits for: the headers of a view, the superblock that records
it, the checkpoint of another member.  Only the primary of a view announces it or its commits, so what a
replica hears of a view is said about a view of which it is not the primary.
-/

namespace Supervsr

open Transition

variable {χ : Type} [DecidableEq χ] [Checksums χ] {cfg : Config} {given : Surroundings χ}

variable {target : Nat} {cluster : ClusterConfig} {zones : WALZones χ}

/-- The view of which a frame comes from the primary. -/
def Message.led : Message χ → Option Nat
  | .view message => some message.view
  | .commit current _ _ _ _ _ _ => some current
  | _ => none

/-- What the views and commit bounds of a replica depend on. -/
structure Rank (χ : Type) where
  status : Status
  view : Nat
  durableView : Nat
  logView : Nat
  commitMin : Nat
  commitMax : Nat
  valid : Bool
  rebuilt : Bool
  repairView : Nat
  repairCommit : Nat
  installs : Bool
  viewCommit : Nat
  syncing : Bool
  synced : Bool
  resumes : Bool
  syncView : Nat
  syncOp : Nat
  syncCommit : Nat
  recovered : Option (Superblock χ)

def Replica.rank (replica : Replica χ) : Rank χ where
  status := replica.status
  view := replica.view
  durableView := replica.durableView
  logView := replica.logView
  commitMin := replica.commitMin
  commitMax := replica.commitMax
  valid := replica.repairViewValid
  rebuilt := replica.repairViewRebuilt
  repairView := replica.repairView
  repairCommit := replica.repairViewCommit
  installs := replica.viewIo.isSome && replica.viewInstall
  viewCommit := replica.viewCommit
  syncing := replica.syncing
  synced := replica.synced
  resumes := replica.stateSync.resumeRecovery
  syncView := replica.stateSync.view
  syncOp := replica.stateSync.checkpoint.prepareOp
  syncCommit := replica.stateSync.commit
  recovered := replica.stateSync.recoveryState

/-- The views and commit bounds of a replica are in order. -/
structure Rank.Ordered (cfg : Config) (rank : Rank χ) : Prop where
  durable : rank.durableView ≤ rank.view
  logged : rank.logView ≤ rank.view
  normal : rank.status = .normal → (rank.view = rank.logView ∧ rank.view = rank.durableView) ∧
    (cfg.primary rank.view = cfg.localIndex → rank.commitMax ≤ rank.commitMin)
  committed : rank.commitMin ≤ rank.commitMax
  /-- a view that is being installed is another member's, or it was selected here -/
  installing : rank.valid = true → (cfg.primary rank.repairView ≠ cfg.localIndex ∨
    (rank.repairView = rank.view ∧ rank.commitMax ≤ max rank.repairCommit rank.commitMin)) ∧
    (rank.rebuilt = true → rank.view = rank.repairView)
  persisting : rank.installs = true → rank.viewCommit ≤ rank.commitMin ∧
    (cfg.primary rank.view = cfg.localIndex → rank.commitMax ≤ rank.commitMin)
  syncing : rank.syncing = true → rank.resumes = false →
    cfg.primary rank.syncView ≠ cfg.localIndex ∧ rank.syncOp ≤ rank.syncCommit
  synced : rank.synced = true → rank.resumes = false →
    rank.view = rank.syncView ∧ rank.view = rank.logView ∧ rank.view = rank.durableView
  recovered : ∀ superblock ∈ rank.recovered, superblock.state.logView ≤ superblock.state.view

/-! ## Ways to keep it -/

namespace Replica

/-- A replica whose views and commit bounds are in order. -/
def Ordered (cfg : Config) (replica : Replica χ) : Prop := replica.rank.Ordered cfg

variable {replica next : Replica χ}

section

omit [DecidableEq χ] [Checksums χ]

theorem Ordered.frame (ordered : replica.Ordered cfg) (rank : next.rank = replica.rank) : next.Ordered cfg := by
  unfold Ordered
  rw [rank]
  exact ordered

theorem not_synced_of_idle (idle : replica.syncing = false) : replica.synced = false := by
  rw [← Bool.not_eq_true]
  intro h
  rw [syncing_of_synced h] at idle
  cases idle

/-- Nothing is installed by a replica without a superblock of a view on its way. -/
theorem not_installs_of_free (free : replica.viewIo = none) : replica.rank.installs = false := by
  show (replica.viewIo.isSome && replica.viewInstall) = false
  rw [free]
  rfl

theorem Phase.not_installs_of_normal (phase : Phase cfg replica) (normal : replica.status = .normal) :
    replica.rank.installs = false := by
  rw [← Bool.not_eq_true]
  intro h
  obtain ⟨hview, hinstall⟩ := Bool.and_eq_true_iff.mp h
  exact (phase.persisting (Option.isSome_iff_ne_none.mp hview) hinstall).1 normal

end

omit [DecidableEq χ] in
/-- A view change raises the view and nothing that was learned in it. -/
theorem Ordered.beginViewChangeNow (ordered : replica.Ordered cfg) (inputs : Inputs χ)
    (higher : replica.view < target) (uninstalled : replica.repairViewValid = false)
    (idle : replica.syncing = false) (sound : (replica.beginViewChangeNow cfg inputs target).fatalErr = none) :
    (replica.beginViewChangeNow cfg inputs target).Ordered cfg := by
  obtain ⟨err, h⟩ | ⟨-, h⟩ := replica.beginViewChangeNow_cases cfg inputs target
  · rw [h] at sound
    exact absurd sound (fail_fatalErr _ err)
  rw [h]
  exact { ordered with
    durable := Nat.le_trans ordered.durable (Nat.le_of_lt higher)
    logged := Nat.le_trans ordered.logged (Nat.le_of_lt higher)
    normal := fun h => by cases h
    installing := fun h => absurd (h.symm.trans uninstalled) (by decide)
    persisting := fun h => by cases h
    synced := fun h => absurd (h.symm.trans (not_synced_of_idle idle)) (by decide) }

section

omit [DecidableEq χ] [Checksums χ]

/-- The next op is executed. -/
theorem Ordered.execute (ordered : replica.Ordered cfg) {op : Nat}
    (ahead : op = replica.commitMin + 1)
    (rank : next.rank = { replica.rank with commitMin := op, commitMax := max replica.commitMax op })
    (free : replica.viewIo = none) : next.Ordered cfg := by
  have hcommitted : replica.commitMin ≤ replica.commitMax := ordered.committed
  unfold Ordered
  rw [rank]
  refine { ordered with committed := Nat.le_max_right _ _, normal := ?_, installing := ?_, persisting := ?_ }
  · refine fun hnormal => (ordered.normal hnormal).imp_right fun hlevel hprimary => ?_
    have hlevel : replica.commitMax ≤ replica.commitMin := hlevel hprimary
    show max replica.commitMax op ≤ op
    omega
  · intro hvalid
    refine (ordered.installing hvalid).imp_left fun h => h.imp_right fun ⟨hview, hbound⟩ => ⟨hview, ?_⟩
    have hbound : replica.commitMax ≤ max replica.repairViewCommit replica.commitMin := hbound
    show max replica.commitMax op ≤ max replica.repairViewCommit op
    omega
  · exact fun h => absurd (h.symm.trans (not_installs_of_free free)) (by decide)

/-- A repair window is opened for a view of which the replica is not the primary. -/
theorem Ordered.openWindow (ordered : replica.Ordered cfg) {view : Nat} (commit windowHead : Nat)
    (foreign : cfg.primary view ≠ cfg.localIndex) (uninstalled : replica.rank.installs = false) :
    (replica.openWindow cfg view commit windowHead).Ordered cfg :=
  { ordered with
    normal := fun h => by cases h
    committed := Nat.le_trans ordered.committed (Nat.le_max_left _ _)
    installing := fun _ => ⟨.inl foreign, nofun⟩
    persisting := fun h => absurd (h.symm.trans uninstalled) (by decide) }

/-- A state sync is over. -/
theorem Ordered.wake (ordered : replica.Ordered cfg) (idle : next.syncing = false)
    (status : next.status ≠ .normal)
    (rank : next.rank = { replica.rank with
      status := next.status, syncing := next.syncing, synced := next.synced
      resumes := next.stateSync.resumeRecovery }) : next.Ordered cfg := by
  unfold Ordered
  rw [rank]
  exact { ordered with
    normal := fun h => absurd h status
    syncing := fun h => absurd (h.symm.trans idle) (by decide)
    synced := fun h => absurd (h.symm.trans (not_synced_of_idle idle)) (by decide) }

end

/-- A restart that had to wait for its checkpoint goes on with what it recovered. -/
theorem Ordered.replay (ordered : replica.Ordered cfg) (phase : Phase cfg replica) (calm : replica.Calm)
    (sound : (replica.replayInterrupted cfg).1.fatalErr = none) :
    (replica.replayInterrupted cfg).1.Ordered cfg := by
  obtain h | h | ⟨durable, hdurable, recovery, hrecovery, status, superblock, committed, loaded, hrunning,
    houtcome, hderived, -, hloaded, hadopted⟩ := replica.replayInterrupted_adopts cfg
  · rw [h]
    exact ordered
  · exact absurd sound h
  have hsyncing : replica.syncing = true := by simp [syncing, hrunning]
  obtain ⟨-, ⟨-, hview⟩, -, hrecovered⟩ := deriveRecoveredStatus_eq_ok hderived
  obtain ⟨hlogged, hnormal⟩ := hrecovered (ordered.recovered durable hdurable)
  have hbackup : status.status = .normal → cfg.primary status.view ≠ cfg.localIndex := by
    intro hstatus
    refine (hnormal hstatus).2.elim (fun hsolo hprimary => ?_) id
    rw [cfg.primary_of_solo hsolo] at hprimary
    exact (phase.asleep hsyncing).2.2.2.2 hsolo hprimary.symm
  have huninstalled : replica.repairViewValid = false := phase.uninstalled hsyncing
  obtain ⟨⟨hidle, hwaits⟩, -⟩ := phase.replaying hrunning
  obtain ⟨entries, generation, headOp, headChecksum, -, rfl⟩ := loadOpenSuffix_eq_ok hloaded
  rw [hadopted]
  exact {
    durable := Nat.le_of_eq hview
    logged := hlogged
    normal := fun h => ⟨⟨(hnormal h).1, hview.symm⟩, fun hprimary => absurd hprimary (hbackup h)⟩
    committed := ((replayCommitted_commitMin _ _ _ _).2 houtcome).le
    installing := fun h => absurd (h.symm.trans huninstalled) (by decide)
    persisting := fun h => absurd (h.symm.trans (not_installs_of_free (calm.free hsyncing))) (by decide)
    syncing := fun h => not_syncing h hidle hwaits rfl
    synced := fun h => not_syncing (syncing_of_synced h) hidle hwaits rfl
    recovered := fun _ h => by cases h }

/-! ## Every move keeps it -/

omit [DecidableEq χ] [Checksums χ] in
theorem Ordered.opened (ordered : replica.Ordered cfg) (phase : Phase cfg replica)
    (answered : replica.stateSync.completion = some .openState) :
    replica.syncing = true ∧ replica.openedSync.Ordered cfg := by
  have hsyncing := syncing_of_synced ((phase.opens answered).1)
  exact ⟨hsyncing, ordered.wake (phase.opened_idle answered) (phase.asleep hsyncing).1 rfl⟩

theorem Ordered.move (ordered : replica.Ordered cfg) (coherent : replica.Coherent cfg) (calm : replica.Calm)
    (phase : Phase cfg replica) (quietly : given.calm)
    (foreign : ∀ message, given.heard message → ∀ view ∈ message.led, cfg.primary view ≠ cfg.localIndex)
    (sound : next.fatalErr = none) (move : Move cfg given replica next) : next.Ordered cfg := by
  have hsound := move.sound sound
  -- a first entry that is not behind its commit holds the next op
  have hnext : ∀ {entry : PipelineEntry χ} {rest : List (PipelineEntry χ)}, replica.pipeline = entry :: rest →
      entry.stage.maintains = false → entry.header.op = replica.commitMin + 1 := by
    intro entry rest hfirst hwaits
    have hgapless := Ledger.Coherent.gapless coherent (.inl (by rw [hfirst]; exact List.cons_ne_nil _ _))
    rw [hfirst] at hgapless
    exact hgapless.first_next hwaits
  cases move with
  | quiet | send | acks | pend | settle | join | progress | session | checkpointData | drain |
      publish | pop | overwriteHeaders | wantHeader | drop | clearSync | clearRepair | clearEntry | syncPersisted |
      appended | cancelSync | resizePhase | resetDone | opening | releaseFrames =>
    exact ordered.frame rfl
  | fail err | publishLast _ _ _ _ err | viewFailed _ _ err | openStuck _ _ err =>
    exact absurd sound (fail_fatalErr _ err)
  | announce destination nonce normal primary durable =>
    obtain ⟨headers, h⟩ := replica.buildView_cases cfg nonce
    rw [h]
    exact ordered.frame rfl
  | @accept _ inputs header normal durable current source accepted =>
    obtain ⟨-, -, -, -, -, rfl⟩ := acceptPrepare_eq_some accepted
    exact ordered.frame rfl
  | @learnCommit _ _ _ commit monotonic normal heard =>
    have hbackup : cfg.primary replica.view ≠ cfg.localIndex := foreign _ heard replica.view rfl
    have huninstalled := calm.uninstalled hsound (by rw [normal]; decide)
    exact { ordered with
      committed := Nat.le_trans ordered.committed (Nat.le_max_left _ _)
      normal := fun h => ⟨(ordered.normal h).1, fun hprimary => absurd hprimary hbackup⟩
      installing := fun h => absurd (h.symm.trans huninstalled) (by decide)
      persisting := fun h => absurd (h.symm.trans (phase.not_installs_of_normal normal)) (by decide) }
  | distrustHead =>
    exact { ordered with normal := fun h => by cases h }
  | beginViewChange inputs higher trusted idle committed undisturbed =>
    refine ordered.beginViewChangeNow inputs higher (calm.uninstalled hsound trusted) ?_ sound
    rw [← Bool.not_eq_true]
    exact fun h => undisturbed quietly h (calm.recovering h)
  | resume inputs higher =>
    have hcleared : Ordered cfg { replica with pendingView := 0 } := ordered.frame rfl
    exact hcleared.beginViewChangeNow inputs higher (calm.uninstalled_of_higher higher hsound)
      (calm.idle_of_higher higher) sound
  | submitReply first waits ready submitted | submitCheckpoint first data built undrained submitted
  | submitSync free kind submitted =>
    obtain ⟨rfl, rfl⟩ := submit_eq_ok submitted
    exact ordered.frame rfl
  | commit first waits ready maintains =>
    obtain ⟨⟨inputs, hmay⟩, -⟩ := ready
    refine ordered.execute (hnext first ?_) rfl (calm.free_of_mayCommit phase hmay)
    obtain h | h := waits <;> rw [h] <;> rfl
  | yield inputs first maintains unsubmitted higher =>
    have hcleared : Ordered cfg ({ replica with
        pendingView := 0, checkpointTarget := 0, pendingCheckpoint := none }.setStage .idle) := ordered.frame rfl
    exact (hcleared.beginViewChangeNow inputs higher (calm.uninstalled_of_higher higher hsound)
      (calm.idle_of_higher higher) sound).frame rfl
  | yieldPublished inputs first persisted free published higher =>
    have hcleared : Ordered cfg { replica with pendingView := 0 } := ordered.frame rfl
    exact (hcleared.beginViewChangeNow inputs higher (calm.uninstalled_of_higher higher hsound)
      (calm.idle_of_higher higher) sound).frame rfl
  | @openWindow view commit windowHead ahead bounded source =>
    obtain ⟨message, hheard, rfl, -, -, hfree, -⟩ | ⟨hnormal, -, rfl, rfl, -⟩ := source
    · exact ordered.openWindow _ _ (foreign _ hheard message.view rfl) (not_installs_of_free hfree)
    refine ordered.openWindow _ _ (fun hprimary => ?_) (phase.not_installs_of_normal hnormal)
    -- a primary has learned of no commit it has not made
    have hlevel : replica.commitMax ≤ replica.commitMin := (ordered.normal hnormal).2 hprimary
    omega
  | @recordView requestQueue view commit head count counted recorded free source =>
    simp only [validRecoveringView, decide_eq_true_eq, Option.isNone_iff_eq_none] at recorded
    obtain ⟨-, -, -, -, hfree, -, hcommit, -⟩ := recorded
    exact { ordered with
      normal := fun h => by cases h
      committed := Nat.le_trans ordered.committed (Nat.le_max_left _ _)
      installing := fun _ => by
        refine ⟨?_, Bool.noConfusion⟩
        obtain ⟨message, hheard, rfl, -⟩ | ⟨-, -, rfl, -⟩ := source
        · exact .inl (foreign _ hheard message.view rfl)
        · refine .inr ⟨rfl, ?_⟩
          show max replica.commitMax commit ≤ max commit replica.commitMin
          omega
      persisting := fun h => absurd (h.symm.trans (not_installs_of_free hfree)) (by decide) }
  | windowHeaders =>
    obtain ⟨_, _, _, _, h⟩ := replica.handleRepairWindowHeaders_frame cfg _ _
    rw [h]
    exact ordered.frame rfl
  | repairAppend heard repaired =>
    obtain ⟨-, -, -, -, -, -, rfl⟩ := handleRepairPrepare_eq_some repaired
    exact ordered.frame rfl
  | rebuild installing named unbuilt written idle quiet rebuilt =>
    obtain rfl | ⟨entries, _, _, _, _, -, rfl | rfl⟩ := rebuilt_cases rebuilt
    · exact ordered
    · exact absurd sound (fail_fatalErr _ _)
    obtain ⟨hstatus, -, hcurrent, hfree⟩ := calm.installing hsound installing
    have hidle := phase.idle_of_installing installing
    exact { ordered with
      durable := Nat.le_trans ordered.durable hcurrent
      logged := Nat.le_trans ordered.logged hcurrent
      normal := fun h => absurd (hstatus.symm.trans h) (by decide)
      committed := Nat.le_trans ordered.committed (Nat.le_max_left _ _)
      installing := fun _ => by
        refine ⟨(ordered.installing installing).1.imp_right fun h => ⟨rfl, ?_⟩, fun _ => rfl⟩
        exact Nat.max_le.mpr ⟨h.2, Nat.le_max_left _ _⟩
      persisting := fun h => absurd (h.symm.trans (not_installs_of_free hfree)) (by decide)
      synced := fun h => absurd (h.symm.trans (not_synced_of_idle hidle)) (by decide) }
  | persistInstall installing rebuilt committed quiet persisted =>
    obtain ⟨-, -, -, rfl⟩ := persistView_eq_ok persisted
    have hcurrent : replica.view = replica.repairView := (ordered.installing installing).2 rebuilt
    refine { ordered with
      installing := fun h => by cases h
      persisting := fun _ => ⟨committed, fun hprimary => ?_⟩ }
    obtain hbackup | ⟨-, hbound⟩ := (ordered.installing installing).1
    · exact absurd ((congrArg cfg.primary hcurrent).symm.trans hprimary) hbackup
    · exact Nat.le_trans hbound (Nat.max_le.mpr ⟨committed, Nat.le_refl _⟩)
  | perform handle =>
    obtain h | ⟨_, -, -, -, _, _, _, _, -, h⟩ := replica.perform_cases cfg handle <;> rw [h] <;>
      exact ordered.frame rfl
  | clearView =>
    exact { ordered with persisting := fun h => by cases h }
  | viewPersisted done owner change =>
    have hstatus := calm.changing (by rw [owner]; exact Option.some_ne_none _) change
    have hidle := calm.idle_of_view owner
    exact { ordered with
      durable := Nat.le_refl _
      normal := fun h => absurd (hstatus.symm.trans h) (by decide)
      persisting := fun h => by cases h
      synced := fun h => absurd (h.symm.trans (not_synced_of_idle hidle)) (by decide) }
  | @viewPersistedOnward inputs handle operation done owner change higher =>
    have hidle := calm.idle_of_higher higher
    have hstatus := calm.changing (by rw [owner]; exact Option.some_ne_none _) change
    have hcleared : Ordered cfg { replica.releaseIo handle with
        viewIo := none, durableView := replica.view, pendingView := 0 } :=
      { ordered with
        durable := Nat.le_refl _
        normal := fun h => absurd (hstatus.symm.trans h) (by decide)
        persisting := fun h => by cases h
        synced := fun h => absurd (h.symm.trans (not_synced_of_idle hidle)) (by decide) }
    exact hcleared.beginViewChangeNow inputs higher (calm.uninstalled_of_higher higher hsound) hidle sound
  | viewInstalled done owner install =>
    have hpending : replica.viewIo ≠ none := by rw [owner]; exact Option.some_ne_none _
    have hinstalls : replica.rank.installs = true :=
      Bool.and_eq_true_iff.mpr ⟨Option.isSome_iff_ne_none.mpr hpending, install⟩
    have huninstalled := (phase.persisting hpending install).2
    have hidle := calm.idle_of_view owner
    obtain ⟨hbound, hlevel⟩ := ordered.persisting hinstalls
    exact { ordered with
      durable := Nat.le_refl _
      logged := Nat.le_refl _
      normal := fun _ => ⟨⟨rfl, rfl⟩, fun hprimary => Nat.max_le.mpr ⟨hlevel hprimary, hbound⟩⟩
      committed := Nat.le_trans ordered.committed (Nat.le_max_left _ _)
      installing := fun h => absurd (h.symm.trans huninstalled) (by decide)
      persisting := fun h => by cases h
      synced := fun h => absurd (h.symm.trans (not_synced_of_idle hidle)) (by decide) }
  | repairWritten => exact ordered.frame (by unfold finishRepairWrite; simp only; split <;> [split; skip] <;> rfl)
  | replyWritten done first owner executing maintains =>
    refine ordered.execute (hnext first (by rw [executing]; rfl)) rfl ?_
    -- a commit in flight keeps every superblock of a view back
    by_contra hview
    have hflight := calm.persisting hview
    rw [commitInFlight, first, List.any_cons, executing] at hflight
    cases hflight
  | @enterStateSync message heard idle unopened unreplayed ahead free undisturbed current author accepted =>
    have hbound : message.checkpoint.prepareOp ≤ message.commit := by
      simp only [acceptsView, decide_eq_true_eq] at accepted
      exact accepted.2.2.2.2.2.1
    exact { ordered with
      normal := fun h => by cases h
      syncing := fun _ _ => ⟨foreign _ heard message.view rfl, hbound⟩
      synced := fun h => by simp [Replica.rank, synced, Replica.enterStateSync, unreplayed] at h }
  | startReset inputs =>
    unfold startStateSyncReset
    split
    · exact ordered
    · exact ordered.frame rfl
  | drained stage empty =>
    have hsyncing : replica.syncing = true := by simp [syncing, stage]
    exact { ordered with
      syncing := fun _ => ordered.syncing hsyncing
      synced := fun h => ordered.synced (by simpa [Replica.rank, synced, stage] using h) }
  | installCheckpoint stage second done free =>
    have hsyncing : replica.syncing = true := by simp [syncing, stage]
    have hstatus := calm.recovering hsyncing
    have huninstalled := phase.uninstalled hsyncing
    have hresumed := phase.unresumed (by simp [stage])
    obtain ⟨hbackup, hbound⟩ := ordered.syncing hsyncing hresumed
    exact {
      durable := Nat.le_refl _
      logged := Nat.le_refl _
      normal := fun h => absurd (hstatus.symm.trans h) (by decide)
      committed := hbound
      installing := fun h => absurd (h.symm.trans huninstalled) (by decide)
      persisting := fun h => absurd (h.symm.trans (not_installs_of_free (calm.free hsyncing))) (by decide)
      syncing := fun _ _ => ⟨hbackup, hbound⟩
      synced := fun _ _ => ⟨rfl, rfl, rfl⟩
      recovered := ordered.recovered }
  | resized stage | resizedOpening stage =>
    have hsyncing : replica.syncing = true := by simp [syncing, stage]
    have hsynced : replica.synced = true := by simp [synced, stage]
    exact { ordered with
      syncing := fun _ => ordered.syncing hsyncing
      synced := fun _ => ordered.synced hsynced }
  | openReplay answered resumes whole =>
    exact { ordered with
      syncing := fun _ h => absurd (h.symm.trans resumes) (by decide)
      synced := fun _ h => absurd (h.symm.trans resumes) (by decide) }
  | openIncomplete answered resumes distrusts =>
    have hsyncing := syncing_of_synced ((phase.opens answered).1)
    refine ordered.wake (phase.opened_idle answered) ?_ rfl
    obtain rfl | rfl := distrusts
    · exact (phase.asleep hsyncing).1
    · exact Status.noConfusion
  | openHeaders answered fresh ahead fits =>
    obtain ⟨hsyncing, hopened⟩ := ordered.opened phase answered
    exact { hopened with
      normal := fun h => by cases h
      installing := fun _ => ⟨.inl (ordered.syncing hsyncing fresh).1, Bool.noConfusion⟩ }
  | openBehind answered fresh =>
    obtain ⟨hsyncing, hopened⟩ := ordered.opened phase answered
    exact hopened.openWindow _ _ (ordered.syncing hsyncing fresh).1 (not_installs_of_free (calm.free hsyncing))
  | openLevel answered fresh =>
    obtain ⟨hsyncing, hopened⟩ := ordered.opened phase answered
    obtain ⟨hview, hlevel⟩ := ordered.synced (phase.opens answered).1 fresh
    have hbackup : cfg.primary replica.view ≠ cfg.localIndex := by
      rw [show replica.view = replica.stateSync.view from hview]
      exact (ordered.syncing hsyncing fresh).1
    exact { hopened with normal := fun _ => ⟨hlevel, fun h => absurd h hbackup⟩ }
  | @repliesRepaired pending idle =>
    obtain ⟨hstage, -, hreplay⟩ := syncing_eq_false.mp idle
    exact { ordered with
      syncing := fun h => not_syncing h hstage rfl hreplay
      synced := fun h => not_syncing (syncing_of_synced h) hstage rfl hreplay }
  | replay => exact ordered.replay phase calm sound

/-! ## The runtime check -/

section

omit [DecidableEq χ] [Checksums χ]

/-- What `Snapshot` takes for a commit that is being completed is the first entry, once it is executed. -/
theorem committing_of_gapless {commitMin headOp : Nat} {pipeline : List (PipelineEntry χ)}
    (gapless : Gapless commitMin headOp pipeline) :
    (pipeline.head?.any fun entry =>
        (entry.stage = .checkpointDurable ∨ entry.stage = .compact ∨ entry.stage = .checkpointData ∨
          entry.stage = .checkpointSuperblock) ∧ entry.header.op = commitMin) =
      pipeline.head?.any fun entry => entry.stage.maintains := by
  cases pipeline with
  | nil => rfl
  | cons entry rest =>
    rw [List.head?_cons, Option.any_some, Option.any_some]
    cases hmaintains : entry.stage.maintains with
    | false => cases hstage : entry.stage <;> simp_all [CommitStage.maintains]
    | true =>
      rw [decide_eq_true_eq]
      refine ⟨?_, gapless.first_last hmaintains⟩
      cases hstage : entry.stage <;> simp_all [CommitStage.maintains]

/-- `validateReplicaSnapshot` finds nothing wrong with a replica that is in order and whose log has no gaps. -/
theorem Ordered.validSnapshot (ordered : replica.Ordered cfg) (coherent : replica.Coherent cfg)
    (phase : Phase cfg replica) : replica.validSnapshot cfg = true := by
  have hcommitted : replica.commitMin ≤ replica.commitMax := ordered.committed
  have hbounded : replica.headOp ≤ replica.commitMin + cfg.pipelineMax := Ledger.Coherent.bounded coherent
  refine decide_eq_true ⟨ordered.durable, ordered.logged, fun h => (ordered.normal h).1, coherent.checkpointed,
    Ledger.Coherent.committed coherent, hcommitted, by omega, fun hnormal hprimary => ?_⟩
  refine ⟨Nat.le_antisymm hcommitted ((ordered.normal hnormal).2 (of_decide_eq_true hprimary)), ?_⟩
  have hgapless := coherent.unsynced (phase.idle_of_normal hnormal)
  rw [committing_of_gapless hgapless]
  have hlength := congrArg List.length hgapless.ops
  rw [List.length_map, List.length_range', firstOp] at hlength
  split
  · rename_i hmaintains
    rw [if_pos hmaintains] at hlength
    omega
  · rename_i hwaits
    rw [if_neg hwaits] at hlength
    omega

end

end Replica

/-! ## Opening -/

/-- What `Open` has checked about the replica it returns. -/
theorem Opened.ordered {durable : Durable χ} {replica : Replica χ} (opened : Opened cfg durable replica) :
    replica.Ordered cfg := by
  cases opened with
  | resumed recovered resumes checked resumed =>
    obtain ⟨hdurable, hlogged, hnormal, -, -, hcommitted, -, hprimary⟩ := of_decide_eq_true checked
    obtain rfl := eq_of_ite_error resumed
    exact {
      durable := hdurable
      logged := hlogged
      normal := fun h => by cases h
      committed := hcommitted
      installing := fun h => by cases h
      persisting := fun h => by cases h
      syncing := fun _ h => by cases h
      synced := fun _ h => by cases h
      recovered := fun superblock h => by
        cases h
        exact hlogged }
  | restarted generation recovered fresh replays complete derived checked loads =>
    obtain ⟨hdurable, hlogged, hnormal, -, -, hcommitted, -, hprimary⟩ := of_decide_eq_true checked
    exact {
      durable := hdurable
      logged := hlogged
      normal := fun h => ⟨hnormal h, fun hp => Nat.le_of_eq (hprimary h (decide_eq_true hp)).1.symm⟩
      committed := hcommitted
      installing := fun h => by cases h
      persisting := fun h => by cases h
      syncing := fun h => by cases h
      synced := fun h => by cases h
      recovered := fun _ h => by cases h }

end Supervsr
