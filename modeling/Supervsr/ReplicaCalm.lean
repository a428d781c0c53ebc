import Supervsr.MemberRun
import Supervsr.SmallCluster

/-
# Supervsr.ReplicaCalm — runs in which view changes keep out of the way of state syncs and installations

A view change that has to wait (its superblock is being written, or a commit is in flight) is resumed when
what it waits for is over, and nothing looks at whether a state sync or the installation of another view has
begun in the meantime.  Where no `View` is taken with a view change pending, none that starts a state sync
while a published checkpoint waits for block repair, and no vote of a standby while a synced checkpoint waits
to be opened, the three never cross: this file says what that leaves of a replica, move by move.
-/

namespace Supervsr

open Transition

variable {χ : Type} [DecidableEq χ] [Checksums χ] {cfg : Config} {given : Surroundings χ}

variable {replica next : Replica χ} {rest : List (PipelineEntry χ)}

namespace Replica

/-- No request under way belongs to a pipeline entry. -/
def Unawaited (replica : Replica χ) : Prop :=
  ∀ entry ∈ replica.pipeline, ∀ pending ∈ replica.io, entry.io ≠ some pending.handle

/-- A checkpoint is on storage and its first entry waits for nothing but block repair. -/
def Draining (replica : Replica χ) : Prop :=
  replica.pendingCheckpoint ≠ none ∧
    ∃ entry ∈ replica.pipeline.head?, entry.stage = .checkpointSuperblock ∧ entry.io = none

/-- What holds of a replica in whose run nothing crosses. -/
structure Calm (replica : Replica χ) : Prop where
  recovering : replica.syncing = true → replica.status = .recovering
  free : replica.syncing = true → replica.viewIo = none
  low : replica.syncing = true → replica.pendingView ≤ replica.view
  toward : replica.syncing = true → replica.view ≤ replica.stateSync.view
  drained : replica.checkpointRepairDrain = true → replica.syncing = false ∧ replica.Draining
  unawaited : replica.syncing = true → replica.stateSync.stage ≠ .cancelingGrid → replica.Unawaited
  persisting : replica.viewIo ≠ none → replica.commitInFlight = false
  changing : replica.viewIo ≠ none → replica.viewInstall = false → replica.status = .viewChange
  /-- a pending view change waits for something -/
  waiting : replica.fatalErr = none → replica.status = .viewChange → replica.viewIo = none →
    replica.commitInFlight = false → replica.pendingView ≤ replica.view
  resuming : replica.fatalErr = none → replica.stateSync.resumeRecovery = true →
    replica.syncing = true ∧ replica.pendingView = 0
  installing : replica.fatalErr = none → replica.repairViewValid = true →
    replica.status = .recoveringHead ∧ replica.pendingView ≤ replica.view ∧
      replica.view ≤ replica.repairView ∧ replica.viewIo = none

/-- What `Calm` looks at besides the pipeline and the requests. -/
structure Bearing where
  status : Status
  view : Nat
  pendingView : Nat
  viewIo : Option Nat
  viewInstall : Bool
  valid : Bool
  repairView : Nat
  syncing : Bool
  stage : SyncStage
  syncView : Nat
  resumeRecovery : Bool

def bearing (replica : Replica χ) : Bearing where
  status := replica.status
  view := replica.view
  pendingView := replica.pendingView
  viewIo := replica.viewIo
  viewInstall := replica.viewInstall
  valid := replica.repairViewValid
  repairView := replica.repairView
  syncing := replica.syncing
  stage := replica.stateSync.stage
  syncView := replica.stateSync.view
  resumeRecovery := replica.stateSync.resumeRecovery

/-! ## Ways to keep it -/

section

omit [DecidableEq χ] [Checksums χ]

theorem Unawaited.keep (unawaited : replica.Unawaited) (owned : replica.Owned)
    (entries : ∀ entry ∈ next.pipeline, entry.io = none ∨ ∃ old ∈ replica.pipeline, old.io = entry.io)
    (requests : ∀ pending ∈ next.io, pending.handle = replica.nextHandle ∨
      ∃ old ∈ replica.io, old.handle = pending.handle) : next.Unawaited := by
  intro entry hentry pending hpending howner
  obtain hnone | ⟨before, hbefore, hio⟩ := entries entry hentry
  · rw [hnone] at howner
    cases howner
  rw [← hio] at howner
  obtain hfresh | ⟨old, hold, hsame⟩ := requests pending hpending
  · rw [hfresh] at howner
    exact absurd (owned.owners before hbefore _ howner) (Nat.lt_irrefl _)
  · rw [← hsame] at howner
    exact unawaited before hbefore old hold howner

section

variable (calm : replica.Calm) (owned : replica.Owned) (same : next.bearing = replica.bearing)
  (fatal : next.fatalErr = none → replica.fatalErr = none)

include calm owned same fatal

/-- Steps that change the pipeline and the requests only. -/
theorem Calm.entries
    (drain : next.checkpointRepairDrain = true → replica.checkpointRepairDrain = true ∧
      (replica.Draining → next.Draining))
    (inherits : replica.syncing = true → ∀ entry ∈ next.pipeline, entry.io = none ∨
      ∃ old ∈ replica.pipeline, old.io = entry.io)
    (requests : ∀ pending ∈ next.io, pending.handle = replica.nextHandle ∨
      ∃ old ∈ replica.io, old.handle = pending.handle)
    (flight : replica.viewIo ≠ none → replica.commitInFlight = false → next.commitInFlight = false)
    (ended : next.commitInFlight = false → replica.commitInFlight = false ∨ replica.pendingView ≤ replica.view) :
    next.Calm := by
  simp only [bearing, Bearing.mk.injEq] at same
  obtain ⟨hstatus, hview, hpending, hviewIo, hinstall, hvalid, hrepair, hsyncing, hstage, htoward,
    hresumes⟩ := same
  constructor
  · rw [hsyncing, hstatus]
    exact calm.recovering
  · rw [hsyncing, hviewIo]
    exact calm.free
  · rw [hsyncing, hpending, hview]
    exact calm.low
  · rw [hsyncing, hview, htoward]
    exact calm.toward
  · intro hdrain
    obtain ⟨hdrained, hkept⟩ := drain hdrain
    rw [hsyncing]
    exact ⟨(calm.drained hdrained).1, hkept (calm.drained hdrained).2⟩
  · rw [hsyncing, hstage]
    exact fun h hdraining => (calm.unawaited h hdraining).keep owned (inherits h) requests
  · rw [hviewIo]
    exact fun h => flight h (calm.persisting h)
  · rw [hviewIo, hinstall, hstatus]
    exact calm.changing
  · rw [hstatus, hviewIo, hpending, hview]
    intro hfatal hchanging hfree hended
    obtain h | h := ended hended
    · exact calm.waiting (fatal hfatal) hchanging hfree h
    · exact h
  · rw [hresumes, hsyncing, hpending]
    exact fun hfatal => calm.resuming (fatal hfatal)
  · rw [hvalid, hstatus, hpending, hview, hrepair, hviewIo]
    exact fun hfatal => calm.installing (fatal hfatal)

/-- Steps that leave the pipeline alone as well. -/
theorem Calm.frame
    (drain : next.checkpointRepairDrain = true → replica.checkpointRepairDrain = true ∧
      next.pendingCheckpoint = replica.pendingCheckpoint)
    (pipeline : next.pipeline = replica.pipeline)
    (requests : ∀ pending ∈ next.io, pending.handle = replica.nextHandle ∨
      ∃ old ∈ replica.io, old.handle = pending.handle) : next.Calm := by
  have hflight : next.commitInFlight = replica.commitInFlight := by
    rw [commitInFlight, pipeline]
    rfl
  refine calm.entries owned same fatal (fun h => ⟨(drain h).1, fun hdraining => ?_⟩) ?_ requests ?_ ?_
  · unfold Draining
    rw [(drain h).2, pipeline]
    exact hdraining
  · rw [pipeline]
    exact fun _ entry hentry => .inr ⟨entry, hentry, rfl⟩
  · exact fun _ h => hflight.trans h
  · exact fun h => .inl (hflight.symm.trans h)

end

theorem requests_kept (replica : Replica χ) : ∀ pending ∈ replica.io, pending.handle = replica.nextHandle ∨
    ∃ old ∈ replica.io, old.handle = pending.handle :=
  fun pending hmem => .inr ⟨pending, hmem, rfl⟩

theorem requests_released (replica : Replica χ) (handle : Nat) :
    ∀ pending ∈ (replica.releaseIo handle).io, pending.handle = replica.nextHandle ∨
      ∃ old ∈ replica.io, old.handle = pending.handle :=
  fun pending hmem => .inr ⟨pending, (List.mem_filter.mp hmem).1, rfl⟩

theorem requests_submitted (replica : Replica χ) (operation : IOOperation χ) :
    ∀ pending ∈ replica.io ++ [⟨replica.nextHandle, operation, none⟩],
      pending.handle = replica.nextHandle ∨ ∃ old ∈ replica.io, old.handle = pending.handle := by
  intro pending hmem
  obtain hmem | hmem := List.mem_append.mp hmem
  · exact .inr ⟨pending, hmem, rfl⟩
  · rw [List.mem_singleton.mp hmem]
    exact .inl rfl

theorem Calm.flight_of_draining (draining : replica.Draining) : replica.commitInFlight = true := by
  obtain ⟨-, entry, hentry, hstage, -⟩ := draining
  rw [commitInFlight, List.any_eq_true]
  exact ⟨entry, List.mem_of_mem_head? hentry, by rw [hstage]; rfl⟩

section

variable (calm : replica.Calm)

include calm

/-- No checkpoint waits for block repair while no commit is in flight. -/
theorem Calm.undrained (committed : replica.commitInFlight = false) :
    replica.checkpointRepairDrain = false := by
  rw [← Bool.not_eq_true]
  intro hdrain
  rw [flight_of_draining (calm.drained hdrain).2] at committed
  cases committed

/-- A checkpoint waits for block repair only while its entry is the first. -/
theorem Calm.undrained_of_stage {entry : PipelineEntry χ}
    (first : replica.pipeline = entry :: rest) (stage : entry.stage ≠ .checkpointSuperblock) :
    replica.checkpointRepairDrain = false := by
  rw [← Bool.not_eq_true]
  intro hdrain
  obtain ⟨-, -, other, hother, hstage, -⟩ := calm.drained hdrain
  rw [first] at hother
  cases hother
  exact stage hstage

theorem Calm.idle_of_higher (higher : replica.view < replica.pendingView) :
    replica.syncing = false := by
  rw [← Bool.not_eq_true]
  exact fun h => absurd (calm.low h) (Nat.not_le.mpr higher)

theorem Calm.idle_of_view {handle : Nat} (owner : replica.viewIo = some handle) : replica.syncing = false := by
  rw [← Bool.not_eq_true]
  intro h
  rw [calm.free h] at owner
  cases owner

theorem Calm.uninstalled_of_higher (higher : replica.view < replica.pendingView)
    (fatal : replica.fatalErr = none) : replica.repairViewValid = false := by
  rw [← Bool.not_eq_true]
  exact fun h => absurd (calm.installing fatal h).2.1 (Nat.not_le.mpr higher)

theorem Calm.unresumed_of_idle (idle : replica.syncing = false)
    (fatal : replica.fatalErr = none) : replica.stateSync.resumeRecovery = false := by
  rw [← Bool.not_eq_true]
  intro h
  rw [(calm.resuming fatal h).1] at idle
  cases idle

end

/-- Outside of a state sync, with no commit in flight and no superblock of a view on its way. -/
theorem Calm.of_idle (idle : replica.syncing = false)
    (drained : replica.checkpointRepairDrain = true → replica.Draining)
    (persisting : replica.viewIo ≠ none → replica.commitInFlight = false)
    (changing : replica.viewIo ≠ none → replica.viewInstall = false → replica.status = .viewChange)
    (waiting : replica.fatalErr = none → replica.status = .viewChange → replica.viewIo = none →
      replica.commitInFlight = false → replica.pendingView ≤ replica.view)
    (unresumed : replica.fatalErr = none → replica.stateSync.resumeRecovery = false)
    (installing : replica.fatalErr = none → replica.repairViewValid = true →
      replica.status = .recoveringHead ∧ replica.pendingView ≤ replica.view ∧
      replica.view ≤ replica.repairView ∧ replica.viewIo = none) : replica.Calm := by
  have hidle : replica.syncing ≠ true := by rw [idle]; decide
  refine ⟨fun h => absurd h hidle, fun h => absurd h hidle, fun h => absurd h hidle,
    fun h => absurd h hidle, fun h => ⟨idle, drained h⟩, fun h => absurd h hidle, persisting, changing,
    waiting, ?_, installing⟩
  intro hfatal h
  rw [unresumed hfatal] at h
  cases h

/-- Steps of a state sync. -/
theorem Calm.within (calm : replica.Calm) (syncing : replica.syncing = true) (still : next.syncing = true)
    (status : next.status = replica.status) (viewIo : next.viewIo = replica.viewIo)
    (pending : next.pendingView = replica.pendingView) (view : replica.view ≤ next.view)
    (toward : next.view ≤ next.stateSync.view)
    (drain : next.checkpointRepairDrain = replica.checkpointRepairDrain)
    (fatal : next.fatalErr = replica.fatalErr) (unawaited : next.Unawaited)
    (resumes : next.stateSync.resumeRecovery = replica.stateSync.resumeRecovery)
    (valid : next.repairViewValid = false) : next.Calm := by
  have hfree : next.viewIo = none := viewIo.trans (calm.free syncing)
  have hrecovering : next.status = .recovering := status.trans (calm.recovering syncing)
  refine ⟨fun _ => hrecovering, fun _ => hfree, fun _ => ?_, fun _ => toward, ?_, fun _ _ => unawaited,
    fun h => absurd hfree h, fun h => absurd hfree h, ?_, ?_, ?_⟩
  · rw [pending]
    exact Nat.le_trans (calm.low syncing) view
  · intro hdrain
    rw [drain] at hdrain
    rw [(calm.drained hdrain).1] at syncing
    cases syncing
  · intro _ hchanging
    rw [hrecovering] at hchanging
    cases hchanging
  · rw [fatal, resumes, pending]
    exact fun hfatal h => ⟨still, (calm.resuming hfatal h).2⟩
  · intro _ h
    rw [valid] at h
    cases h

/-- A state sync comes to its end. -/
theorem Calm.wake (calm : replica.Calm) (syncing : replica.syncing = true) (ended : next.syncing = false)
    (viewIo : next.viewIo = replica.viewIo) (drain : next.checkpointRepairDrain = replica.checkpointRepairDrain)
    (low : next.fatalErr = none → next.pendingView ≤ next.view)
    (unresumed : next.fatalErr = none → next.stateSync.resumeRecovery = false)
    (installing : next.fatalErr = none → next.repairViewValid = true →
      next.status = .recoveringHead ∧ next.view ≤ next.repairView) : next.Calm := by
  have hfree : next.viewIo = none := viewIo.trans (calm.free syncing)
  refine .of_idle ended ?_ (fun h => absurd hfree h) (fun h => absurd hfree h) (fun hfatal _ _ _ => low hfatal)
    unresumed ?_
  · intro hdrain
    rw [drain] at hdrain
    rw [(calm.drained hdrain).1] at syncing
    cases syncing
  · intro hfatal hvalid
    obtain ⟨hstatus, hcurrent⟩ := installing hfatal hvalid
    exact ⟨hstatus, low hfatal, hcurrent, hfree⟩

end

section

omit [DecidableEq χ]

/-- A view change begins where nothing else is under way; `entered` may have lost entries since. -/
theorem Calm.begin (replica : Replica χ) {entered : Replica χ} (inputs : Inputs χ) (target : Nat)
    (entering : ∃ pipeline, entered = { replica.beginViewChangeNow cfg inputs target with pipeline := pipeline })
    (idle : replica.syncing = false) (undrained : replica.checkpointRepairDrain = false)
    (committed : entered.commitInFlight = false)
    (unresumed : replica.fatalErr = none → replica.stateSync.resumeRecovery = false)
    (uninstalled : replica.fatalErr = none → replica.repairViewValid = false) : entered.Calm := by
  obtain ⟨pipeline, rfl⟩ := entering
  have hundrained : ∀ {P : Prop}, replica.checkpointRepairDrain = true → P := fun h =>
    absurd (h.symm.trans undrained) (by decide)
  obtain ⟨err, h⟩ | ⟨-, h⟩ := replica.beginViewChangeNow_cases cfg inputs target
  · rw [h] at committed ⊢
    have hfatal : ∀ {P : Prop},
        (((replica.enterViewChange target).overwriteCanonicalHeaders
          ((replica.enterViewChange target).collectLocalSuffix cfg)).fail err).fatalErr = none → P :=
      fun h => absurd h (fail_fatalErr _ err)
    exact .of_idle idle hundrained (fun _ => committed) (fun _ _ => rfl) hfatal hfatal hfatal
  · rw [h] at committed ⊢
    refine .of_idle idle hundrained (fun _ => committed) (fun _ _ => rfl) ?_ unresumed ?_
    · exact fun _ _ hfree => by cases hfree
    · intro hfatal hvalid
      exact absurd (hvalid.symm.trans (uninstalled hfatal)) (by decide)

theorem beginViewChangeNow_flight (replica : Replica χ) (inputs : Inputs χ) (target : Nat) :
    (replica.beginViewChangeNow cfg inputs target).commitInFlight = replica.commitInFlight := by
  apply commitInFlight_of_unacknowledged
  rw [beginViewChangeNow_pipeline]
  exact replica.map_unacknowledged_enterViewChange target

theorem beginViewChangeNow_tail (replica : Replica χ) (inputs : Inputs χ) (target : Nat) :
    (replica.beginViewChangeNow cfg inputs target).popPipeline.pipeline.map PipelineEntry.unacknowledged =
      replica.pipeline.tail.map PipelineEntry.unacknowledged := by
  show List.map _ (replica.beginViewChangeNow cfg inputs target).pipeline.tail = _
  rw [beginViewChangeNow_pipeline, ← List.map_tail, List.map_map]
  rfl

end

omit [DecidableEq χ] [Checksums χ] in
/-- Nothing is in flight behind the first entry. -/
theorem Owned.flight_of_tail (owned : replica.Owned)
    (tail : next.pipeline.map PipelineEntry.unacknowledged =
      replica.pipeline.tail.map PipelineEntry.unacknowledged) : next.commitInFlight = false := by
  have hsame : next.commitInFlight = replica.popPipeline.commitInFlight :=
    commitInFlight_of_unacknowledged tail
  rw [hsame, commitInFlight, List.any_eq_false]
  intro entry hentry
  rw [owned.rest entry hentry]
  decide

/-! ## Every move keeps it -/

section

omit [DecidableEq χ] [Checksums χ]

theorem Phase.opened_idle (phase : Phase cfg replica)
    (answered : replica.stateSync.completion = some .openState) : replica.openedSync.syncing = false :=
  syncing_eq_false.mpr ⟨(phase.opens answered).2.1, replica.openedSync_awaiting, (phase.opens answered).2.2⟩

/-- While there are entries left, a state sync keeps completions from them. -/
theorem Phase.drains (phase : Phase cfg replica) (syncing : replica.syncing = true)
    (left : replica.pipeline ≠ []) : replica.drainsCompletions = true := by
  by_contra hundrained
  simp only [drainsCompletions, decide_eq_true_eq, not_or, Bool.not_eq_true] at hundrained
  obtain ⟨hcanceling, hupdating, hreplay⟩ := hundrained
  refine left (phase.vacated (vacant_of_synced ?_))
  simp only [Replica.syncing, hreplay, decide_eq_true_eq, Bool.false_eq_true, or_false] at syncing
  simp only [synced, decide_eq_true_eq]
  cases hstage : replica.stateSync.stage with
  | idle => exact .inl ⟨syncing.resolve_left (fun h => h hstage), rfl⟩
  | resizingStorage => exact .inr (.inl rfl)
  | cancelingGrid => exact absurd hstage hcanceling
  | updatingCheckpoint => exact absurd hstage hupdating

variable (calm : replica.Calm)

include calm

/-- Commits are made outside of state syncs. -/
theorem Calm.idle_of_mayCommit {inputs : Inputs χ} (may : replica.mayCommit inputs = true) :
    replica.syncing = false := by
  simp only [mayCommit, decide_eq_true_eq] at may
  rw [← Bool.not_eq_true]
  intro h
  obtain hnormal | ⟨hdistrusts, -⟩ := may.2.2.1
  · rw [calm.recovering h] at hnormal
    cases hnormal
  · rw [calm.recovering h] at hdistrusts
    cases hdistrusts

/-- No commit is made while the superblock of a view is on its way. -/
theorem Calm.free_of_mayCommit {inputs : Inputs χ} (phase : Phase cfg replica)
    (may : replica.mayCommit inputs = true) : replica.viewIo = none := by
  simp only [mayCommit, decide_eq_true_eq] at may
  by_contra hview
  cases hinstall : replica.viewInstall with
  | false =>
    have hstatus := calm.changing hview hinstall
    obtain h | ⟨h, -⟩ := may.2.2.1 <;> rw [hstatus] at h <;> cases h
  | true =>
    have hpersists := phase.persisting hview hinstall
    obtain h | ⟨-, h, -⟩ := may.2.2.1
    · exact hpersists.1 h
    · rw [hpersists.2] at h
      cases h

/-- A change to the first entry by the commit pipeline. -/
theorem Calm.advance (owned : replica.Owned) {entry advanced : PipelineEntry χ}
    (first : replica.pipeline = entry :: rest) (pipeline : next.pipeline = advanced :: rest)
    (same : next.bearing = replica.bearing) (fatal : next.fatalErr = none → replica.fatalErr = none)
    (undrained : entry.stage ≠ .checkpointSuperblock)
    (drain : next.checkpointRepairDrain = replica.checkpointRepairDrain)
    (inherits : replica.syncing = true → advanced.io = none ∨ advanced.io = entry.io)
    (requests : ∀ pending ∈ next.io, pending.handle = replica.nextHandle ∨
      ∃ old ∈ replica.io, old.handle = pending.handle)
    (free : replica.viewIo = none ∨ entry.stage ≠ .idle) (stage : advanced.stage ≠ .idle) : next.Calm := by
  refine calm.entries owned same fatal ?_ ?_ requests ?_ ?_
  · rw [drain, calm.undrained_of_stage first undrained]
    exact fun h => by cases h
  · intro hsyncing other hother
    rw [pipeline] at hother
    rw [first]
    obtain rfl | hother := List.mem_cons.mp hother
    · exact (inherits hsyncing).imp_right fun h => ⟨entry, List.mem_cons_self, h.symm⟩
    · exact .inr ⟨other, List.mem_cons_of_mem entry hother, rfl⟩
  · intro hview hcommitted
    obtain hfree | hbusy := free
    · exact absurd hfree hview
    · rw [commitInFlight, first, List.any_cons, Bool.or_eq_false_iff] at hcommitted
      exact absurd hbusy (by simpa using hcommitted.1)
  · intro hended
    rw [commitInFlight, pipeline, List.any_cons, Bool.or_eq_false_iff] at hended
    exact absurd stage (by simpa using hended.1)

/-- Changes to one entry that leave its stage alone and make it wait for nothing new. -/
theorem Calm.touch (owned : replica.Owned) {offset : Nat}
    {f : PipelineEntry χ → PipelineEntry χ} (pipeline : next.pipeline = replica.pipeline.modify offset f)
    (stage : ∀ entry, (f entry).stage = entry.stage) (io : ∀ entry, (f entry).io = none)
    (same : next.bearing = replica.bearing) (fatal : next.fatalErr = none → replica.fatalErr = none)
    (drain : next.checkpointRepairDrain = replica.checkpointRepairDrain)
    (pendingCheckpoint : next.pendingCheckpoint = replica.pendingCheckpoint)
    (requests : ∀ pending ∈ next.io, pending.handle = replica.nextHandle ∨
      ∃ old ∈ replica.io, old.handle = pending.handle) : next.Calm := by
  have hflight : next.commitInFlight = replica.commitInFlight := by
    have hany : ∀ (list : List (PipelineEntry χ)) (place : Nat), (list.modify place f).any
        (fun entry => entry.stage ≠ .idle) = list.any fun entry => entry.stage ≠ .idle := by
      intro list
      induction list with
      | nil => intro place; cases place <;> rfl
      | cons entry rest ih =>
        intro place
        cases place with
        | zero => rw [List.modify_zero_cons, List.any_cons, List.any_cons, stage]
        | succ place => rw [List.modify_succ_cons, List.any_cons, List.any_cons, ih]
    rw [commitInFlight, commitInFlight, pipeline, hany]
  refine calm.entries owned same fatal ?_ ?_ requests (fun _ h => hflight.trans h)
    fun h => .inl (hflight.symm.trans h)
  · rw [drain]
    refine fun h => ⟨h, ?_⟩
    rintro ⟨hpending, entry, hentry, hstage, hio⟩
    rw [Draining, pendingCheckpoint, pipeline]
    refine ⟨hpending, ?_⟩
    cases hlist : replica.pipeline with
    | nil => rw [hlist] at hentry; cases hentry
    | cons first rest =>
      rw [hlist] at hentry
      cases hentry
      cases offset with
      | zero => exact ⟨f entry, rfl, (stage entry).trans hstage, io entry⟩
      | succ offset => exact ⟨entry, rfl, hstage, hio⟩
  · intro _ entry hentry
    rw [pipeline] at hentry
    obtain hentry | ⟨old, -, rfl⟩ := mem_modify hentry
    · exact .inr ⟨entry, hentry, rfl⟩
    · exact .inl (io old)

end

/-- The replay of an interrupted state sync, which no view change waits for. -/
theorem Calm.replay (calm : replica.Calm) (phase : Phase cfg replica) :
    (replica.replayInterrupted cfg).1.Calm := by
  obtain h | ⟨hreplay, resumes, recovery, recoveryState, hsync, -⟩ := replica.replayInterrupted_cases cfg
  · rw [h]
    exact calm
  have hsyncing : replica.syncing = true := by simp [syncing, hreplay]
  obtain ⟨⟨hidle, hwaits⟩, hresumes, -⟩ := phase.replaying hreplay
  obtain ⟨_, _, _, _, _, _, _, _, _, _, _, _, _, _, stateSync, _, h, -⟩ := replica.replayInterrupted_frame cfg
  -- a replica that goes on has adopted what it recovered
  have hadopts : (replica.replayInterrupted cfg).1.fatalErr = none →
      replica.fatalErr = none ∧ (replica.replayInterrupted cfg).1.stateSync.resumeRecovery = false := by
    intro hfatal
    obtain hsame | hfails | ⟨durable, -, recovery, -, status, superblock, committed, loaded, -, -, -, -,
      hloaded, hadopted⟩ := replica.replayInterrupted_adopts cfg
    · rw [hsame] at hsync
      rw [hsync] at hreplay
      cases hreplay
    · exact absurd hfatal hfails
    · obtain ⟨_, _, _, _, -, rfl⟩ := loadOpenSuffix_eq_ok hloaded
      rw [hadopted] at hfatal ⊢
      exact ⟨hfatal, rfl⟩
  refine calm.wake hsyncing ?_ (by rw [h]) (by rw [h]) ?_ (fun hfatal => (hadopts hfatal).2) ?_
  · rw [syncing_eq_false, stateSyncAwaitingOpen, hsync]
    exact ⟨hidle, hwaits, rfl⟩
  · intro hfatal
    have hpending := (calm.resuming (hadopts hfatal).1 hresumes).2
    rw [h]
    show replica.pendingView ≤ _
    rw [hpending]
    exact Nat.zero_le _
  · intro _ hvalid
    rw [h] at hvalid
    exact absurd (hvalid.symm.trans (phase.uninstalled hsyncing)) (by decide)

/-- Every move keeps a calm run calm. -/
theorem Calm.move (calm : replica.Calm) (owned : replica.Owned) (phase : Phase cfg replica)
    (quietly : given.calm) (move : Move cfg given replica next) : next.Calm := by
  cases move with
  | quiet | send | learnCommit | join | session | overwriteHeaders | wantHeader | cancelSync |
      resizePhase | resetDone | opening =>
    exact calm.frame owned rfl id (fun h => ⟨h, rfl⟩) rfl replica.requests_kept
  | fail err =>
    exact calm.frame owned rfl (fun h => absurd h (fail_fatalErr _ err)) (fun h => ⟨h, rfl⟩) rfl
      replica.requests_kept
  | announce destination nonce =>
    obtain ⟨headers, h⟩ := replica.buildView_cases cfg nonce
    rw [h]
    exact calm.frame owned rfl id (fun h => ⟨h, rfl⟩) rfl replica.requests_kept
  | @acks pipeline same =>
    have hflight : commitInFlight { replica with pipeline := pipeline } = replica.commitInFlight :=
      commitInFlight_of_unacknowledged same
    refine calm.entries owned rfl id (fun h => ⟨h, ?_⟩) ?_ replica.requests_kept (fun _ h => hflight.trans h)
      fun h => .inl (hflight.symm.trans h)
    swap
    · intro _ entry hentry
      obtain ⟨old, hold, hunacked⟩ : ∃ old ∈ replica.pipeline, old.unacknowledged = entry.unacknowledged := by
        rw [← List.mem_map, ← same]
        exact List.mem_map_of_mem hentry
      exact .inr ⟨old, hold, (PipelineEntry.mk.inj hunacked).2.2.2.2.2.2.1⟩
    rintro ⟨hpending, entry, hentry, hstage, hio⟩
    have hfirst : (pipeline.map PipelineEntry.unacknowledged).head? = some entry.unacknowledged := by
      rw [same, List.head?_map, show replica.pipeline.head? = some entry from hentry]
      rfl
    rw [List.head?_map] at hfirst
    obtain ⟨other, hother, hunacked⟩ := Option.map_eq_some_iff.mp hfirst
    refine ⟨hpending, other, hother, ?_, ?_⟩
    · rw [show other.stage = entry.stage from (PipelineEntry.mk.inj hunacked).2.2.2.2.2.2.2]
      exact hstage
    · rw [show other.io = entry.io from (PipelineEntry.mk.inj hunacked).2.2.2.2.2.2.1]
      exact hio
  | accept normal durable current source accepted =>
    obtain ⟨-, -, -, -, -, rfl⟩ := acceptPrepare_eq_some accepted
    have hflight : ∀ {entry : PipelineEntry χ}, entry.stage = .idle →
        (replica.pipeline ++ [entry]).any (fun entry => entry.stage ≠ .idle) = replica.commitInFlight := by
      intro entry hidle
      simp [commitInFlight, hidle]
    refine calm.entries owned rfl id (fun h => ⟨h, ?_⟩) ?_ (replica.requests_submitted _)
      (fun _ h => (hflight rfl).trans h) fun h => .inl ((hflight rfl).symm.trans h)
    · rintro ⟨hpending, entry, hentry, hstage, hio⟩
      refine ⟨hpending, entry, ?_, hstage, hio⟩
      rw [Option.mem_def, List.head?_append, show replica.pipeline.head? = some entry from hentry]
      rfl
    · intro hsyncing
      exact absurd normal (phase.asleep hsyncing).1
  | distrustHead normal =>
    have hidle := phase.idle_of_normal normal
    refine .of_idle hidle (fun h => (calm.drained h).2) calm.persisting ?_ (fun _ h => by cases h)
      (calm.unresumed_of_idle hidle) ?_
    · intro hview hchange
      rw [calm.changing hview hchange] at normal
      cases normal
    · intro hfatal hvalid
      rw [(calm.installing hfatal hvalid).1] at normal
      cases normal
  | pend higher trusted busy undisturbed =>
    have hidle : replica.syncing = false := by
      rw [← Bool.not_eq_true]
      exact fun h => undisturbed quietly h (calm.recovering h)
    refine .of_idle hidle (fun h => (calm.drained h).2) calm.persisting calm.changing ?_
      (calm.unresumed_of_idle hidle) ?_
    · intro _ _ hfree hcommitted
      obtain h | h := busy
      · exact absurd hfree h
      · exact absurd (h.symm.trans hcommitted) (by decide)
    · exact fun hfatal hvalid => absurd (calm.installing hfatal hvalid).1 trusted
  | settle =>
    exact { calm with
      low := fun _ => Nat.zero_le _
      waiting := fun _ _ _ _ => Nat.zero_le _
      resuming := fun hfatal h => ⟨(calm.resuming hfatal h).1, rfl⟩
      installing := fun hfatal h =>
        ⟨(calm.installing hfatal h).1, Nat.zero_le _, (calm.installing hfatal h).2.2⟩ }
  | @beginViewChange inputs target higher trusted idle committed undisturbed =>
    have hidle : replica.syncing = false := by
      rw [← Bool.not_eq_true]
      exact fun h => undisturbed quietly h (calm.recovering h)
    refine .begin replica inputs target ⟨_, rfl⟩ hidle (calm.undrained committed) ?_ (calm.unresumed_of_idle hidle) ?_
    · exact (replica.beginViewChangeNow_flight inputs target).trans committed
    · intro hfatal
      rw [← Bool.not_eq_true]
      exact fun hvalid => trusted (calm.installing hfatal hvalid).1
  | resume inputs higher free committed =>
    have hidle := calm.idle_of_higher higher
    refine .begin { replica with pendingView := 0 } inputs replica.pendingView ⟨_, rfl⟩ hidle
      (calm.undrained (committed quietly)) ?_ (calm.unresumed_of_idle hidle) (calm.uninstalled_of_higher higher)
    exact (beginViewChangeNow_flight _ inputs _).trans (committed quietly)
  | @progress entry rest stage first waits ready ahead =>
    refine calm.advance owned first (setStage_pipeline first stage) rfl id ?_ rfl (fun _ => .inr rfl)
      replica.requests_kept ?_ ?_
    · intro h
      simp [h] at waits
    · obtain ⟨hprefetch, -⟩ | ⟨⟨inputs, hmay⟩, -⟩ := ready
      · exact .inr (by rw [hprefetch]; decide)
      · exact .inl (calm.free_of_mayCommit phase hmay)
    · show stage ≠ .idle
      obtain rfl | rfl | rfl := ahead <;> decide
  | @submitReply _ inputs _ entry rest first waits ready submitted =>
    obtain ⟨rfl, rfl⟩ := submit_eq_ok submitted
    obtain ⟨⟨inputs, hmay⟩, -⟩ := ready
    have hidle := calm.idle_of_mayCommit hmay
    have hpipeline := executing_pipeline first replica.nextHandle
    refine calm.advance owned first hpipeline rfl id ?_ rfl ?_ (replica.requests_submitted _)
      (.inl (calm.free_of_mayCommit phase hmay)) (by show CommitStage.execute ≠ .idle; decide)
    · intro h
      simp [h] at waits
    · intro hsyncing
      rw [hidle] at hsyncing
      cases hsyncing
  | @commit entry rest stage first waits ready maintains =>
    obtain ⟨⟨inputs, hmay⟩, -⟩ := ready
    have hpipeline := executed_pipeline first stage
    refine calm.advance owned first hpipeline rfl id ?_ rfl (fun _ => .inr rfl) replica.requests_kept
      (.inl (calm.free_of_mayCommit phase hmay)) ?_
    · intro h
      simp [h] at waits
    · show stage ≠ .idle
      obtain rfl | rfl := maintains <;> decide
  | @checkpointData entry rest target first maintains =>
    have hpipeline := checkpointData_pipeline first target
    refine calm.advance owned first hpipeline rfl id ?_ rfl (fun _ => .inr rfl) replica.requests_kept (.inr ?_)
      (by show CommitStage.checkpointData ≠ .idle; decide)
    · intro h
      simp [h] at maintains
    · obtain h | h := maintains <;> rw [h] <;> decide
  | @submitCheckpoint _ _ _ checkpoint entry rest first data built undrained submitted =>
    obtain ⟨rfl, rfl⟩ := submit_eq_ok submitted
    have hidle : replica.syncing = false := by
      rw [← Bool.not_eq_true]
      intro hsyncing
      have hdrains := phase.drains hsyncing (by rw [first]; exact List.cons_ne_nil _ _)
      rw [undrained quietly (calm.recovering hsyncing)] at hdrains
      cases hdrains
    have hpipeline := checkpointing_pipeline first replica.nextHandle
    refine calm.advance owned first hpipeline rfl id (by rw [data]; decide) rfl ?_
      (replica.requests_submitted _) (.inr (by rw [data]; decide))
      (by show CommitStage.checkpointSuperblock ≠ .idle; decide)
    intro hsyncing
    rw [hidle] at hsyncing
    cases hsyncing
  | @yield inputs entry rest first maintains unsubmitted higher =>
    have hidle := calm.idle_of_higher higher
    refine .begin ({ replica with
      pendingView := 0, checkpointTarget := 0, pendingCheckpoint := none }.setStage .idle) inputs
      replica.pendingView ⟨_, rfl⟩ hidle (calm.undrained_of_stage first unsubmitted) (owned.flight_of_tail ?_)
      (calm.unresumed_of_idle hidle) (calm.uninstalled_of_higher higher)
    rw [beginViewChangeNow_tail]
    simp [Replica.setStage, modifyEntry, first]
  | @yieldPublished inputs entry rest first persisted free published higher =>
    have hidle := calm.idle_of_higher higher
    refine .begin { replica with pendingView := 0 } inputs replica.pendingView ⟨_, rfl⟩ hidle ?_
      (owned.flight_of_tail (beginViewChangeNow_tail _ inputs _)) (calm.unresumed_of_idle hidle)
      (calm.uninstalled_of_higher higher)
    show replica.checkpointRepairDrain = false
    rw [← Bool.not_eq_true]
    exact fun h => (calm.drained h).2.1 published
  | @drain entry rest first persisted free pending =>
    exact { calm with
      drained := fun _ => ⟨(free quietly).1, pending, entry, by rw [first]; rfl, persisted, (free quietly).2⟩ }
  | publish => exact calm.frame owned rfl id (fun h => by cases h) rfl replica.requests_kept
  | publishLast first persisted free pending err =>
    exact calm.frame owned rfl (fun h => absurd h (fail_fatalErr _ err)) (fun h => by cases h) rfl
      replica.requests_kept
  | @pop entry rest first maintains low done =>
    refine calm.entries owned rfl id ?_ ?_ replica.requests_kept (fun _ _ => ?_) fun _ => .inr low
    · intro hdrain
      obtain ⟨-, hpending, other, hother, hstage, -⟩ := calm.drained hdrain
      rw [first] at hother
      cases hother
      obtain ⟨hunsubmitted, -⟩ | ⟨-, hpublished, -⟩ := done
      · exact absurd hstage hunsubmitted
      · exact absurd hpublished hpending
    · exact fun _ other hother => .inr ⟨other, List.mem_of_mem_tail hother, rfl⟩
    · exact owned.flight_of_tail rfl
  | @openWindow view commit windowHead ahead bounded source =>
    have hopens : replica.syncing = false ∧ replica.viewIo = none ∧ replica.pendingView ≤ replica.view ∧
        replica.view ≤ view := by
      obtain ⟨_, -, -, -, -, hview, -, hcurrent, -, hidle, hsettled, -⟩ | ⟨normal, -, hsame, -, hlow⟩ := source
      · exact ⟨hidle, hview, hsettled quietly, hcurrent⟩
      refine ⟨phase.idle_of_normal normal, ?_, hlow, Nat.le_of_eq hsame.symm⟩
      by_contra hview
      cases hinstall : replica.viewInstall with
      | false =>
        rw [calm.changing hview hinstall] at normal
        cases normal
      | true => exact (phase.persisting hview hinstall).1 normal
    obtain ⟨hidle, hview, hlow, hcurrent⟩ := hopens
    refine .of_idle hidle (fun h => (calm.drained h).2) (fun h => absurd hview h) (fun h => absurd hview h)
      (fun _ h => by cases h) (calm.unresumed_of_idle hidle) fun _ _ => ⟨rfl, hlow, hcurrent, hview⟩
  | recordView requestQueue counted recorded free source =>
    simp only [validRecoveringView, decide_eq_true_eq, Option.isNone_iff_eq_none,
      Bool.not_eq_true] at recorded
    obtain ⟨hcommitted, -, -, -, hview, hcurrent, -⟩ := recorded
    have hidle : replica.syncing = false := by
      obtain ⟨_, -, -, -, -, -, -, hidle, -⟩ | ⟨-, changing, -⟩ := source
      · exact hidle
      rw [← Bool.not_eq_true]
      intro h
      rw [calm.recovering h] at changing
      cases changing
    refine .of_idle hidle (fun h => (calm.drained h).2) (fun h => absurd hview h) (fun h => absurd hview h)
      (fun _ h => by cases h) (calm.unresumed_of_idle hidle) fun hfatal _ => ⟨rfl, ?_, hcurrent, hview⟩
    obtain ⟨_, -, -, -, -, -, -, -, hsettled⟩ | ⟨-, changing, -⟩ := source
    · exact hsettled quietly
    · exact calm.waiting hfatal changing hview hcommitted
  | windowHeaders =>
    obtain ⟨_, _, _, _, h⟩ := replica.handleRepairWindowHeaders_frame cfg _ _
    rw [h]
    exact calm.frame owned rfl id (fun h => ⟨h, rfl⟩) rfl replica.requests_kept
  | repairAppend heard repaired =>
    obtain ⟨-, -, -, -, -, -, rfl⟩ := handleRepairPrepare_eq_some repaired
    exact calm.frame owned rfl id (fun h => ⟨h, rfl⟩) rfl (replica.requests_submitted _)
  | rebuild installing named unbuilt written idle quiet rebuilt =>
    have hidle := phase.idle_of_installing installing
    have hundrained : replica.checkpointRepairDrain = false := calm.undrained <| by
      rw [commitInFlight, List.any_eq_false]
      intro entry hentry
      rw [(quiet entry hentry).2]
      decide
    have hnever : ∀ {P : Prop}, replica.checkpointRepairDrain = true → P := fun h =>
      absurd (h.symm.trans hundrained) (by decide)
    obtain rfl | ⟨entries, _, _, _, _, hentries, rfl | rfl⟩ := rebuilt_cases rebuilt
    · exact calm
    · exact .of_idle hidle hnever (fun h => absurd idle h) (fun h => absurd idle h)
        (fun h => absurd h (fail_fatalErr _ _)) (fun h => absurd h (fail_fatalErr _ _))
        fun h => absurd h (fail_fatalErr _ _)
    · refine .of_idle hidle hnever (fun h => absurd idle h) (fun h => absurd idle h) ?_
        (calm.unresumed_of_idle hidle) ?_
      · intro hfatal hchanging
        have hchanging : replica.status = .viewChange := hchanging
        rw [(calm.installing hfatal installing).1] at hchanging
        cases hchanging
      · intro hfatal _
        obtain ⟨hstatus, hlow, hcurrent, -⟩ := calm.installing hfatal installing
        exact ⟨hstatus, Nat.le_trans hlow hcurrent, Nat.le_refl _, idle⟩
  | persistInstall installing rebuilt committed quiet persisted =>
    obtain ⟨-, -, -, rfl⟩ := persistView_eq_ok persisted
    have hidle := phase.idle_of_installing installing
    have hcommitted : replica.commitInFlight = false := by
      rw [commitInFlight, List.any_eq_false]
      intro entry hentry
      rw [(quiet entry hentry).2]
      decide
    exact .of_idle hidle (fun h => (calm.drained h).2) (fun _ => hcommitted) (fun _ h => by cases h)
      (fun _ _ h => by cases h) (calm.unresumed_of_idle hidle) fun _ h => by cases h
  | perform handle =>
    obtain h | ⟨_, -, -, -, _, _, _, _, -, h⟩ := replica.perform_cases cfg handle
    · rw [h]
      exact calm
    rw [h]
    refine calm.frame owned rfl id (fun h => ⟨h, rfl⟩) rfl fun pending hpending => .inr ?_
    obtain ⟨old, hold, rfl⟩ := List.mem_map.mp hpending
    refine ⟨old, hold, ?_⟩
    split_ifs <;> rfl
  | @drop handle | @clearSync handle | @clearRepair handle | @syncPersisted handle | @repairWritten handle =>
    exact calm.frame owned rfl id (fun h => ⟨h, rfl⟩) rfl (replica.requests_released handle)
  | clearView done owner draining =>
    -- a state sync begins with no superblock of a view on its way
    have hsyncing : replica.syncing = true := by simp [syncing, draining]
    rw [calm.free hsyncing] at owner
    cases owner
  | @viewFailed handle operation result done owner err =>
    have hidle := calm.idle_of_view owner
    exact .of_idle hidle (fun h => (calm.drained h).2) (fun h => absurd rfl h) (fun h => absurd rfl h)
      (fun h => absurd h (fail_fatalErr _ err)) (fun h => absurd h (fail_fatalErr _ err))
      fun h => absurd h (fail_fatalErr _ err)
  | @viewPersisted handle operation done owner change low =>
    have hidle := calm.idle_of_view owner
    refine .of_idle hidle (fun h => (calm.drained h).2) (fun h => absurd rfl h) (fun h => absurd rfl h)
      (fun _ _ _ _ => Nat.zero_le _) (calm.unresumed_of_idle hidle) ?_
    intro hfatal hvalid
    have hfree := (calm.installing hfatal hvalid).2.2.2
    rw [hfree] at owner
    cases owner
  | @viewPersistedOnward inputs handle operation done owner change higher =>
    have hview : replica.viewIo ≠ none := by rw [owner]; exact Option.some_ne_none handle
    have hidle := calm.idle_of_higher higher
    have hcommitted := calm.persisting hview
    refine .begin { replica.releaseIo handle with
      viewIo := none, durableView := replica.view, pendingView := 0 } inputs replica.pendingView ⟨_, rfl⟩
      hidle (calm.undrained hcommitted) ?_ (calm.unresumed_of_idle hidle) (calm.uninstalled_of_higher higher)
    exact (beginViewChangeNow_flight _ inputs _).trans hcommitted
  | @viewInstalled handle operation done owner install =>
    have hidle := calm.idle_of_view owner
    refine .of_idle hidle (fun h => (calm.drained h).2) (fun h => absurd rfl h) (fun h => absurd rfl h)
      (fun _ h => by cases h) (calm.unresumed_of_idle hidle) ?_
    intro hfatal hvalid
    have hfree := (calm.installing hfatal hvalid).2.2.2
    rw [hfree] at owner
    cases owner
  | @clearEntry handle offset =>
    have hpipeline : ((replica.releaseIo handle).modifyEntry offset
        fun entry => { entry with io := none }).pipeline =
        replica.pipeline.modify offset fun entry => { entry with io := none } := rfl
    exact calm.touch owned hpipeline (fun _ => rfl) (fun _ => rfl) rfl id rfl rfl
      (replica.requests_released handle)
  | @appended handle offset =>
    exact calm.touch owned (replica.appended_pipeline offset) (fun _ => rfl) (fun _ => rfl) rfl id rfl rfl
      (replica.requests_released handle)
  | @replyWritten handle entry rest stage done first owner executing maintains =>
    have hpipeline := replied_pipeline first handle stage
    refine calm.advance owned first hpipeline rfl id (by rw [executing]; decide) rfl (fun _ => .inl rfl)
      (replica.requests_released handle) (.inr (by rw [executing]; decide)) ?_
    show stage ≠ .idle
    obtain rfl | rfl := maintains <;> decide
  | @enterStateSync message heard idle unopened unreplayed ahead free undisturbed current author accepted =>
    have hnone : ∀ {P : Prop}, replica.viewIo ≠ none → P := fun h => absurd free.1 h
    refine ⟨fun _ => rfl, fun _ => free.1, fun _ => (undisturbed quietly).1, fun _ => current.1, ?_,
      fun _ h => absurd rfl h, hnone, hnone, fun _ h => (by cases h), fun _ h => (by cases h), ?_⟩
    · intro hdrain
      exact absurd (hdrain.symm.trans (undisturbed quietly).2) (by decide)
    · intro _ hvalid
      exact absurd (hvalid.symm.trans free.2.2) (by decide)
  | drained stage empty =>
    have hsyncing : replica.syncing = true := by simp [syncing, stage]
    refine calm.within hsyncing (by simp [syncing]) rfl rfl rfl (Nat.le_refl _) (calm.toward hsyncing) rfl rfl
      ?_ rfl (phase.uninstalled hsyncing)
    show ∀ entry ∈ replica.pipeline, ∀ pending ∈ replica.io, _
    rw [empty]
    exact fun _ _ _ h => absurd h List.not_mem_nil
  | submitSync free kind submitted =>
    obtain ⟨rfl, rfl⟩ := submit_eq_ok submitted
    exact calm.frame owned rfl id (fun h => ⟨h, rfl⟩) rfl (replica.requests_submitted _)
  | startReset inputs =>
    unfold startStateSyncReset
    split
    · exact calm
    · exact calm.frame owned rfl id (fun h => ⟨h, rfl⟩) rfl replica.requests_kept
  | releaseFrames stage second done free =>
    have hsyncing : replica.syncing = true := by simp [syncing, stage]
    exact calm.within hsyncing (by simp [syncing, stage]) rfl rfl rfl (Nat.le_refl _) (calm.toward hsyncing)
      rfl rfl (fun _ h => absurd h List.not_mem_nil) rfl (phase.uninstalled hsyncing)
  | installCheckpoint stage second done free =>
    have hsyncing : replica.syncing = true := by simp [syncing, stage]
    have hunawaited := calm.unawaited hsyncing (by rw [stage]; decide)
    exact calm.within hsyncing (by simp [syncing, installStateSyncCheckpoint]) rfl rfl rfl
      (calm.toward hsyncing) (Nat.le_refl _) rfl rfl hunawaited rfl (phase.uninstalled hsyncing)
  | resized stage | resizedOpening stage =>
    have hsyncing : replica.syncing = true := by simp [syncing, stage]
    have hwaits := phase.resizing stage
    have hunawaited := calm.unawaited hsyncing (by rw [stage]; decide)
    refine calm.within hsyncing ?_ rfl rfl rfl (Nat.le_refl _) (calm.toward hsyncing) rfl rfl hunawaited rfl
      (phase.uninstalled hsyncing)
    rw [syncing, decide_eq_true_eq]
    exact .inr (.inl hwaits)
  | openReplay answered resumes complete =>
    have hsyncing := syncing_of_synced ((phase.opens answered).1)
    have hunawaited := calm.unawaited hsyncing (by rw [(phase.opens answered).2.1]; decide)
    exact calm.within hsyncing (by simp [syncing]) rfl rfl rfl (Nat.le_refl _) (calm.toward hsyncing) rfl rfl
      hunawaited rfl (phase.uninstalled hsyncing)
  | openIncomplete answered =>
    have hsyncing := syncing_of_synced ((phase.opens answered).1)
    refine calm.wake hsyncing (phase.opened_idle answered) rfl rfl (fun _ => calm.low hsyncing) (fun _ => rfl) ?_
    exact fun _ hvalid => absurd (hvalid.symm.trans (phase.uninstalled hsyncing)) (by decide)
  | openHeaders answered fresh | openBehind answered fresh =>
    have hsyncing := syncing_of_synced ((phase.opens answered).1)
    exact calm.wake hsyncing (phase.opened_idle answered) rfl rfl (fun _ => calm.low hsyncing) (fun _ => fresh)
      fun _ _ => ⟨rfl, calm.toward hsyncing⟩
  | openLevel answered fresh | openStuck answered fresh =>
    have hsyncing := syncing_of_synced ((phase.opens answered).1)
    refine calm.wake hsyncing (phase.opened_idle answered) rfl rfl (fun _ => calm.low hsyncing) (fun _ => fresh) ?_
    exact fun _ hvalid => absurd (hvalid.symm.trans (phase.uninstalled hsyncing)) (by decide)
  | repliesRepaired pending idle =>
    obtain ⟨hstage, -, hreplay⟩ := syncing_eq_false.mp idle
    exact .of_idle (syncing_eq_false.mpr ⟨hstage, rfl, hreplay⟩) (fun h => (calm.drained h).2) calm.persisting
      calm.changing calm.waiting (calm.unresumed_of_idle idle) calm.installing
  | replay => exact calm.replay phase

omit [DecidableEq χ] [Checksums χ] in
/-- In a calm run completions belong where they are taken for. -/
theorem Calm.attributed (calm : replica.Calm) (owned : replica.Owned) : Attributed given replica where
  reply := owned.reply_first
  checkpoint := owned.checkpoint_first
  drained := by
    intro _ hdrain
    obtain ⟨hidle, -, entry, hentry, -, hio⟩ := calm.drained hdrain
    refine ⟨hidle, fun other hother => ?_⟩
    rw [Option.mem_unique hother hentry]
    exact hio
  unsynced := by
    intro _ handle offset operation result entry hdone hplace howner hstage
    rw [← Bool.not_eq_true]
    intro hsyncing
    obtain ⟨pending, hpending, rfl, -⟩ := mem_io_of_completedIo hdone
    exact calm.unawaited hsyncing hstage entry (List.mem_of_getElem? hplace) pending hpending howner
  persisting := fun _ => calm.persisting

/-- Whether a frame would make a view change cross a state sync or an installation. -/
def crosses (replica : Replica χ) (cfg : Config) (message : Message χ) : Bool :=
  match message with
  | .view sent =>
    ¬ replica.refusesView cfg sent ∧ (replica.view < replica.pendingView ∨
      (replica.checkpointOp < sent.checkpoint.prepareOp ∧ replica.checkpointRepairDrain))
  | _ => (raises message).any fun raised =>
    replica.stateSyncAwaitingOpen ∧ cfg.activeCount ≤ raised.2 ∧ replica.view < raised.1

omit [DecidableEq χ] [Checksums χ] in
/-- What a frame that crosses nothing is taken with. -/
theorem hears_of_not_crosses {message : Message χ} (heard : given.heard message)
    (unreplying : ¬ given.unreplying) (straight : replica.crosses cfg message = false) :
    Hears given cfg replica message := by
  refine ⟨heard, fun _ hwaits raised hraised hstandby => ?_, ?_⟩
  · have hany : (raises message).any (fun raised => decide (replica.stateSyncAwaitingOpen ∧
        cfg.activeCount ≤ raised.2 ∧ replica.view < raised.1)) = false := by
      cases message <;> first | exact straight | cases hraised
    rw [show raises message = some raised from hraised, Option.any_some] at hany
    simp only [hwaits, hstandby, true_and, decide_eq_false_iff_not, Nat.not_lt] at hany
    exact hany
  · rintro sent rfl
    simp only [crosses, decide_eq_false_iff_not, not_or, Nat.not_lt, not_and, Bool.not_eq_true] at straight
    exact ⟨heard, fun _ h => (straight h).1, fun _ h => (straight h).2, fun h => absurd h unreplying⟩

end Replica

/-! ## Runs -/

/-- A replica that has just been opened. -/
theorem Opened.calm {durable : Durable χ} (opened : Opened cfg durable replica) : replica.Calm := by
  cases opened with
  | resumed recovered resumes checked resumed =>
    obtain rfl := eq_of_ite_error resumed
    exact {
      recovering := fun _ => rfl
      free := fun _ => rfl
      low := fun _ => Nat.zero_le _
      toward := fun _ => Nat.le_refl _
      drained := fun h => by cases h
      unawaited := fun _ _ _ h => absurd h List.not_mem_nil
      persisting := fun h => absurd rfl h
      changing := fun h => absurd rfl h
      waiting := fun _ h => by cases h
      resuming := fun _ _ => ⟨rfl, rfl⟩
      installing := fun _ h => by cases h }
  | restarted =>
    exact .of_idle rfl (fun h => by cases h) (fun h => absurd rfl h) (fun h => absurd rfl h)
      (fun _ _ _ _ => Nat.zero_le _) (fun _ => rfl) fun _ h => by cases h

namespace Cluster

/-- No frame makes a view change cross a state sync or an installation. -/
def calmly (cfg : Config) (cluster : Cluster χ) (step : Nat × NodeAction χ) : Bool :=
  match step.2, cluster.nodes[step.1]? with
  | .event _ (.receive message), some (.running replica) => ¬ replica.crosses cfg message
  | _, _ => true

end Cluster

end Supervsr
