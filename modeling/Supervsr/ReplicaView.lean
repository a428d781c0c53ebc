import Supervsr.Replica

/-
# Supervsr.ReplicaView — starting a view change, and asking peers for a view

The part of `view_change.go` and `replica_repair.go` the commit path calls back into: raising the view
and persisting it before it is spoken about, requesting the `View` of a newer primary, and opening a
repair window when the log has fallen behind the committed bound by more than a pipeline.
-/

namespace Supervsr.Replica

variable {χ : Type}

/-! ## Requesting a view -/

def sendGetView (replica : Replica χ) (cfg : Config) (inputs : Inputs χ) : Replica χ :=
  let view := max replica.view replica.getViewTarget
  let now := inputs.sample.monotonic
  if cfg.primary view = cfg.localIndex then replica
  else if replica.getViewLast ≠ 0 ∧ now - replica.getViewLast < cfg.initialRTT then replica
  else
    let nonce := if replica.getViewNonce = 0 then max inputs.nonce 1 else replica.getViewNonce
    let replica := { replica with getViewNonce := nonce, getViewLast := now }
    replica.send (some (cfg.primary view)) (.getView view cfg.localIndex nonce)

def requestView (replica : Replica χ) (cfg : Config) (inputs : Inputs χ) (view : Nat) : Replica χ :=
  let replica :=
    if replica.getViewTarget < view then
      { replica with getViewTarget := view, getViewNonce := 0, getViewLast := 0 }
    else replica
  replica.sendGetView cfg inputs

/-! ## Persisting a view -/

/-- The loop of `collectLocalSuffix`: down from `op`, at most `rounds` headers, to the checkpoint. -/
def localSuffix (replica : Replica χ) (cfg : Config) : Nat → Nat → List (Option (Header χ))
  | 0, _ => []
  | rounds + 1, op =>
    (replica.localHeaderEvidence cfg op).1 ::
      if op = replica.checkpointOp ∨ op = 0 then [] else replica.localSuffix cfg rounds (op - 1)

def collectLocalSuffix (replica : Replica χ) (cfg : Config) : List (Option (Header χ)) :=
  replica.localSuffix cfg (cfg.pipelineMax + 1) replica.headOp

/-- The superblock that follows the current one with a changed state. -/
def nextSuperblock [Checksums χ] (replica : Replica χ) (state : DurableReplicaState χ) : Superblock χ :=
  let current := replica.durable.superblock
  { current with
    parentChecksum := current.checksum
    sequence := current.sequence + 1
    state := state }

/-- The superblock `persistView` writes. -/
def viewSuperblock [Checksums χ] (replica : Replica χ) (install : Bool) (commit : Nat)
    (headers : List (Option (Header χ))) : Superblock χ :=
  let state := replica.durable.superblock.state
  { replica.nextSuperblock { state with
      view := replica.view
      logView := if install then replica.view else state.logView
      commitMax := max state.commitMax commit } with
    viewHeaders := headers }

def persistView [Checksums χ] (replica : Replica χ) (cfg : Config) (inputs : Inputs χ) (install : Bool)
    (commit head : Nat) (headers : List (Option (Header χ))) : Except ReplicaError (Replica χ) :=
  if replica.viewIo.isSome ∨ headers.length = 0 ∨ headers.length > cfg.pipelineMax + 1 then
    .error .backpressure
  else
    match replica.submit inputs (.superblockPersist (replica.viewSuperblock install commit headers)) with
    | .error err => .error err
    | .ok (replica, handle) =>
      .ok { replica with
        viewIo := some handle, viewInstall := install, viewCommit := commit, viewHead := head }

theorem persistView_eq_ok [Checksums χ] {replica next : Replica χ} {cfg : Config} {inputs : Inputs χ}
    {install : Bool} {commit head : Nat} {headers : List (Option (Header χ))}
    (persisted : replica.persistView cfg inputs install commit head headers = .ok next) :
    replica.viewIo = none ∧ headers.length ≠ 0 ∧ headers.length ≤ cfg.pipelineMax + 1 ∧
      next = { replica with
        io := replica.io ++
          [⟨replica.nextHandle, .superblockPersist (replica.viewSuperblock install commit headers), none⟩]
        nextHandle := replica.nextHandle + 1
        viewIo := some replica.nextHandle
        viewInstall := install
        viewCommit := commit
        viewHead := head } := by
  unfold persistView at persisted
  split at persisted
  · cases persisted
  rename_i hfree
  simp only [not_or, Option.isSome_iff_ne_none, ne_eq, not_not, Nat.not_lt,
    gt_iff_lt] at hfree
  split at persisted
  · cases persisted
  rename_i submitted
  obtain ⟨rfl, rfl⟩ := submit_eq_ok submitted
  cases persisted
  exact ⟨hfree.1, hfree.2.1, hfree.2.2, rfl⟩

/-- What `beginViewChangeNow` does before it persists. -/
def enterViewChange (replica : Replica χ) (target : Nat) : Replica χ :=
  { replica.releaseQueuedRequests with
    status := .viewChange
    view := target
    exitViewBits := []
    joins := replica.joins.map fun _ => none
    joinAttempts := 0
    pipeline := replica.pipeline.map fun entry => { entry with acks := [], quorum := false } }

def beginViewChangeNow [Checksums χ] (replica : Replica χ) (cfg : Config) (inputs : Inputs χ)
    (target : Nat) : Replica χ :=
  let replica := replica.enterViewChange target
  let headers := replica.collectLocalSuffix cfg
  let replica := replica.overwriteCanonicalHeaders headers
  match replica.persistView cfg inputs false replica.commitMax replica.headOp headers with
  | .error err => replica.fail err
  | .ok replica => replica

/-- A view change that starts either fails for want of storage or goes on with a superblock on its
way. -/
theorem beginViewChangeNow_cases [Checksums χ] (replica : Replica χ) (cfg : Config) (inputs : Inputs χ)
    (target : Nat) :
    let headers := (replica.enterViewChange target).collectLocalSuffix cfg
    let entered := (replica.enterViewChange target).overwriteCanonicalHeaders headers
    (∃ err, replica.beginViewChangeNow cfg inputs target = entered.fail err) ∨
      (replica.viewIo = none ∧
        replica.beginViewChangeNow cfg inputs target = { entered with
          io := replica.io ++ [⟨replica.nextHandle, .superblockPersist
            (entered.viewSuperblock false replica.commitMax headers), none⟩]
          nextHandle := replica.nextHandle + 1
          viewIo := some replica.nextHandle
          viewInstall := false
          viewCommit := replica.commitMax
          viewHead := replica.headOp }) := by
  intro headers entered
  unfold beginViewChangeNow
  simp only
  split
  · exact .inl ⟨_, rfl⟩
  · rename_i next hpersisted
    obtain ⟨hfree, -, -, rfl⟩ := persistView_eq_ok hpersisted
    exact .inr ⟨hfree, rfl⟩

def beginViewChange [Checksums χ] (replica : Replica χ) (cfg : Config) (inputs : Inputs χ)
    (target : Nat) : Replica χ :=
  if target ≤ replica.view ∨ replica.status = .recoveringHead then replica
  else if replica.viewIo.isSome ∨ replica.commitInFlight then
    { replica with pendingView := max replica.pendingView target }
  else replica.beginViewChangeNow cfg inputs target

/-- `resumePendingViewChange` where it answers that there is one to resume. -/
def resumesPendingView (replica : Replica χ) : Bool := replica.view < replica.pendingView

def resumePendingViewChange [Checksums χ] (replica : Replica χ) (cfg : Config) (inputs : Inputs χ) :
    Replica χ :=
  if replica.resumesPendingView then
    { replica with pendingView := 0 }.beginViewChangeNow cfg inputs replica.pendingView
  else { replica with pendingView := 0 }

/-! ## Repair windows -/

def requestRepairWindowHeaders (replica : Replica χ) (cfg : Config) (inputs : Inputs χ) : Replica χ :=
  let now := inputs.sample.monotonic
  if replica.repairHeadersLast ≠ 0 ∧ now - replica.repairHeadersLast < cfg.initialRTT then replica
  else
    let replica := replica.send (some (cfg.primary replica.repairView))
      (.getHeaders cfg.localIndex (replica.commitMin + 1) replica.repairViewHead)
    { replica with repairHeadersLast := now }

/-- The fields `beginRepairWindow` sets. -/
def openWindow (replica : Replica χ) (cfg : Config) (view commit windowHead : Nat) : Replica χ :=
  { replica with
    repairFrames := List.replicate (cfg.pipelineMax + 1) none
    canonicalHeaders := List.replicate (cfg.pipelineMax + 1) none
    repairHeader := none
    status := .recoveringHead
    repairViewValid := true
    repairView := view
    repairViewCommit := windowHead
    repairViewHead := windowHead
    repairViewAncestor := replica.commitMin
    repairViewRebuilt := false
    repairViewWindow := true
    repairViewCount := 0
    commitMax := max replica.commitMax commit
    repairHeadersLast := 0 }

/-- `beginRepairWindow`; the flag is its result. -/
def beginRepairWindow (replica : Replica χ) (cfg : Config) (inputs : Inputs χ) (view commit : Nat) :
    Replica χ × Bool :=
  match checkedAdd replica.commitMin cfg.pipelineMax with
  | none => (replica.fail .replicaInvariant, false)
  | some limit =>
    let windowHead := min commit limit
    if windowHead ≤ replica.commitMin then (replica, false)
    else ((replica.openWindow cfg view commit windowHead).requestRepairWindowHeaders cfg inputs, true)

theorem beginRepairWindow_cases (replica : Replica χ) (cfg : Config) (inputs : Inputs χ)
    (view commit : Nat) :
    replica.beginRepairWindow cfg inputs view commit = (replica.fail .replicaInvariant, false) ∨
      replica.beginRepairWindow cfg inputs view commit = (replica, false) ∨
      ∃ windowHead, replica.commitMin < windowHead ∧
        windowHead = min commit (replica.commitMin + cfg.pipelineMax) ∧
        replica.beginRepairWindow cfg inputs view commit =
          ((replica.openWindow cfg view commit windowHead).requestRepairWindowHeaders cfg inputs, true) := by
  unfold beginRepairWindow
  split
  · exact .inl rfl
  rename_i limit hlimit
  simp only
  split_ifs with hbehind
  · exact .inr (.inl rfl)
  · rw [checkedAdd_eq_some hlimit] at hbehind ⊢
    exact .inr (.inr ⟨_, Nat.not_le.mp hbehind, rfl, rfl⟩)

end Supervsr.Replica
