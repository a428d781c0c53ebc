import Mathlib.Logic.Function.Basic
import Supervsr.Superblock

/-
# Supervsr.SuperblockStore — formatting, opening and persisting the superblock copies

The physical steps of `superblock_store.go` and of the superblock part of `format.go`.  A persist is a
sequence of advances, each one storage call, so that a crash can be placed between any two of them or
inside a write.  `SuperblockWorld` runs whole histories of calls.
-/

namespace Supervsr

/-- What one physical copy holds: an image sealed by `Encode` for some index, zeros, bytes that do not
decode, or a region whose read fails. -/
inductive Copy (χ : Type) where
  | unreadable
  | blank
  | damaged
  | image (storedIndex : Nat) (superblock : Superblock χ)
deriving DecidableEq, Repr

/-- The superblock zone of a storage of `size` bytes. -/
structure SuperblockZone (χ : Type) where
  size : Nat
  copies : Nat → Copy χ

/-- A zone no `Format` has touched. -/
def SuperblockZone.empty {χ : Type} : SuperblockZone χ := ⟨0, fun _ => .blank⟩

def SuperblockZone.write {χ : Type} (zone : SuperblockZone χ) (index : Nat) (copy : Copy χ) :
    SuperblockZone χ :=
  { zone with copies := Function.update zone.copies index copy }

theorem SuperblockZone.write_copies {χ : Type} (zone : SuperblockZone χ) (index : Nat) (copy : Copy χ)
    (other : Nat) :
    (zone.write index copy).copies other = if other = index then copy else zone.copies other :=
  Function.update_apply _ _ _ _

/-- `SuperblockStore`, its scratch buffer left out. -/
structure SuperblockStore (χ : Type) where
  storage : SuperblockZone χ
  validation : SuperblockValidation χ
  current : SuperblockCandidate χ
  ioActive : Bool

section Open

variable {χ : Type} [DecidableEq χ] [Checksums χ]

def decodeSuperblock (copy : Copy χ) (physicalIndex : Nat) (validation : SuperblockValidation χ) :
    Except SuperblockError (SuperblockCandidate χ) :=
  match copy with
  | .unreadable => .error .storage
  | .blank => .error .invalidSuperblock
  | .damaged => .error .invalidSuperblock
  | .image storedIndex superblock =>
    if superblock.release = 0 ∨ superblock.sequence = 0 then .error .invalidSuperblock
    else if superblock.formatVersion ≠ formatVersion ∨ superblock.group ≠ validation.group ∨
        superblock.configurationChecksum ≠ validation.configurationChecksum ∨
        superblock.protocolVersion ≠ protocolVersion then
      .error (.joined .invalidSuperblock .incompatibleConfiguration)
    else if validation.cluster.blockBase.isNone then .error .invalidSuperblock
    else if ¬ superblock.state.checkpoint.valid validation.checkpointValidation then
      .error .invalidCheckpoint
    else if superblock.viewHeaders.length > superblockHeadersMax ∨
        superblock.viewHeaders.length > validation.cluster.pipelineMax + 1 then
      .error .invalidSuperblock
    else do
      superblock.validate validation
      return { superblock, physicalIndex, misdirectedIndex := storedIndex ≠ physicalIndex }

/-- The copies that decode, in physical order. -/
def superblockCandidates (zone : SuperblockZone χ) (validation : SuperblockValidation χ) :
    List (SuperblockCandidate χ) :=
  (List.range validation.cluster.superblockCopies).filterMap
    (fun index => (decodeSuperblock (zone.copies index) index validation).toOption)

/-- The verdict when no copy decodes. -/
def noCandidateError (zone : SuperblockZone χ) (validation : SuperblockValidation χ) :
    SuperblockError :=
  let copies := (List.range validation.cluster.superblockCopies).map zone.copies
  let readable := copies.filter (· ≠ .unreadable)
  let incompatible := (List.range validation.cluster.superblockCopies).countP (fun index =>
    match decodeSuperblock (zone.copies index) index validation with
    | .error err => err.is .incompatibleConfiguration
    | .ok _ => false)
  if readable = [] ∧ copies ≠ [] then .storage
  else if readable.all (· = .blank) then .unformatted
  else if incompatible ≥ (superblockOpenQuorum validation.cluster.superblockCopies).getD 0 then
    .incompatibleConfiguration
  else .corrupt

/-- One round of `repairCopies`: keep a copy that decodes at its own index with the selected checksum,
rewrite any other. -/
def repairCopy (selected : Superblock χ) (validation : SuperblockValidation χ)
    (zone : SuperblockZone χ) (index : Nat) : Except SuperblockError (SuperblockZone χ) :=
  let keep : Bool := match decodeSuperblock (zone.copies index) index validation with
    | .ok candidate =>
      ¬ candidate.misdirectedIndex ∧ candidate.superblock.checksum = selected.checksum
    | .error _ => false
  if keep then .ok zone
  else do
    selected.validate validation
    return zone.write index (.image index selected)

def repairCopies (selected : Superblock χ) (validation : SuperblockValidation χ)
    (zone : SuperblockZone χ) : Except SuperblockError (SuperblockZone χ) :=
  (List.range validation.cluster.superblockCopies).foldlM (repairCopy selected validation) zone

/-- `OpenSuperblockStore`, with the check it runs on the selection before repairing. -/
def openSuperblockStoreWith (beforeRepair : Superblock χ → Except SuperblockError Unit)
    (zone : SuperblockZone χ) (validation : SuperblockValidation χ) :
    Except SuperblockError (SuperblockStore χ) :=
  match validation.cluster.blockBase with
  | none => .error .invalidConfiguration
  | some minimumSize =>
    if zone.size = 0 then .error .unformatted
    else if zone.size < minimumSize ∨ (zone.size - minimumSize) % validation.cluster.blockSize ≠ 0 then
      .error .corrupt
    else if superblockCandidates zone validation = [] then .error (noCandidateError zone validation)
    else
      match selectSuperblock (superblockCandidates zone validation)
          validation.cluster.superblockCopies with
      | .error err =>
        if err.is .initializationIncomplete then .error (.joined .unformatted err)
        else .error (.joined .corrupt err)
      | .ok selected => do
        beforeRepair selected.superblock
        let storage ← repairCopies selected.superblock validation zone
        return { storage, validation, current := selected, ioActive := false }

/-- `OpenSuperblockStore` without such a check. -/
def openSuperblockStore (zone : SuperblockZone χ) (validation : SuperblockValidation χ) :
    Except SuperblockError (SuperblockStore χ) :=
  openSuperblockStoreWith (fun _ => .ok ()) zone validation

end Open

/-! ## Persisting -/

/-- The phases of `ioSequence` a superblock persist goes through. -/
inductive IOPhase where
  | write
  | sync
  | completion
deriving DecidableEq, Repr

/-- `ioSequence`: the start index, the copy under way and its place, the next storage call. -/
structure IOSequence where
  phase : IOPhase
  index : Nat
  step : Nat
  offset : Nat
deriving DecidableEq, Repr

section Persist

variable {χ : Type} [DecidableEq χ] [Checksums χ]

namespace SuperblockStore

def copies (store : SuperblockStore χ) : Nat := store.validation.cluster.superblockCopies

/-- `prepareCopy`: seal the next copy for its physical index. -/
def prepareCopy (store : SuperblockStore χ) (sequence : IOSequence) (next : Superblock χ) :
    Except SuperblockError IOSequence := do
  next.validate store.validation
  return { sequence with phase := .write, offset := (sequence.index + sequence.step) % store.copies }

def beginPersist (store : SuperblockStore χ) (next : Superblock χ) :
    Except SuperblockError (SuperblockStore χ × IOSequence) :=
  if store.ioActive then .error .ioBackpressure
  else if ¬ successor store.current.superblock next then .error .invalidSuperblock
  else do
    next.validate store.validation
    if (superblockWriteCopies store.copies).isNone then .error .invalidSuperblock
    else do
      let sequence ← store.prepareCopy
        { phase := .write, index := next.sequence % store.copies, step := 0, offset := 0 } next
      return ({ store with ioActive := true }, sequence)

/-- `advancePersist`: one storage call and the transition behind it. -/
def advancePersist (store : SuperblockStore χ) (sequence : IOSequence) (next : Superblock χ) :
    Except SuperblockError (SuperblockStore χ × IOSequence) :=
  match sequence.phase with
  | .completion => .error .storage
  | .write =>
    .ok ({ store with
        storage := store.storage.write sequence.offset (.image sequence.offset next) },
      { sequence with phase := .sync })
  | .sync =>
    let sequence := { sequence with step := sequence.step + 1 }
    if sequence.step < (superblockWriteCopies store.copies).getD 0 then do
      let sequence ← store.prepareCopy sequence next
      return (store, sequence)
    else
      .ok ({ store with current := ⟨next, sequence.index, false⟩ },
        { sequence with phase := .completion })

/-- `advances` rounds of the persist loop, which ends at completion. -/
def advancePersistTo (next : Superblock χ) :
    Nat → SuperblockStore χ × IOSequence → Except SuperblockError (SuperblockStore χ × IOSequence)
  | 0, state => .ok state
  | advances + 1, (store, sequence) =>
    if sequence.phase = .completion then .ok (store, sequence)
    else do
      let state ← store.advancePersist sequence next
      advancePersistTo next advances state

/-- The storage calls of a whole persist: a write and a sync for each copy written. -/
def persistAdvances (store : SuperblockStore χ) : Nat :=
  2 * (superblockWriteCopies store.copies).getD 0

def persist (store : SuperblockStore χ) (next : Superblock χ) :
    Except SuperblockError (SuperblockStore χ) := do
  let state ← store.beginPersist next
  let (store, _) ← advancePersistTo next store.persistAdvances state
  return { store with ioActive := false }

end SuperblockStore

end Persist

/-! ## Formatting -/

/-- `Membership.Validate`. -/
def Membership.valid (membership : Membership) : Bool :=
  let total := membership.activeCount + membership.standbyCount
  membership.activeCount ≠ 0 ∧ membership.activeCount ≤ activeMax ∧
    membership.standbyCount ≤ standbyMax ∧ total ≤ membersMax ∧
    membership.members.length = membersMax ∧
    (membership.members.take total).all (· ≠ 0) ∧ (membership.members.take total).Nodup ∧
    (membership.members.drop total).all (· = 0) ∧
    membership.localMember ≠ 0 ∧ (membership.members.take total).count membership.localMember = 1

structure FormatConfig where
  group : Nat
  membership : Membership
  cluster : ClusterConfig
  currentRelease : Nat
deriving DecidableEq, Repr

/-- `validateFormatConfig`. -/
def FormatConfig.valid (cfg : FormatConfig) : Bool :=
  cfg.group ≠ 0 ∧ cfg.currentRelease ≠ 0 ∧ cfg.membership.valid ∧
    (cfg.cluster.validate cfg.membership.activeCount cfg.membership.standbyCount).isOk

theorem FormatConfig.validated_of_valid {cfg : FormatConfig} (valid : cfg.valid = true) :
    cfg.cluster.Validated cfg.membership.activeCount := by
  simp only [FormatConfig.valid, decide_eq_true_eq] at valid
  cases hvalidate : cfg.cluster.validate cfg.membership.activeCount cfg.membership.standbyCount with
  | error err =>
    rw [hvalidate] at valid
    exact absurd valid.2.2.2 (by simp [Except.isOk, Except.toBool])
  | ok => exact ClusterConfig.validated_of_validate hvalidate

section Format

variable {χ : Type} [DecidableEq χ] [Checksums χ]

/-- `ClusterConfig.Fingerprint`. -/
def ClusterConfig.fingerprint (cfg : ClusterConfig) : χ :=
  checksumBytes ([cfg.cacheLineSize, cfg.clientsMax, cfg.pipelineMax, cfg.viewChangeHeadersSuffixMax,
    cfg.replicationQuorumMax, cfg.journalSlots, cfg.messageSizeMax, cfg.superblockCopies, cfg.blockSize,
    cfg.storageLevels, cfg.storageGrowthFactor, cfg.compactionOps, cfg.storageSnapshotsMax,
    cfg.manifestCompactExtraBlocks, cfg.tableCoalescingThresholdPercent, cfg.releaseHistoryMax,
    cfg.storageScansMax].map Word.num)

/-- The validation `formatAtView` and every later open of the same configuration use. -/
def FormatConfig.validation (cfg : FormatConfig) : SuperblockValidation χ where
  group := cfg.group
  membership := cfg.membership
  configurationChecksum := cfg.cluster.fingerprint
  cluster := cfg.cluster

omit [DecidableEq χ] in
@[simp] theorem FormatConfig.validation_cluster (cfg : FormatConfig) :
    (cfg.validation : SuperblockValidation χ).cluster = cfg.cluster := rfl

/-- The superblock `formatAtView` seals. -/
def FormatConfig.superblock (cfg : FormatConfig) (view logView : Nat) : Superblock χ where
  formatVersion := formatVersion
  release := cfg.currentRelease
  sequence := 1
  group := cfg.group
  parentChecksum := Checksums.zero
  state := {
    checkpoint := .formatted cfg.currentRelease (cfg.cluster.blockBase.getD 0)
    localMember := cfg.membership.localMember
    members := cfg.membership.members
    commitMax := 0
    syncMin := 0
    syncMax := 0
    logView := logView
    view := view
    activeCount := cfg.membership.activeCount
    standbyCount := cfg.membership.standbyCount }
  configurationChecksum := cfg.cluster.fingerprint
  protocolVersion := protocolVersion
  viewHeaders := [some Header.root]

/-- The sealed superblock passes the check that every later `Open` makes. -/
theorem FormatConfig.validate_superblock {cfg : FormatConfig} (valid : cfg.valid = true) :
    (cfg.superblock 0 0 : Superblock χ).validate cfg.validation = .ok () := by
  simp only [FormatConfig.valid, decide_eq_true_eq] at valid
  obtain ⟨-, hrelease, -, hcluster⟩ := valid
  obtain ⟨hblock, hsessions⟩ : cfg.cluster.blockSize ≠ 0 ∧
      (checkedMul cfg.cluster.clientsMax (headerBytes + 8)).isSome := by
    cases hvalidate : cfg.cluster.validate cfg.membership.activeCount cfg.membership.standbyCount with
    | error err =>
      rw [hvalidate] at hcluster
      exact absurd hcluster (by simp [Except.isOk, Except.toBool])
    | ok => exact ClusterConfig.sessions_of_validate hvalidate
  obtain ⟨size, hsize⟩ := Option.isSome_iff_exists.mp hsessions
  refine Superblock.validate_eq_ok.mpr {
    identity := by simp [Superblock.validIdentity, SuperblockOf.identifies, FormatConfig.superblock, validation, hrelease]
    membership := by simp [Superblock.sameMembership, DurableStateOf.belongs, FormatConfig.superblock, validation]
    checkpoint := ?_
    commit := Nat.le_refl 0
    sync := Nat.le_refl 0
    sync_zero := Iff.rfl
    views := Nat.le_refl 0
    headers_le_pipeline := Nat.le_add_left 1 _
    headers_le_max := by show 1 ≤ superblockHeadersMax; decide
    headers := rfl }
  -- no blocks: every reference is the empty one
  simp [CheckpointState.valid, CheckpointStateOf.validReferences, FormatConfig.superblock,
    CheckpointState.formatted, validation, hsize, hrelease, SuperblockValidation.checkpointValidation, hblock,
    validEWAHTrailerReference, validSessionTrailerReference, validManifestReferences, validOptionalReference,
    isZeroChecksum, ZeroChecksum.zero]

/-- The superblock part of `formatAtView`: resize, zero, then seal the first copies. -/
def formatAtView (cfg : FormatConfig) (zone : SuperblockZone χ) (view logView : Nat) :
    Except SuperblockError (SuperblockZone χ) :=
  if zone.size ≠ 0 then .error .storageNotEmpty
  else
    match cfg.cluster.blockBase with
    | none => .error .invalidConfiguration
    | some blockBase => do
      let superblock := cfg.superblock view logView
      superblock.validate cfg.validation
      let writeCopies := (superblockWriteCopies cfg.cluster.superblockCopies).getD 0
      return (List.range writeCopies).foldl
        (fun zone physicalIndex => zone.write physicalIndex (.image physicalIndex superblock))
        ⟨blockBase, fun _ => .blank⟩

def format (cfg : FormatConfig) (zone : SuperblockZone χ) :
    Except SuperblockError (SuperblockZone χ) :=
  if ¬ cfg.valid then .error .invalidConfiguration else formatAtView cfg zone 0 0

end Format

/-! ## Histories of calls -/

/-- The calls a process makes on the superblock zone. -/
inductive SuperblockCall (χ : Type) where
  | format
  | openStore
  | persist (next : Superblock χ)
deriving DecidableEq, Repr

/-- The zone, the store of the last successful open and how many persists it has completed. -/
structure SuperblockWorld (χ : Type) where
  zone : SuperblockZone χ
  store : Option (SuperblockStore χ)
  persists : Nat

namespace SuperblockWorld

variable {χ : Type} [DecidableEq χ] [Checksums χ]

def initial : SuperblockWorld χ := ⟨.empty, none, 0⟩

/-- One completed call; a call that is refused changes nothing. -/
def perform (cfg : FormatConfig) (world : SuperblockWorld χ) : SuperblockCall χ → SuperblockWorld χ
  | .format =>
    match Supervsr.format cfg world.zone with
    | .ok zone => { world with zone := zone }
    | .error _ => world
  | .openStore =>
    match openSuperblockStore world.zone cfg.validation with
    | .ok store => ⟨store.storage, some store, 0⟩
    | .error _ => world
  | .persist next =>
    match world.store with
    | none => world
    | some store =>
      match store.persist next with
      | .ok store => ⟨store.storage, some store, world.persists + 1⟩
      | .error _ => world

/-- The world after a history of calls on an empty zone. -/
def run (cfg : FormatConfig) (calls : List (SuperblockCall χ)) : SuperblockWorld χ :=
  calls.foldl (perform cfg) initial

end SuperblockWorld

/-! ## Crashes -/

/-- What a crash leaves of the copy that was being written or synced. -/
inductive InFlight where
  | old
  | new
  | torn
deriving DecidableEq, Repr

/-- The moment of a crash inside a persist: the advances done and the fate of the copy under way. -/
structure CrashPoint where
  advances : Nat
  inFlight : InFlight
deriving DecidableEq, Repr

/-- The copies that hold the new superblock after the crash. -/
def CrashPoint.written (point : CrashPoint) (writeCopies : Nat) : Nat :=
  if point.advances < 2 * writeCopies then
    point.advances / 2 + if point.inFlight = .new then 1 else 0
  else writeCopies

/-- The copies the crash left undecodable. -/
def CrashPoint.torn (point : CrashPoint) (writeCopies : Nat) : Nat :=
  if point.advances < 2 * writeCopies ∧ point.inFlight = .torn then 1 else 0

section Crash

variable {χ : Type} [DecidableEq χ] [Checksums χ]

/-- The zone a crash at `point` leaves of the persist of `next` started from `store`. -/
def crashedZone (store : SuperblockStore χ) (next : Superblock χ) (point : CrashPoint) :
    Except SuperblockError (SuperblockZone χ) := do
  let state ← store.beginPersist next
  let (after, sequence) ← SuperblockStore.advancePersistTo next point.advances state
  if sequence.phase = .completion then return after.storage
  else
    match point.inFlight with
    | .old => return after.storage.write sequence.offset (store.storage.copies sequence.offset)
    | .new => return after.storage.write sequence.offset (.image sequence.offset next)
    | .torn => return after.storage.write sequence.offset .damaged

/-- The superblock `OpenSuperblockStore` selects after a crash at `point`. -/
def reopenAfterCrash (store : SuperblockStore χ) (next : Superblock χ) (point : CrashPoint) :
    Except SuperblockError (Superblock χ) := do
  let zone ← crashedZone store next point
  let reopened ← openSuperblockStore zone store.validation
  return reopened.current.superblock

end Crash

end Supervsr
