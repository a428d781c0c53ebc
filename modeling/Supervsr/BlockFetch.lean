import Mathlib.Data.List.Dedup
import Supervsr.CheckpointGraph
import Supervsr.ConfigLimits

/-
# Supervsr.BlockFetch — fetching the blocks of a checkpoint

A replica that is synced to a checkpoint fetches its blocks: the trailers, the chain of manifests, the root, and
whatever a fetched block requires (`block_repair.go`, `state_sync.go`).  What is outstanding stands in a table of a
fixed size, which has to do with the concurrency of repairs and not with the size of checkpoints.  Blocks arrive
in any order.  Here are the table and what queueing a block does to it; `BlockFetchRun` follows whole fetches.
-/

namespace Supervsr

/-- `blockRepairTarget` of a state sync: what is required of the block, and what is left of the chain it is in. -/
structure BlockRepairTarget (χ : Type) where
  requirement : BlockRequirement χ
  chainBytes : Nat
  chainBlocks : Nat
deriving DecidableEq, Repr

/-- The block of a target. -/
def BlockRepairTarget.reference {χ : Type} (target : BlockRepairTarget χ) : BlockReference χ :=
  target.requirement.reference

/-- What a state sync of blocks fails with. -/
inductive BlockFetchError where
  | backpressure
  | invalidBlock
  | invariant
deriving DecidableEq, Repr

/-- `targetCapacity`, the size of the table. -/
def Config.targetCapacity (cfg : Config) (process : ProcessConfig) : Nat :=
  (cfg.membership.activeCount + cfg.membership.standbyCount) * ((process.repairRequestsMax + 1) % 2 ^ 32) +
    process.scrubReadConcurrency + 5

variable {χ : Type} [DecidableEq χ] [Checksums χ] {reference : BlockReference χ}

variable {item : GraphItem χ} {requirement : BlockRequirement χ} {block : Block χ}
  {fresh next : List (BlockRepairTarget χ)} {named : List (BlockReference χ)}

/-! ## The table -/

/-- A change of the target of a block. -/
def changeTarget (targets : List (BlockRepairTarget χ)) (reference : BlockReference χ)
    (change : BlockRepairTarget χ → BlockRepairTarget χ) : List (BlockRepairTarget χ) :=
  targets.map fun target => if target.reference = reference then change target else target

/-- `queueBlockRepair`.  Its callers turn a refusal into `ErrReplicaBackpressure`. -/
def queueBlockRepair (capacity : Nat) (targets : List (BlockRepairTarget χ)) (requirement : BlockRequirement χ) :
    Except BlockFetchError (List (BlockRepairTarget χ)) :=
  if ¬ requirement.reference.named ∨ ¬ requirement.type.isStored then .error .backpressure
  else
    match targets.find? fun target => target.reference = requirement.reference with
    | some target =>
      if checkpointRequirementsConflict target.requirement requirement then .error .invariant
      else .ok (changeTarget targets requirement.reference fun target =>
        { target with requirement := target.requirement.refine requirement })
    | none => if targets.length < capacity then .ok (targets ++ [⟨requirement, 0, 0⟩]) else .error .backpressure

def queueStateSyncTrailer (capacity : Nat) (targets : List (BlockRepairTarget χ)) (reference : BlockReference χ)
    (type : BlockType) (checkpoint encodedSize : Nat) : Except BlockFetchError (List (BlockRepairTarget χ)) :=
  if reference = .zero then if encodedSize = 0 then .ok targets else .error .backpressure
  else do
    let targets ← queueBlockRepair capacity targets ⟨reference, type, checkpoint, true, 0⟩
    return changeTarget targets reference fun target => { target with chainBytes := encodedSize }

/-- The newest manifest of a checkpoint is queued. -/
def queueManifests (capacity : Nat) (targets : List (BlockRepairTarget χ)) (manifest : CheckpointManifest χ) :
    Except BlockFetchError (List (BlockRepairTarget χ)) :=
  if manifest.blockCount = 0 then .ok targets
  else do
    let targets ← queueBlockRepair capacity targets ⟨manifest.newest, .manifest, 0, false, 0⟩
    return changeTarget targets manifest.newest fun target => { target with chainBlocks := manifest.blockCount }

/-- The root of a checkpoint is queued; `checkpointRoot` is what the validator says of it. -/
def queueRoot (capacity : Nat) (targets : List (BlockRepairTarget χ)) (root : BlockReference χ)
    (checkpointRoot : Option (BlockRequirement χ)) : Except BlockFetchError (List (BlockRepairTarget χ)) :=
  if root.address = 0 then .ok targets
  else
    match checkpointRoot with
    | none => .error .backpressure
    | some requirement =>
      if requirement.reference ≠ root then .error .backpressure else queueBlockRepair capacity targets requirement

namespace CheckpointState

def acquiredTrailer (checkpoint : CheckpointState χ) : BlockReference χ :=
  ⟨checkpoint.acquiredTrailerLastAddress, checkpoint.acquiredTrailerLastChecksum⟩

def releasedTrailer (checkpoint : CheckpointState χ) : BlockReference χ :=
  ⟨checkpoint.releasedTrailerLastAddress, checkpoint.releasedTrailerLastChecksum⟩

def sessionTrailer (checkpoint : CheckpointState χ) : BlockReference χ :=
  ⟨checkpoint.sessionTrailerLastAddress, checkpoint.sessionTrailerLastChecksum⟩

/-- The part of a checkpoint that comes from the state machine. -/
def manifest (checkpoint : CheckpointState χ) : CheckpointManifest χ where
  oldest := ⟨checkpoint.oldestManifestAddress, checkpoint.oldestManifestChecksum⟩
  newest := ⟨checkpoint.newestManifestAddress, checkpoint.newestManifestChecksum⟩
  root := ⟨checkpoint.snapshotRootAddress, checkpoint.snapshotRootChecksum⟩
  blockCount := checkpoint.manifestBlockCount

end CheckpointState

def queueStateSyncRoots (capacity : Nat) (checkpoint : CheckpointState χ)
    (checkpointRoot : Option (BlockRequirement χ)) : Except BlockFetchError (List (BlockRepairTarget χ)) := do
  let op := checkpoint.prepareOp
  let targets ← queueStateSyncTrailer capacity [] checkpoint.acquiredTrailer .freeSet op
    checkpoint.acquiredTrailerEncodedSize
  let targets ← queueStateSyncTrailer capacity targets checkpoint.releasedTrailer .freeSet op
    checkpoint.releasedTrailerEncodedSize
  let targets ← queueStateSyncTrailer capacity targets checkpoint.sessionTrailer .clientSessions op
    checkpoint.sessionTrailerEncodedSize
  let targets ← queueManifests capacity targets checkpoint.manifest
  queueRoot capacity targets checkpoint.manifest.root checkpointRoot

/-! ## A block that arrives -/

/-- `validRequestedBlock`, on a block whose frame and metadata are valid. -/
def validRequestedBlock (grid : Grid χ) (capacity : Nat) (target : BlockRepairTarget χ) (block : Block χ) : Bool :=
  target.requirement.metBy block ∧
    (target.requirement.type.isApplication → (grid.validateBlock capacity target.reference block).isSome)

/-- The previous block of a chain is queued while there is something left of the chain. -/
def followChain (capacity : Nat) (completed : BlockRepairTarget χ) (previous : BlockReference χ) (remaining : Nat)
    (note : BlockRepairTarget χ → BlockRepairTarget χ) (targets : List (BlockRepairTarget χ)) :
    Except BlockFetchError (List (BlockRepairTarget χ)) :=
  if (remaining = 0 : Bool) ≠ (previous = .zero : Bool) then .error .invalidBlock
  else if remaining = 0 then .ok targets
  else do
    let requirement := completed.requirement
    let targets ← queueBlockRepair capacity targets
      ⟨previous, requirement.type, requirement.snapshot, requirement.snapshotExact, 0⟩
    return changeTarget targets previous note

/-- The part of `continueStateSyncBlocks` for the block of a trailer. -/
def continueTrailer (capacity : Nat) (completed : BlockRepairTarget χ) (block : Block χ)
    (targets : List (BlockRepairTarget χ)) : Except BlockFetchError (List (BlockRepairTarget χ)) :=
  if completed.chainBytes = 0 then .ok targets
  else if block.bodySize = 0 ∨ completed.chainBytes < block.bodySize then .error .invalidBlock
  else
    let remaining := completed.chainBytes - block.bodySize
    followChain capacity completed block.previous remaining (fun target => { target with chainBytes := remaining })
      targets

/-- The part of `continueStateSyncBlocks` for a manifest of the chain. -/
def continueManifests (capacity : Nat) (completed : BlockRepairTarget χ) (block : Block χ)
    (targets : List (BlockRepairTarget χ)) : Except BlockFetchError (List (BlockRepairTarget χ)) :=
  if completed.chainBlocks = 0 then .ok targets
  else
    let remaining := completed.chainBlocks - 1
    followChain capacity completed block.previous remaining (fun target => { target with chainBlocks := remaining })
      targets

/-- The part of `continueStateSyncBlocks` for what a block requires. -/
def continueRequirements (grid : Grid χ) (capacity : Nat) (completed : BlockRepairTarget χ) (block : Block χ)
    (targets : List (BlockRepairTarget χ)) : Except BlockFetchError (List (BlockRepairTarget χ)) :=
  if ¬ completed.requirement.type.isApplication then .ok targets
  else
    match grid.validateBlock capacity completed.reference block with
    | none => .error .invalidBlock
    | some required => required.foldlM (queueBlockRepair capacity) targets

/-- `continueStateSyncBlocks`, on the table without the completed target. -/
def continueStateSyncBlocks (grid : Grid χ) (capacity : Nat) (completed : BlockRepairTarget χ) (block : Block χ)
    (targets : List (BlockRepairTarget χ)) : Except BlockFetchError (List (BlockRepairTarget χ)) := do
  let targets ← continueTrailer capacity completed block targets
  let targets ← continueManifests capacity completed block targets
  continueRequirements grid capacity completed block targets

/-- The blocks of a state sync: what is outstanding, what has been fetched, and the error the replica has failed
with. -/
structure BlockFetch (χ : Type) where
  targets : List (BlockRepairTarget χ)
  fetched : List (BlockReference χ)
  failed : Option BlockFetchError
deriving DecidableEq, Repr

namespace BlockFetch

def start (capacity : Nat) (checkpoint : CheckpointState χ) (checkpointRoot : Option (BlockRequirement χ)) :
    BlockFetch χ :=
  match queueStateSyncRoots capacity checkpoint checkpointRoot with
  | .ok targets => ⟨targets, [], none⟩
  | .error error => ⟨[], [], some error⟩

/-- The target of a block. -/
def find (fetch : BlockFetch χ) (reference : BlockReference χ) : Option (BlockRepairTarget χ) :=
  fetch.targets.find? fun target => target.reference = reference

/-- The targets of other blocks. -/
def others (fetch : BlockFetch χ) (reference : BlockReference χ) : List (BlockRepairTarget χ) :=
  fetch.targets.filter fun target => target.reference ≠ reference

/-- An outstanding block arrives, from the replica's own storage or from a peer, and is accepted. -/
def step (grid : Grid χ) (capacity : Nat) (fetch : BlockFetch χ) (reference : BlockReference χ) :
    Option (BlockFetch χ) :=
  if fetch.failed.isSome then none
  else
    match fetch.find reference, grid.block reference with
    | some target, some block =>
      if ¬ validRequestedBlock grid capacity target block then none
      else
        match continueStateSyncBlocks grid capacity target block (fetch.others reference) with
        | .ok targets => some ⟨targets, reference :: fetch.fetched, none⟩
        | .error error => some ⟨fetch.others reference, reference :: fetch.fetched, some error⟩
    | _, _ => none

end BlockFetch

/-- The blocks that are queued when a target is completed by a block. -/
def BlockRepairTarget.queues (grid : Grid χ) (target : BlockRepairTarget χ) (block : Block χ) :
    List (BlockReference χ) :=
  (if (target.chainBytes ≠ 0 ∧ block.bodySize < target.chainBytes) ∨ 1 < target.chainBlocks then [block.previous]
    else []) ++
  if target.requirement.type.isApplication then
    ((grid.requirements target.reference block).getD []).map BlockRequirement.reference
  else []

/-- The table has room for what the block queues beside the other targets. -/
def BlockFetch.room (grid : Grid χ) (capacity : Nat) (fetch : BlockFetch χ) (reference : BlockReference χ) : Bool :=
  match fetch.find reference, grid.block reference with
  | some target, some block =>
    ((fetch.others reference).map BlockRepairTarget.reference ++ target.queues grid block).dedup.length ≤ capacity
  | _, _ => true

/-! ## What the writer leaves -/

/-- The blocks of a trailer from its last one on: each names the previous one, and their bodies have the bytes of the
trailer. -/
inductive Grid.TrailerChain (grid : Grid χ) (op : Nat) (type : BlockType) :
    BlockReference χ → Nat → List (BlockReference χ) → Prop where
  | first {reference : BlockReference χ} {block : Block χ} (named : reference.named = true)
      (read : grid.block reference = some block) (typed : block.type = type) (snapshot : block.snapshot = op)
      (filled : 0 < block.bodySize) (last : block.previous = .zero) :
      TrailerChain grid op type reference block.bodySize [reference]
  | next {reference : BlockReference χ} {block : Block χ} {bytes : Nat} {rest : List (BlockReference χ)}
      (named : reference.named = true) (read : grid.block reference = some block) (typed : block.type = type)
      (snapshot : block.snapshot = op) (filled : 0 < block.bodySize)
      (more : TrailerChain grid op type block.previous bytes rest) :
      TrailerChain grid op type reference (block.bodySize + bytes) (reference :: rest)

/-- A trailer: no bytes and no block, or a chain of blocks. -/
def Grid.Trailer (grid : Grid χ) (op : Nat) (type : BlockType) (reference : BlockReference χ) (bytes : Nat)
    (blocks : List (BlockReference χ)) : Prop :=
  (reference = .zero ∧ bytes = 0 ∧ blocks = []) ∨ grid.TrailerChain op type reference bytes blocks

/-- The three trailers of a checkpoint. -/
structure CheckpointState.Trailers (grid : Grid χ) (checkpoint : CheckpointState χ)
    (acquired released sessions : List (BlockReference χ)) : Prop where
  acquired : grid.Trailer checkpoint.prepareOp .freeSet checkpoint.acquiredTrailer
    checkpoint.acquiredTrailerEncodedSize acquired
  released : grid.Trailer checkpoint.prepareOp .freeSet checkpoint.releasedTrailer
    checkpoint.releasedTrailerEncodedSize released
  sessions : grid.Trailer checkpoint.prepareOp .clientSessions checkpoint.sessionTrailer
    checkpoint.sessionTrailerEncodedSize sessions

/-- A requirement that the block it names meets, and that does not ask for an exact snapshot of a manifest. -/
def BlockRequirement.Kept (grid : Grid χ) (requirement : BlockRequirement χ) : Prop :=
  (∀ block, grid.block requirement.reference = some block → requirement.metBy block = true) ∧
    (requirement.type = .manifest → requirement.snapshotExact = false)

/-- The blocks of a checkpoint as the table can take them: no block requires more than the table has room for, and
all requirements are kept. -/
structure CheckpointManifest.Fetchable (grid : Grid χ) (capacity : Nat) (manifest : CheckpointManifest χ)
    (checkpointRoot : Option (BlockRequirement χ)) : Prop where
  few : ∀ {reference block required}, .block reference ∈ Worklist.reach grid.Names manifest.roots →
    grid.block reference = some block → grid.requirements reference block = some required →
    required.length ≤ capacity
  kept : ∀ {reference block required}, .block reference ∈ Worklist.reach grid.Names manifest.roots →
    grid.block reference = some block → grid.requirements reference block = some required →
    ∀ requirement ∈ required, requirement.Kept grid
  root : ∀ {requirement}, checkpointRoot = some requirement → manifest.root ≠ .zero → requirement.Kept grid

section Trailers

variable {grid : Grid χ} {op : Nat} {type : BlockType} {bytes : Nat}
  {blocks : List (BlockReference χ)}

theorem BlockReference.not_named_zero : (BlockReference.zero : BlockReference χ).named = false := by
  simp [BlockReference.named, BlockReference.zero]

theorem BlockReference.ne_zero_of_named (named : reference.named = true) : reference ≠ .zero := by
  rintro rfl
  rw [BlockReference.not_named_zero] at named
  cases named

section

variable (chain : grid.TrailerChain op type reference bytes blocks)

include chain

/-- The block at the end of a trailer. -/
theorem Grid.TrailerChain.head :
    reference.named = true ∧ ∃ block, grid.block reference = some block ∧ block.type = type ∧ block.snapshot = op ∧
      0 < block.bodySize ∧ block.bodySize ≤ bytes ∧ (block.bodySize = bytes ↔ block.previous = .zero) ∧
      (block.bodySize < bytes → ∃ rest, grid.TrailerChain op type block.previous (bytes - block.bodySize) rest) := by
  cases chain with
  | first named read typed snapshot filled last =>
    exact ⟨named, _, read, typed, snapshot, filled, Nat.le_refl _, iff_of_true rfl last, fun h => by omega⟩
  | @next _ block more rest named read typed snapshot filled chain =>
    have hnamed : block.previous.named = true := by cases chain <;> assumption
    have hmore : 0 < more := by cases chain <;> omega
    refine ⟨named, block, read, typed, snapshot, filled, by omega, ?_, fun _ => ⟨rest, ?_⟩⟩
    · exact iff_of_false (by omega) (BlockReference.ne_zero_of_named hnamed)
    · rw [Nat.add_sub_cancel_left]
      exact chain

/-- A block is in at most one chain, and at one place of it. -/
theorem Grid.TrailerChain.bytes_eq {type' : BlockType} {bytes' : Nat} {blocks' : List (BlockReference χ)}
    (chain' : grid.TrailerChain op type' reference bytes' blocks') : bytes = bytes' := by
  induction chain generalizing bytes' blocks' with
  | first named read typed snapshot filled last =>
    obtain ⟨-, block, hread, -, -, -, -, hlast, -⟩ := chain'.head
    rw [read] at hread
    cases hread
    exact hlast.2 last
  | @next _ block more rest named read typed snapshot filled chain ih =>
    obtain ⟨-, other, hread, -, -, -, hle, hlast, hnext⟩ := chain'.head
    rw [read] at hread
    cases hread
    have hnamed := chain.head.1
    have hlt : block.bodySize < bytes' := by
      have hne : block.bodySize ≠ bytes' := fun h => BlockReference.ne_zero_of_named hnamed (hlast.1 h)
      omega
    obtain ⟨_, hmore⟩ := hnext hlt
    have hsame := ih hmore
    omega

/-- From the last block of a trailer nothing but its blocks is reached. -/
theorem Grid.TrailerChain.suffix_of_reached
    (reached : Relation.ReflTransGen grid.Names (.trailer type reference bytes) item) :
    ∃ other count rest, item = .trailer type other count ∧ grid.TrailerChain op type other count rest ∧
      rest <:+ blocks := by
  induction reached with
  | refl => exact ⟨reference, bytes, blocks, rfl, chain, List.suffix_rfl⟩
  | tail _ hnames ih =>
    obtain ⟨other, count, rest, rfl, hother, hsuffix⟩ := ih
    cases hnames with
    | trailer read more =>
      cases hother with
      | first _ hread =>
        rw [read] at hread
        cases hread
        omega
      | next _ hread _ _ _ hmore =>
        rw [read] at hread
        cases hread
        rw [Nat.add_sub_cancel_left]
        exact ⟨_, _, _, rfl, hmore, (List.suffix_cons ..).trans hsuffix⟩

theorem Grid.TrailerChain.mem_blocks :
    reference ∈ blocks := by
  cases chain <;> exact List.mem_cons_self ..

/-- Every block of a trailer is reached from its last block. -/
theorem Grid.TrailerChain.reached_of_mem {other : BlockReference χ} (mem : other ∈ blocks) :
    ∃ count, Relation.ReflTransGen grid.Names (.trailer type reference bytes) (.trailer type other count) := by
  induction chain with
  | first =>
    obtain rfl := List.mem_singleton.1 mem
    exact ⟨_, .refl⟩
  | @next reference block more rest named read typed snapshot filled chain ih =>
    obtain rfl | hrest := List.mem_cons.1 mem
    · exact ⟨_, .refl⟩
    obtain ⟨count, hpath⟩ := ih hrest
    have hmore : 0 < more := by
      obtain ⟨-, _, -, -, -, hfilled, hle, -⟩ := chain.head
      omega
    have hnames : grid.Names (.trailer type reference (block.bodySize + more)) (.trailer type block.previous more) := by
      have hnames := @BlockGraph.Names.trailer _ grid.toBlockGraph type _ _ _ read (Nat.lt_add_of_pos_right hmore)
      rwa [Nat.add_sub_cancel_left] at hnames
    exact ⟨count, .head hnames hpath⟩

end

end Trailers

/-! ## The table as a worklist -/

/-- What is to be done for a target. -/
def BlockRepairTarget.items (target : BlockRepairTarget χ) : Set (GraphItem χ) :=
  {item | (target.requirement.type.isApplication = true ∧ item = .block target.reference) ∨
    (target.chainBlocks ≠ 0 ∧ item = .chain target.reference target.chainBlocks) ∨
    (target.chainBytes ≠ 0 ∧ item = .trailer target.requirement.type target.reference target.chainBytes)}

def tableItems (targets : List (BlockRepairTarget χ)) : Set (GraphItem χ) :=
  {item | ∃ target ∈ targets, item ∈ target.items}

/-- A target that its block completes. -/
structure BlockRepairTarget.Sound (grid : Grid χ) (op : Nat) (target : BlockRepairTarget χ) : Prop where
  named : target.reference.named = true
  met : ∃ block, grid.block target.reference = some block ∧ target.requirement.metBy block = true
  stored : target.requirement.type.isStored = true
  inexact : target.requirement.type = .manifest → target.requirement.snapshotExact = false
  manifest : target.chainBlocks ≠ 0 → target.requirement.type = .manifest
  trailer : target.chainBytes ≠ 0 ↔ target.requirement.type.isApplication = false
  exact : target.chainBytes ≠ 0 → target.requirement.snapshotExact = true ∧ target.requirement.snapshot = op

structure BlockTable (grid : Grid χ) (op : Nat) (targets : List (BlockRepairTarget χ)) : Prop where
  distinct : (targets.map BlockRepairTarget.reference).Nodup
  sound : ∀ target ∈ targets, target.Sound grid op

/-- The rest of a chain is noted in the target of its next block. -/
def BlockRepairTarget.note (bytes blocks : Nat) (target : BlockRepairTarget χ) : BlockRepairTarget χ :=
  { target with
    chainBytes := if bytes = 0 then target.chainBytes else bytes
    chainBlocks := if blocks = 0 then target.chainBlocks else blocks }

omit [DecidableEq χ] [Checksums χ] in
theorem BlockRepairTarget.note_fresh (target : BlockRepairTarget χ) :
    note target.chainBytes target.chainBlocks ⟨target.requirement, 0, 0⟩ = target := by
  obtain ⟨requirement, bytes, blocks⟩ := target
  simp only [note, mk.injEq, true_and]
  constructor <;> split <;> omega

section Table

variable {grid : Grid χ} {capacity op : Nat} {targets : List (BlockRepairTarget χ)}
  {target other : BlockRepairTarget χ}

section

omit [DecidableEq χ] [Checksums χ]

theorem BlockRepairTarget.reference_of_items (mem : item ∈ target.items) : item.reference = target.reference := by
  obtain ⟨-, rfl⟩ | ⟨-, rfl⟩ | ⟨-, rfl⟩ := mem <;> rfl

theorem tableItems_append (targets others : List (BlockRepairTarget χ)) :
    tableItems (targets ++ others) = tableItems targets ∪ tableItems others := by
  ext item
  simp [tableItems, or_and_right, exists_or]

@[simp] theorem tableItems_singleton (target : BlockRepairTarget χ) : tableItems [target] = target.items := by
  ext item
  simp [tableItems]

theorem BlockRepairTarget.items_trailer (trailer : target.requirement.type.isApplication = false)
    (blocks : target.chainBlocks = 0) (bytes : target.chainBytes ≠ 0) :
    target.items = {.trailer target.requirement.type target.reference target.chainBytes} := by
  ext item
  simp [items, trailer, blocks, bytes]

theorem BlockRequirement.metBy_iff :
    requirement.metBy block = true ↔ block.type = requirement.type ∧
      (requirement.snapshotExact = true → block.snapshot = requirement.snapshot) ∧
      (requirement.bodySize ≠ 0 → block.bodySize = requirement.bodySize) := by
  unfold BlockRequirement.metBy
  exact decide_eq_true_iff

end

omit [Checksums χ] in
/-- Two requirements that one block meets do not conflict, and the block meets both. -/
theorem BlockRequirement.metBy_refine {known candidate : BlockRequirement χ}
    (same : known.reference = candidate.reference) (met : known.metBy block = true)
    (candidateMet : candidate.metBy block = true) :
    checkpointRequirementsConflict known candidate = false ∧ (known.refine candidate).metBy block = true := by
  rw [metBy_iff] at met candidateMet
  obtain ⟨htype, hsnapshot, hsize⟩ := met
  obtain ⟨htype', hsnapshot', hsize'⟩ := candidateMet
  constructor
  · unfold checkpointRequirementsConflict
    rw [if_neg (by simp [same, ← htype, ← htype']), if_neg]
    · simp only [decide_eq_false_iff_not]
      rintro ⟨hknown, hcandidate, hne⟩
      exact hne ((hsize hknown).symm.trans (hsize' hcandidate))
    · rintro ⟨hknown, hcandidate, hne⟩
      exact hne ((hsnapshot hknown).symm.trans (hsnapshot' hcandidate))
  · rw [metBy_iff]
    refine ⟨htype, fun hexact => ?_, fun hsized => ?_⟩
    · show block.snapshot = if candidate.snapshotExact then candidate.snapshot else known.snapshot
      split
      · rename_i hcandidate
        exact hsnapshot' hcandidate
      rename_i hcandidate
      have hexact : (known.snapshotExact || candidate.snapshotExact) = true := hexact
      rw [Bool.eq_false_of_not_eq_true hcandidate, Bool.or_false] at hexact
      exact hsnapshot hexact
    · show block.bodySize = if candidate.bodySize ≠ 0 then candidate.bodySize else known.bodySize
      change (if candidate.bodySize ≠ 0 then candidate.bodySize else known.bodySize) ≠ 0 at hsized
      split
      · rename_i hcandidate
        exact hsize' hcandidate
      · rename_i hcandidate
        rw [if_neg hcandidate] at hsized
        exact hsize hsized

theorem BlockRepairTarget.Sound.items_nonempty (sound : target.Sound grid op) : ∃ item, item ∈ target.items := by
  cases happlication : target.requirement.type.isApplication with
  | true => exact ⟨_, .inl ⟨happlication, rfl⟩⟩
  | false => exact ⟨_, .inr (.inr ⟨sound.trailer.2 happlication, rfl⟩)⟩

section

variable (sound : target.Sound grid op) (otherSound : other.Sound grid op)
  (same : other.reference = target.reference)

include sound otherSound same

theorem BlockRepairTarget.Sound.type_eq : other.requirement.type = target.requirement.type := by
  obtain ⟨block, hread, hmet⟩ := sound.met
  obtain ⟨block', hread', hmet'⟩ := otherSound.met
  rw [same, hread] at hread'
  cases hread'
  exact (BlockRequirement.metBy_iff.1 hmet').1.symm.trans (BlockRequirement.metBy_iff.1 hmet).1

/-- A known target, with another target for the same block merged into it. -/
def BlockRepairTarget.merge (known candidate : BlockRepairTarget χ) : BlockRepairTarget χ :=
  BlockRepairTarget.note candidate.chainBytes candidate.chainBlocks
    { known with requirement := known.requirement.refine candidate.requirement }

theorem BlockRepairTarget.Sound.merge :
    checkpointRequirementsConflict other.requirement target.requirement = false ∧
      (other.merge target).Sound grid op := by
  have htype := sound.type_eq otherSound same
  obtain ⟨block, hread, hmet⟩ := sound.met
  obtain ⟨block', hread', hmet'⟩ := otherSound.met
  rw [same, hread] at hread'
  cases hread'
  obtain ⟨hconflict, hmerged⟩ := BlockRequirement.metBy_refine same hmet' hmet
  refine ⟨hconflict, otherSound.named, ⟨block, same ▸ hread, hmerged⟩, otherSound.stored, fun hmanifest => ?_,
    fun hblocks => ?_, ?_, fun hbytes => ?_⟩
  · have hmanifest : other.requirement.type = .manifest := hmanifest
    show (other.requirement.snapshotExact || target.requirement.snapshotExact) = false
    rw [otherSound.inexact hmanifest, sound.inexact (htype ▸ hmanifest)]
    rfl
  · change (if target.chainBlocks = 0 then other.chainBlocks else target.chainBlocks) ≠ 0 at hblocks
    show other.requirement.type = .manifest
    split at hblocks
    · exact otherSound.manifest hblocks
    · rw [htype]
      exact sound.manifest hblocks
  · show (if target.chainBytes = 0 then other.chainBytes else target.chainBytes) ≠ 0 ↔
      other.requirement.type.isApplication = false
    rw [← otherSound.trailer]
    split
    · exact Iff.rfl
    · rename_i hbytes
      exact iff_of_true hbytes (otherSound.trailer.2 (htype ▸ sound.trailer.1 hbytes))
  · -- both targets are of the same trailer block, and ask for the same snapshot
    have hother : other.chainBytes ≠ 0 := by
      change (if target.chainBytes = 0 then other.chainBytes else target.chainBytes) ≠ 0 at hbytes
      split at hbytes
      · exact hbytes
      · exact otherSound.trailer.2 (htype ▸ sound.trailer.1 hbytes)
    have htarget : target.chainBytes ≠ 0 := sound.trailer.2 (htype ▸ otherSound.trailer.1 hother)
    show (other.requirement.snapshotExact || target.requirement.snapshotExact) = true ∧
      (if target.requirement.snapshotExact then target.requirement.snapshot else other.requirement.snapshot) = op
    rw [(sound.exact htarget).1, if_pos rfl, Bool.or_true]
    exact ⟨rfl, (sound.exact htarget).2⟩

/-- What is to be done for two targets of one block, when they agree on what is left of a chain. -/
theorem BlockRepairTarget.Sound.items_merge (blocks : target.chainBlocks ≠ 0 → other.chainBlocks = 0)
    (bytes : target.chainBytes ≠ 0 → other.chainBytes = target.chainBytes) :
    (other.merge target).items = other.items ∪ target.items := by
  have htype := sound.type_eq otherSound same
  have hreference : (other.merge target).reference = other.reference := rfl
  have hkind : (other.merge target).requirement.type = other.requirement.type := rfl
  have hblocks : (other.merge target).chainBlocks =
      if target.chainBlocks = 0 then other.chainBlocks else target.chainBlocks := rfl
  have hbytes : (other.merge target).chainBytes =
      if target.chainBytes = 0 then other.chainBytes else target.chainBytes := rfl
  ext item
  simp only [items, Set.mem_ofPred_eq, Set.mem_union, hreference, hkind, hblocks, hbytes, ← same, ← htype]
  by_cases hb : target.chainBlocks = 0
  · by_cases hc : target.chainBytes = 0
    · simp only [hb, hc, if_true, ne_eq, not_true, false_and, or_false]
      tauto
    · simp only [hb, hc, if_true, if_false, ne_eq, not_true, not_false_iff, false_and, bytes hc]
      tauto
  · have hmanifest := sound.manifest hb
    have hc : target.chainBytes = 0 := by
      by_contra hc
      have := sound.trailer.1 hc
      rw [hmanifest] at this
      cases this
    simp only [hb, hc, blocks hb, if_true, if_false, ne_eq, not_true, not_false_iff, false_and, or_false, false_or]
    tauto

end

/-- A table behind the queueing of targets: each of them is there, under its own reference or in the target that was
there before. -/
structure BlockTable.Queued (grid : Grid χ) (op : Nat) (fresh targets next : List (BlockRepairTarget χ)) : Prop where
  table : BlockTable grid op next
  items : tableItems next = tableItems targets ∪ tableItems fresh
  added : ∃ added, next.map BlockRepairTarget.reference = targets.map BlockRepairTarget.reference ++ added ∧
    added.Sublist (fresh.map BlockRepairTarget.reference)

theorem BlockTable.Queued.refl (table : BlockTable grid op targets) : Queued grid op [] targets targets := by
  refine ⟨table, ?_, [], by simp, List.nil_sublist _⟩
  ext item
  simp [tableItems]

theorem BlockTable.Queued.trans {later middle : List (BlockRepairTarget χ)}
    (first : Queued grid op fresh targets middle) (second : Queued grid op later middle next) :
    Queued grid op (fresh ++ later) targets next := by
  obtain ⟨added, hadded, hfresh⟩ := first.added
  obtain ⟨more, hmore, hlater⟩ := second.added
  refine ⟨second.table, ?_, added ++ more, ?_, ?_⟩
  · rw [second.items, first.items, Set.union_assoc, tableItems_append]
  · rw [hmore, hadded, List.append_assoc]
  · rw [List.map_append]
    exact hfresh.append hlater

section

omit [Checksums χ]

theorem changeTarget_changeTarget (reference : BlockReference χ) {first second : BlockRepairTarget χ → BlockRepairTarget χ}
    (kept : ∀ target, (first target).reference = target.reference) :
    changeTarget (changeTarget targets reference first) reference second =
      changeTarget targets reference fun target => second (first target) := by
  unfold changeTarget
  rw [List.map_map]
  refine List.map_congr_left fun target _ => ?_
  by_cases hsame : target.reference = reference
  · simp [hsame, kept]
  · simp [hsame]

theorem changeTarget_of_absent (change : BlockRepairTarget χ → BlockRepairTarget χ)
    (absent : reference ∉ targets.map BlockRepairTarget.reference) :
    changeTarget targets reference change = targets := by
  unfold changeTarget
  conv_rhs => rw [← List.map_id targets]
  refine List.map_congr_left fun target htarget => ?_
  exact if_neg fun hsame => absent (List.mem_map.2 ⟨target, htarget, hsame⟩)

end

section

variable (table : BlockTable grid op targets) (sound : target.Sound grid op)

include table sound

/-- A target is merged into the target that is there. -/
theorem BlockTable.merged (known : other ∈ targets) (same : other.reference = target.reference)
    (blocks : target.chainBlocks ≠ 0 → ∀ other ∈ targets, other.chainBlocks = 0)
    (bytes : target.chainBytes ≠ 0 → ∀ other ∈ targets, other.reference = target.reference →
      other.chainBytes = target.chainBytes) :
    Queued grid op [target] targets (changeTarget targets target.reference fun other => other.merge target) := by
  have hreferences : (changeTarget targets target.reference fun other => other.merge target).map
      BlockRepairTarget.reference = targets.map BlockRepairTarget.reference := by
    unfold changeTarget
    rw [List.map_map]
    refine List.map_congr_left fun other _ => ?_
    simp only [Function.comp]
    split <;> rfl
  have hitems : ∀ other ∈ targets, other.reference = target.reference →
      (other.merge target).items = other.items ∪ target.items := fun other hother hsame =>
    sound.items_merge (table.sound other hother) hsame (fun h => blocks h other hother)
      (fun h => bytes h other hother hsame)
  refine ⟨⟨hreferences ▸ table.distinct, fun changed hchanged => ?_⟩, ?_, [], by simp [hreferences],
    List.nil_sublist _⟩
  · obtain ⟨other, hother, rfl⟩ := List.mem_map.1 hchanged
    dsimp only
    split
    · rename_i hsame
      exact (sound.merge (table.sound other hother) hsame).2
    · exact table.sound other hother
  · ext item
    constructor
    · rintro ⟨changed, hchanged, hitem⟩
      obtain ⟨other, hother, rfl⟩ := List.mem_map.1 hchanged
      dsimp only at hitem
      split at hitem
      · rename_i hsame
        rw [hitems other hother hsame] at hitem
        exact hitem.imp (fun h => ⟨other, hother, h⟩) (fun h => ⟨target, List.mem_singleton_self _, h⟩)
      · exact .inl ⟨other, hother, hitem⟩
    · intro hitem
      obtain ⟨source, hsource, hmem⟩ : ∃ source ∈ targets,
          item ∈ (if source.reference = target.reference then source.merge target else source).items := by
        obtain ⟨source, hsource, hmem⟩ | ⟨source, hsource, hmem⟩ := hitem
        · refine ⟨source, hsource, ?_⟩
          split
          · rename_i hsame
            rw [hitems source hsource hsame]
            exact .inl hmem
          · exact hmem
        · obtain rfl := List.mem_singleton.1 hsource
          refine ⟨other, known, ?_⟩
          rw [if_pos same, hitems other known same]
          exact .inr hmem
      exact ⟨_, List.mem_map.2 ⟨source, hsource, rfl⟩, hmem⟩

/-- A target that is not there takes a free place. -/
theorem BlockTable.appended (absent : target.reference ∉ targets.map BlockRepairTarget.reference) :
    Queued grid op [target] targets (targets ++ [target]) := by
  refine ⟨⟨?_, ?_⟩, ?_, [target.reference], by simp, by simp⟩
  · rw [List.map_append, List.map_singleton, List.nodup_append]
    refine ⟨table.distinct, List.nodup_singleton _, ?_⟩
    rintro reference hreference _ hlast rfl
    rw [List.mem_singleton.1 hlast] at hreference
    exact absent hreference
  · intro other hother
    rw [List.mem_append, List.mem_singleton] at hother
    obtain hother | rfl := hother
    · exact table.sound other hother
    · exact sound
  · exact tableItems_append ..

/-- `queueBlockRepair`, and the note of what is left of a chain. -/
theorem BlockTable.queue
    (room : target.reference ∉ targets.map BlockRepairTarget.reference → targets.length < capacity)
    (blocks : target.chainBlocks ≠ 0 → ∀ other ∈ targets, other.chainBlocks = 0)
    (bytes : target.chainBytes ≠ 0 → ∀ other ∈ targets, other.reference = target.reference →
      other.chainBytes = target.chainBytes) :
    ∃ queued, queueBlockRepair capacity targets target.requirement = .ok queued ∧
      Queued grid op [target] targets
        (changeTarget queued target.reference (BlockRepairTarget.note target.chainBytes target.chainBlocks)) := by
  have hvalid : ¬ (¬ target.requirement.reference.named ∨ ¬ target.requirement.type.isStored) := by
    rw [not_or, not_not, not_not]
    exact ⟨sound.named, sound.stored⟩
  unfold queueBlockRepair
  rw [if_neg hvalid]
  cases hfind : targets.find? fun other => other.reference = target.requirement.reference with
  | some other =>
    have hother := List.mem_of_find?_eq_some hfind
    have hfound := List.find?_some hfind
    have hsame : other.reference = target.reference := of_decide_eq_true hfound
    obtain ⟨hconflict, -⟩ := sound.merge (table.sound other hother) hsame
    refine ⟨_, if_neg (by rw [hconflict]; decide), ?_⟩
    have hmerge := table.merged sound hother hsame blocks bytes
    have htwice : changeTarget (changeTarget targets target.reference fun known =>
        { known with requirement := known.requirement.refine target.requirement }) target.reference
        (BlockRepairTarget.note target.chainBytes target.chainBlocks) =
          changeTarget targets target.reference fun other => other.merge target :=
      changeTarget_changeTarget target.reference fun _ => rfl
    rw [← htwice] at hmerge
    exact hmerge
  | none =>
    have habsent : target.reference ∉ targets.map BlockRepairTarget.reference := by
      intro hmem
      obtain ⟨other, hother, hsame⟩ := List.mem_map.1 hmem
      exact List.find?_eq_none.1 hfind other hother (decide_eq_true hsame)
    refine ⟨_, if_pos (room habsent), ?_⟩
    have happend := table.appended sound habsent
    have hnoted : changeTarget (targets ++ [⟨target.requirement, 0, 0⟩]) target.reference
        (BlockRepairTarget.note target.chainBytes target.chainBlocks) = targets ++ [target] := by
      have hfirst := changeTarget_of_absent (BlockRepairTarget.note target.chainBytes target.chainBlocks) habsent
      unfold changeTarget at hfirst ⊢
      rw [List.map_append, hfirst, List.map_singleton, if_pos (by rfl), BlockRepairTarget.note_fresh]
    rw [hnoted]
    exact happend

end

theorem BlockTable.Queued.subset (queued : Queued grid op fresh targets next)
    (known : targets.map BlockRepairTarget.reference ⊆ named)
    (names : fresh.map BlockRepairTarget.reference ⊆ named) : next.map BlockRepairTarget.reference ⊆ named := by
  obtain ⟨added, hadded, hsublist⟩ := queued.added
  rw [hadded]
  exact List.append_subset.2 ⟨known, fun _ h => names (hsublist.subset h)⟩

section

variable (table : BlockTable grid op targets)

include table

/-- The targets are less than the room for what is named when one of the named ones is not there. -/
theorem BlockTable.length_lt
    (known : targets.map BlockRepairTarget.reference ⊆ named) (names : reference ∈ named)
    (room : named.dedup.length ≤ capacity) (absent : reference ∉ targets.map BlockRepairTarget.reference) :
    targets.length < capacity := by
  have hnodup : (reference :: targets.map BlockRepairTarget.reference).Nodup :=
    List.nodup_cons.2 ⟨absent, table.distinct⟩
  have hsubset : reference :: targets.map BlockRepairTarget.reference ⊆ named.dedup := by
    intro other hother
    rw [List.mem_dedup]
    obtain rfl | hother := List.mem_cons.1 hother
    · exact names
    · exact known hother
  have hlength := (List.subperm_of_subset hnodup hsubset).length_le
  rw [List.length_cons, List.length_map] at hlength
  omega

/-- A requirement of a block is queued. -/
theorem BlockTable.queue_requirement
    (sound : BlockRepairTarget.Sound grid op ⟨requirement, 0, 0⟩)
    (room : requirement.reference ∉ targets.map BlockRepairTarget.reference → targets.length < capacity) :
    ∃ next, queueBlockRepair capacity targets requirement = .ok next ∧
      Queued grid op [⟨requirement, 0, 0⟩] targets next := by
  obtain ⟨next, hnext, hqueued⟩ := table.queue sound room (fun h => absurd rfl h) (fun h => absurd rfl h)
  refine ⟨next, hnext, ?_⟩
  have hsame : changeTarget next requirement.reference (BlockRepairTarget.note 0 0) = next := by
    unfold changeTarget
    conv_rhs => rw [← List.map_id next]
    refine List.map_congr_left fun target _ => ?_
    split <;> rfl
  exact hsame ▸ hqueued

/-- With room for all of them, the requirements of a block are queued. -/
theorem BlockTable.queue_requirements {required : List (BlockRequirement χ)}
    (sound : ∀ requirement ∈ required, BlockRepairTarget.Sound grid op ⟨requirement, 0, 0⟩)
    (known : targets.map BlockRepairTarget.reference ⊆ named)
    (names : ∀ requirement ∈ required, requirement.reference ∈ named) (room : named.dedup.length ≤ capacity) :
    ∃ next, required.foldlM (queueBlockRepair capacity) targets = .ok next ∧
      Queued grid op (required.map fun requirement => ⟨requirement, 0, 0⟩) targets next := by
  induction required generalizing targets with
  | nil => exact ⟨targets, rfl, .refl table⟩
  | cons requirement rest ih =>
    rw [List.forall_mem_cons] at sound names
    obtain ⟨middle, hmiddle, hqueued⟩ := table.queue_requirement sound.1 (table.length_lt known names.1 room)
    have hknown : middle.map BlockRepairTarget.reference ⊆ named :=
      hqueued.subset known (List.cons_subset.2 ⟨names.1, List.nil_subset _⟩)
    obtain ⟨next, hnext, hrest⟩ := ih hqueued.table sound.2 hknown names.2
    refine ⟨next, ?_, hqueued.trans hrest⟩
    rw [List.foldlM_cons, hmiddle]
    exact hnext

end

/-- The target of the previous block of a chain. -/
def BlockRepairTarget.older (completed : BlockRepairTarget χ) (previous : BlockReference χ) (bytes blocks : Nat) :
    BlockRepairTarget χ :=
  ⟨⟨previous, completed.requirement.type, completed.requirement.snapshot, completed.requirement.snapshotExact, 0⟩,
    bytes, blocks⟩

section

omit [DecidableEq χ] [Checksums χ]

theorem BlockRepairTarget.note_bytes {bytes : Nat} (left : bytes ≠ 0) :
    (fun target : BlockRepairTarget χ => { target with chainBytes := bytes }) = note bytes 0 := by
  funext target
  simp [note, left]

theorem BlockRepairTarget.note_blocks {blocks : Nat} (left : blocks ≠ 0) :
    (fun target : BlockRepairTarget χ => { target with chainBlocks := blocks }) = note 0 blocks := by
  funext target
  simp [note, left]

end

/-- The previous block of a chain is queued, with what is left of the chain behind it. -/
theorem BlockTable.follow {completed : BlockRepairTarget χ} {previous : BlockReference χ} {remaining bytes blocks : Nat}
    (table : BlockTable grid op targets) (left : remaining ≠ 0)
    (sound : (completed.older previous bytes blocks).Sound grid op)
    (room : previous ∉ targets.map BlockRepairTarget.reference → targets.length < capacity)
    (blocksLeft : blocks ≠ 0 → ∀ other ∈ targets, other.chainBlocks = 0)
    (bytesLeft : bytes ≠ 0 → ∀ other ∈ targets, other.reference = previous → other.chainBytes = bytes) :
    ∃ next, followChain capacity completed previous remaining (BlockRepairTarget.note bytes blocks) targets =
        .ok next ∧ Queued grid op [completed.older previous bytes blocks] targets next := by
  have hprevious : previous ≠ .zero := BlockReference.ne_zero_of_named sound.named
  obtain ⟨queued, hqueued, hnext⟩ := table.queue sound room blocksLeft bytesLeft
  refine ⟨_, ?_, hnext⟩
  have hqueued : queueBlockRepair capacity targets ⟨previous, completed.requirement.type,
      completed.requirement.snapshot, completed.requirement.snapshotExact, 0⟩ = .ok queued := hqueued
  unfold followChain
  rw [if_neg (by simp [left, hprevious]), if_neg left]
  simp only [hqueued]
  rfl

end Table

end Supervsr
