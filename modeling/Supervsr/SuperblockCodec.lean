import Supervsr.Frame
import Supervsr.Superblock

/-
# Supervsr.SuperblockCodec — the bytes of a checkpoint and of a superblock copy

`checkpoint.go` and `superblock.go`, byte by byte.  A copy starts with its checksum and carries the index
of its place, which the checksum leaves out: all copies of a superblock have the same checksum, and a copy
read from another place is noticed without being refused.
-/

namespace Supervsr

open Bytes

variable {offset stop width value start : Nat} {data source : Bytes} {hash : ChecksumFunction}

/-! ## Checkpoints -/

/-- `CheckpointState`, with the prepare header and the checksums as the bytes they are stored as. -/
abbrev CheckpointRecord := CheckpointStateOf Bytes Bytes

def checkpointStateSize : Nat := 1024

/-- `CheckpointValidation`. -/
structure CheckpointRecordValidation extends CheckpointValidation where
  group : Bytes
  messageSizeMax : Nat
  memberCount : Nat
deriving DecidableEq, Repr

instance : ZeroChecksum Bytes := ⟨zeros 16⟩

namespace CheckpointRecord

def checksums (state : CheckpointRecord) : List Bytes :=
  [state.acquiredTrailerLastChecksum, state.releasedTrailerLastChecksum, state.sessionTrailerLastChecksum,
    state.oldestManifestChecksum, state.newestManifestChecksum, state.snapshotRootChecksum,
    state.acquiredAggregateChecksum, state.releasedAggregateChecksum, state.sessionAggregateChecksum,
    state.parentID, state.grandparentID]

def numbers (state : CheckpointRecord) : List Nat :=
  [state.acquiredTrailerLastAddress, state.releasedTrailerLastAddress, state.sessionTrailerLastAddress,
    state.oldestManifestAddress, state.newestManifestAddress, state.snapshotRootAddress,
    state.logicalStorageSize, state.acquiredTrailerEncodedSize, state.releasedTrailerEncodedSize,
    state.sessionTrailerEncodedSize]

/-- The values the Go types of the fields can hold. -/
structure Representable (state : CheckpointRecord) : Prop where
  header : state.header.length = 256
  checksums : ∀ checksum ∈ state.checksums, checksum.length = 16
  numbers : ∀ number ∈ state.numbers, number < 256 ^ 8
  manifestBlockCount : state.manifestBlockCount < 256 ^ 4
  release : state.release < 256 ^ 4

/-- The fields `Encode` copies into the cleared buffer. -/
def layout (state : CheckpointRecord) : List (Nat × Bytes) :=
  [(0, state.header), (256, state.acquiredTrailerLastChecksum), (288, state.releasedTrailerLastChecksum),
    (320, state.sessionTrailerLastChecksum), (352, state.oldestManifestChecksum),
    (384, state.newestManifestChecksum), (416, state.snapshotRootChecksum),
    (448, state.acquiredAggregateChecksum), (464, state.releasedAggregateChecksum),
    (480, state.sessionAggregateChecksum), (496, state.parentID), (512, state.grandparentID),
    (528, putUint 8 state.acquiredTrailerLastAddress), (536, putUint 8 state.releasedTrailerLastAddress),
    (544, putUint 8 state.sessionTrailerLastAddress), (552, putUint 8 state.oldestManifestAddress),
    (560, putUint 8 state.newestManifestAddress), (568, putUint 8 state.snapshotRootAddress),
    (576, putUint 8 state.logicalStorageSize), (584, putUint 8 state.acquiredTrailerEncodedSize),
    (592, putUint 8 state.releasedTrailerEncodedSize), (600, putUint 8 state.sessionTrailerEncodedSize),
    (608, putUint 4 state.manifestBlockCount), (612, putUint 4 state.release)]

def encode (state : CheckpointRecord) : Bytes :=
  record checkpointStateSize state.layout

/-- The state `DecodeCheckpointState` reads before it validates. -/
def read (source : Bytes) : CheckpointRecord where
  header := source.slice 0 256
  acquiredTrailerLastChecksum := source.slice 256 272
  releasedTrailerLastChecksum := source.slice 288 304
  sessionTrailerLastChecksum := source.slice 320 336
  oldestManifestChecksum := source.slice 352 368
  newestManifestChecksum := source.slice 384 400
  snapshotRootChecksum := source.slice 416 432
  acquiredAggregateChecksum := source.slice 448 464
  releasedAggregateChecksum := source.slice 464 480
  sessionAggregateChecksum := source.slice 480 496
  parentID := source.slice 496 512
  grandparentID := source.slice 512 528
  acquiredTrailerLastAddress := uint (source.slice 528 536)
  releasedTrailerLastAddress := uint (source.slice 536 544)
  sessionTrailerLastAddress := uint (source.slice 544 552)
  oldestManifestAddress := uint (source.slice 552 560)
  newestManifestAddress := uint (source.slice 560 568)
  snapshotRootAddress := uint (source.slice 568 576)
  logicalStorageSize := uint (source.slice 576 584)
  acquiredTrailerEncodedSize := uint (source.slice 584 592)
  releasedTrailerEncodedSize := uint (source.slice 592 600)
  sessionTrailerEncodedSize := uint (source.slice 600 608)
  manifestBlockCount := uint (source.slice 608 612)
  release := uint (source.slice 612 616)

/-- `checkpointReservationsZero`. -/
def reservationsZero (source : Bytes) : Bool :=
  (source.slice 272 288).allZero && (source.slice 304 320).allZero && (source.slice 336 352).allZero &&
    (source.slice 368 384).allZero && (source.slice 400 416).allZero && (source.slice 432 448).allZero &&
    (source.slice 616 checkpointStateSize).allZero

def prepareOp (state : CheckpointRecord) : Nat := uint (state.header.slice 224 232)

/-- Whether bytes decode as the header of a prepare. -/
def isPrepareHeader (hash : ChecksumFunction) (bytes group : Bytes) (messageSizeMax memberCount : Nat) : Bool :=
  match decodeHeader hash bytes group messageSizeMax memberCount with
  | .ok header => header.command = .prepare
  | .error _ => false

/-- `CheckpointState.Validate`. -/
def valid (hash : ChecksumFunction) (state : CheckpointRecord) (validation : CheckpointRecordValidation) : Bool :=
  isPrepareHeader hash state.header validation.group validation.messageSizeMax validation.memberCount &&
    state.validReferences validation.toCheckpointValidation (hash.sum [])

end CheckpointRecord

def decodeCheckpointState (hash : ChecksumFunction) (source : Bytes) (validation : CheckpointRecordValidation) :
    Except SuperblockError CheckpointRecord :=
  if source.length ≠ checkpointStateSize ∨ ¬ CheckpointRecord.reservationsZero source then
    .error .invalidCheckpoint
  else if ¬ (CheckpointRecord.read source).valid hash validation then .error .invalidCheckpoint
  else .ok (CheckpointRecord.read source)

namespace CheckpointRecord

variable {state : CheckpointRecord}

section

variable (representable : state.Representable)

include representable

theorem Representable.lengths :
    state.acquiredTrailerLastChecksum.length = 16 ∧ state.releasedTrailerLastChecksum.length = 16 ∧
      state.sessionTrailerLastChecksum.length = 16 ∧ state.oldestManifestChecksum.length = 16 ∧
      state.newestManifestChecksum.length = 16 ∧ state.snapshotRootChecksum.length = 16 ∧
      state.acquiredAggregateChecksum.length = 16 ∧ state.releasedAggregateChecksum.length = 16 ∧
      state.sessionAggregateChecksum.length = 16 ∧ state.parentID.length = 16 ∧
      state.grandparentID.length = 16 := by
  simpa [CheckpointRecord.checksums] using representable.checksums

theorem placed : Placed checkpointStateSize 0 state.layout := by
  simp [layout, Placed, checkpointStateSize, representable.header, representable.lengths]

theorem length_encode : state.encode.length = checkpointStateSize :=
  length_record (placed representable)

theorem slice_encode_field (hmem : (offset, data) ∈ state.layout) (exact : stop = offset + data.length) :
    state.encode.slice offset stop = data :=
  slice_record (placed representable) hmem exact

theorem uint_encode_field (hmem : (offset, putUint width value) ∈ state.layout) (exact : stop = offset + width)
    (bound : value < 256 ^ width) : uint (state.encode.slice offset stop) = value := by
  rw [slice_encode_field representable hmem (by rw [exact, length_putUint]), uint_putUint,
    Nat.mod_eq_of_lt bound]

theorem read_encode : read state.encode = state := by
  have hchecksum : ∀ {offset stop : Nat} {checksum : Bytes}, (offset, checksum) ∈ state.layout →
      checksum ∈ state.checksums → stop = offset + 16 → state.encode.slice offset stop = checksum :=
    fun hmem hchecksum exact =>
      slice_encode_field representable hmem (by rw [exact, representable.checksums _ hchecksum])
  have hnumber : ∀ {offset stop number : Nat}, (offset, putUint 8 number) ∈ state.layout →
      number ∈ state.numbers → stop = offset + 8 → uint (state.encode.slice offset stop) = number :=
    fun hmem hnumber exact => uint_encode_field representable hmem exact (representable.numbers _ hnumber)
  apply CheckpointStateOf.ext <;> simp only [read]
  case header => exact slice_encode_field representable (by simp [layout]) (by rw [representable.header])
  case manifestBlockCount =>
    exact uint_encode_field representable (by simp [layout]) rfl representable.manifestBlockCount
  case release => exact uint_encode_field representable (by simp [layout]) rfl representable.release
  case acquiredTrailerLastChecksum | releasedTrailerLastChecksum | sessionTrailerLastChecksum |
      oldestManifestChecksum | newestManifestChecksum | snapshotRootChecksum | acquiredAggregateChecksum |
      releasedAggregateChecksum | sessionAggregateChecksum | parentID | grandparentID =>
    exact hchecksum (by simp [layout]) (by simp [checksums]) rfl
  case acquiredTrailerLastAddress | releasedTrailerLastAddress | sessionTrailerLastAddress |
      oldestManifestAddress | newestManifestAddress | snapshotRootAddress | logicalStorageSize |
      acquiredTrailerEncodedSize | releasedTrailerEncodedSize | sessionTrailerEncodedSize =>
    exact hnumber (by simp [layout]) (by simp [numbers]) rfl

theorem reservationsZero_encode :
    reservationsZero state.encode = true := by
  have hgap : ∀ {start stop : Nat}, stop ≤ checkpointStateSize →
      (∀ field ∈ state.layout, stop ≤ field.1 ∨ field.1 + field.2.length ≤ start) →
      (state.encode.slice start stop).allZero = true := by
    intro start stop hstop hgap
    rw [encode, slice_record_gap (placed representable) hstop hgap, allZero_zeros]
  have hlengths := representable.lengths
  have hheader := representable.header
  simp only [reservationsZero, Bool.and_eq_true]
  refine ⟨⟨⟨⟨⟨⟨?_, ?_⟩, ?_⟩, ?_⟩, ?_⟩, ?_⟩, ?_⟩ <;>
    exact hgap (by decide) (by simp [layout, hlengths, hheader])

end

/-- What was read has the lengths and ranges of its Go types. -/
theorem representable_read (length : source.length = checkpointStateSize) : (read source).Representable := by
  have hslice : ∀ {start stop : Nat}, stop ≤ 1024 → (source.slice start stop).length = stop - start := by
    intro start stop hstop
    exact length_slice (by rw [length]; exact hstop)
  have hword := @uint_slice_lt _ _ length
  refine ⟨hslice (by decide), ?_, ?_, hword (by decide), hword (by decide)⟩
  · simp only [checksums, read, List.forall_mem_cons]
    simp [hslice]
  · simp only [numbers, read, List.forall_mem_cons]
    refine ⟨?_, ?_, ?_, ?_, ?_, ?_, ?_, ?_, ?_, ?_, by simp⟩ <;> exact hword (by decide)

/-- The bytes that are read and the zeros between them are the encoding. -/
theorem encode_read (length : source.length = checkpointStateSize) (zero : reservationsZero source = true) :
    (read source).encode = source := by
  have hrepresentable := representable_read length
  have hplaced := placed hrepresentable
  have hlengths := hrepresentable.lengths
  have hheader := hrepresentable.header
  simp only [reservationsZero, Bool.and_eq_true] at zero
  have hnumber := @slice_eq_putUint _ _ length
  rw [← length] at hplaced
  rw [encode, ← length]
  refine record_of_tiled hplaced ?_
  simp only [layout, Tiled, length_putUint, hlengths, hheader, Nat.reduceAdd, length, checkpointStateSize,
    slice_self, allZero_nil]
  simp only [read, true_and]
  obtain ⟨⟨⟨⟨⟨⟨hacquired, hreleased⟩, hsession⟩, holdest⟩, hnewest⟩, hsnapshot⟩, hrest⟩ := zero
  refine ⟨hacquired, hreleased, hsession, holdest, hnewest, hsnapshot, ?_, ?_, ?_, ?_, ?_, ?_, ?_, ?_, ?_, ?_,
    ?_, ?_, hrest⟩ <;> exact hnumber (by decide) rfl

end CheckpointRecord

/-- `DecodeCheckpointState` accepts the valid states, in the bytes `Encode` writes. -/
theorem decodeCheckpointState_eq_ok {state : CheckpointRecord} {validation : CheckpointRecordValidation} :
    decodeCheckpointState hash source validation = .ok state ↔
      state.Representable ∧ state.valid hash validation = true ∧ source = state.encode := by
  constructor
  · intro decodes
    unfold decodeCheckpointState at decodes
    split_ifs at decodes with hshape hvalid
    simp only [not_or, ne_eq, not_not] at hshape
    cases decodes
    exact ⟨CheckpointRecord.representable_read hshape.1, hvalid,
      (CheckpointRecord.encode_read hshape.1 hshape.2).symm⟩
  · rintro ⟨hrepresentable, hvalid, hsource⟩
    rw [hsource]
    have hlength := CheckpointRecord.length_encode hrepresentable
    have hzero := CheckpointRecord.reservationsZero_encode hrepresentable
    rw [decodeCheckpointState, if_neg (by simp [hlength, hzero]), CheckpointRecord.read_encode hrepresentable,
      if_neg (not_not.mpr hvalid)]

/-! ## The state of a replica -/

/-- `SuperblockValidation`, with the identities as bytes. -/
structure SuperblockRecordValidation where
  group : Bytes
  localMember : Bytes
  members : List Bytes
  activeCount : Nat
  standbyCount : Nat
  configurationChecksum : Bytes
  cluster : ClusterConfig
deriving DecidableEq, Repr

namespace SuperblockRecordValidation

variable (validation : SuperblockRecordValidation)

/-- The limits as the decoders take them: the narrowing conversions drop high bits. -/
def memberCount : Nat := (validation.activeCount + validation.standbyCount) % 256

def messageSizeMax : Nat := validation.cluster.messageSizeMax % 256 ^ 4

def viewHeadersMax : Nat := (validation.cluster.pipelineMax + 1) % 256 ^ 4

def copies : Nat := validation.cluster.superblockCopies % 256 ^ 2

def checkpoint (blockBase : Nat) : CheckpointRecordValidation where
  group := validation.group
  messageSizeMax := validation.messageSizeMax
  memberCount := validation.memberCount
  blockBase := blockBase
  blockSize := validation.cluster.blockSize
  clientsMax := validation.cluster.clientsMax

end SuperblockRecordValidation

/-- `DurableReplicaState`. -/
abbrev DurableRecord := DurableStateOf CheckpointRecord Bytes

def superblockStateSize : Nat := 2048

namespace DurableRecord

/-- The values the Go types of the fields can hold. -/
structure Representable (state : DurableRecord) : Prop where
  checkpoint : state.checkpoint.Representable
  localMember : state.localMember.length = 16
  members : state.members.length = membersMax
  identities : ∀ member ∈ state.members, member.length = 16
  commitMax : state.commitMax < 256 ^ 8
  syncMin : state.syncMin < 256 ^ 8
  syncMax : state.syncMax < 256 ^ 8
  logView : state.logView < 256 ^ 4
  view : state.view < 256 ^ 4
  activeCount : state.activeCount < 256 ^ 1
  standbyCount : state.standbyCount < 256 ^ 1

/-- The fields behind the members. -/
def counters (state : DurableRecord) : List (Nat × Bytes) :=
  [(1232, putUint 8 state.commitMax), (1240, putUint 8 state.syncMin), (1248, putUint 8 state.syncMax),
    (1260, putUint 4 state.logView), (1264, putUint 4 state.view), (1268, putUint 1 state.activeCount),
    (1269, putUint 1 state.standbyCount)]

def layout (state : DurableRecord) : List (Nat × Bytes) :=
  (0, state.checkpoint.encode) :: (1024, state.localMember) :: (array 16 1040 state.members ++ state.counters)

/-- `DurableReplicaState.encode`. -/
def encode (state : DurableRecord) : Bytes :=
  record superblockStateSize state.layout

/-- The fields `decodeDurableReplicaState` copies behind the checkpoint it has decoded. -/
def read (checkpoint : CheckpointRecord) (source : Bytes) : DurableRecord where
  checkpoint := checkpoint
  localMember := source.slice 1024 1040
  members := readArray source 16 1040 membersMax
  commitMax := uint (source.slice 1232 1240)
  syncMin := uint (source.slice 1240 1248)
  syncMax := uint (source.slice 1248 1256)
  logView := uint (source.slice 1260 1264)
  view := uint (source.slice 1264 1268)
  activeCount := uint (source.slice 1268 1269)
  standbyCount := uint (source.slice 1269 1270)

end DurableRecord

def decodeDurableReplicaState (hash : ChecksumFunction) (source : Bytes)
    (validation : SuperblockRecordValidation) : Except SuperblockError DurableRecord :=
  if source.length ≠ superblockStateSize ∨ ¬ (source.slice 1256 1260).allZero ∨
      ¬ (source.slice 1270 superblockStateSize).allZero then
    .error .invalidSuperblock
  else
    match validation.cluster.blockBase with
    | none => .error .invalidSuperblock
    | some blockBase => do
      let checkpoint ←
        decodeCheckpointState hash (source.slice 0 checkpointStateSize) (validation.checkpoint blockBase)
      return DurableRecord.read checkpoint source

namespace DurableRecord

variable {state : DurableRecord}

theorem placed (representable : state.Representable) : Placed superblockStateSize 0 state.layout := by
  have hcheckpoint := CheckpointRecord.length_encode representable.checkpoint
  refine ⟨Nat.zero_le _, ?_, placed_array representable.identities (Nat.le_of_eq ?_) ?_⟩
  · rw [hcheckpoint]
    exact Nat.le_of_eq (Nat.zero_add _)
  · rw [representable.localMember]
  · rw [representable.members]
    simp [counters, Placed, membersMax, activeMax, standbyMax, superblockStateSize]

theorem length_encode (representable : state.Representable) : state.encode.length = superblockStateSize :=
  length_record (placed representable)

theorem mem_layout_of_mem_counters {field : Nat × Bytes} (hmem : field ∈ state.counters) :
    field ∈ state.layout :=
  List.mem_cons_of_mem _ (List.mem_cons_of_mem _ (List.mem_append_right _ hmem))

section

variable (representable : state.Representable)

include representable

theorem uint_encode_field
    (hmem : (offset, putUint width value) ∈ state.counters) (exact : stop = offset + width)
    (bound : value < 256 ^ width) : uint (state.encode.slice offset stop) = value := by
  have hslice := slice_record (placed representable) (mem_layout_of_mem_counters hmem)
    (show stop = offset + (putUint width value).length by rw [exact, length_putUint])
  rw [encode, hslice, uint_putUint, Nat.mod_eq_of_lt bound]

theorem slice_encode_checkpoint :
    state.encode.slice 0 checkpointStateSize = state.checkpoint.encode :=
  slice_record (placed representable) List.mem_cons_self
    (by rw [CheckpointRecord.length_encode representable.checkpoint, Nat.zero_add])

theorem read_encode : read state.checkpoint state.encode = state := by
  apply DurableStateOf.ext <;> simp only [read]
  case localMember =>
    exact slice_record (placed representable) (List.mem_cons_of_mem _ List.mem_cons_self)
      (by rw [representable.localMember])
  case members =>
    rw [← representable.members]
    exact readArray_record (placed representable) representable.identities fun field hmem =>
      List.mem_cons_of_mem _ (List.mem_cons_of_mem _ (List.mem_append_left _ hmem))
  case commitMax => exact uint_encode_field representable (by simp [counters]) rfl representable.commitMax
  case syncMin => exact uint_encode_field representable (by simp [counters]) rfl representable.syncMin
  case syncMax => exact uint_encode_field representable (by simp [counters]) rfl representable.syncMax
  case logView => exact uint_encode_field representable (by simp [counters]) rfl representable.logView
  case view => exact uint_encode_field representable (by simp [counters]) rfl representable.view
  case activeCount => exact uint_encode_field representable (by simp [counters]) rfl representable.activeCount
  case standbyCount => exact uint_encode_field representable (by simp [counters]) rfl representable.standbyCount

/-- Between and behind the counters the encoding is zero. -/
theorem allZero_encode_gap (behind : 1232 ≤ start)
    (fits : stop ≤ superblockStateSize)
    (gap : ∀ field ∈ state.counters, stop ≤ field.1 ∨ field.1 + field.2.length ≤ start) :
    (state.encode.slice start stop).allZero = true := by
  rw [encode, slice_record_gap (placed representable) fits, allZero_zeros]
  intro field hmem
  rcases List.mem_cons.mp hmem with rfl | hmem
  · rw [CheckpointRecord.length_encode representable.checkpoint]
    simp only [checkpointStateSize]
    omega
  rcases List.mem_cons.mp hmem with rfl | hmem
  · rw [representable.localMember]
    omega
  rcases List.mem_append.mp hmem with hmem | hmem
  · have hend := end_le_of_mem_array representable.identities hmem
    rw [representable.members] at hend
    simp only [membersMax, activeMax, standbyMax] at hend
    omega
  · exact gap field hmem

end

theorem representable_read {checkpoint : CheckpointRecord} (length : source.length = superblockStateSize)
    (representable : checkpoint.Representable) : (read checkpoint source).Representable := by
  have hword := @uint_slice_lt _ _ length
  exact {
    checkpoint := representable
    localMember := length_slice (by rw [length]; decide)
    members := length_readArray _ _ _ _
    identities := length_of_mem_readArray (by rw [length]; decide)
    commitMax := hword (by decide)
    syncMin := hword (by decide)
    syncMax := hword (by decide)
    logView := hword (by decide)
    view := hword (by decide)
    activeCount := hword (by decide)
    standbyCount := hword (by decide) }

theorem encode_read {checkpoint : CheckpointRecord} (length : source.length = superblockStateSize)
    (representable : checkpoint.Representable) (gap : (source.slice 1256 1260).allZero = true)
    (rest : (source.slice 1270 superblockStateSize).allZero = true)
    (front : source.slice 0 checkpointStateSize = checkpoint.encode) :
    (read checkpoint source).encode = source := by
  have hrepresentable := representable_read length representable
  have hplaced := placed hrepresentable
  have hnumber := @slice_eq_putUint _ _ length
  rw [← length] at hplaced
  rw [encode, ← length]
  refine record_of_tiled hplaced ?_
  have hcheckpoint := CheckpointRecord.length_encode representable
  have hmember : (source.slice 1024 1040).length = 16 := hrepresentable.localMember
  have hcounters : Tiled source 1232 (read checkpoint source).counters := by
    simp only [counters, Tiled, length_putUint, Nat.reduceAdd, length, superblockStateSize, slice_self,
      allZero_nil, read, true_and]
    refine ⟨?_, ?_, ?_, gap, ?_, ?_, ?_, ?_, rest⟩ <;> exact hnumber (by decide) rfl
  refine ⟨by rw [slice_self]; rfl, ?_, ?_, ?_, ?_⟩
  · show source.slice 0 (0 + checkpoint.encode.length) = checkpoint.encode
    rw [hcheckpoint, Nat.zero_add, front]
  · show (source.slice (0 + checkpoint.encode.length) 1024).allZero = true
    rw [hcheckpoint, Nat.zero_add, checkpointStateSize, slice_self]
    rfl
  · show source.slice 1024 (1024 + (source.slice 1024 1040).length) = source.slice 1024 1040
    rw [hmember]
  · show Tiled source (1024 + (source.slice 1024 1040).length) _
    rw [hmember]
    exact tiled_array (by rw [length]; decide) hcounters

end DurableRecord

/-- `decodeDurableReplicaState` accepts the states with a valid checkpoint, in the bytes `encode` writes. -/
theorem decodeDurableReplicaState_eq_ok {state : DurableRecord} {validation : SuperblockRecordValidation} :
    decodeDurableReplicaState hash source validation = .ok state ↔
      state.Representable ∧ source = state.encode ∧ ∃ blockBase, validation.cluster.blockBase = some blockBase ∧
      state.checkpoint.valid hash (validation.checkpoint blockBase) = true := by
  constructor
  · intro decodes
    unfold decodeDurableReplicaState at decodes
    split_ifs at decodes with hshape
    simp only [not_or, ne_eq, not_not] at hshape
    split at decodes
    · cases decodes
    rename_i blockBase hbase
    obtain ⟨checkpoint, hcheckpoint, hread⟩ := bind_eq_ok.mp decodes
    obtain ⟨hrepresentable, hvalid, hfront⟩ := decodeCheckpointState_eq_ok.mp hcheckpoint
    cases hread
    exact ⟨DurableRecord.representable_read hshape.1 hrepresentable,
      (DurableRecord.encode_read hshape.1 hrepresentable hshape.2.1 hshape.2.2 hfront).symm, blockBase, hbase,
      hvalid⟩
  · rintro ⟨hrepresentable, hsource, blockBase, hbase, hvalid⟩
    have hlength := DurableRecord.length_encode hrepresentable
    have hgap : (state.encode.slice 1256 1260).allZero = true :=
      DurableRecord.allZero_encode_gap hrepresentable (by decide) (by decide) (by simp [DurableRecord.counters])
    have hrest : (state.encode.slice 1270 superblockStateSize).allZero = true :=
      DurableRecord.allZero_encode_gap hrepresentable (by decide) (Nat.le_refl _)
        (by simp [DurableRecord.counters])
    have hcheckpoint : decodeCheckpointState hash (state.encode.slice 0 checkpointStateSize)
        (validation.checkpoint blockBase) = .ok state.checkpoint :=
      decodeCheckpointState_eq_ok.mpr ⟨hrepresentable.checkpoint, hvalid,
        DurableRecord.slice_encode_checkpoint hrepresentable⟩
    rw [hsource, decodeDurableReplicaState, if_neg (by simp [hlength, hgap, hrest])]
    simp only [hbase, hcheckpoint, bind, Except.bind, DurableRecord.read_encode hrepresentable]
    rfl

/-! ## Superblocks -/

/-- `Superblock`: the view headers are an array of which the first `viewHeaderCount` are used. -/
@[ext] structure SuperblockRecord extends SuperblockOf DurableRecord Bytes Bytes Bytes where
  checksum : Bytes
  viewHeaderCount : Nat
deriving DecidableEq, Repr

/-- `SuperblockCandidate`. -/
structure SuperblockRecordCandidate where
  superblock : SuperblockRecord
  physicalIndex : Nat
  misdirectedIndex : Bool
deriving DecidableEq, Repr

variable {candidate : SuperblockRecordCandidate}

namespace SuperblockRecord

/-- The values the Go types of the fields can hold, the checksum aside. -/
structure Representable (superblock : SuperblockRecord) : Prop where
  formatVersion : superblock.formatVersion < 256 ^ 2
  release : superblock.release < 256 ^ 4
  sequence : superblock.sequence < 256 ^ 8
  group : superblock.group.length = 16
  parentChecksum : superblock.parentChecksum.length = 16
  state : superblock.state.Representable
  viewHeaderCount : superblock.viewHeaderCount < 256 ^ 4
  configurationChecksum : superblock.configurationChecksum.length = 16
  protocolVersion : superblock.protocolVersion < 256 ^ 2
  viewHeaders : superblock.viewHeaders.length = superblockHeadersMax
  headers : ∀ header ∈ superblock.viewHeaders, header.length = 256

def usedHeaders (superblock : SuperblockRecord) : List Bytes :=
  superblock.viewHeaders.take superblock.viewHeaderCount

/-- The view headers behind the used ones are zero. -/
def UnusedZero (superblock : SuperblockRecord) : Prop :=
  superblock.viewHeaders.drop superblock.viewHeaderCount =
    List.replicate (superblockHeadersMax - superblock.viewHeaderCount) (zeros 256)

def validIdentity (superblock : SuperblockRecord) (validation : SuperblockRecordValidation) : Bool :=
  superblock.identifies validation.group validation.configurationChecksum

def sameMembership (superblock : SuperblockRecord) (validation : SuperblockRecordValidation) : Bool :=
  superblock.state.belongs validation.localMember validation.members validation.activeCount
    validation.standbyCount

/-- `Superblock.Validate`; where `BlockBase` overflows it checks against 0. -/
def validate (hash : ChecksumFunction) (superblock : SuperblockRecord)
    (validation : SuperblockRecordValidation) : Except SuperblockError Unit :=
  superblock.state.validateOf (superblock.validIdentity validation) (superblock.sameMembership validation)
    (superblock.state.checkpoint.valid hash (validation.checkpoint (validation.cluster.blockBase.getD 0)))
    superblock.state.checkpoint.prepareOp superblock.viewHeaderCount validation.viewHeadersMax
    (superblock.usedHeaders.all (fun header => CheckpointRecord.isPrepareHeader hash header validation.group
      validation.messageSizeMax validation.memberCount))

/-- The fields `Encode` writes behind the index of the copy. -/
def layout (superblock : SuperblockRecord) : List (Nat × Bytes) :=
  [(34, putUint 2 superblock.formatVersion), (36, putUint 4 superblock.release),
    (40, putUint 8 superblock.sequence), (48, superblock.group), (64, superblock.parentChecksum),
    (96, superblock.state.encode), (2152, putUint 4 superblock.viewHeaderCount),
    (2156, superblock.configurationChecksum), (2172, putUint 2 superblock.protocolVersion)] ++
  (array 256 4096 superblock.usedHeaders ++ [])

/-- The buffer before the checksum goes in. -/
def buffer (superblock : SuperblockRecord) (physicalIndex : Nat) : Bytes :=
  record superblockBytes ((32, putUint 2 physicalIndex) :: superblock.layout)

def imageChecksum (hash : ChecksumFunction) (superblock : SuperblockRecord) (physicalIndex : Nat) : Bytes :=
  hash.sum ((superblock.buffer physicalIndex).slice 34 superblockBytes)

/-- The copy at an index. -/
def image (hash : ChecksumFunction) (superblock : SuperblockRecord) (physicalIndex : Nat) : Bytes :=
  (superblock.buffer physicalIndex).splice 0 (superblock.imageChecksum hash physicalIndex)

/-- `Superblock.Encode`: the superblock with its checksum, and the copy. -/
def encode (hash : ChecksumFunction) (superblock : SuperblockRecord) (physicalIndex : Nat)
    (validation : SuperblockRecordValidation) : Except SuperblockError (SuperblockRecord × Bytes) :=
  if validation.copies ≤ physicalIndex then .error .invalidSuperblock
  else do
    superblock.validate hash validation
    return ({ superblock with checksum := superblock.imageChecksum hash physicalIndex },
      superblock.image hash physicalIndex)

/-- The superblock `DecodeSuperblock` puts together around the state it has decoded. -/
def read (state : DurableRecord) (source : Bytes) : SuperblockRecord where
  checksum := source.slice 0 16
  formatVersion := uint (source.slice 34 36)
  release := uint (source.slice 36 40)
  sequence := uint (source.slice 40 48)
  group := source.slice 48 64
  parentChecksum := source.slice 64 80
  state := state
  viewHeaderCount := uint (source.slice 2152 2156)
  configurationChecksum := source.slice 2156 2172
  protocolVersion := uint (source.slice 2172 2174)
  viewHeaders := readArray source 256 4096 (uint (source.slice 2152 2156)) ++
    List.replicate (superblockHeadersMax - uint (source.slice 2152 2156)) (zeros 256)

end SuperblockRecord

/-- `DecodeSuperblock`, past the checks it makes before it decodes the state. -/
def decodeSuperblockFields (hash : ChecksumFunction) (source : Bytes) (physicalIndex : Nat)
    (validation : SuperblockRecordValidation) (state : DurableRecord) :
    Except SuperblockError SuperblockRecordCandidate :=
  let superblock := SuperblockRecord.read state source
  if ¬ (source.slice 80 96).allZero ∨ uint (source.slice 2144 2152) ≠ 0 ∨
      ¬ (source.slice 2174 4096).allZero then
    .error .invalidSuperblock
  else if superblockHeadersMax < superblock.viewHeaderCount ∨
      validation.viewHeadersMax < superblock.viewHeaderCount then
    .error .invalidSuperblock
  else if ¬ (source.slice (4096 + 256 * superblock.viewHeaderCount) superblockBytes).allZero then
    .error .invalidSuperblock
  else do
    superblock.validate hash validation
    return ⟨superblock, physicalIndex, uint (source.slice 32 34) ≠ physicalIndex⟩

/-- `DecodeSuperblock`. -/
def decodeSuperblockImage (hash : ChecksumFunction) (source : Bytes) (physicalIndex : Nat)
    (validation : SuperblockRecordValidation) : Except SuperblockError SuperblockRecordCandidate :=
  if source.length ≠ superblockBytes ∨ ¬ (source.slice 16 32).allZero then .error .invalidSuperblock
  else if hash.sum (source.slice 34 superblockBytes) ≠ source.slice 0 16 then .error .invalidSuperblock
  else if uint (source.slice 36 40) = 0 ∨ uint (source.slice 40 48) = 0 then .error .invalidSuperblock
  else if uint (source.slice 34 36) ≠ formatVersion ∨ source.slice 48 64 ≠ validation.group ∨
      source.slice 2156 2172 ≠ validation.configurationChecksum ∨
      uint (source.slice 2172 2174) ≠ protocolVersion then
    .error (.joined .invalidSuperblock .incompatibleConfiguration)
  else do
    let state ← decodeDurableReplicaState hash (source.slice 96 2144) validation
    decodeSuperblockFields hash source physicalIndex validation state

namespace SuperblockRecord

variable {superblock : SuperblockRecord} {validation : SuperblockRecordValidation}

/-- What `Validate` has checked when it accepts. -/
structure Accepted (hash : ChecksumFunction) (superblock : SuperblockRecord)
    (validation : SuperblockRecordValidation) : Prop where
  identity : superblock.validIdentity validation = true
  membership : superblock.sameMembership validation = true
  checkpoint : superblock.state.checkpoint.valid hash
    (validation.checkpoint (validation.cluster.blockBase.getD 0)) = true
  ordered : ¬ (superblock.state.commitMax < superblock.state.checkpoint.prepareOp ∨
    superblock.state.syncMax < superblock.state.syncMin ∨
    ¬ (superblock.state.syncMax = 0 ↔ superblock.state.syncMin = 0) ∨
    superblock.state.view < superblock.state.logView)
  limit : superblock.viewHeaderCount ≤ validation.viewHeadersMax
  headersMax : superblock.viewHeaderCount ≤ superblockHeadersMax
  headers : superblock.usedHeaders.all (fun header => CheckpointRecord.isPrepareHeader hash header
    validation.group validation.messageSizeMax validation.memberCount) = true

theorem accepted_of_validate (valid : superblock.validate hash validation = .ok ()) :
    superblock.Accepted hash validation := by
  unfold validate DurableStateOf.validateOf at valid
  split_ifs at valid with hidentity hmembership hcheckpoint hordered hlimit hheaders
  exact ⟨hidentity, hmembership, hcheckpoint, hordered, by omega, by omega, hheaders⟩

theorem Representable.usedHeaders (representable : superblock.Representable) :
    ∀ header ∈ superblock.usedHeaders, header.length = 256 :=
  fun header hmem => representable.headers header (List.mem_of_mem_take hmem)

section

variable (representable : superblock.Representable) (fits : superblock.viewHeaderCount ≤ superblockHeadersMax)

include representable fits

theorem length_usedHeaders :
    superblock.usedHeaders.length = superblock.viewHeaderCount := by
  rw [SuperblockRecord.usedHeaders, List.length_take, representable.viewHeaders, Nat.min_eq_left fits]

theorem placed_headers (before : start ≤ 4096) :
    Placed superblockBytes start (array 256 4096 superblock.usedHeaders ++ []) := by
  refine placed_array representable.usedHeaders before ?_
  simp only [length_usedHeaders representable fits, Placed, superblockBytes]
  simp only [superblockHeadersMax] at fits
  omega

theorem placed (physicalIndex : Nat) :
    Placed superblockBytes 0 ((32, putUint 2 physicalIndex) :: superblock.layout) := by
  simp only [layout, List.cons_append, List.nil_append, Placed, length_putUint, representable.group,
    representable.parentChecksum, representable.configurationChecksum,
    DurableRecord.length_encode representable.state, superblockStateSize]
  exact ⟨by decide, by decide, by decide, by decide, by decide, by decide, by decide, by decide, by decide,
    by decide, placed_headers representable fits (by decide)⟩

end

/-! ### What `Encode` writes, `DecodeSuperblock` reads -/

section Image

variable (representable : superblock.Representable) (fits : superblock.viewHeaderCount ≤ superblockHeadersMax)

include representable fits

theorem length_buffer (physicalIndex : Nat) : (superblock.buffer physicalIndex).length = superblockBytes :=
  length_record (placed representable fits physicalIndex)

/-- The checksum does not cover the index. -/
theorem imageChecksum_eq (physicalIndex other : Nat) :
    superblock.imageChecksum hash physicalIndex = superblock.imageChecksum hash other := by
  have hindex : 32 ≤ superblockBytes := by decide
  have hrest : ∀ index, (superblock.buffer index).slice 34 superblockBytes =
      (record superblockBytes superblock.layout).slice 34 superblockBytes := by
    intro index
    have hplaced := placed representable fits index
    have hlength := length_record (placed_of_start_le hplaced.2 (Nat.zero_le _))
    rw [buffer, record_cons hplaced]
    exact slice_splice_after (by rw [length_putUint]) (by rw [hlength]; exact hindex)
  rw [imageChecksum, imageChecksum, hrest, hrest]

/-- The copies at two indices differ in the index only. -/
theorem image_eq_splice (physicalIndex other : Nat) :
    superblock.image hash other = (superblock.image hash physicalIndex).splice 32 (putUint 2 other) := by
  have hindex : 32 ≤ superblockBytes := by decide
  have hplaced := placed representable fits physicalIndex
  have hlength := length_record (placed_of_start_le hplaced.2 (Nat.zero_le _))
  have hchecksum : (superblock.imageChecksum hash physicalIndex).length = 16 := hash.length_sum _
  rw [image, image, imageChecksum_eq representable fits other physicalIndex,
    splice_comm (by rw [hchecksum]; decide)
      (by rw [length_buffer representable fits, length_putUint]; decide), buffer, buffer,
    record_cons hplaced, record_cons (placed representable fits other),
    splice_splice (by rw [hlength]; exact hindex) (by rw [length_putUint, length_putUint])]

theorem length_image (physicalIndex : Nat) : (superblock.image hash physicalIndex).length = superblockBytes := by
  have hlength := length_buffer representable fits physicalIndex
  rw [image, length_splice, hlength]
  rw [hlength, imageChecksum, hash.length_sum]
  decide

section

omit representable fits

theorem slice_image_checksum (physicalIndex : Nat) :
    (superblock.image hash physicalIndex).slice 0 16 = superblock.imageChecksum hash physicalIndex :=
  slice_splice_self (Nat.zero_le _) (by rw [imageChecksum, hash.length_sum])

theorem slice_image (behind : 16 ≤ start) (physicalIndex : Nat) :
    (superblock.image hash physicalIndex).slice start stop =
      (superblock.buffer physicalIndex).slice start stop :=
  slice_splice_after (by rw [imageChecksum, hash.length_sum]; omega) (Nat.zero_le _)

end

theorem slice_image_field {physicalIndex : Nat}
    (hmem : (offset, data) ∈ (32, putUint 2 physicalIndex) :: superblock.layout) (behind : 16 ≤ offset)
    (exact : stop = offset + data.length) : (superblock.image hash physicalIndex).slice offset stop = data := by
  rw [slice_image behind]
  exact slice_record (placed representable fits physicalIndex) hmem exact

theorem uint_image_field {physicalIndex : Nat}
    (hmem : (offset, putUint width value) ∈ (32, putUint 2 physicalIndex) :: superblock.layout)
    (behind : 16 ≤ offset) (exact : stop = offset + width) (bound : value < 256 ^ width) :
    uint ((superblock.image hash physicalIndex).slice offset stop) = value := by
  rw [slice_image_field representable fits hmem behind (by rw [exact, length_putUint]), uint_putUint,
    Nat.mod_eq_of_lt bound]

theorem allZero_image_gap {physicalIndex : Nat} (behind : 16 ≤ start) (inside : stop ≤ superblockBytes)
    (gap : ∀ field ∈ (32, putUint 2 physicalIndex) :: superblock.layout, stop ≤ field.1 ∨ field.1 + field.2.length
      ≤ start) : ((superblock.image hash physicalIndex).slice start stop).allZero = true := by
  rw [slice_image behind, buffer, slice_record_gap (placed representable fits physicalIndex) inside gap,
    allZero_zeros]

theorem readArray_image (physicalIndex : Nat) :
    readArray (superblock.image hash physicalIndex) 256 4096 superblock.viewHeaderCount =
      superblock.usedHeaders := by
  have hread := readArray_record (placed representable fits physicalIndex) representable.usedHeaders
    fun field hmem => List.mem_cons_of_mem _ (List.mem_append_right _ (List.mem_append_left _ hmem))
  rw [length_usedHeaders representable fits] at hread
  rw [← hread]
  exact readArray_congr fun first stop hfirst => slice_image (by omega) physicalIndex

theorem read_image {physicalIndex : Nat} (unused : superblock.UnusedZero) :
    read superblock.state (superblock.image hash physicalIndex) =
      { superblock with checksum := superblock.imageChecksum hash physicalIndex } := by
  have hcount : uint ((superblock.image hash physicalIndex).slice 2152 2156) = superblock.viewHeaderCount :=
    uint_image_field representable fits (by simp [layout]) (by decide) rfl representable.viewHeaderCount
  apply SuperblockRecord.ext <;> simp only [read]
  case checksum => exact slice_image_checksum physicalIndex
  case formatVersion =>
    exact uint_image_field representable fits (by simp [layout]) (by decide) rfl representable.formatVersion
  case release =>
    exact uint_image_field representable fits (by simp [layout]) (by decide) rfl representable.release
  case sequence =>
    exact uint_image_field representable fits (by simp [layout]) (by decide) rfl representable.sequence
  case group =>
    exact slice_image_field representable fits (by simp [layout]) (by decide) (by rw [representable.group])
  case parentChecksum =>
    exact slice_image_field representable fits (by simp [layout]) (by decide)
      (by rw [representable.parentChecksum])
  case viewHeaderCount => exact hcount
  case configurationChecksum =>
    exact slice_image_field representable fits (by simp [layout]) (by decide)
      (by rw [representable.configurationChecksum])
  case protocolVersion =>
    exact uint_image_field representable fits (by simp [layout]) (by decide) rfl representable.protocolVersion
  case viewHeaders =>
    rw [hcount, readArray_image representable fits, ← unused, usedHeaders, List.take_append_drop]

/-- What lies outside of the three groups of fields and the used view headers lies outside of every field. -/
theorem layout_gap {physicalIndex : Nat}
    (gap : (stop ≤ 32 ∨ 80 ≤ start) ∧ (stop ≤ 96 ∨ 2144 ≤ start) ∧ (stop ≤ 2152 ∨ 2174 ≤ start) ∧ (stop ≤ 4096 ∨
      4096 + 256 * superblock.viewHeaderCount ≤ start)) :
    ∀ field ∈ (32, putUint 2 physicalIndex) :: superblock.layout,
      stop ≤ field.1 ∨ field.1 + field.2.length ≤ start := by
  have hstate := DurableRecord.length_encode representable.state
  have hcount := length_usedHeaders representable fits
  obtain ⟨hfirst, hmiddle, hlast, hheaders⟩ := gap
  intro field hmem
  rcases List.mem_cons.mp hmem with rfl | hmem
  · simp only [length_putUint]
    omega
  rcases List.mem_append.mp hmem with hfixed | hmem
  · simp only [List.mem_cons, List.not_mem_nil, or_false] at hfixed
    rcases hfixed with rfl | rfl | rfl | rfl | rfl | rfl | rfl | rfl | rfl <;>
      simp only [length_putUint, representable.group, representable.parentChecksum, hstate,
        representable.configurationChecksum, superblockStateSize] <;> omega
  · rw [List.append_nil] at hmem
    have hstart := start_le_of_mem_array hmem
    have hend := end_le_of_mem_array representable.usedHeaders hmem
    rw [hcount] at hend
    omega

end Image

/-- A valid superblock decodes from each of its copies, and from a copy in another's place. -/
theorem decode_image {stored : Nat} (representable : superblock.Representable) (unused : superblock.UnusedZero)
    (valid : superblock.validate hash validation = .ok ()) (base : validation.cluster.blockBase.isSome = true)
    (index : stored < 256 ^ 2) (physicalIndex : Nat) :
    decodeSuperblockImage hash (superblock.image hash stored) physicalIndex validation =
      .ok ⟨{ superblock with checksum := superblock.imageChecksum hash stored }, physicalIndex,
        stored ≠ physicalIndex⟩ := by
  have haccepted := accepted_of_validate valid
  have hfits := haccepted.headersMax
  have hlimit := haccepted.limit
  obtain ⟨blockBase, hbase⟩ := Option.isSome_iff_exists.mp base
  have hidentity := haccepted.identity
  simp only [validIdentity, SuperblockOf.identifies, decide_eq_true_eq] at hidentity
  obtain ⟨hformat, hrelease, hsequence, hgroup, hconfiguration, hprotocol⟩ := hidentity
  have hread := @read_image hash superblock representable hfits stored unused
  -- the fields the decoder looks at itself, as parts of what it reads
  have hreadFormat := congrArg (·.formatVersion) hread
  have hreadRelease := congrArg (·.release) hread
  have hreadSequence := congrArg (·.sequence) hread
  have hreadGroup := congrArg (·.group) hread
  have hreadConfiguration := congrArg (·.configurationChecksum) hread
  have hreadProtocol := congrArg (·.protocolVersion) hread
  simp only [read] at hreadFormat hreadRelease hreadSequence hreadGroup hreadConfiguration hreadProtocol
  have hstored : uint ((superblock.image hash stored).slice 32 34) = stored :=
    uint_image_field representable hfits List.mem_cons_self (by decide) rfl index
  have hstate : decodeDurableReplicaState hash ((superblock.image hash stored).slice 96 2144) validation =
      .ok superblock.state := by
    refine decodeDurableReplicaState_eq_ok.mpr ⟨representable.state, ?_, blockBase, hbase, ?_⟩
    · exact slice_image_field representable hfits (by simp [layout]) (by decide)
        (by rw [DurableRecord.length_encode representable.state]; rfl)
    · have hcheckpoint := haccepted.checkpoint
      rwa [hbase, Option.getD_some] at hcheckpoint
  have hgap : ∀ {start stop : Nat}, 16 ≤ start → stop ≤ superblockBytes →
      ((stop ≤ 32 ∨ 80 ≤ start) ∧ (stop ≤ 96 ∨ 2144 ≤ start) ∧ (stop ≤ 2152 ∨ 2174 ≤ start) ∧
        (stop ≤ 4096 ∨ 4096 + 256 * superblock.viewHeaderCount ≤ start)) →
      ((superblock.image hash stored).slice start stop).allZero = true := by
    intro start stop hbehind hinside hoff
    exact allZero_image_gap representable hfits hbehind hinside (layout_gap representable hfits hoff)
  have hchecked : hash.sum ((superblock.image hash stored).slice 34 superblockBytes) =
      superblock.imageChecksum hash stored := by
    rw [slice_image (by decide), imageChecksum]
  have hzero : uint ((superblock.image hash stored).slice 2144 2152) = 0 :=
    allZero_iff_uint.mp (hgap (by decide) (by decide) (by omega))
  unfold decodeSuperblockImage
  rw [if_neg (by
      rw [length_image representable hfits, hgap (Nat.le_refl 16) (by decide) (by omega)]
      simp only [ne_eq, not_true_eq_false, or_false, not_false_eq_true]),
    if_neg (by rw [hchecked, slice_image_checksum]; exact fun h => h rfl),
    if_neg (by rw [hreadRelease, hreadSequence]; exact fun h => h.elim hrelease hsequence),
    if_neg (by
      rw [hreadFormat, hreadGroup, hreadConfiguration, hreadProtocol, hformat, hgroup, hconfiguration, hprotocol]
      simp only [ne_eq, not_true_eq_false, or_false, not_false_eq_true]),
    hstate]
  simp only [bind, Except.bind, decodeSuperblockFields, hread]
  rw [if_neg (by
      rw [hzero, hgap (by decide) (by decide) (by omega), hgap (by decide) (by decide) (by omega)]
      simp only [ne_eq, not_true_eq_false, or_false, not_false_eq_true]),
    if_neg (by omega),
    if_neg (by
      rw [hgap (by omega) (Nat.le_refl _) (by omega)]
      exact fun h => h rfl)]
  have hsame : validate hash { superblock with checksum := superblock.imageChecksum hash stored } validation =
      .ok () := valid
  rw [hsame, hstored]
  rfl

theorem encode_eq_ok {sealed : SuperblockRecord} {physicalIndex : Nat} {checksum bytes : Bytes}
    (encodes : encode hash { superblock with checksum := checksum } physicalIndex validation =
      .ok (sealed, bytes)) :
    physicalIndex < validation.copies ∧ bytes = superblock.image hash physicalIndex := by
  unfold encode at encodes
  split_ifs at encodes with hindex
  obtain ⟨-, -, hresult⟩ := bind_eq_ok.mp encodes
  cases hresult
  exact ⟨Nat.not_le.mp hindex, rfl⟩

/-! ### What `DecodeSuperblock` accepts, `Encode` writes -/

/-- What `DecodeSuperblock` has checked of the bytes it accepts, the state and the value as a whole apart. -/
structure Shaped (hash : ChecksumFunction) (source : Bytes) (count : Nat) : Prop where
  length : source.length = superblockBytes
  checked : hash.sum (source.slice 34 superblockBytes) = source.slice 0 16
  extension : (source.slice 16 32).allZero = true
  parentExtension : (source.slice 80 96).allZero = true
  reservation : (source.slice 2144 2152).allZero = true
  rest : (source.slice 2174 4096).allZero = true
  count_le : count ≤ superblockHeadersMax
  unused : (source.slice (4096 + 256 * count) superblockBytes).allZero = true

theorem decodeSuperblockImage_eq_ok {physicalIndex : Nat}
    (decodes : decodeSuperblockImage hash source physicalIndex validation = .ok candidate) :
    ∃ state : DurableRecord, state.Representable ∧ source.slice 96 2144 = state.encode ∧
      Shaped hash source (uint (source.slice 2152 2156)) ∧
      (read state source).validate hash validation = .ok () ∧
      candidate = ⟨read state source, physicalIndex, uint (source.slice 32 34) ≠ physicalIndex⟩ := by
  unfold decodeSuperblockImage at decodes
  split_ifs at decodes with hlength hchecked
  obtain ⟨state, hstate, hfields⟩ := bind_eq_ok.mp decodes
  obtain ⟨hrepresentable, hencode, -⟩ := decodeDurableReplicaState_eq_ok.mp hstate
  unfold decodeSuperblockFields at hfields
  simp only at hfields
  split_ifs at hfields with hzero hcount hunused
  obtain ⟨⟨⟩, hvalid, hresult⟩ := bind_eq_ok.mp hfields
  simp only [not_or, ne_eq, not_not, Nat.not_lt] at hlength hchecked hzero hcount hunused
  cases hresult
  exact ⟨state, hrepresentable, hencode, ⟨hlength.1, hchecked, hlength.2, hzero.1,
    allZero_iff_uint.mpr hzero.2.1, hzero.2.2, hcount.1, hunused⟩, hvalid, rfl⟩

theorem usedHeaders_read {state : DurableRecord} :
    (read state source).usedHeaders = readArray source 256 4096 (uint (source.slice 2152 2156)) :=
  List.take_left' (length_readArray _ _ _ _)

namespace Shaped

variable {state : DurableRecord}

variable (shaped : Shaped hash source (uint (source.slice 2152 2156)))

include shaped

theorem headers_le :
    4096 + 256 * uint (source.slice 2152 2156) ≤ source.length := by
  have hcount := shaped.count_le
  rw [shaped.length]
  simp only [superblockHeadersMax, superblockBytes] at hcount ⊢
  omega

variable (representable : state.Representable)

include representable

theorem representable_read : (read state source).Representable := by
  have hslice : ∀ {start stop : Nat}, stop ≤ 8192 → (source.slice start stop).length = stop - start := by
    intro start stop hstop
    exact length_slice (by rw [shaped.length]; exact hstop)
  have hword := @uint_slice_lt _ _ shaped.length
  have hcount := shaped.count_le
  exact {
    formatVersion := hword (by decide)
    release := hword (by decide)
    sequence := hword (by decide)
    group := hslice (by decide)
    parentChecksum := hslice (by decide)
    state := representable
    viewHeaderCount := hword (by decide)
    configurationChecksum := hslice (by decide)
    protocolVersion := hword (by decide)
    viewHeaders := by
      show (_ ++ _ : List Bytes).length = _
      rw [List.length_append, length_readArray, List.length_replicate]
      omega
    headers := by
      intro header hmem
      rcases List.mem_append.mp hmem with hmem | hmem
      · exact length_of_mem_readArray shaped.headers_le header hmem
      · rw [List.eq_of_mem_replicate hmem, length_zeros] }

/-- Up to the place of the checksum, the accepted bytes are the buffer `Encode` fills for the stored index. -/
theorem buffer_read (encoded : source.slice 96 2144 = state.encode) :
    (read state source).buffer (uint (source.slice 32 34)) = source.splice 0 (zeros 16) := by
  have hrepresentable := shaped.representable_read representable
  have hstate := DurableRecord.length_encode representable
  have hlength : (source.splice 0 (zeros 16)).length = superblockBytes := by
    rw [length_splice, shaped.length]
    rw [shaped.length]
    decide
  have hfront := allZero_blanked (by decide) shaped.extension
  have hnumber := @slice_eq_putUint _ _ shaped.length
  have hplaced := placed hrepresentable shaped.count_le (uint (source.slice 32 34))
  rw [buffer, ← hlength]
  rw [← hlength] at hplaced
  refine record_of_tiled hplaced ?_
  have hheaders : Tiled (source.splice 0 (zeros 16)) 4096
      (array 256 4096 (read state source).usedHeaders ++ []) := by
    have hsame : (read state source).usedHeaders =
        readArray (source.splice 0 (zeros 16)) 256 4096 (uint (source.slice 2152 2156)) := by
      rw [usedHeaders_read]
      exact readArray_congr fun first stop hfirst => (slice_blanked (by omega)).symm
    rw [hsame]
    refine tiled_array ?_ ?_
    · rw [hlength, ← shaped.length]
      exact shaped.headers_le
    · show ((source.splice 0 (zeros 16)).slice _ _).allZero = true
      rw [slice_blanked (by omega), hlength]
      exact shaped.unused
  -- in front of them lie the reserved bytes
  have hbehind : Tiled (source.splice 0 (zeros 16)) 2174
      (array 256 4096 (read state source).usedHeaders ++ []) := by
    refine tiled_of_start_le ?_ hheaders (by decide) ?_
    · rw [hlength]
      exact placed_headers hrepresentable shaped.count_le (Nat.le_refl _)
    · rw [slice_blanked (by decide)]
      exact shaped.rest
  simp only [layout, List.cons_append, List.nil_append, Tiled, length_putUint, hrepresentable.group,
    hrepresentable.parentChecksum, hrepresentable.configurationChecksum, Nat.reduceAdd, slice_self, allZero_nil]
  simp only [read, hstate, superblockStateSize, Nat.reduceAdd, slice_blanked, Nat.reduceLeDiff, encoded, true_and]
  exact ⟨hfront, hnumber (by decide) rfl, hnumber (by decide) rfl, hnumber (by decide) rfl,
    hnumber (by decide) rfl, shaped.parentExtension, shaped.reservation, hnumber (by decide) rfl,
    hnumber (by decide) rfl, hbehind⟩

/-- The accepted bytes are the copy of the decoded superblock at the index stored in them. -/
theorem image_read (encoded : source.slice 96 2144 = state.encode) :
    (read state source).imageChecksum hash (uint (source.slice 32 34)) = (read state source).checksum ∧
      (read state source).image hash (uint (source.slice 32 34)) = source := by
  have hbuffer := shaped.buffer_read representable encoded
  have hchecksum : (read state source).imageChecksum hash (uint (source.slice 32 34)) = source.slice 0 16 := by
    rw [imageChecksum, hbuffer, slice_splice_after (by rw [length_zeros]; decide) (Nat.zero_le _),
      shaped.checked]
  refine ⟨hchecksum, ?_⟩
  rw [image, hchecksum, hbuffer, splice_splice (Nat.zero_le _),
    splice_slice (Nat.zero_le _) (by rw [shaped.length]; decide)]
  rw [length_zeros, length_slice (by rw [shaped.length]; decide)]

end Shaped

/-- Encoding the superblock of accepted bytes reproduces them, up to the index. -/
theorem encode_of_decode {physicalIndex index : Nat}
    (decodes : decodeSuperblockImage hash source physicalIndex validation = .ok candidate)
    (copy : index < validation.copies) :
    candidate.superblock.encode hash index validation =
      .ok (candidate.superblock, source.splice 32 (putUint 2 index)) := by
  obtain ⟨state, hrepresentable, hencoded, hshaped, hvalid, rfl⟩ := decodeSuperblockImage_eq_ok decodes
  have hread := hshaped.representable_read hrepresentable
  obtain ⟨hchecksum, himage⟩ := hshaped.image_read hrepresentable hencoded
  have hfits : (read state source).viewHeaderCount ≤ superblockHeadersMax := hshaped.count_le
  have hsame : (read state source).imageChecksum hash index =
      (read state source).imageChecksum hash (uint (source.slice 32 34)) := imageChecksum_eq hread hfits _ _
  have hother : (read state source).image hash index =
      ((read state source).image hash (uint (source.slice 32 34))).splice 32 (putUint 2 index) :=
    image_eq_splice hread hfits _ _
  rw [himage] at hother
  rw [encode, if_neg (Nat.not_le.mpr copy), hvalid]
  simp only [bind, Except.bind]
  rw [hsame, hchecksum, hother]
  rfl

end SuperblockRecord

/-- The checkpoint and the superblock codec: a valid value decodes from its encoding, at every index and with
one checksum, and the bytes of an accepted image are the encoding of what it decodes to, but for the two
bytes of the index of a superblock copy. -/
theorem superblock_codec (hash : ChecksumFunction) (validation : SuperblockRecordValidation)
    (base : validation.cluster.blockBase.isSome = true) :
    (∀ (state : CheckpointRecord) (bounds : CheckpointRecordValidation), state.Representable →
      state.valid hash bounds = true → decodeCheckpointState hash state.encode bounds = .ok state) ∧
    (∀ source state bounds, decodeCheckpointState hash source bounds = .ok state → state.encode = source) ∧
    (∀ superblock : SuperblockRecord, superblock.Representable → superblock.UnusedZero →
      superblock.validate hash validation = .ok () →
      ∃ checksum, ∀ index < validation.copies, ∃ image,
        superblock.encode hash index validation = .ok ({ superblock with checksum := checksum }, image) ∧
        decodeSuperblockImage hash image index validation =
          .ok ⟨{ superblock with checksum := checksum }, index, false⟩) ∧
    ∀ source physicalIndex candidate,
      decodeSuperblockImage hash source physicalIndex validation = .ok candidate →
      ∀ index < validation.copies, ∃ image,
        candidate.superblock.encode hash index validation = .ok (candidate.superblock, image) ∧
        image = source.splice 32 (putUint 2 index) ∧ (uint (source.slice 32 34) = index → image = source) := by
  refine ⟨fun state bounds hrepresentable hvalid => decodeCheckpointState_eq_ok.mpr ⟨hrepresentable, hvalid, rfl⟩,
    fun source state bounds hdecodes => (decodeCheckpointState_eq_ok.mp hdecodes).2.2.symm, ?_, ?_⟩
  · intro superblock hrepresentable hunused hvalid
    have hfits := (SuperblockRecord.accepted_of_validate hvalid).headersMax
    refine ⟨superblock.imageChecksum hash 0, fun index hindex => ⟨superblock.image hash index, ?_, ?_⟩⟩
    · rw [SuperblockRecord.encode, if_neg (Nat.not_le.mpr hindex), hvalid,
        SuperblockRecord.imageChecksum_eq hrepresentable hfits 0 index]
      rfl
    have hbound : index < 256 ^ 2 := Nat.lt_trans hindex (Nat.mod_lt _ (by decide))
    rw [SuperblockRecord.decode_image hrepresentable hunused hvalid base hbound index,
      SuperblockRecord.imageChecksum_eq hrepresentable hfits 0 index]
    simp
  · intro source physicalIndex candidate hdecodes index hindex
    refine ⟨_, SuperblockRecord.encode_of_decode hdecodes hindex, rfl, ?_⟩
    rintro rfl
    obtain ⟨state, -, -, hshaped, -⟩ := SuperblockRecord.decodeSuperblockImage_eq_ok hdecodes
    have hfits : 34 ≤ source.length := by
      rw [hshaped.length]
      decide
    rw [← slice_eq_putUint rfl hfits (show 2 = 34 - 32 from rfl), splice_slice (by decide) hfits]

/-! ### A formatted superblock -/

/-- The prepare header of op 0. -/
def rootFrameHeader : FrameHeader :=
  { exitViewHeader with command := .prepare, size := headerSize, view := 0, author := 0 }

def formattedCheckpointRecord (blockBase : Nat) : CheckpointRecord where
  header := rootFrameHeader.encoded digitSum
  acquiredTrailerLastChecksum := zeros 16
  releasedTrailerLastChecksum := zeros 16
  sessionTrailerLastChecksum := zeros 16
  oldestManifestChecksum := zeros 16
  newestManifestChecksum := zeros 16
  snapshotRootChecksum := zeros 16
  acquiredAggregateChecksum := digitSum.sum []
  releasedAggregateChecksum := digitSum.sum []
  sessionAggregateChecksum := digitSum.sum []
  parentID := zeros 16
  grandparentID := zeros 16
  acquiredTrailerLastAddress := 0
  releasedTrailerLastAddress := 0
  sessionTrailerLastAddress := 0
  oldestManifestAddress := 0
  newestManifestAddress := 0
  snapshotRootAddress := 0
  logicalStorageSize := blockBase
  acquiredTrailerEncodedSize := 0
  releasedTrailerEncodedSize := 0
  sessionTrailerEncodedSize := 0
  manifestBlockCount := 0
  release := 1

/-- A group of one member with the default limits. -/
def soloValidation : SuperblockRecordValidation where
  group := zeros 16
  localMember := putUint 16 1
  members := putUint 16 1 :: List.replicate 11 (zeros 16)
  activeCount := 1
  standbyCount := 0
  configurationChecksum := zeros 16
  cluster := .default

def formattedSuperblockRecord : SuperblockRecord where
  checksum := zeros 16
  formatVersion := formatVersion
  release := 1
  sequence := 1
  group := soloValidation.group
  parentChecksum := zeros 16
  state := {
    checkpoint := formattedCheckpointRecord (soloValidation.cluster.blockBase.getD 0)
    localMember := soloValidation.localMember
    members := soloValidation.members
    commitMax := 0
    syncMin := 0
    syncMax := 0
    logView := 0
    view := 0
    activeCount := 1
    standbyCount := 0 }
  viewHeaderCount := 0
  configurationChecksum := zeros 16
  protocolVersion := protocolVersion
  viewHeaders := List.replicate 16 (zeros 256)

theorem formattedSuperblockRecord_representable : formattedSuperblockRecord.Representable where
  formatVersion := by decide
  release := by decide
  sequence := by decide
  group := by decide
  parentChecksum := by decide
  state := ⟨⟨by decide +kernel, by decide +kernel, by decide +kernel, by decide, by decide⟩, by decide, by decide,
    by decide, by decide, by decide, by decide, by decide, by decide, by decide, by decide⟩
  viewHeaderCount := by decide
  configurationChecksum := by decide
  protocolVersion := by decide
  viewHeaders := by decide
  headers := by
    intro header hmem
    rw [List.eq_of_mem_replicate hmem, length_zeros]

theorem superblock_codec_formatted : ∃ sealed image,
    formattedSuperblockRecord.encode digitSum 2 soloValidation = .ok (sealed, image) ∧
      decodeSuperblockImage digitSum image 2 soloValidation = .ok ⟨sealed, 2, false⟩ := by
  obtain ⟨-, -, hencode, -⟩ := superblock_codec digitSum soloValidation (by decide +kernel)
  obtain ⟨checksum, hcopies⟩ := hencode formattedSuperblockRecord formattedSuperblockRecord_representable rfl
    (by decide +kernel)
  obtain ⟨image, hencodes, hdecodes⟩ := hcopies 2 (by decide)
  exact ⟨_, image, hencodes, hdecodes⟩

/-- A copy with an index no copy has is accepted, and is not the encoding of what it decodes to. -/
theorem foreign_index_accepted : ∃ source candidate,
    decodeSuperblockImage digitSum source 0 soloValidation = .ok candidate ∧
      ∀ index sealed image, candidate.superblock.encode digitSum index soloValidation = .ok (sealed, image) →
        image ≠ source := by
  have hvalid : formattedSuperblockRecord.validate digitSum soloValidation = .ok () := by decide +kernel
  have hrepresentable := formattedSuperblockRecord_representable
  have hfits : formattedSuperblockRecord.viewHeaderCount ≤ superblockHeadersMax := by decide
  refine ⟨_, _, SuperblockRecord.decode_image hrepresentable rfl hvalid (by decide +kernel)
    (show 65535 < 256 ^ 2 by decide) 0, ?_⟩
  intro index sealed image hencodes himage
  obtain ⟨hindex, hbytes⟩ := SuperblockRecord.encode_eq_ok hencodes
  have hsmall : index < 4 := hindex
  have hslice : uint ((formattedSuperblockRecord.image digitSum index).slice 32 34) = index :=
    SuperblockRecord.uint_image_field hrepresentable hfits List.mem_cons_self (by decide) rfl
      (Nat.lt_trans hsmall (by decide))
  have hforeign : uint ((formattedSuperblockRecord.image digitSum 65535).slice 32 34) = 65535 :=
    SuperblockRecord.uint_image_field hrepresentable hfits List.mem_cons_self (by decide) rfl (by decide)
  rw [hbytes] at himage
  rw [himage, hforeign] at hslice
  omega

end Supervsr
