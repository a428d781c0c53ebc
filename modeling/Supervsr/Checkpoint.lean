import Supervsr.Config

/-
# Supervsr.Checkpoint — the checkpoint a superblock pins

`CheckpointState` is the fixed-size record of `checkpoint.go`: the prepare it was taken at, the block
references it retains and the identifiers of its two predecessors.  Replicas compare checkpoints by
`CheckpointState.id`, the checksum of the whole record.
-/

namespace Supervsr

/-- `CheckpointState`, over the form of the embedded prepare header and that of a checksum. -/
@[ext] structure CheckpointStateOf (η χ : Type) where
  header : η
  acquiredTrailerLastChecksum : χ
  releasedTrailerLastChecksum : χ
  sessionTrailerLastChecksum : χ
  oldestManifestChecksum : χ
  newestManifestChecksum : χ
  snapshotRootChecksum : χ
  acquiredAggregateChecksum : χ
  releasedAggregateChecksum : χ
  sessionAggregateChecksum : χ
  parentID : χ
  grandparentID : χ
  acquiredTrailerLastAddress : Nat
  releasedTrailerLastAddress : Nat
  sessionTrailerLastAddress : Nat
  oldestManifestAddress : Nat
  newestManifestAddress : Nat
  snapshotRootAddress : Nat
  logicalStorageSize : Nat
  acquiredTrailerEncodedSize : Nat
  releasedTrailerEncodedSize : Nat
  sessionTrailerEncodedSize : Nat
  manifestBlockCount : Nat
  release : Nat
deriving DecidableEq, Repr

/-- The checkpoint of a replica: the embedded header is a decoded prepare header. -/
abbrev CheckpointState (χ : Type) := CheckpointStateOf (Header χ) χ

/-- `CheckpointValidation`, without the fields header decoding alone reads. -/
structure CheckpointValidation where
  blockBase : Nat
  blockSize : Nat
  clientsMax : Nat
deriving DecidableEq, Repr

/-! ## Reference checks -/

/-- The checksum that `IsZero` recognises. -/
class ZeroChecksum (χ : Type) where
  zero : χ

instance {χ : Type} [Checksums χ] : ZeroChecksum χ := ⟨Checksums.zero⟩

section References

variable {η χ : Type} [DecidableEq χ] [ZeroChecksum χ]

def isZeroChecksum (checksum : χ) : Bool := checksum = ZeroChecksum.zero

def validEWAHTrailerReference (address encodedSize : Nat) (last aggregate empty : χ)
    (blockCount : Nat) : Bool :=
  if address = 0 then encodedSize = 0 ∧ isZeroChecksum last ∧ aggregate = empty
  else
    let words := if blockCount % 64 ≠ 0 then blockCount / 64 + 1 else blockCount / 64
    match checkedAdd words 1 with
    | none => false
    | some maximumWords =>
      match checkedMul maximumWords 8 with
      | none => false
      | some maximumBytes =>
        encodedSize ≠ 0 ∧ encodedSize % 8 = 0 ∧ encodedSize ≤ maximumBytes ∧ ¬ isZeroChecksum last

def validSessionTrailerReference (address encodedSize : Nat) (last aggregate empty : χ)
    (expectedSize : Nat) : Bool :=
  if address = 0 then encodedSize = 0 ∧ isZeroChecksum last ∧ aggregate = empty
  else encodedSize = expectedSize ∧ expectedSize ≠ 0 ∧ ¬ isZeroChecksum last

def validCheckpointBlockAddress (address blockCount : Nat) : Bool :=
  address ≠ 0 ∧ address ≤ blockCount

def validManifestReferences (state : CheckpointStateOf η χ) : Bool :=
  match state.manifestBlockCount with
  | 0 => state.oldestManifestAddress = 0 ∧ state.newestManifestAddress = 0 ∧
      isZeroChecksum state.oldestManifestChecksum ∧ isZeroChecksum state.newestManifestChecksum
  | 1 => state.oldestManifestAddress ≠ 0 ∧
      state.oldestManifestAddress = state.newestManifestAddress ∧
      state.oldestManifestChecksum = state.newestManifestChecksum
  | _ => state.oldestManifestAddress ≠ 0 ∧ state.newestManifestAddress ≠ 0

def validOptionalReference (address : Nat) (checksum : χ) : Bool :=
  decide (address = 0) = isZeroChecksum checksum

/-- `Validate` behind the decoding of the header; `empty` is the checksum of no bytes. -/
def CheckpointStateOf.validReferences (state : CheckpointStateOf η χ) (validation : CheckpointValidation)
    (empty : χ) : Bool :=
  let blockCount := (state.logicalStorageSize - validation.blockBase) / validation.blockSize
  state.release ≠ 0 ∧ validation.blockBase ≤ state.logicalStorageSize ∧ validation.blockSize ≠ 0 ∧
    (state.logicalStorageSize - validation.blockBase) % validation.blockSize = 0 ∧
    validEWAHTrailerReference state.acquiredTrailerLastAddress state.acquiredTrailerEncodedSize
      state.acquiredTrailerLastChecksum state.acquiredAggregateChecksum empty blockCount ∧
    validEWAHTrailerReference state.releasedTrailerLastAddress state.releasedTrailerEncodedSize
      state.releasedTrailerLastChecksum state.releasedAggregateChecksum empty blockCount ∧
    (checkedMul validation.clientsMax (headerBytes + 8)).any (fun sessionSize =>
      validSessionTrailerReference state.sessionTrailerLastAddress state.sessionTrailerEncodedSize
        state.sessionTrailerLastChecksum state.sessionAggregateChecksum empty sessionSize) ∧
    [state.acquiredTrailerLastAddress, state.releasedTrailerLastAddress,
      state.sessionTrailerLastAddress, state.oldestManifestAddress, state.newestManifestAddress,
      state.snapshotRootAddress].all
        (fun address => address = 0 ∨ validCheckpointBlockAddress address blockCount) ∧
    validManifestReferences state ∧
    validOptionalReference state.snapshotRootAddress state.snapshotRootChecksum

end References

namespace CheckpointState

variable {χ : Type}

def prepareOp (state : CheckpointState χ) : Nat :=
  state.header.op

def encode (state : CheckpointState χ) : List (Word χ) :=
  state.header.encode ++
    [.sum state.acquiredTrailerLastChecksum, .sum state.releasedTrailerLastChecksum,
      .sum state.sessionTrailerLastChecksum, .sum state.oldestManifestChecksum,
      .sum state.newestManifestChecksum, .sum state.snapshotRootChecksum,
      .sum state.acquiredAggregateChecksum, .sum state.releasedAggregateChecksum,
      .sum state.sessionAggregateChecksum, .sum state.parentID, .sum state.grandparentID,
      .num state.acquiredTrailerLastAddress, .num state.releasedTrailerLastAddress,
      .num state.sessionTrailerLastAddress, .num state.oldestManifestAddress,
      .num state.newestManifestAddress, .num state.snapshotRootAddress,
      .num state.logicalStorageSize, .num state.acquiredTrailerEncodedSize,
      .num state.releasedTrailerEncodedSize, .num state.sessionTrailerEncodedSize,
      .num state.manifestBlockCount, .num state.release]

theorem encode_injective : Function.Injective (encode (χ := χ)) := by
  intro a b h
  obtain ⟨hheader, hrest⟩ := List.append_inj h (by simp)
  have hheader := Header.encode_injective hheader
  cases a; cases b
  simp only [List.cons.injEq, Word.num.injEq, Word.sum.injEq] at hrest
  simp_all

@[simp] theorem length_encode (state : CheckpointState χ) : state.encode.length = 35 := rfl

section Checksummed

variable [Checksums χ]

/-- `ID`. -/
def id (state : CheckpointState χ) : χ :=
  checksumBytes state.encode

/-- The checkpoint `formatAtView` seals: the root prepare and no blocks. -/
def formatted (release : Nat) (blockBase : Nat) : CheckpointState χ where
  header := Header.root
  acquiredTrailerLastChecksum := Checksums.zero
  releasedTrailerLastChecksum := Checksums.zero
  sessionTrailerLastChecksum := Checksums.zero
  oldestManifestChecksum := Checksums.zero
  newestManifestChecksum := Checksums.zero
  snapshotRootChecksum := Checksums.zero
  acquiredAggregateChecksum := checksumBytes []
  releasedAggregateChecksum := checksumBytes []
  sessionAggregateChecksum := checksumBytes []
  parentID := Checksums.zero
  grandparentID := Checksums.zero
  acquiredTrailerLastAddress := 0
  releasedTrailerLastAddress := 0
  sessionTrailerLastAddress := 0
  oldestManifestAddress := 0
  newestManifestAddress := 0
  snapshotRootAddress := 0
  logicalStorageSize := blockBase
  acquiredTrailerEncodedSize := 0
  releasedTrailerEncodedSize := 0
  sessionTrailerEncodedSize := 0
  manifestBlockCount := 0
  release := release

end Checksummed

/-- `Validate`. -/
def valid [DecidableEq χ] [Checksums χ] (state : CheckpointState χ)
    (validation : CheckpointValidation) : Bool :=
  state.validReferences validation (checksumBytes [])

end CheckpointState

end Supervsr
