import Mathlib.Algebra.Ring.Nat
import Mathlib.Logic.Function.Basic
import Mathlib.Logic.Encodable.Basic

/-
# Supervsr.Protocol — ops, views, prepare headers and the checksum that links them

Every record the replication layer stores or sends is sealed by one hash function,
`protocol.ChecksumBytes`, applied to the record's encoding.  The embedding keeps that shape: a record
is encoded as a list of words, a word being a number or the checksum of another record, and a
checksum is `Checksums.checksumBytes` of that list.  Nothing else about the hash is used than that it
has no collisions.
-/

namespace Supervsr


/-- `protocol.MaxView`, the largest 32-bit view. -/
def maxView : Nat := 2 ^ 32 - 1

/-- `math.MaxUint64`. -/
def maxUint64 : Nat := 2 ^ 64 - 1

def protocolVersion : Nat := 0

def formatVersion : Nat := 1

/-- A field of an encoded record: a plain number or the checksum of another record. -/
inductive Word (χ : Type) where
  | num (n : Nat)
  | sum (c : χ)
deriving DecidableEq, Repr

/-- The hash function over encodings, idealised: no two encodings share a checksum.  `zero` is the
all-zero value the code tests with `IsZero`. -/
class Checksums (χ : Type) where
  zero : χ
  checksumBytes : List (Word χ) → χ
  checksumBytes_injective : Function.Injective checksumBytes

export Checksums (checksumBytes checksumBytes_injective)

/-! ## Operations and prepare headers -/

/-- `protocol.Operation`. -/
inductive Operation where
  | reserved
  | root
  | register
  | reconfigure
  | pulse
  | upgrade
  | noop
  | application (code : Nat)
deriving DecidableEq, Repr

/-- The byte the operation is encoded as; application operations start at 128. -/
def Operation.code : Operation → Nat
  | .reserved => 0
  | .root => 1
  | .register => 2
  | .reconfigure => 3
  | .pulse => 4
  | .upgrade => 5
  | .noop => 6
  | .application code => 128 + code

theorem Operation.code_injective : Function.Injective Operation.code := by
  intro a b h
  cases a <;> cases b <;> simp_all [Operation.code] <;> omega

/-- The header of a prepare: the command fields of `protocol.Header` that the replication layer reads
or writes.  The header's own checksum is not stored, it is `Header.checksum` of the rest. -/
structure Header (χ : Type) where
  parent : χ
  requestChecksum : χ
  checkpointID : χ
  client : Nat
  op : Nat
  commit : Nat
  timestamp : Nat
  request : Nat
  operation : Operation
  view : Nat
  release : Nat
  bodyChecksum : χ
deriving DecidableEq, Repr

namespace Header

variable {χ : Type}

/-- `protocol.EncodeHeader`: the words the header checksum is taken over. -/
def encode (header : Header χ) : List (Word χ) :=
  [.sum header.bodyChecksum, .num header.view, .num header.release, .sum header.parent,
    .sum header.requestChecksum, .sum header.checkpointID, .num header.client, .num header.op,
    .num header.commit, .num header.timestamp, .num header.request, .num header.operation.code]

theorem encode_injective : Function.Injective (encode (χ := χ)) := by
  intro a b h
  cases a; cases b
  simp only [encode, List.cons.injEq, Word.num.injEq, Word.sum.injEq] at h
  obtain ⟨hbody, hview, hrelease, hparent, hrequest, hcheckpoint, hclient, hop, hcommit, htime, hno,
    hoperation, -⟩ := h
  simp_all [Operation.code_injective.eq_iff]

@[simp] theorem length_encode (header : Header χ) : header.encode.length = 12 := rfl

variable [Checksums χ]

/-- `HeaderChecksum`. -/
def checksum (header : Header χ) : χ :=
  checksumBytes header.encode

theorem checksum_injective : Function.Injective (checksum (χ := χ)) :=
  checksumBytes_injective.comp encode_injective

/-- `rootPrepareHeader`: the header every member formats op 0 with. -/
def root : Header χ where
  parent := Checksums.zero
  requestChecksum := Checksums.zero
  checkpointID := Checksums.zero
  client := 0
  op := 0
  commit := 0
  timestamp := 0
  request := 0
  operation := .root
  view := 0
  release := 0
  bodyChecksum := checksumBytes []

@[simp] theorem root_op : (root : Header χ).op = 0 := rfl

@[simp] theorem root_view : (root : Header χ).view = 0 := rfl

end Header

end Supervsr
