import Supervsr.Lib.Bytes
import Supervsr.Protocol

/-
# Supervsr.ChecksumHasher — a checksum computed from chunks

`ChecksumHasher` keeps the bytes that do not fill a block yet.  What it holds after some chunks is what the
blocks of their concatenation come to, whatever the chunks were, so that `Sum` answers as `ChecksumBytes`
does for the whole.
-/

namespace Supervsr

open Bytes

def checksumInputBytesMax : Nat := maxUint64 / 8

/-- `aegisUpdate` is made of the processor's instructions where it has them, and is `aegisUpdatePortable`
elsewhere. -/
class Aegis where
  aegisUpdate : List Bytes → Bytes → Bytes → List Bytes

export Aegis (aegisUpdate)

def aesSBox : Bytes :=
  [0x63, 0x7c, 0x77, 0x7b, 0xf2, 0x6b, 0x6f, 0xc5, 0x30, 0x01, 0x67, 0x2b, 0xfe, 0xd7, 0xab, 0x76,
   0xca, 0x82, 0xc9, 0x7d, 0xfa, 0x59, 0x47, 0xf0, 0xad, 0xd4, 0xa2, 0xaf, 0x9c, 0xa4, 0x72, 0xc0,
   0xb7, 0xfd, 0x93, 0x26, 0x36, 0x3f, 0xf7, 0xcc, 0x34, 0xa5, 0xe5, 0xf1, 0x71, 0xd8, 0x31, 0x15,
   0x04, 0xc7, 0x23, 0xc3, 0x18, 0x96, 0x05, 0x9a, 0x07, 0x12, 0x80, 0xe2, 0xeb, 0x27, 0xb2, 0x75,
   0x09, 0x83, 0x2c, 0x1a, 0x1b, 0x6e, 0x5a, 0xa0, 0x52, 0x3b, 0xd6, 0xb3, 0x29, 0xe3, 0x2f, 0x84,
   0x53, 0xd1, 0x00, 0xed, 0x20, 0xfc, 0xb1, 0x5b, 0x6a, 0xcb, 0xbe, 0x39, 0x4a, 0x4c, 0x58, 0xcf,
   0xd0, 0xef, 0xaa, 0xfb, 0x43, 0x4d, 0x33, 0x85, 0x45, 0xf9, 0x02, 0x7f, 0x50, 0x3c, 0x9f, 0xa8,
   0x51, 0xa3, 0x40, 0x8f, 0x92, 0x9d, 0x38, 0xf5, 0xbc, 0xb6, 0xda, 0x21, 0x10, 0xff, 0xf3, 0xd2,
   0xcd, 0x0c, 0x13, 0xec, 0x5f, 0x97, 0x44, 0x17, 0xc4, 0xa7, 0x7e, 0x3d, 0x64, 0x5d, 0x19, 0x73,
   0x60, 0x81, 0x4f, 0xdc, 0x22, 0x2a, 0x90, 0x88, 0x46, 0xee, 0xb8, 0x14, 0xde, 0x5e, 0x0b, 0xdb,
   0xe0, 0x32, 0x3a, 0x0a, 0x49, 0x06, 0x24, 0x5c, 0xc2, 0xd3, 0xac, 0x62, 0x91, 0x95, 0xe4, 0x79,
   0xe7, 0xc8, 0x37, 0x6d, 0x8d, 0xd5, 0x4e, 0xa9, 0x6c, 0x56, 0xf4, 0xea, 0x65, 0x7a, 0xae, 0x08,
   0xba, 0x78, 0x25, 0x2e, 0x1c, 0xa6, 0xb4, 0xc6, 0xe8, 0xdd, 0x74, 0x1f, 0x4b, 0xbd, 0x8b, 0x8a,
   0x70, 0x3e, 0xb5, 0x66, 0x48, 0x03, 0xf6, 0x0e, 0x61, 0x35, 0x57, 0xb9, 0x86, 0xc1, 0x1d, 0x9e,
   0xe1, 0xf8, 0x98, 0x11, 0x69, 0xd9, 0x8e, 0x94, 0x9b, 0x1e, 0x87, 0xe9, 0xce, 0x55, 0x28, 0xdf,
   0x8c, 0xa1, 0x89, 0x0d, 0xbf, 0xe6, 0x42, 0x68, 0x41, 0x99, 0x2d, 0x0f, 0xb0, 0x54, 0xbb, 0x16]

/-- `xtime`: the sign bit of the byte is drawn over all its bits. -/
def xtime (value : UInt8) : UInt8 := value <<< 1 ^^^ ((value.toInt8 >>> 7).toUInt8 &&& 0x1b)

def xorBlock (left right : Bytes) : Bytes := left.zipWith (· ^^^ ·) right

/-- `aesRoundPortable`, column by column. -/
def aesRoundPortable (state roundKey : Bytes) : Bytes :=
  let shifted := [0, 5, 10, 15, 4, 9, 14, 3, 8, 13, 2, 7, 12, 1, 6, 11].map fun index =>
    aesSBox.getD (state.getD index 0).toNat 0
  let output := (List.range 4).flatMap fun column =>
    let a := fun index => shifted.getD (column * 4 + index) 0
    let xorAll := a 0 ^^^ a 1 ^^^ a 2 ^^^ a 3
    [a 0 ^^^ xorAll ^^^ xtime (a 0 ^^^ a 1), a 1 ^^^ xorAll ^^^ xtime (a 1 ^^^ a 2),
     a 2 ^^^ xorAll ^^^ xtime (a 2 ^^^ a 3), a 3 ^^^ xorAll ^^^ xtime (a 3 ^^^ a 0)]
  xorBlock output roundKey

def aegisUpdatePortable (state : List Bytes) (input0 input1 : Bytes) : List Bytes :=
  let old := fun lane => state.getD lane []
  [xorBlock (aesRoundPortable (old 7) (old 0)) input0, aesRoundPortable (old 0) (old 1),
   aesRoundPortable (old 1) (old 2), aesRoundPortable (old 2) (old 3),
   xorBlock (aesRoundPortable (old 3) (old 4)) input1, aesRoundPortable (old 4) (old 5),
   aesRoundPortable (old 5) (old 6), aesRoundPortable (old 6) (old 7)]

structure ChecksumHasher where
  state : List Bytes
  buffer : Bytes
  buffered : Nat
  length : Nat

namespace ChecksumHasher

variable [Aegis]

def aegisConstant0 : Bytes :=
  [0xdb, 0x3d, 0x18, 0x55, 0x6d, 0xc2, 0x2f, 0xf1, 0x20, 0x11, 0x31, 0x42, 0x73, 0xb5, 0x28, 0xdd]

def aegisConstant1 : Bytes :=
  [0x00, 0x01, 0x01, 0x02, 0x03, 0x05, 0x08, 0x0d, 0x15, 0x22, 0x37, 0x59, 0x90, 0xe9, 0x79, 0x62]

/-- `NewChecksumHasher`, with `Reset`. -/
def new : ChecksumHasher where
  state := (fun state => aegisUpdate state (zeros 16) (zeros 16))^[10] [zeros 16, aegisConstant0,
    aegisConstant1, aegisConstant0, zeros 16, aegisConstant1, aegisConstant0, aegisConstant1]
  buffer := zeros 32
  buffered := 0
  length := 0

/-- `update` with the halves of a block. -/
def update (state : List Bytes) (block : Bytes) : List Bytes :=
  aegisUpdate state (block.slice 0 16) (block.slice 16 32)

/-- The loop of `Write` over whole blocks, with the bytes after the last one. -/
def absorb (state : List Bytes) (input : Bytes) : List Bytes × Bytes :=
  if 32 ≤ input.length then absorb (update state (input.take 32)) (input.drop 32) else (state, input)
termination_by input.length
decreasing_by
  rw [List.length_drop]
  omega

/-- The end of `Write`: `copy` leaves the rest of the buffer as it was. -/
def absorbRest (hasher : ChecksumHasher) (input : Bytes) : ChecksumHasher :=
  let absorbed := absorb hasher.state input
  if absorbed.2.length ≠ 0 then
    { hasher with
      state := absorbed.1
      buffer := hasher.buffer.splice 0 absorbed.2
      buffered := absorbed.2.length }
  else { hasher with state := absorbed.1 }

/-- `Write`: the number of bytes written, unless the input is too long. -/
def write (hasher : ChecksumHasher) (input : Bytes) : Option Nat × ChecksumHasher :=
  if hasher.length > checksumInputBytesMax ∨ input.length > checksumInputBytesMax - hasher.length then
    (none, hasher)
  else
    let length := hasher.length + input.length
    if hasher.buffered ≠ 0 then
      let needed := 32 - hasher.buffered
      let copied := min needed input.length
      let buffer := hasher.buffer.splice hasher.buffered (input.take copied)
      if copied < needed then
        (some input.length, { hasher with buffer, buffered := hasher.buffered + copied, length })
      else
        let hasher := { hasher with state := update hasher.state buffer, buffer, buffered := 0, length }
        (some input.length, hasher.absorbRest (input.drop copied))
    else (some input.length, { hasher with length }.absorbRest input)

/-- `Sum`, which has the hasher by value: what it changes is its own copy. -/
def sum (hasher : ChecksumHasher) : Bytes :=
  let state :=
    if hasher.buffered ≠ 0 then
      update hasher.state (hasher.buffer.splice hasher.buffered (zeros (32 - hasher.buffered)))
    else hasher.state
  let lengths := putUint 8 (hasher.length * 8 % 2 ^ 64) ++ zeros 8
  let finalInput := xorBlock lengths (state.getD 2 [])
  let final := (fun state => aegisUpdate state finalInput finalInput)^[7] state
  (final.take 7).foldl xorBlock (zeros 16)

/-- `ChecksumBytes`; it panics where `Write` refuses. -/
def checksumBytes (input : Bytes) : Option Bytes :=
  let written := new.write input
  written.1.map fun _ => written.2.sum

variable {hasher : ChecksumHasher} {whole data : Bytes}

theorem absorb_append (state : List Bytes) (front input : Bytes) : absorb state (front ++ input) =
    absorb (absorb state front).1 ((absorb state front).2 ++ input) := by
  fun_induction absorb state front with
  | case1 state front hblock ih =>
    rw [← ih, absorb, if_pos (by rw [List.length_append]; omega), List.take_append_of_le_length hblock,
      List.drop_append_of_le_length hblock]
  | case2 state front hshort => rfl

theorem absorb_length_lt (state : List Bytes) (input : Bytes) : (absorb state input).2.length < 32 := by
  fun_induction absorb state input with
  | case1 state input hblock ih => exact ih
  | case2 state input hshort => exact Nat.not_le.mp hshort

/-- The hasher has taken in these bytes: their whole blocks are in its state and the rest is in its buffer. -/
structure Holds (hasher : ChecksumHasher) (whole : Bytes) : Prop where
  absorbed : absorb new.state whole = (hasher.state, hasher.buffer.take hasher.buffered)
  buffered : hasher.buffered < 32
  buffer : hasher.buffer.length = 32
  length : hasher.length = whole.length

theorem holds_new : Holds new [] := by
  refine ⟨?_, Nat.zero_lt_succ _, rfl, rfl⟩
  rw [absorb]
  rfl

theorem holds_absorbRest (absorbed : absorb new.state whole = (hasher.state, [])) (empty : hasher.buffered = 0)
    (buffer : hasher.buffer.length = 32) (length : hasher.length = (whole ++ data).length) :
    Holds (hasher.absorbRest data) (whole ++ data) := by
  have hlt := absorb_length_lt hasher.state data
  have hwhole := absorb_append new.state whole data
  rw [absorbed, List.nil_append] at hwhole
  unfold absorbRest
  dsimp only
  split_ifs with hrest
  · refine ⟨hwhole.trans (Prod.ext rfl ?_), hlt, ?_, length⟩
    · have hheld := take_splice (absorb hasher.state data).2 (Nat.zero_le hasher.buffer.length)
      rw [Nat.zero_add] at hheld
      exact hheld.symm
    · exact (length_splice (by omega)).trans buffer
  · refine ⟨hwhole.trans (Prod.ext rfl ?_), by dsimp only; omega, buffer, length⟩
    dsimp only
    rw [empty, List.take_zero, List.eq_nil_of_length_eq_zero (not_not.mp hrest)]

theorem Holds.write (holds : Holds hasher whole) (fits : (whole ++ data).length ≤ checksumInputBytesMax) :
    (hasher.write data).1 = some data.length ∧ Holds (hasher.write data).2 (whole ++ data) := by
  have hlength : (whole ++ data).length = _ := List.length_append
  have hbuffered := holds.buffered
  have hbuffer := holds.buffer
  have hheld := holds.length
  unfold ChecksumHasher.write
  rw [if_neg (by omega)]
  dsimp only
  split_ifs with hpartial hshort
  · -- the buffer is not filled
    have hcopied : min (32 - hasher.buffered) data.length = data.length := by omega
    rw [hcopied, List.take_length]
    refine ⟨rfl, ?_, by dsimp only; omega, ?_, by dsimp only; omega⟩
    · dsimp only
      rw [absorb_append, holds.absorbed, take_splice _ (by omega), absorb, if_neg]
      rw [List.length_append, List.length_take]
      omega
    · exact (length_splice (by omega)).trans hbuffer
  · -- the buffer is filled and absorbed
    have hcopied : min (32 - hasher.buffered) data.length = 32 - hasher.buffered := by omega
    have htaken : (data.take (32 - hasher.buffered)).length = 32 - hasher.buffered := by
      rw [List.length_take]
      omega
    have hwide : (hasher.buffer.splice hasher.buffered (data.take (32 - hasher.buffered))).length = 32 :=
      (length_splice (by omega)).trans hbuffer
    have hsplit : whole ++ data =
        (whole ++ data.take (32 - hasher.buffered)) ++ data.drop (32 - hasher.buffered) := by
      rw [List.append_assoc, List.take_append_drop]
    rw [hcopied, hsplit]
    refine ⟨rfl, holds_absorbRest ?_ rfl hwide ?_⟩
    · rw [absorb_append, holds.absorbed, ← splice_to_end (by omega), absorb, if_pos hwide.ge,
        List.take_of_length_le hwide.le, List.drop_of_length_le hwide.le, absorb, if_neg (by decide)]
    · rw [← hsplit, hlength]
      dsimp only
      omega
  · refine ⟨rfl, holds_absorbRest ?_ (not_not.mp hpartial) hbuffer (by dsimp only; omega)⟩
    rw [holds.absorbed, not_not.mp hpartial, List.take_zero]

/-- What `Sum` answers depends on the bytes taken in only. -/
theorem Holds.sum_eq {other : ChecksumHasher} (holds : Holds hasher whole) (same : Holds other whole) :
    hasher.sum = other.sum := by
  have hpadded : ∀ {hasher : ChecksumHasher}, Holds hasher whole →
      hasher.buffer.splice hasher.buffered (zeros (32 - hasher.buffered)) =
        (absorb new.state whole).2 ++ zeros (32 - hasher.buffered) ∧
      hasher.state = (absorb new.state whole).1 ∧ hasher.buffered = (absorb new.state whole).2.length := by
    intro hasher holds
    have hbuffered := holds.buffered
    have hbuffer := holds.buffer
    rw [holds.absorbed, List.length_take]
    refine ⟨?_, rfl, by omega⟩
    exact splice_to_end (by rw [length_zeros]; omega)
  obtain ⟨hleft, hstate, hbuffered⟩ := hpadded holds
  obtain ⟨hright, hsame, hequal⟩ := hpadded same
  rw [sum, sum, hleft, hright, hstate, hsame, hbuffered, hequal, holds.length, same.length]

/-- A call of a hasher's methods. -/
inductive Call where
  | write (input : Bytes)
  | sum

/-- What a call writes. -/
def Call.input : Call → Bytes
  | .write input => input
  | .sum => []

/-- The hasher after a call. -/
def perform (hasher : ChecksumHasher) : Call → ChecksumHasher
  | .write input => (hasher.write input).2
  | .sum => hasher

theorem Holds.perform (holds : Holds hasher whole) {calls : List Call}
    (fits : (whole ++ calls.flatMap Call.input).length ≤ checksumInputBytesMax) :
    Holds (calls.foldl perform hasher) (whole ++ calls.flatMap Call.input) := by
  induction calls generalizing hasher whole with
  | nil => rwa [List.flatMap_nil, List.append_nil]
  | cons call rest ih =>
    rw [List.flatMap_cons, ← List.append_assoc] at fits ⊢
    refine ih ?_ fits
    cases call with
    | write input =>
      rw [List.length_append] at fits
      exact (holds.write (Nat.le_of_add_right_le fits)).2
    | sum => exact (List.append_nil whole).symm ▸ holds

/-- Whatever chunks the bytes come in, and wherever `Sum` was called between them, the hasher answers as
`ChecksumBytes` does for all of them.  A `Write` that is refused leaves it as it was. -/
theorem sum_incremental :
    (∀ calls : List Call, (calls.flatMap Call.input).length ≤ checksumInputBytesMax →
      checksumBytes (calls.flatMap Call.input) = some (calls.foldl perform new).sum) ∧
    ∀ (hasher : ChecksumHasher) (input : Bytes), checksumInputBytesMax < hasher.length + input.length →
      hasher.write input = (none, hasher) := by
  refine ⟨fun calls fits => ?_, fun hasher input long => if_pos (by omega)⟩
  obtain ⟨hlength, hwhole⟩ : _ ∧ Holds (new.write (calls.flatMap Call.input)).2 _ := holds_new.write fits
  rw [checksumBytes, hlength, Option.map_some]
  exact congrArg some (hwhole.sum_eq (holds_new.perform fits))

end ChecksumHasher

instance : Aegis where
  aegisUpdate := aegisUpdatePortable

example : ChecksumHasher.checksumBytes [] = some [0x83, 0xcc, 0x60, 0x0d, 0xc4, 0xe3, 0xe7, 0xe6, 0x2d, 0x40,
    0x55, 0x82, 0x61, 0x74, 0xf1, 0x49] := by decide +kernel

end Supervsr
