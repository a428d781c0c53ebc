import Supervsr.Superblock

/-
# Supervsr.StorageZones — where on storage everything lies

The superblock copies, the ring of prepare headers, the prepare slots, the reply slots and the blocks lie in
five areas one behind the other, each cut into pieces of one size.  `DeriveWALLayout` computes where the
areas start, with checked additions; the offset of a piece is then computed partly with unchecked ones.
-/

namespace Supervsr

variable {address : Nat}

/-! ## The layout (`wal.go`, `config.go`) -/

structure WALLayout where
  headerBase : Nat
  headerSize : Nat
  prepareBase : Nat
  prepareStride : Nat
  prepareSize : Nat
  replyBase : Nat
  replyStride : Nat
  replySize : Nat
  blockBase : Nat
deriving DecidableEq, Repr

def deriveWALLayout (cfg : ClusterConfig) : Option WALLayout := do
  let superblockSize ← checkedMul cfg.superblockCopies superblockBytes
  let headerBytes ← checkedMul cfg.journalSlots headerBytes
  let headerSize ← checkedAlignUp headerBytes sectorSize
  let prepareBase ← checkedAdd superblockSize headerSize
  let prepareStride ← checkedAlignUp cfg.messageSizeMax sectorSize
  let prepareSize ← checkedMul cfg.journalSlots prepareStride
  let replyBase ← checkedAdd prepareBase prepareSize
  let replySize ← checkedMul cfg.clientsMax prepareStride
  let «end» ← checkedAdd replyBase replySize
  let blockBase ← checkedAlignUp «end» cfg.blockSize
  return {
    headerBase := superblockSize
    headerSize := headerSize
    prepareBase := prepareBase
    prepareStride := prepareStride
    prepareSize := prepareSize
    replyBase := replyBase
    replyStride := prepareStride
    replySize := replySize
    blockBase := blockBase }

def ClusterConfig.blockOffset (cfg : ClusterConfig) (address : Nat) : Option Nat :=
  if address = 0 ∨ cfg.blockSize = 0 then none
  else do
    let base ← cfg.blockBase
    let delta ← checkedMul (address - 1) cfg.blockSize
    checkedAdd base delta

/-- The result of a 64-bit operation that is not checked. -/
def wrapped (n : Nat) : Nat := n % 2 ^ 64

/-- A write the storage is asked for. -/
structure StorageWrite where
  offset : Nat
  size : Nat
deriving DecidableEq, Repr

variable {write : StorageWrite}

/-- `prepareCopy`: where the given step of a persist of the superblock with this sequence writes. -/
def persistWrite (cfg : ClusterConfig) (sequence step : Nat) : StorageWrite where
  offset := wrapped
    (wrapped (sequence % cfg.superblockCopies + step) % cfg.superblockCopies % 2 ^ 16 * superblockBytes)
  size := superblockBytes

/-- `WAL.prepareOffset`. -/
def WALLayout.prepareOffset (layout : WALLayout) (slot : Nat) : Option Nat := do
  let offset ← checkedMul slot layout.prepareStride
  checkedAdd layout.prepareBase offset

/-- `beginAppend` and `advanceAppend`: an append writes the slot of the op and then the sector of the
header ring with the slot's header. -/
def WALLayout.appendWrites (layout : WALLayout) (cfg : ClusterConfig) (op : Nat) : Option (List StorageWrite) := do
  let index := op % cfg.journalSlots
  let prepareOffset ← layout.prepareOffset index
  let headerOffset := wrapped (index * headerBytes)
  let sectorOffset := headerOffset - (headerOffset &&& (sectorSize - 1))
  return [⟨prepareOffset, layout.prepareStride⟩, ⟨wrapped (layout.headerBase + sectorOffset), sectorSize⟩]

/-- `ReplyStore.slotOffset`. -/
def WALLayout.replyOffset (layout : WALLayout) (slot : Nat) : Option Nat := do
  let offset ← checkedMul slot layout.replyStride
  checkedAdd layout.replyBase offset

/-- `ReplyStore.beginIO` of a write; `NewReplyStore` has narrowed the number of clients to 32 bits. -/
def WALLayout.replyWrite (layout : WALLayout) (cfg : ClusterConfig) (slot : Nat) : Option StorageWrite :=
  if cfg.clientsMax % 2 ^ 32 ≤ slot then none
  else (layout.replyOffset slot).map (⟨·, layout.replyStride⟩)

/-- `BlockStore.Write`, which a block repair writes like. -/
def ClusterConfig.blockWrite (cfg : ClusterConfig) (address : Nat) : Option StorageWrite :=
  (cfg.blockOffset address).map (⟨·, cfg.blockSize⟩)

/-- `DeriveWALLayout` computes `BlockBase` on its way. -/
theorem blockBase_deriveWALLayout (cfg : ClusterConfig) :
    (deriveWALLayout cfg).map WALLayout.blockBase = cfg.blockBase := by
  simp [deriveWALLayout, ClusterConfig.blockBase, Option.map_bind]

/-- The layout in exact arithmetic. -/
structure WALLayout.Derived (layout : WALLayout) (cfg : ClusterConfig) : Prop where
  headerBase : layout.headerBase = cfg.superblockCopies * superblockBytes
  headers_le : cfg.journalSlots * headerBytes ≤ layout.headerSize
  header_aligned : sectorSize ∣ layout.headerSize
  prepareBase : layout.prepareBase = layout.headerBase + layout.headerSize
  stride_ge : cfg.messageSizeMax ≤ layout.prepareStride
  stride_aligned : sectorSize ∣ layout.prepareStride
  replyBase : layout.replyBase = layout.prepareBase + cfg.journalSlots * layout.prepareStride
  replyStride : layout.replyStride = layout.prepareStride
  replies_le : layout.replyBase + cfg.clientsMax * layout.prepareStride ≤ layout.blockBase
  block_power : ∃ k, cfg.blockSize = 2 ^ k
  block_aligned : cfg.blockSize ∣ layout.blockBase
  blockBase_le : layout.blockBase ≤ maxUint64

theorem derived_of_deriveWALLayout {cfg : ClusterConfig} {layout : WALLayout}
    (derives : deriveWALLayout cfg = some layout) : layout.Derived cfg := by
  simp only [deriveWALLayout, Option.bind_eq_bind, Option.bind_eq_some_iff, Option.pure_def,
    Option.some.injEq] at derives
  obtain ⟨superblockSize, hsuperblock, headers, hheaders, headerSize, hheaderSize, prepareBase, hprepare, stride,
    hstride, prepareSize, hprepareSize, replyBase, hreply, replySize, hreplySize, last, hlast, base, hbase,
    rfl⟩ := derives
  have hprepareLe := ClusterConfig.checkedAlignUp_eq_some hheaderSize
  have hbaseLe := ClusterConfig.checkedAlignUp_eq_some hbase
  have hreplyLe := checkedAdd_le hreply (checkedAdd_le hprepare (checkedMul_le hsuperblock))
  have hlastLe := checkedAdd_le hlast hreplyLe
  have hstrideEq := ClusterConfig.checkedAlignUp_eq_some hstride
  have hheadersEq := checkedMul_eq_some hheaders
  have hprepareSizeEq := checkedMul_eq_some hprepareSize
  have hreplySizeEq := checkedMul_eq_some hreplySize
  have hlastEq := checkedAdd_eq_some hlast
  exact {
    headerBase := checkedMul_eq_some hsuperblock
    headers_le := by rw [← hheadersEq]; exact hprepareLe.2.2.1
    header_aligned := hprepareLe.2.1
    prepareBase := checkedAdd_eq_some hprepare
    stride_ge := hstrideEq.2.2.1
    stride_aligned := hstrideEq.2.1
    replyBase := by rw [← hprepareSizeEq]; exact checkedAdd_eq_some hreply
    replyStride := rfl
    replies_le := by rw [← hreplySizeEq, ← hlastEq]; exact hbaseLe.2.2.1
    block_power := hbaseLe.1
    block_aligned := hbaseLe.2.1
    blockBase_le := hbaseLe.2.2.2.2 hlastLe }

/-! ## The pieces -/

/-- A piece of storage. -/
inductive Piece where
  | superblock (copy : Nat)
  | headerSector (sector : Nat)
  | prepare (slot : Nat)
  | reply (slot : Nat)
  | block (address : Nat)
deriving DecidableEq, Repr

variable {other piece : Piece}

namespace Piece

/-- The area the piece lies in, and its place there. -/
def area : Piece → Nat
  | superblock _ => 0
  | headerSector _ => 1
  | prepare _ => 2
  | reply _ => 3
  | block _ => 4

def place : Piece → Nat
  | superblock copy => copy
  | headerSector sector => sector
  | prepare slot => slot
  | reply slot => slot
  | block address => address - 1

/-- Whether the configuration has the piece. -/
def Present (cfg : ClusterConfig) (layout : WALLayout) : Piece → Prop
  | superblock copy => copy < cfg.superblockCopies
  | headerSector sector => sector * sectorSize < layout.headerSize
  | prepare slot => slot < cfg.journalSlots
  | reply slot => slot < cfg.clientsMax
  | block address => (cfg.blockOffset address).isSome = true

/-- Where an area starts. -/
def base (layout : WALLayout) : Nat → Nat
  | 0 => 0
  | 1 => layout.headerBase
  | 2 => layout.prepareBase
  | 3 => layout.replyBase
  | _ => layout.blockBase

/-- The size of the pieces of an area. -/
def stride (cfg : ClusterConfig) (layout : WALLayout) : Nat → Nat
  | 0 => superblockBytes
  | 1 => sectorSize
  | 2 => layout.prepareStride
  | 3 => layout.replyStride
  | _ => cfg.blockSize

/-- The bytes of the piece, in exact arithmetic. -/
def span (cfg : ClusterConfig) (layout : WALLayout) (piece : Piece) : StorageWrite where
  offset := base layout piece.area + piece.place * stride cfg layout piece.area
  size := stride cfg layout piece.area

end Piece

/-- One span ends where or before the other starts. -/
def StorageWrite.Apart (span other : StorageWrite) : Prop :=
  span.offset + span.size ≤ other.offset ∨ other.offset + other.size ≤ span.offset

section Derived

variable {cfg : ClusterConfig} {layout : WALLayout}

theorem blockOffset_eq_some {offset : Nat} (base : cfg.blockBase = some layout.blockBase)
    (found : cfg.blockOffset address = some offset) :
    0 < address ∧ offset = layout.blockBase + (address - 1) * cfg.blockSize ∧
      (layout.blockBase ≤ maxUint64 → offset ≤ maxUint64) := by
  unfold ClusterConfig.blockOffset at found
  split at found
  · cases found
  rename_i haddress
  simp only [base, Option.bind_eq_bind, Option.bind_some, Option.bind_eq_some_iff] at found
  obtain ⟨delta, hdelta, hsum⟩ := found
  refine ⟨by omega, ?_, checkedAdd_le hsum⟩
  rw [← checkedMul_eq_some hdelta]
  exact checkedAdd_eq_some hsum

namespace Piece

theorem base_mono (derived : layout.Derived cfg) {area later : Nat} (before : area ≤ later) :
    base layout area ≤ base layout later := by
  have hprepare := derived.prepareBase
  have hreply := derived.replyBase
  have hblock := derived.replies_le
  rcases area with _ | _ | _ | _ | area <;> rcases later with _ | _ | _ | _ | later <;> simp only [base] <;>
    omega

/-- A piece of an area of `count` pieces ends within the area. -/
theorem place_end_le {start place stride count : Nat} (inside : place < count) :
    start + place * stride + stride ≤ start + count * stride := by
  rw [Nat.add_assoc, ← Nat.succ_mul]
  exact Nat.add_le_add_left (Nat.mul_le_mul_right _ inside) _

/-- A piece in front of the blocks ends before the next area starts. -/
theorem span_le (derived : layout.Derived cfg) (present : piece.Present cfg layout) (front : piece.area < 4) :
    (piece.span cfg layout).offset + (piece.span cfg layout).size ≤ base layout (piece.area + 1) := by
  have hprepare := derived.prepareBase
  have hreply := derived.replyBase
  have hblock := derived.replies_le
  cases piece with
  | superblock copy =>
    show 0 + copy * superblockBytes + superblockBytes ≤ layout.headerBase
    rw [derived.headerBase, ← Nat.zero_add (cfg.superblockCopies * superblockBytes)]
    exact place_end_le present
  | headerSector sector =>
    show layout.headerBase + sector * sectorSize + sectorSize ≤ layout.prepareBase
    obtain ⟨sectors, hsectors⟩ := derived.header_aligned
    have hpresent : sector * sectorSize < sectorSize * sectors := hsectors ▸ present
    rw [Nat.mul_comm sectorSize] at hpresent
    rw [hprepare, hsectors, Nat.mul_comm sectorSize]
    exact place_end_le (Nat.lt_of_mul_lt_mul_right hpresent)
  | prepare slot =>
    show layout.prepareBase + slot * layout.prepareStride + layout.prepareStride ≤ layout.replyBase
    rw [hreply]
    exact place_end_le present
  | reply slot =>
    show layout.replyBase + slot * layout.replyStride + layout.replyStride ≤ layout.blockBase
    rw [derived.replyStride]
    exact Nat.le_trans (place_end_le present) hblock
  | block address => exact absurd front (Nat.lt_irrefl 4)

/-- Every area starts at a multiple of the size of its pieces' sectors. -/
theorem aligned (derived : layout.Derived cfg) (sized : cfg.Sized) (piece : Piece) :
    sectorSize ∣ (piece.span cfg layout).offset ∧ sectorSize ∣ (piece.span cfg layout).size := by
  have hsuperblock : sectorSize ∣ superblockBytes := by decide
  have hblockSize : sectorSize ∣ cfg.blockSize := Nat.dvd_of_mod_eq_zero sized.block_aligned
  have hheader : sectorSize ∣ layout.headerBase := by
    rw [derived.headerBase]
    exact Nat.dvd_mul_left_of_dvd hsuperblock _
  have hprepare : sectorSize ∣ layout.prepareBase := by
    rw [derived.prepareBase]
    exact Nat.dvd_add hheader derived.header_aligned
  have hreply : sectorSize ∣ layout.replyBase := by
    rw [derived.replyBase]
    exact Nat.dvd_add hprepare (Nat.dvd_mul_left_of_dvd derived.stride_aligned _)
  have hblock : sectorSize ∣ layout.blockBase := Nat.dvd_trans hblockSize derived.block_aligned
  have hreplyStride : sectorSize ∣ layout.replyStride := by
    rw [derived.replyStride]
    exact derived.stride_aligned
  cases piece with
  | superblock copy =>
    exact ⟨Nat.dvd_add (Nat.dvd_zero _) (Nat.dvd_mul_left_of_dvd hsuperblock _), hsuperblock⟩
  | headerSector sector =>
    exact ⟨Nat.dvd_add hheader (Nat.dvd_mul_left_of_dvd (Nat.dvd_refl _) _), Nat.dvd_refl _⟩
  | prepare slot =>
    exact ⟨Nat.dvd_add hprepare (Nat.dvd_mul_left_of_dvd derived.stride_aligned _), derived.stride_aligned⟩
  | reply slot => exact ⟨Nat.dvd_add hreply (Nat.dvd_mul_left_of_dvd hreplyStride _), hreplyStride⟩
  | block address => exact ⟨Nat.dvd_add hblock (Nat.dvd_mul_left_of_dvd hblockSize _), hblockSize⟩

theorem eq_of_place (present : piece.Present cfg layout) (present' : other.Present cfg layout)
    (area : piece.area = other.area) (place : piece.place = other.place) : piece = other := by
  have hblock : ∀ {address : Nat}, (Piece.block address).Present cfg layout → 0 < address := by
    intro address hpresent
    rcases Nat.eq_zero_or_pos address with rfl | hpos
    · simp [Present, ClusterConfig.blockOffset] at hpresent
    · exact hpos
  cases piece <;> cases other <;> simp_all only [Piece.area, Piece.place] <;> try contradiction
  have h := hblock present
  have h' := hblock present'
  congr 1
  omega

/-- Two pieces have no byte in common. -/
theorem apart (derived : layout.Derived cfg) (present : piece.Present cfg layout)
    (present' : other.Present cfg layout) (different : piece ≠ other) :
    (piece.span cfg layout).Apart (other.span cfg layout) := by
  have hbefore : ∀ {first second : Piece}, first.Present cfg layout → first.area < second.area →
      (first.span cfg layout).offset + (first.span cfg layout).size ≤ (second.span cfg layout).offset := by
    intro first second hpresent hareas
    have hlast : second.area ≤ 4 := by cases second <;> simp [area]
    have hend := span_le derived hpresent (by omega)
    have hbase : base layout (first.area + 1) ≤ base layout second.area := base_mono derived hareas
    exact Nat.le_trans hend (Nat.le_trans hbase (Nat.le_add_right _ _))
  rcases Nat.lt_trichotomy piece.area other.area with harea | harea | harea
  · exact .inl (hbefore present harea)
  · -- in one area the places differ
    have hplace : piece.place ≠ other.place := fun hplace => different (eq_of_place present present' harea hplace)
    simp only [StorageWrite.Apart, span, harea]
    rcases Nat.lt_or_gt_of_ne hplace with hlt | hgt
    · exact .inl (place_end_le hlt)
    · exact .inr (place_end_le hgt)
  · exact .inr (hbefore present' harea)

/-- No piece reaches over the end of what 64 bits can address. -/
theorem span_le_limit (derived : layout.Derived cfg) (copies : 0 < cfg.superblockCopies)
    (base : cfg.blockBase = some layout.blockBase) (present : piece.Present cfg layout) :
    (piece.span cfg layout).offset + (piece.span cfg layout).size ≤ 2 ^ 64 := by
  have hbase : layout.blockBase < 2 ^ 64 := Nat.lt_of_le_pred (by decide) derived.blockBase_le
  by_cases harea : piece.area < 4
  · have hend := span_le derived present harea
    have hmono : Piece.base layout (piece.area + 1) ≤ Piece.base layout 4 := base_mono derived (by omega)
    exact Nat.le_trans hend (Nat.le_trans hmono (Nat.le_of_lt hbase))
  cases piece with
  | block address =>
    obtain ⟨offset, hoffset⟩ := Option.isSome_iff_exists.mp present
    obtain ⟨-, heq, hle⟩ := blockOffset_eq_some base hoffset
    have hlt : offset < 2 ^ 64 := Nat.lt_of_le_pred (by decide) (hle derived.blockBase_le)
    obtain ⟨k, hk⟩ := derived.block_power
    -- block sizes divide the size of the address space, so the last block ends at its end at the latest
    have hpos : 0 < layout.blockBase := by
      have hheader := derived.headerBase
      have hprepare := derived.prepareBase
      have hreply := derived.replyBase
      have hblock := derived.replies_le
      simp only [superblockBytes] at hheader
      omega
    have hk64 : k ≤ 64 := by
      have hle := Nat.le_of_dvd hpos derived.block_aligned
      rw [hk] at hle
      exact Nat.le_of_lt ((Nat.pow_lt_pow_iff_right (by decide)).mp (Nat.lt_of_le_of_lt hle hbase))
    have hlimit : cfg.blockSize ∣ 2 ^ 64 := by
      rw [hk]
      exact Nat.pow_dvd_pow 2 hk64
    have haligned : cfg.blockSize ∣ offset := by
      rw [heq]
      exact Nat.dvd_add derived.block_aligned (Nat.dvd_mul_left _ _)
    have hroom := Nat.le_of_dvd (Nat.sub_pos_of_lt hlt) (Nat.dvd_sub hlimit haligned)
    show layout.blockBase + (address - 1) * cfg.blockSize + cfg.blockSize ≤ 2 ^ 64
    rw [← heq]
    omega
  | superblock _ | headerSector _ | prepare _ | reply _ => simp [area] at harea

end Piece

/-! ## The writes -/

theorem wrapped_of_lt {n : Nat} (fits : n < 2 ^ 64) : wrapped n = n := Nat.mod_eq_of_lt fits

theorem persistWrite_eq (copies : 0 < cfg.superblockCopies) (few : cfg.superblockCopies ≤ 8) {sequence step : Nat}
    (steps : step < 256) :
    persistWrite cfg sequence step =
      (Piece.superblock ((sequence + step) % cfg.superblockCopies)).span cfg layout := by
  have hindex : sequence % cfg.superblockCopies < cfg.superblockCopies := Nat.mod_lt _ copies
  have hcopy : (sequence + step) % cfg.superblockCopies < cfg.superblockCopies := Nat.mod_lt _ copies
  have hsum : wrapped (sequence % cfg.superblockCopies + step) % cfg.superblockCopies =
      (sequence + step) % cfg.superblockCopies := by
    rw [wrapped_of_lt (by omega), Nat.mod_add_mod]
  simp only [persistWrite, hsum, Piece.span, Piece.area, Piece.place, Piece.base, Piece.stride, Nat.zero_add,
    StorageWrite.mk.injEq, and_true]
  rw [Nat.mod_eq_of_lt (show _ < 2 ^ 16 by omega), wrapped_of_lt]
  simp only [superblockBytes]
  omega

theorem checkedPlace {base place stride count : Nat} (inside : place < count)
    (fits : base + count * stride ≤ maxUint64) :
    (checkedMul place stride).bind (checkedAdd base) = some (base + place * stride) := by
  have hend := @Piece.place_end_le base place stride count inside
  rw [checkedMul_of_le (by omega), Option.bind_some, checkedAdd_of_le (by omega)]

theorem appendWrites_eq (derived : layout.Derived cfg) (slots : 0 < cfg.journalSlots) (op : Nat) :
    (Piece.prepare (op % cfg.journalSlots)).Present cfg layout ∧
    (Piece.headerSector (op % cfg.journalSlots * headerBytes / sectorSize)).Present cfg layout ∧
    layout.appendWrites cfg op = some [(Piece.prepare (op % cfg.journalSlots)).span cfg layout,
      (Piece.headerSector (op % cfg.journalSlots * headerBytes / sectorSize)).span cfg layout] := by
  have hindex : op % cfg.journalSlots < cfg.journalSlots := Nat.mod_lt _ slots
  have hprepare := derived.prepareBase
  have hreply := derived.replyBase
  have hblock := derived.replies_le
  have hbase := derived.blockBase_le
  have hlimit : maxUint64 < 2 ^ 64 := by decide
  have hheaders := derived.headers_le
  -- the header lies in the ring, and so does its sector
  have hheader : op % cfg.journalSlots * headerBytes < layout.headerSize :=
    Nat.lt_of_lt_of_le ((Nat.mul_lt_mul_right (by decide)).mpr hindex) hheaders
  have hsector : op % cfg.journalSlots * headerBytes / sectorSize * sectorSize ≤
      op % cfg.journalSlots * headerBytes := Nat.div_mul_le_self _ _
  refine ⟨hindex, Nat.lt_of_le_of_lt hsector hheader, ?_⟩
  have hoffset : layout.prepareOffset (op % cfg.journalSlots) =
      some (layout.prepareBase + op % cfg.journalSlots * layout.prepareStride) :=
    checkedPlace hindex (by omega)
  have hmask : op % cfg.journalSlots * headerBytes &&& (sectorSize - 1) =
      op % cfg.journalSlots * headerBytes % sectorSize := Nat.and_two_pow_sub_one_eq_mod _ 12
  have hdiv := Nat.div_add_mod (op % cfg.journalSlots * headerBytes) sectorSize
  rw [Nat.mul_comm sectorSize] at hdiv
  have hstart : op % cfg.journalSlots * headerBytes - op % cfg.journalSlots * headerBytes % sectorSize =
      op % cfg.journalSlots * headerBytes / sectorSize * sectorSize := by omega
  simp only [WALLayout.appendWrites, hoffset, Option.bind_eq_bind, Option.bind_some,
    wrapped_of_lt (show op % cfg.journalSlots * headerBytes < 2 ^ 64 by omega), hmask, hstart,
    wrapped_of_lt (show layout.headerBase +
      op % cfg.journalSlots * headerBytes / sectorSize * sectorSize < 2 ^ 64 by omega)]
  rfl

theorem replyWrite_eq (derived : layout.Derived cfg) {slot : Nat} (writes : layout.replyWrite cfg slot = some write) :
    (Piece.reply slot).Present cfg layout ∧ write = (Piece.reply slot).span cfg layout := by
  have hblock := derived.replies_le
  have hbase := derived.blockBase_le
  have hnarrow : cfg.clientsMax % 2 ^ 32 ≤ cfg.clientsMax := Nat.mod_le _ _
  unfold WALLayout.replyWrite at writes
  split at writes
  · cases writes
  rename_i hslot
  have hpresent : slot < cfg.clientsMax := by omega
  have hoffset : layout.replyOffset slot = some (layout.replyBase + slot * layout.replyStride) :=
    checkedPlace hpresent (by rw [derived.replyStride]; omega)
  rw [hoffset] at writes
  cases writes
  exact ⟨hpresent, rfl⟩

theorem blockWrite_eq (base : cfg.blockBase = some layout.blockBase) (writes : cfg.blockWrite address = some write) :
    (Piece.block address).Present cfg layout ∧ write = (Piece.block address).span cfg layout := by
  obtain ⟨offset, hoffset, rfl⟩ := Option.map_eq_some_iff.mp writes
  obtain ⟨-, heq, -⟩ := blockOffset_eq_some base hoffset
  refine ⟨Option.isSome_iff_exists.mpr ⟨offset, hoffset⟩, ?_⟩
  rw [heq]
  rfl

end Derived

/-- For every accepted configuration the pieces of storage lie apart, in whole sectors and within 64 bits, and
every write goes to exactly one of them. -/
theorem storage_pieces_apart (cfg : ClusterConfig) (activeCount standbyCount : Nat)
    (valid : cfg.validate activeCount standbyCount = .ok ()) :
    (∀ other : ClusterConfig, (deriveWALLayout other).map WALLayout.blockBase = other.blockBase) ∧
    ∃ layout, deriveWALLayout cfg = some layout ∧ cfg.blockBase = some layout.blockBase ∧
      (∀ piece : Piece, piece.Present cfg layout →
        sectorSize ∣ (piece.span cfg layout).offset ∧ sectorSize ∣ (piece.span cfg layout).size ∧
        (piece.span cfg layout).offset + (piece.span cfg layout).size ≤ 2 ^ 64) ∧
      (∀ piece other : Piece, piece.Present cfg layout → other.Present cfg layout → piece ≠ other →
        (piece.span cfg layout).Apart (other.span cfg layout)) ∧
      (∀ sequence step, step < 256 →
        (Piece.superblock ((sequence + step) % cfg.superblockCopies)).Present cfg layout ∧
        persistWrite cfg sequence step =
          (Piece.superblock ((sequence + step) % cfg.superblockCopies)).span cfg layout) ∧
      (∀ op, (Piece.prepare (op % cfg.journalSlots)).Present cfg layout ∧
        (Piece.headerSector (op % cfg.journalSlots * headerBytes / sectorSize)).Present cfg layout ∧
        layout.appendWrites cfg op = some [(Piece.prepare (op % cfg.journalSlots)).span cfg layout,
          (Piece.headerSector (op % cfg.journalSlots * headerBytes / sectorSize)).span cfg layout]) ∧
      (∀ slot write, layout.replyWrite cfg slot = some write →
        (Piece.reply slot).Present cfg layout ∧ write = (Piece.reply slot).span cfg layout) ∧
      (∀ address write, cfg.blockWrite address = some write →
        (Piece.block address).Present cfg layout ∧ write = (Piece.block address).span cfg layout) ∧
      ∀ address other offset, cfg.blockOffset address = some offset → cfg.blockOffset other = some offset →
        address = other := by
  have hvalidated := ClusterConfig.validated_of_validate valid
  have hsized := ClusterConfig.sized_of_validate valid
  obtain ⟨blockBase, hbase⟩ := Option.isSome_iff_exists.mp hvalidated.blockBase
  have hmap := blockBase_deriveWALLayout cfg
  rw [hbase] at hmap
  obtain ⟨layout, hlayout, rfl⟩ := Option.map_eq_some_iff.mp hmap
  have hderived := derived_of_deriveWALLayout hlayout
  have hcopies : 0 < cfg.superblockCopies ∧ cfg.superblockCopies ≤ 8 := by
    have := hvalidated.copies
    omega
  have hslots : 0 < cfg.journalSlots := by
    have := hvalidated.journal_ge
    omega
  refine ⟨blockBase_deriveWALLayout, layout, hlayout, hbase, fun piece hpresent => ?_,
    fun piece other hpresent hpresent' => Piece.apart hderived hpresent hpresent', fun sequence step hstep =>
    ⟨Nat.mod_lt _ hcopies.1, persistWrite_eq hcopies.1 hcopies.2 hstep⟩, appendWrites_eq hderived hslots,
    fun slot write => replyWrite_eq hderived, fun address write => blockWrite_eq hbase, ?_⟩
  · obtain ⟨hoffset, hsize⟩ := Piece.aligned hderived hsized piece
    exact ⟨hoffset, hsize, Piece.span_le_limit hderived hcopies.1 hbase hpresent⟩
  intro address other offset haddress hother
  obtain ⟨hpos, heq, -⟩ := blockOffset_eq_some hbase haddress
  obtain ⟨hpos', heq', -⟩ := blockOffset_eq_some hbase hother
  have hplaces : (address - 1) * cfg.blockSize = (other - 1) * cfg.blockSize := by omega
  have := Nat.eq_of_mul_eq_mul_right hsized.block_pos hplaces
  omega

theorem storage_pieces_apart_default : ∃ layout, deriveWALLayout .default = some layout ∧
    ((Piece.reply 63).span .default layout).Apart ((Piece.block 1).span .default layout) := by
  obtain ⟨-, layout, hlayout, -, -, hapart, -⟩ := storage_pieces_apart .default 3 0 (by decide +kernel)
  exact ⟨layout, hlayout, hapart _ _ (show 63 < ClusterConfig.default.clientsMax by decide)
    (show (ClusterConfig.default.blockOffset 1).isSome = true by decide +kernel) (by decide)⟩

end Supervsr
