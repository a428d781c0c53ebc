import Supervsr.Lib.Table
import Supervsr.Checkpoint

/-
# Supervsr.Wal — the journal ring: its slots, appends and the classification of a slot at recovery

The write-ahead log of `wal.go` has two zones on storage, a ring of prepare headers and a ring of whole
prepares, and a table of slots in memory.  Prepare `op` lives in slot `op % JournalSlots` of all three.
An append writes the prepare first and the sector of its header second, so a crash can leave a prepare
whose header is still the previous one.
-/

namespace Supervsr

/-- What a slot of one of the two zones decodes to.  `reserved` is the state `Format` leaves: the
reserved header of the slot in the header zone, zeros in the prepare zone. -/
inductive WALCell (χ : Type) where
  | reserved
  | frame (header : Header χ)
  | damaged
deriving DecidableEq, Repr

instance (χ : Type) : Inhabited (WALCell χ) := ⟨.reserved⟩

/-- The two zones of the journal on storage. -/
structure WALZones (χ : Type) where
  headers : Table (WALCell χ)
  prepares : Table (WALCell χ)
deriving DecidableEq, Repr

/-- `WALSlot`, with the fields that are read: the header it holds while `inhabited`, and its flags. -/
structure WALSlot (χ : Type) where
  authoritative : Option (Header χ)
  op : Nat
  inhabited : Bool
  dirty : Bool
  faulty : Bool
deriving DecidableEq, Repr

instance (χ : Type) : Inhabited (WALSlot χ) := ⟨⟨none, 0, false, false, false⟩⟩

/-- A slot that holds nothing. -/
def WALSlot.reserved {χ : Type} (index : Nat) : WALSlot χ where
  authoritative := none
  op := index
  inhabited := false
  dirty := false
  faulty := false

/-- A slot whose prepare is on storage. -/
def WALSlot.holding {χ : Type} (header : Header χ) : WALSlot χ where
  authoritative := some header
  op := header.op
  inhabited := true
  dirty := false
  faulty := false

/-- `WAL`: the slots in memory and the buffer header sectors are written from. -/
structure WAL (χ : Type) where
  slots : Table (WALSlot χ)
  headerRing : Table (WALCell χ)
deriving DecidableEq, Repr

/-- `ErrInvalidWAL`, `ErrWALSlotUnsafe`, `ErrWALUncertainSolo` and `ErrWALRecovery`. -/
inductive WALError where
  | invalid
  | slotUnsafe
  | uncertainSolo
  | recovery
deriving DecidableEq, Repr

/-- The headers one sector of the header ring holds. -/
def headersPerSector : Nat := sectorSize / headerBytes

section Zones

variable {χ : Type}

/-- The journal `formatAtView` leaves: the root prepare in slot 0. -/
def WALZones.formatted [Checksums χ] : WALZones χ where
  headers := Table.empty.set 0 (.frame Header.root)
  prepares := Table.empty.set 0 (.frame Header.root)

/-- The first storage step of an append: the prepare itself. -/
def WALZones.writePrepare (zones : WALZones χ) (index : Nat) (header : Header χ) : WALZones χ :=
  { zones with prepares := zones.prepares.set index (.frame header) }

/-- The second storage step of an append: the sector of the header ring that `index` lies in. -/
def WALZones.writeHeaderSector (zones : WALZones χ) (ring : Table (WALCell χ)) (index : Nat) :
    WALZones χ :=
  { zones with headers :=
      zones.headers.copyRange ring (index - index % headersPerSector) headersPerSector }

end Zones

namespace WAL

variable {χ : Type}

/-- `NewWAL`. -/
def new : WAL χ := ⟨Table.empty, Table.empty⟩

/-- The slot of `op`. -/
def slot (wal : WAL χ) (cluster : ClusterConfig) (op : Nat) : WALSlot χ :=
  wal.slots.get (op % cluster.journalSlots)

/-- The check of `beginAppend`: a slot that holds a later op than the checkpoint is kept. -/
def appendable (wal : WAL χ) (cluster : ClusterConfig) (header : Header χ) (reusableThrough : Nat) :
    Bool :=
  let slot := wal.slot cluster header.op
  ¬ (slot.inhabited ∧ slot.op ≠ header.op ∧ reusableThrough < slot.op)

/-- `Append`, all its steps: prepare, header sector, publication. -/
def append (wal : WAL χ) (zones : WALZones χ) (cluster : ClusterConfig) (header : Header χ)
    (reusableThrough : Nat) : Except WALError (WAL χ × WALZones χ) :=
  if ¬ wal.appendable cluster header reusableThrough then .error .slotUnsafe
  else
    let index := header.op % cluster.journalSlots
    let headerRing := wal.headerRing.set index (.frame header)
    .ok (⟨wal.slots.set index (.holding header), headerRing⟩,
      (zones.writePrepare index header).writeHeaderSector headerRing index)

def installReservedSlot (wal : WAL χ) (index : Nat) : WAL χ :=
  { wal with slots := wal.slots.set index (.reserved index) }

def installRecoveredSlot (wal : WAL χ) (index : Nat) (header : Header χ) : WAL χ :=
  { wal with slots := wal.slots.set index (.holding header) }

def recoveredHeader (wal : WAL χ) (cluster : ClusterConfig) (op : Nat) : Option (Header χ) :=
  let slot := wal.slot cluster op
  if ¬ slot.inhabited ∨ slot.op ≠ op ∨ slot.faulty then none else slot.authoritative

/-- `JoinEvidence`: the header if there is one, and whether its absence can be vouched for. -/
def joinEvidence (wal : WAL χ) (cluster : ClusterConfig) (op : Nat) : Option (Header χ) × Bool :=
  let slot := wal.slot cluster op
  if slot.faulty then (none, false)
  else if ¬ slot.inhabited ∨ slot.op ≠ op then (none, true)
  else
    match slot.authoritative with
    | none => (none, false)
    | some header => (some header, slot.dirty)

def discardAfter (wal : WAL χ) (cluster : ClusterConfig) (head : Nat) : WAL χ :=
  (List.range cluster.journalSlots).foldl (fun wal index =>
    let slot := wal.slots.get index
    if ¬ slot.inhabited ∨ slot.op ≤ head then wal
    else
      let wal := wal.installReservedSlot index
      { wal with headerRing := wal.headerRing.set index .reserved }) wal

/-- `ReadPrepare`: the prepare on storage, if it is the one asked for. -/
def readPrepare (zones : WALZones χ) (cluster : ClusterConfig) (op : Nat) :
    Except WALError (Header χ) :=
  match zones.prepares.get (op % cluster.journalSlots) with
  | .frame header => if header.op = op then .ok header else .error .invalid
  | _ => .error .invalid

end WAL

/-- `prepareMaximum`: the last op a replica with this checkpoint may hold. -/
def prepareMaximum (cluster : ClusterConfig) (checkpoint : Nat) : Option Nat := do
  let interval ← cluster.checkpointInterval
  let first ← checkedAdd checkpoint interval
  let first := if checkpoint = 0 then first - 1 else first
  let trigger ← checkedAdd first cluster.compactionOps
  checkedAdd trigger (2 * cluster.pipelineMax)

/-! ## Recovery candidates -/

/-- `WALCandidate`: what recovery makes of one cell. -/
inductive WALCandidate (χ : Type) where
  | invalid
  | reserved (op : Nat)
  | ordinary (header : Header χ)
deriving DecidableEq, Repr

inductive WALRecoveryDecision where
  | clean
  | cleanEmpty
  | localRepair
  | remoteRepair
  | truncate
  | fail
deriving DecidableEq, Repr

/-- `WALRecoveryView`: the head selected when `logView` was durably installed. -/
structure WALRecoveryView where
  logView : Nat
  headOp : Nat
deriving DecidableEq, Repr

structure WALRecoveryContext where
  physicalSlot : Nat
  journalSlots : Nat
  retainedMin : Nat
  prepareMax : Nat
  untrustedMax : Nat
  installed : WALRecoveryView
deriving DecidableEq, Repr

section Classification

variable {χ : Type}

/-- `recoveryCandidate`, through `decodeRecoveryHeader` and `decodeRecoveryPrepare`. -/
def WALCell.candidate (cell : WALCell χ) (physical : Nat) : WALCandidate χ :=
  match cell with
  | .damaged => .invalid
  | .reserved => .reserved physical
  | .frame header =>
    if header.operation = .reserved then
      if header.op = physical then .reserved physical else .invalid
    else .ordinary header

def WALCandidate.isInvalid : WALCandidate χ → Bool
  | .invalid => true
  | _ => false

def WALCandidate.isOrdinary : WALCandidate χ → Bool
  | .ordinary _ => true
  | _ => false

/-- `candidatesEqual`, between ordinary candidates. -/
def candidatesEqual [DecidableEq χ] [Checksums χ] (left right : WALCandidate χ) : Bool :=
  match left, right with
  | .ordinary left, .ordinary right =>
    left.op = right.op ∧ left.view = right.view ∧ left.checksum = right.checksum ∧
      left.bodyChecksum = right.bodyChecksum
  | _, _ => false

def retainedOrdinary (candidate : WALCandidate χ) (context : WALRecoveryContext) : Bool :=
  match candidate with
  | .ordinary header => context.retainedMin ≤ header.op ∧ header.op ≤ context.prepareMax
  | _ => false

def futureWALCandidate (candidate : WALCandidate χ) (context : WALRecoveryContext) : Bool :=
  match candidate with
  | .ordinary header => context.prepareMax < header.op
  | _ => false

def impossibleWALCandidate (candidate : WALCandidate χ) (context : WALRecoveryContext) : Bool :=
  match candidate with
  | .ordinary header =>
    context.journalSlots = 0 ∨ header.op % context.journalSlots ≠ context.physicalSlot
  | _ => false

def obsoleteWALCandidate (candidate : WALCandidate χ) (installed : WALRecoveryView) : Bool :=
  match candidate with
  | .ordinary header => installed.headOp < header.op ∧ header.view < installed.logView
  | _ => false

/-- The branch of `ClassifyWALSlot` for a slot in which the installed view made something obsolete. -/
def classifyObsolete (header prepare : WALCandidate χ) (context : WALRecoveryContext) :
    WALRecoveryDecision :=
  if header.isInvalid ∨ prepare.isInvalid then .remoteRepair
  else
    let retainedHeader := header.isOrdinary ∧ ¬ obsoleteWALCandidate header context.installed
    let retainedPrepare := prepare.isOrdinary ∧ ¬ obsoleteWALCandidate prepare context.installed
    if ¬ retainedHeader ∧ ¬ retainedPrepare then .truncate
    else if obsoleteWALCandidate header context.installed ∧ retainedOrdinary prepare context then
      .localRepair
    else .remoteRepair

/-- The branch of `ClassifyWALSlot` for a slot nothing in which is obsolete. -/
def classifyCurrent [DecidableEq χ] [Checksums χ] (header prepare : WALCandidate χ)
    (context : WALRecoveryContext) : WALRecoveryDecision :=
  match header, prepare with
  | .ordinary header, .ordinary prepare =>
    if candidatesEqual (.ordinary header) (.ordinary prepare) then .clean
    else if retainedOrdinary (.ordinary prepare) context ∧ header.op < prepare.op then .localRepair
    else .remoteRepair
  | .reserved _, .reserved _ => .cleanEmpty
  | .reserved _, .ordinary prepare =>
    if retainedOrdinary (.ordinary prepare) context then .localRepair else .remoteRepair
  | .invalid, .ordinary prepare =>
    if retainedOrdinary (.ordinary prepare) context ∧ prepare.op = context.untrustedMax then .localRepair
    else .remoteRepair
  | _, _ => .remoteRepair

def classifyWALSlot [DecidableEq χ] [Checksums χ] (header prepare : WALCandidate χ)
    (context : WALRecoveryContext) : WALRecoveryDecision :=
  if impossibleWALCandidate header context ∨ impossibleWALCandidate prepare context then .fail
  else if futureWALCandidate header context ∨ futureWALCandidate prepare context then .truncate
  else if obsoleteWALCandidate header context.installed ∨
      obsoleteWALCandidate prepare context.installed then
    classifyObsolete header prepare context
  else classifyCurrent header prepare context

end Classification

end Supervsr
